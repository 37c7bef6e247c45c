import Promptbook.Number.Binary64

/-!
# Shortest decimals of floating point numbers

`shortest m q` is the decimal with the fewest digits that rounds to the number `m · 2^q`, and of those the
nearest to it.  The reals that round to a number form an interval, which holds its ends exactly if the
mantissa is even; a decimal grid meets the interval if one of the number's two neighbours on the grid does.
The first of the grids with 1, 2, …, 17 digits that meets it gives the decimal.  `Layout` says how a decimal
is written out.
-/

namespace Promptbook.Number

/-- The decimal `coefficient · 10^exponent`. -/
structure Decimal where
  coefficient : Nat
  exponent : Int
deriving Repr, DecidableEq

/-- The interval of the reals that round to `m · 2^q`, in quarters of the unit `2^q`: below a power of two the
neighbour is only half a unit away. -/
structure RoundingInterval where
  low : Nat
  high : Nat
  closed : Bool

/-- The rounding interval of a positive number. -/
def roundingInterval (m : Nat) (q : Int) : RoundingInterval :=
  ⟨if m == Nat.pow 2 52 && -1074 < q then 4 * m - 1 else 4 * m - 2, 4 * m + 2, m % 2 == 0⟩

/-- The factors by which an amount in quarters of `2^q` and a multiple of `10^k` become comparable. -/
def commonScale (q k : Int) : Nat × Nat :=
  (Nat.pow 2 (q - 2).toNat * Nat.pow 10 (-k).toNat, Nat.pow 2 (2 - q).toNat * Nat.pow 10 k.toNat)

/-- Does `c · 10^k` lie in the rounding interval of `m · 2^q`? -/
def inInterval (m : Nat) (q : Int) (c : Nat) (k : Int) : Bool :=
  let i := roundingInterval m q
  let s := commonScale q k
  let x := c * s.2
  if i.closed then i.low * s.1 ≤ x && x ≤ i.high * s.1 else i.low * s.1 < x && x < i.high * s.1

/-- The multiple of `10^k` in the interval of `m · 2^q` that is nearest to the number, a tie to the even
one. -/
def onGrid? (m : Nat) (q k : Int) : Option Nat :=
  let s := commonScale q k
  let value := 4 * m * s.1
  let below := value / s.2
  let nearest := roundQuotient value s.2
  let other := if nearest == below then below + 1 else below
  if inInterval m q nearest k then some nearest
  else if inInterval m q other k then some other
  else none

/-- Exponents of ten from one above that of the number's leading digit down to one that separates all
numbers. -/
def gridExponents (m : Nat) (q : Int) : List Int :=
  let top := Int.fdiv ((Int.ofNat m.log2 + q) * 30103) 100000 + 2
  (List.range 20).map fun i => top - Int.ofNat i

/-- The shortest decimal that rounds to the positive number `m · 2^q`. -/
def shortest (m : Nat) (q : Int) : Decimal :=
  ((gridExponents m q).findSome? fun k => (onGrid? m q k).map fun c => ⟨c, k⟩).getD ⟨m, q⟩

/-- How a floating point number is written: positionally if its leading digit stands at `10^lowest` or above
and below `10^limit`, otherwise with a signed exponent of at least `exponentWidth` digits. -/
structure Layout where
  lowest : Int
  limit : Int
  exponentWidth : Nat
  nan : String
  infinity : String

/-- Numbers shown to a reader: `0.0001`, `1e-05`, `1e+16`, `inf`. -/
def Layout.shown : Layout := ⟨-4, 16, 2, "nan", "inf"⟩

/-- Numbers in plain JSON text: as shown, with the infinities spelled out. -/
def Layout.json : Layout := ⟨-4, 16, 2, "NaN", "Infinity"⟩

/-- Numbers in the JSON text of a record: `0.00001`, `1e-6`, `1e+16`, and `null` for what is not finite. -/
def Layout.wire : Layout := ⟨-5, 16, 1, "null", "null"⟩

/-- Writes a decimal with digits `ds` whose leading digit stands at `10^lead`. -/
def Layout.digitsText (layout : Layout) (ds : List Char) (lead : Int) : List Char :=
  if lead < layout.lowest || layout.limit ≤ lead then
    let power := paddedText layout.exponentWidth lead.natAbs
    let mantissa := match ds with
      | [] => []
      | [d] => [d]
      | d :: rest => d :: '.' :: rest
    mantissa ++ 'e' :: (if lead < 0 then '-' else '+') :: power
  else if lead < 0 then
    '0' :: '.' :: List.replicate (lead.natAbs - 1) '0' ++ ds
  else
    let whole := lead.toNat + 1
    let padded := ds ++ List.replicate (whole + 1 - ds.length) '0'
    padded.take whole ++ '.' :: padded.drop whole

/-- The text of a floating point number. -/
def Layout.text (layout : Layout) (x : Float) : List Char :=
  match decompose? x with
  | none =>
    if isNaN x then layout.nan.toList
    else if isNegative x && layout.infinity != layout.nan then '-' :: layout.infinity.toList
    else layout.infinity.toList
  | some d =>
    let sign := if d.negative then ['-'] else []
    if d.mantissa == 0 then sign ++ ['0', '.', '0']
    else
      let decimal := shortest d.mantissa d.exponent
      let ds := natText decimal.coefficient
      sign ++ layout.digitsText ds (decimal.exponent + Int.ofNat ds.length - 1)

end Promptbook.Number
