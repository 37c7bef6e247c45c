import Promptbook.Failure.Misuse
import Promptbook.Number.Amount
import Promptbook.Value.Slots

/-!
# Sets

A set keeps the first of several equal items and refuses items that can change or refuse to be compared.
Numbers are equal if they amount to the same, times on clocks with offsets if they are the same moment, tuples
if their items are equal; a NaN, a thing or a reply equals no other value.  `Value.traits?` is what equal
values share.  A set of numbers lists them by the slots of a table, any other set in the order in which they
came.
-/

namespace Promptbook

open Promptbook.Number

/-- What a value is, or a part of it, up to equality. -/
inductive Trait
  | null
  | amount (a : Amount)
  | text (s : String)
  | day (d : Date)
  | clock (t : DateTime)
  | moment (micros : Int)
  | uuid (s : String)
  | bytes (data : List UInt8)
  | group (name : String) (size : Nat)
deriving Repr, DecidableEq

namespace Value

mutual

/-- What a value shares with all values that are equal to it; nothing if there are no others. -/
def traits? : Value → Option (List Trait)
  | null => some [.null]
  | bool b => some [.amount (.ofInt (if b then 1 else 0))]
  | int n => some [.amount (.ofInt n)]
  | float x => (Amount.ofFloat? x).map fun a => [.amount a]
  | decimal d => (Amount.ofExact? d).map fun a => [.amount a]
  | text s => some [.text s]
  | choice c => some [.text c.word]
  | date d => some [.day d]
  | dateTime t =>
    match t.instant? with
    | some micros => some [.moment micros]
    | none => some [.clock t]
  | uuid s => some [.uuid s]
  | bytes data => some [.bytes data]
  | tuple items => (itemTraits? items).map (Trait.group "tuple" items.length :: ·)
  | record model fields => (fieldTraits? fields).map (Trait.group model fields.length :: ·)
  | _ => none

/-- The traits of a tuple's items. -/
def itemTraits? : List Value → Option (List Trait)
  | [] => some []
  | v :: vs => do return (← traits? v) ++ (← itemTraits? vs)

/-- The traits of a record's fields. -/
def fieldTraits? : List (FieldName × Value) → Option (List Trait)
  | [] => some []
  | (_, v) :: fs => do return (← traits? v) ++ (← fieldTraits? fs)

end

mutual

/-- Why no set can hold a value: it can change, or it refuses to be compared. -/
def notAnItem? : Value → Option Misuse
  | list _ => some (.notHashable "list")
  | set _ => some (.notHashable "set")
  | table _ => some (.notHashable "dict")
  | record model _ => if model == "RenderOptions" then none else some (.notHashable model)
  | decimal d => if d.isSignaling then some .notComparable else none
  | tuple items => notAnItemIn? items
  | _ => none

/-- Why no set can hold a tuple with some items. -/
def notAnItemIn? : List Value → Option Misuse
  | [] => none
  | v :: vs => (notAnItem? v).orElse fun _ => notAnItemIn? vs

end

/-- Values with their traits, without those whose traits came before. -/
def distinct (items : List Value) : List (Option (List Trait) × Value) :=
  (items.map fun v => (v.traits?, v)).foldl
    (fun kept item => if item.1.isSome && kept.any (·.1 == item.1) then kept else kept ++ [item]) []

/-- The number by which a table finds the slot of a value with the given traits. -/
def slotKey? : Option (List Trait) → Option Nat
  | some [.amount a] => some a.tableKey
  | _ => none

/-- The items of a set in the order in which it lists them. -/
def listed (items : List (Option (List Trait) × Value)) : List Value :=
  match items.mapM fun item => (slotKey? item.1).map fun key => (key, item.2) with
  | some keyed => Slots.order keyed
  | none => items.map (·.2)

/-- The set of some items. -/
def ofSet (items : List Value) : Except Misuse Value :=
  match notAnItemIn? items with
  | some misuse => .error misuse
  | none => .ok (set (listed (distinct items)))

end Value
end Promptbook
