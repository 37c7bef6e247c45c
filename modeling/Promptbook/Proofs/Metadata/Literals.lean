import Promptbook.Metadata.Scalar
import Promptbook.Proofs.Text.Trimming

/-!
# Numeric literals

What the readers of numbers make of a literal.  An integer literal has the integer of its digits
(`readInt_of_isIntegerLiteral`), a decimal literal the floating point number of its digits and its exponent
(`readFloat?_of_isDecimalLiteral`); as a scalar a literal is a number, unless it is an integer of more digits
than an integer may have (`parseScalar_of_isIntegerLiteral`, `parseScalar_of_isDecimalLiteral`).
-/

namespace Promptbook.Metadata

open Promptbook.Number Promptbook.Text

/-! ### Digits -/

/-- The values of some digits. -/
def digitValues (cs : List Char) : List Nat :=
  cs.map fun c => (digitValue? c).getD 0

@[simp] theorem digitValues_nil : digitValues [] = [] :=
  rfl

theorem digitValues_lt {cs : List Char} (h : ∀ c ∈ cs, isDigit c = true) : ∀ d ∈ digitValues cs, d < 10 := by
  intro d hd
  obtain ⟨c, hc, rfl⟩ := List.mem_map.1 hd
  obtain ⟨v, hv⟩ := Option.isSome_iff_exists.1 (h c hc)
  rw [hv]
  exact digitValue?_lt hv

/-- Does the text go on with something that ends a run of digits? -/
def EndsDigits (cs : List Char) : Prop :=
  ∀ c ∈ cs.head?, isDigit c = false ∧ c ≠ '_'

theorem endsDigits_nil : EndsDigits [] := by
  intro c hc
  cases hc

theorem endsDigits_cons {c : Char} {cs : List Char} (h : isDigit c = false) (hc : c ≠ '_') :
    EndsDigits (c :: cs) := by
  intro d hd
  obtain rfl := Option.some.inj hd
  exact ⟨h, hc⟩

theorem splitDigits_append {ds rest : List Char} (h : ∀ c ∈ ds, isDigit c = true) (hrest : EndsDigits rest) :
    splitDigits (ds ++ rest) = (digitValues ds, rest) := by
  -- the flag says whether an underscore may follow, and there is none
  have hfrom : ∀ after, splitDigitsFrom after (ds ++ rest) = (digitValues ds, rest) := by
    induction ds with
    | nil =>
      intro after
      cases rest with
      | nil => rfl
      | cons c rest =>
        obtain ⟨hdigit, hscore⟩ := hrest c rfl
        have hnone : digitValue? c = none := by simpa [isDigit] using hdigit
        simp [splitDigitsFrom, hnone, hscore, digitValues]
    | cons c ds ih =>
      intro after
      obtain ⟨v, hv⟩ := Option.isSome_iff_exists.1 (h c List.mem_cons_self)
      rw [List.cons_append, splitDigitsFrom, hv]
      simp only [ih (fun d hd => h d (List.mem_cons_of_mem _ hd)) true]
      simp [digitValues, hv]
  exact hfrom false

theorem splitDigits_of_all {ds : List Char} (h : ∀ c ∈ ds, isDigit c = true) :
    splitDigits ds = (digitValues ds, []) := by
  have := splitDigits_append h endsDigits_nil
  rwa [List.append_nil] at this

/-! ### Signs -/

theorem mem_of_mem_splitSign {cs : List Char} {c : Char} (h : c ∈ cs) :
    c = '-' ∨ c = '+' ∨ c ∈ (splitSign cs).2 := by
  unfold splitSign
  split
  · rcases List.mem_cons.1 h with rfl | h
    · exact .inl rfl
    · exact .inr (.inr h)
  · rcases List.mem_cons.1 h with rfl | h
    · exact .inr (.inl rfl)
    · exact .inr (.inr h)
  · exact .inr (.inr h)

/-- Can a literal start with the character? -/
def isNumeralStart (c : Char) : Bool :=
  c == '-' || c == '+' || c == '.' || isDigit c

theorem isNumeralStart_of_splitSign {c : Char} (cs : List Char)
    (h : ∀ d ∈ (splitSign (c :: cs)).2.head?, isNumeralStart d = true) : isNumeralStart c = true := by
  unfold splitSign at h
  split at h
  · next heq =>
    obtain ⟨rfl, -⟩ := List.cons.inj heq
    rfl
  · next heq =>
    obtain ⟨rfl, -⟩ := List.cons.inj heq
    rfl
  · exact h c rfl

/-! ### Integer literals -/

theorem isIntegerLiteral_iff {cs : List Char} :
    isIntegerLiteral cs = true ↔ (splitSign cs).2 ≠ [] ∧ ∀ c ∈ (splitSign cs).2, isDigit c = true := by
  simp [isIntegerLiteral]

private theorem bare_of_isIntegerLiteral {cs : List Char} (h : isIntegerLiteral cs = true) : Bare isSpace cs := by
  refine Bare.of_forall fun c hc => ?_
  rcases mem_of_mem_splitSign hc with rfl | rfl | hc
  · decide
  · decide
  · exact isSpace_of_isDigit ((isIntegerLiteral_iff.1 h).2 c hc)

/-- An integer literal denotes the integer of its sign and digits. -/
theorem readInt_of_isIntegerLiteral {cs : List Char} (h : isIntegerLiteral cs = true) :
    readInt cs = integerOfDigits (splitSign cs).1 (digitValues (splitSign cs).2) := by
  obtain ⟨hne, hdigits⟩ := isIntegerLiteral_iff.1 h
  have hnonempty : (digitValues (splitSign cs).2).isEmpty = false := by
    simpa [digitValues] using hne
  simp only [readInt, trim_eq_self (bare_of_isIntegerLiteral h), splitDigits_of_all hdigits, hnonempty,
    startsWithUnderscore, Bool.or_self, Bool.false_eq_true, if_false]
  cases integerOfDigits (splitSign cs).1 (digitValues (splitSign cs).2) <;> rfl

theorem dropFinalNewline_append (cs : List Char) :
    cs = dropFinalNewline cs ∨ cs = dropFinalNewline cs ++ ['\n'] := by
  unfold dropFinalNewline
  split
  · next h => exact .inr (List.dropLast_append_getLast? '\n' h).symm
  · exact .inl rfl

theorem readInt_dropFinalNewline (cs : List Char) : readInt (dropFinalNewline cs) = readInt cs := by
  rcases dropFinalNewline_append cs with h | h
  · rw [← h]
  · have htrim : trim isSpace (dropFinalNewline cs) = trim isSpace cs := by
      conv => rhs; rw [h]
      exact (trim_append_of_all (by decide)).symm
    rw [readInt, readInt, htrim]

/-! ### Scalars -/

/-- A text that starts differently is not the word. -/
theorem ofList_beq_eq_false {c : Char} {word : String} (h : c ∉ word.toList.head?) (cs : List Char) :
    (String.ofList (c :: cs) == word) = false := by
  rw [beq_eq_false_iff_ne]
  rintro rfl
  simp at h

/-- A text that starts like a number is read as one, if it can be. -/
theorem parseScalar_of_isNumeralStart {c : Char} (cs : List Char) (h : isNumeralStart c = true) :
    parseScalar (c :: cs) =
      if isIntegerLiteral (dropFinalNewline (c :: cs)) then integerScalar (c :: cs)
      else if isDecimalLiteral (dropFinalNewline (c :: cs)) then .ok (decimalScalar (c :: cs))
      else .ok (.text (String.ofList (c :: cs))) := by
  have hword : ∀ word : String, word.toList.head?.all (fun d => !isNumeralStart d) = true →
      (String.ofList (c :: cs) == word) = false := by
    intro word hstart
    refine ofList_beq_eq_false (fun hc => ?_) cs
    rw [Option.mem_def.1 hc, Option.all_some, h] at hstart
    cases hstart
  have hquote : unquote? (c :: cs) = none := by
    have hc : isQuote c = false := by
      by_contra hq
      rw [Bool.not_eq_false, isQuote, Bool.or_eq_true, beq_iff_eq, beq_iff_eq] at hq
      rcases hq with rfl | rfl <;> revert h <;> decide
    simp [unquote?, hc]
  simp only [parseScalar, hword "null" (by decide), hword "~" (by decide),
    hword "true" (by decide), hword "false" (by decide), hquote, Bool.or_self,
    Bool.false_eq_true, if_false]

private theorem dropFinalNewline_eq_self {cs : List Char} (h : ∀ c ∈ cs.getLast?, isBlank c = false) :
    dropFinalNewline cs = cs := by
  rw [dropFinalNewline, if_neg]
  intro hlast
  have := h _ hlast
  revert this
  decide

private theorem exists_cons_of_splitSign {cs : List Char}
    (h : ∃ c, (splitSign cs).2.head? = some c ∧ isNumeralStart c = true) :
    ∃ c rest, cs = c :: rest ∧ isNumeralStart c = true := by
  obtain ⟨d, hd, hstart⟩ := h
  cases cs with
  | nil => cases hd
  | cons c rest =>
    refine ⟨c, rest, rfl, isNumeralStart_of_splitSign rest ?_⟩
    intro e he
    rw [hd] at he
    obtain rfl := Option.some.inj he
    exact hstart

theorem numeralStart_of_isIntegerLiteral {cs : List Char} (h : isIntegerLiteral cs = true) :
    ∃ c rest, cs = c :: rest ∧ isNumeralStart c = true := by
  obtain ⟨hne, hdigits⟩ := isIntegerLiteral_iff.1 h
  refine exists_cons_of_splitSign ⟨_, List.head?_eq_some_head hne, ?_⟩
  simp [isNumeralStart, hdigits _ (List.head_mem hne)]

private theorem integerScalar_of_isIntegerLiteral {cs ds : List Char} (h : isIntegerLiteral ds = true)
    (hread : readInt cs = readInt ds) :
    integerScalar cs =
      if digitLimit < (splitSign ds).2.length then .error (.integerTooLong (splitSign ds).2.length)
      else .ok (.int (withSign (splitSign ds).1 (ofDigits (digitValues (splitSign ds).2)))) := by
  have hlength : (digitValues (splitSign ds).2).length = (splitSign ds).2.length := List.length_map _
  rw [integerScalar, hread, readInt_of_isIntegerLiteral h, integerOfDigits, hlength]
  by_cases hlimit : digitLimit < (splitSign ds).2.length
  · rw [if_pos hlimit, if_pos hlimit]
  · rw [if_neg hlimit, if_neg hlimit]

/-- An integer literal, with or without a line feed behind it, is an integer unless it has too many digits. -/
theorem parseScalar_of_isIntegerLiteral {cs ds : List Char} (hcs : dropFinalNewline cs = ds)
    (h : isIntegerLiteral ds = true) :
    parseScalar cs =
      if digitLimit < (splitSign ds).2.length then .error (.integerTooLong (splitSign ds).2.length)
      else .ok (.int (withSign (splitSign ds).1 (ofDigits (digitValues (splitSign ds).2)))) := by
  subst hcs
  obtain ⟨c, rest, hliteral, hstart⟩ := numeralStart_of_isIntegerLiteral h
  -- the final line feed is not part of the literal, but of the text that is read
  have hsplit : ∃ rest', cs = c :: rest' := by
    rcases dropFinalNewline_append cs with heq | heq
    · exact ⟨rest, heq.trans hliteral⟩
    · exact ⟨rest ++ ['\n'], by rw [heq, hliteral]; rfl⟩
  obtain ⟨rest', rfl⟩ := hsplit
  rw [parseScalar_of_isNumeralStart rest' hstart, if_pos h,
    integerScalar_of_isIntegerLiteral h (readInt_dropFinalNewline _).symm]

/-! ### Decimal literals -/

/-- The parts of a literal without its sign. -/
def numeralOf (unsigned : List Char) : Numeral :=
  let fraction := match unsigned.dropWhile isDigit with
    | '.' :: rest => rest
    | _ => []
  let scale := match unsigned.dropWhile isDigit with
    | '.' :: rest => rest.dropWhile isDigit
    | rest => rest
  { whole := digitValues (unsigned.takeWhile isDigit)
    fraction := digitValues (fraction.takeWhile isDigit)
    exponent := withSign (splitSign scale.tail).1 (ofDigits (digitValues (splitSign scale.tail).2)) }

private theorem endsDigits_of_isExponentPart {cs : List Char} (h : isExponentPart cs = true) : EndsDigits cs := by
  cases cs with
  | nil => exact endsDigits_nil
  | cons e rest =>
    simp only [isExponentPart, Bool.and_eq_true, Bool.or_eq_true, beq_iff_eq] at h
    rcases h.1 with rfl | rfl
    · exact endsDigits_cons (by decide) (by decide)
    · exact endsDigits_cons (by decide) (by decide)

private theorem readExponent?_of_isExponentPart {cs : List Char} (h : isExponentPart cs = true) :
    readExponent? cs = some (withSign (splitSign cs.tail).1 (ofDigits (digitValues (splitSign cs.tail).2))) := by
  cases cs with
  | nil => rfl
  | cons e rest =>
    simp only [isExponentPart, Bool.and_eq_true] at h
    obtain ⟨hne, hdigits⟩ := isIntegerLiteral_iff.1 h.2
    have hnonempty : (digitValues (splitSign rest).2).isEmpty = false := by
      simpa [digitValues] using hne
    simp [readExponent?, h.1, splitDigits_of_all hdigits, hnonempty]

private theorem splitDigits_eq (cs : List Char) (h : EndsDigits (cs.dropWhile isDigit)) :
    splitDigits cs = (digitValues (cs.takeWhile isDigit), cs.dropWhile isDigit) := by
  conv => lhs; rw [← List.takeWhile_append_dropWhile (p := isDigit) (l := cs)]
  exact splitDigits_append (fun c hc => List.mem_takeWhile_imp hc) h

private theorem takeWhile_ne_nil_of_startsWithDigit {cs : List Char} (h : startsWithDigit cs = true) :
    cs.takeWhile isDigit ≠ [] := by
  cases cs with
  | nil => cases h
  | cons c rest =>
    rw [List.takeWhile_cons_of_pos (show isDigit c = true from h)]
    exact List.cons_ne_nil _ _

/-- A decimal literal without its sign is read part by part. -/
private theorem readNumeral?_of_isDecimalLiteral {cs : List Char} (h : isDecimalLiteral cs = true) :
    readNumeral? (splitSign cs).2 = some (numeralOf (splitSign cs).2) := by
  simp only [isDecimalLiteral] at h
  generalize (splitSign cs).2 = unsigned at h ⊢
  cases hrest : unsigned.dropWhile isDigit with
  | nil =>
    simp only [hrest, Bool.and_eq_true, Bool.not_eq_true', List.isEmpty_eq_false_iff] at h
    have hwhole := splitDigits_eq unsigned (by rw [hrest]; exact endsDigits_nil)
    have hnonempty : (digitValues (unsigned.takeWhile isDigit)).isEmpty = false := by
      simpa [digitValues] using h.1
    simp [readNumeral?, hwhole, hrest, hnonempty, numeralOf, readExponent?, splitSign, withSign, ofDigits]
  | cons c rest =>
    by_cases hpoint : c = '.'
    · subst hpoint
      simp only [hrest, Bool.and_eq_true, Bool.or_eq_true, Bool.not_eq_true', List.isEmpty_eq_false_iff] at h
      have hwhole := splitDigits_eq unsigned (by
        rw [hrest]
        exact endsDigits_cons (by decide) (by decide))
      have hfraction := splitDigits_eq rest (endsDigits_of_isExponentPart h.2)
      -- a point may stand first or last, but not alone
      have hsome : unsigned.takeWhile isDigit = [] → rest.takeWhile isDigit ≠ [] := fun hnil =>
        takeWhile_ne_nil_of_startsWithDigit (h.1.resolve_left (absurd hnil))
      have hnonempty : ¬((digitValues (unsigned.takeWhile isDigit)).isEmpty &&
          (digitValues (rest.takeWhile isDigit)).isEmpty) = true := by
        simpa [digitValues] using hsome
      simp only [readNumeral?, hwhole, hrest, hfraction, if_neg hnonempty,
        readExponent?_of_isExponentPart h.2, numeralOf, Option.map_some]
    · have hexponent : unsigned.takeWhile isDigit ≠ [] ∧ isExponentPart (c :: rest) = true := by
        rw [hrest] at h
        simpa [hpoint] using h
      have hwhole := splitDigits_eq unsigned (by
        rw [hrest]
        exact endsDigits_of_isExponentPart hexponent.2)
      have hnonempty : (digitValues (unsigned.takeWhile isDigit)).isEmpty = false := by
        simpa [digitValues] using hexponent.1
      simp [readNumeral?, hwhole, hrest, hpoint, numeralOf, hnonempty, readExponent?_of_isExponentPart hexponent.2]

/-! ### Characters of literals -/

/-- Can the character stand in a literal? -/
def isLiteralChar (c : Char) : Bool :=
  isNumeralStart c || c == 'e' || c == 'E'

theorem isBlank_of_isLiteralChar {c : Char} (h : isLiteralChar c = true) : isBlank c = false := by
  simp only [isLiteralChar, isNumeralStart, Bool.or_eq_true, beq_iff_eq] at h
  rcases h with ((((rfl | rfl) | rfl) | h) | rfl) | rfl
  · decide
  · decide
  · decide
  · exact isBlank_of_isDigit h
  · decide
  · decide

private theorem isLiteralChar_of_isDigit {c : Char} (h : isDigit c = true) : isLiteralChar c = true := by
  simp [isLiteralChar, isNumeralStart, h]

private theorem isLiteralChar_of_splitSign {cs : List Char} (h : ∀ c ∈ (splitSign cs).2, isLiteralChar c = true) :
    ∀ c ∈ cs, isLiteralChar c = true := by
  intro c hc
  rcases mem_of_mem_splitSign hc with rfl | rfl | hc
  · rfl
  · rfl
  · exact h c hc

private theorem isLiteralChar_of_isIntegerLiteral {cs : List Char} (h : isIntegerLiteral cs = true) :
    ∀ c ∈ cs, isLiteralChar c = true :=
  isLiteralChar_of_splitSign fun c hc => isLiteralChar_of_isDigit ((isIntegerLiteral_iff.1 h).2 c hc)

private theorem isLiteralChar_of_isExponentPart {cs : List Char} (h : isExponentPart cs = true) :
    ∀ c ∈ cs, isLiteralChar c = true := by
  cases cs with
  | nil => simp
  | cons e rest =>
    simp only [isExponentPart, Bool.and_eq_true, Bool.or_eq_true, beq_iff_eq] at h
    intro c hc
    rcases List.mem_cons.1 hc with rfl | hc
    · rcases h.1 with rfl | rfl <;> rfl
    · exact isLiteralChar_of_isIntegerLiteral h.2 c hc

private theorem isLiteralChar_of_dropWhile {cs : List Char} (h : ∀ c ∈ cs.dropWhile isDigit, isLiteralChar c = true) :
    ∀ c ∈ cs, isLiteralChar c = true := by
  intro c hc
  rw [← List.takeWhile_append_dropWhile (p := isDigit) (l := cs)] at hc
  rcases List.mem_append.1 hc with hc | hc
  · exact isLiteralChar_of_isDigit (List.mem_takeWhile_imp hc)
  · exact h c hc

private theorem isLiteralChar_of_isDecimalLiteral {cs : List Char} (h : isDecimalLiteral cs = true) :
    ∀ c ∈ cs, isLiteralChar c = true := by
  refine isLiteralChar_of_splitSign (isLiteralChar_of_dropWhile ?_)
  simp only [isDecimalLiteral] at h
  split at h
  · next rest heq =>
    rw [heq]
    intro c hc
    rcases List.mem_cons.1 hc with rfl | hc
    · rfl
    · exact isLiteralChar_of_dropWhile (isLiteralChar_of_isExponentPart (Bool.and_eq_true_iff.1 h).2) c hc
  · exact isLiteralChar_of_isExponentPart (Bool.and_eq_true_iff.1 h).2

/-- The forms that a number can have in a block. -/
def IsLiteral (cs : List Char) : Prop :=
  isIntegerLiteral cs = true ∨ isDecimalLiteral cs = true

theorem IsLiteral.isLiteralChar {cs : List Char} (h : IsLiteral cs) : ∀ c ∈ cs, isLiteralChar c = true :=
  h.elim isLiteralChar_of_isIntegerLiteral isLiteralChar_of_isDecimalLiteral

theorem IsLiteral.isBlank {cs : List Char} (h : IsLiteral cs) : ∀ c ∈ cs, isBlank c = false :=
  fun c hc => isBlank_of_isLiteralChar (h.isLiteralChar c hc)

theorem IsLiteral.dropFinalNewline_eq {cs : List Char} (h : IsLiteral cs) : dropFinalNewline cs = cs :=
  dropFinalNewline_eq_self fun c hc => h.isBlank c (List.mem_of_mem_getLast? hc)

private theorem head_of_isDecimalLiteral {cs : List Char} (h : isDecimalLiteral cs = true) :
    ∃ c rest, (splitSign cs).2 = c :: rest ∧ (c = '.' ∨ isDigit c = true) := by
  simp only [isDecimalLiteral] at h
  cases hcs : (splitSign cs).2 with
  | nil => simp [hcs] at h
  | cons c rest =>
    refine ⟨c, rest, rfl, ?_⟩
    by_cases hc : isDigit c = true
    · exact .inr hc
    · by_cases hpoint : c = '.'
      · exact .inl hpoint
      · simp [hcs, hc, hpoint] at h

private theorem toLower_of_isDigit {c : Char} (h : isDigit c = true) : c.toLower ≠ 'i' ∧ c.toLower ≠ 'n' := by
  obtain ⟨z, hz, k, hk, rfl⟩ := exists_digitZero h
  have all : ∀ z ∈ digitZeros, ∀ k < 10, (Char.ofNat (z + k)).toLower ≠ 'i' ∧ (Char.ofNat (z + k)).toLower ≠ 'n' := by
    decide +kernel
  exact all z hz k hk

/-- A decimal literal denotes the floating point number of its sign and parts. -/
theorem readFloat?_of_isDecimalLiteral {cs : List Char} (h : isDecimalLiteral cs = true) :
    readFloat? cs = some ((numeralOf (splitSign cs).2).toFloat (splitSign cs).1) := by
  have hbare : Bare isSpace cs :=
    Bare.of_forall fun c hc => isSpace_of_not_isBlank (IsLiteral.isBlank (.inr h) c hc)
  obtain ⟨c, rest, hcs, hc⟩ := head_of_isDecimalLiteral h
  have hlower : c.toLower ≠ 'i' ∧ c.toLower ≠ 'n' := by
    rcases hc with rfl | hc
    · decide
    · exact toLower_of_isDigit hc
  have hword : ∀ word : String, c.toLower ∉ word.toList.head? →
      (String.ofList ((splitSign cs).2.map Char.toLower) == word) = false := by
    intro word hhead
    rw [hcs, List.map_cons]
    exact ofList_beq_eq_false hhead _
  have hinf := hword "inf" (by simpa using hlower.1.symm)
  have hinfinity := hword "infinity" (by simpa using hlower.1.symm)
  have hnan := hword "nan" (by simpa using hlower.2.symm)
  simp only [readFloat?, trim_eq_self hbare, hinf, hinfinity, hnan, Bool.or_self, Bool.false_eq_true, if_false,
    readNumeral?_of_isDecimalLiteral h, Option.map_some]

/-- A decimal literal that is no integer literal is a floating point number. -/
theorem parseScalar_of_isDecimalLiteral {cs : List Char} (hint : isIntegerLiteral cs = false)
    (h : isDecimalLiteral cs = true) :
    parseScalar cs = .ok (.float ((numeralOf (splitSign cs).2).toFloat (splitSign cs).1)) := by
  have hdrop : dropFinalNewline cs = cs := IsLiteral.dropFinalNewline_eq (.inr h)
  obtain ⟨d, tail, hd, hstart⟩ := head_of_isDecimalLiteral h
  obtain ⟨c, rest, rfl, hc⟩ := exists_cons_of_splitSign ⟨d, by rw [hd]; rfl, by
    rcases hstart with rfl | hdigit
    · rfl
    · simp [isNumeralStart, hdigit]⟩
  rw [parseScalar_of_isNumeralStart rest hc, hdrop, hint, h, if_neg (by decide), if_pos rfl, decimalScalar,
    readFloat?_of_isDecimalLiteral h]

end Promptbook.Metadata
