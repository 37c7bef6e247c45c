import Promptbook.Prompt.Key
import Promptbook.Proofs.Metadata.Writing
import Promptbook.Proofs.Number.Rounding

/-!
# Reading keys

A `Spelling` is a text of the form of a key, with its id, its digits and its variant apart.  The reader finds these
parts in it (`split?_text`) and in no other text (`exists_spelling`).  So it reads a key by its form, but for two
cases: a line feed behind the key is passed over, and digits beyond the limit for integers are refused as such
(`parse_readsByForm_iff`).  A key that is built from readable parts is read as these parts, and what is read from any
key can be built and read again (`parse_build`).
-/

namespace Promptbook.Key

open Promptbook.Metadata Promptbook.Number Promptbook.Text

/-! ### The form of a key -/

/-- Can the text be the id or the variant of a key that is read? -/
def IsLabel (cs : List Char) : Prop :=
  cs ≠ [] ∧ '@' ∉ cs ∧ ':' ∉ cs ∧ ∀ c ∈ cs, isBlank c = false

theorem isKeyChar_iff {c : Char} : isKeyChar c = true ↔ c ≠ '@' ∧ c ≠ ':' ∧ isBlank c = false := by
  simp [isKeyChar, and_assoc]

theorem isLabel_iff {cs : List Char} : IsLabel cs ↔ cs ≠ [] ∧ ∀ c ∈ cs, isKeyChar c = true := by
  refine and_congr_right fun _ => ?_
  simp only [isKeyChar_iff, forall_and, ne_eq, List.forall_mem_ne']

/-- A text of the form of a key in its parts. -/
structure Spelling where
  id : List Char
  digits : List Char
  variant : Option (List Char)
  isLabel_id : IsLabel id
  digits_ne_nil : digits ≠ []
  isDigit_of_mem : ∀ c ∈ digits, isDigit c = true
  isLabel_variant : ∀ name ∈ variant, IsLabel name

namespace Spelling

/-- What follows the digits. -/
def ending (s : Spelling) : List Char :=
  match s.variant with
  | none => []
  | some name => ':' :: name

/-- The characters of the key. -/
def text (s : Spelling) : List Char :=
  s.id ++ '@' :: (s.digits ++ s.ending)

/-- The key. -/
def key (s : Spelling) : String :=
  String.ofList s.text

/-- What the key stands for. -/
def parts (s : Spelling) : Parts :=
  ⟨String.ofList s.id, Int.ofNat (ofDigits (digitValues s.digits)), s.variant.map String.ofList⟩

/-- What comes of reading the key. -/
def reading (s : Spelling) : Except Failure Parts :=
  if digitLimit < s.digits.length then .error (.misuse (.integerTooLong s.digits.length)) else .ok s.parts

end Spelling

/-! ### Cutting a key -/

theorem readVariant?_eq_some_iff {cs : List Char} {variant : Option String} :
    readVariant? cs = some variant ↔
      cs = [] ∧ variant = none ∨ ∃ name, IsLabel name ∧ cs = ':' :: name ∧ variant = some (String.ofList name) := by
  unfold readVariant?
  split
  · simp [eq_comm]
  · next name =>
    have htest : (!name.isEmpty && name.all isKeyChar) = true ↔ IsLabel name := by
      simp [isLabel_iff]
    split
    · next hname =>
      constructor
      · intro h
        exact .inr ⟨name, htest.1 hname, rfl, (Option.some.inj h).symm⟩
      · rintro (⟨h, -⟩ | ⟨name', -, heq, rfl⟩)
        · cases h
        · rw [(List.cons.inj heq).2]
    · next hname =>
      refine iff_of_false nofun ?_
      rintro (⟨h, -⟩ | ⟨name', hname', heq, -⟩)
      · cases h
      · obtain rfl := (List.cons.inj heq).2
        exact hname (htest.2 hname')
  · next hnil hcolon =>
    refine iff_of_false nofun ?_
    rintro (⟨rfl, -⟩ | ⟨name, -, rfl, -⟩)
    · exact hnil rfl
    · exact hcolon name rfl

namespace Spelling

theorem readVariant?_ending (s : Spelling) : readVariant? s.ending = some (s.variant.map String.ofList) := by
  rw [readVariant?_eq_some_iff, ending]
  cases hvariant : s.variant with
  | none => exact .inl ⟨rfl, rfl⟩
  | some name => exact .inr ⟨name, s.isLabel_variant name hvariant, rfl, rfl⟩

/-- The id ends at the sign after it and the digits end before the colon, so the parts of a key are found again. -/
theorem split?_text (s : Spelling) : split? s.text = some (s.id, s.digits, s.variant.map String.ofList) := by
  obtain ⟨hid, hchars⟩ := isLabel_iff.1 s.isLabel_id
  have hat : isKeyChar '@' = false := by decide
  have hending : s.ending.takeWhile isDigit = [] ∧ s.ending.dropWhile isDigit = s.ending := by
    have hcolon : isDigit ':' = false := by decide
    rw [ending]
    cases s.variant <;> simp [hcolon]
  have hfront : s.text.takeWhile isKeyChar = s.id := by
    rw [text, List.takeWhile_append_of_pos hchars, List.takeWhile_cons_of_neg (by simp [hat]), List.append_nil]
  have hrest : s.text.dropWhile isKeyChar = '@' :: (s.digits ++ s.ending) := by
    rw [text, List.dropWhile_append_of_pos hchars, List.dropWhile_cons_of_neg (by simp [hat])]
  have hversion : (s.digits ++ s.ending).takeWhile isDigit = s.digits := by
    rw [List.takeWhile_append_of_pos s.isDigit_of_mem, hending.1, List.append_nil]
  have hbehind : (s.digits ++ s.ending).dropWhile isDigit = s.ending := by
    rw [List.dropWhile_append_of_pos s.isDigit_of_mem, hending.2]
  have hempty : (s.id.isEmpty || s.digits.isEmpty) = false := by simp [hid, s.digits_ne_nil]
  simp only [split?, hrest, hfront, hversion, hbehind, hempty, readVariant?_ending, Bool.false_eq_true, if_false,
    Option.map_some]

end Spelling

/-- Only a text of the form of a key is cut. -/
theorem exists_spelling {cs : List Char} {r : List Char × List Char × Option String} (h : split? cs = some r) :
    ∃ s : Spelling, s.text = cs := by
  unfold split? at h
  split at h
  · next rest hrest =>
    simp only [Bool.or_eq_true, List.isEmpty_iff] at h
    split at h
    · cases h
    · next hne =>
      rw [not_or] at hne
      obtain ⟨variant, hvariant, -⟩ := Option.map_eq_some_iff.1 h
      have hid : IsLabel (cs.takeWhile isKeyChar) :=
        isLabel_iff.2 ⟨hne.1, fun c hc => List.mem_takeWhile_imp hc⟩
      have hdigits : ∀ c ∈ rest.takeWhile isDigit, isDigit c = true := fun c hc => List.mem_takeWhile_imp hc
      have htext : cs.takeWhile isKeyChar ++ '@' :: (rest.takeWhile isDigit ++ rest.dropWhile isDigit) = cs := by
        rw [List.takeWhile_append_dropWhile, ← hrest, List.takeWhile_append_dropWhile]
      rcases readVariant?_eq_some_iff.1 hvariant with ⟨hend, -⟩ | ⟨name, hname, hend, -⟩
      · rw [hend] at htext
        exact ⟨⟨_, _, none, hid, hne.2, hdigits, nofun⟩, htext⟩
      · rw [hend] at htext
        refine ⟨⟨_, _, some name, hid, hne.2, hdigits, ?_⟩, htext⟩
        rintro _ ⟨⟩
        exact hname
  · cases h

/-! ### Reading a key -/

namespace Spelling

theorem newline_notMem_text (s : Spelling) : '\n' ∉ s.text := by
  have hblank : isBlank '\n' = true := by decide
  have hlabel : ∀ cs, IsLabel cs → '\n' ∉ cs := by
    intro cs hcs hmem
    rw [hcs.2.2.2 _ hmem] at hblank
    cases hblank
  have hdigit : '\n' ∉ s.digits := fun hmem => absurd (s.isDigit_of_mem _ hmem) (by decide)
  have hending : '\n' ∉ s.ending := by
    rw [ending]
    cases hvariant : s.variant with
    | none => exact List.not_mem_nil
    | some name =>
      rw [List.mem_cons, not_or]
      exact ⟨by decide, hlabel name (s.isLabel_variant name hvariant)⟩
  simp [text, hlabel _ s.isLabel_id, hdigit, hending]

theorem key_ne_append_newline (s s' : Spelling) : s.key ≠ s'.key ++ "\n" := by
  intro heq
  apply s.newline_notMem_text
  have htext : s.text = s'.text ++ ['\n'] := by simpa [key] using congrArg String.toList heq
  rw [htext]
  simp

theorem readInt_digits (s : Spelling) : readInt s.digits = integerOfDigits false (digitValues s.digits) := by
  have hsign : splitSign s.digits = (false, s.digits) := by
    unfold splitSign
    split
    · next rest heq => exact absurd (s.isDigit_of_mem '-' (heq ▸ List.mem_cons_self)) (by decide)
    · next rest heq => exact absurd (s.isDigit_of_mem '+' (heq ▸ List.mem_cons_self)) (by decide)
    · rfl
  have hliteral : isIntegerLiteral s.digits = true := by
    rw [isIntegerLiteral_iff, hsign]
    exact ⟨s.digits_ne_nil, s.isDigit_of_mem⟩
  rw [readInt_of_isIntegerLiteral hliteral, hsign]

/-- A text that is a key of the form, but for a final line feed, is read as its parts if the digits are not too
many. -/
theorem parse_of_dropFinalNewline {s : Spelling} {key : String} (h : dropFinalNewline key.toList = s.text) :
    parse key = s.reading := by
  have hlength : (digitValues s.digits).length = s.digits.length := List.length_map _
  rw [parse, h, split?_text]
  simp only [readInt_digits, integerOfDigits, hlength, reading]
  by_cases hlong : digitLimit < s.digits.length
  · rw [if_pos hlong, if_pos hlong]
  · rw [if_neg hlong, if_neg hlong]
    rfl

theorem parse_key (s : Spelling) : parse s.key = s.reading := by
  refine parse_of_dropFinalNewline ?_
  rw [key, String.toList_ofList, dropFinalNewline, if_neg]
  exact fun hlast => s.newline_notMem_text (List.mem_of_getLast? hlast)

theorem parse_key_newline (s : Spelling) : parse (s.key ++ "\n") = s.reading := by
  refine parse_of_dropFinalNewline ?_
  simp [key, dropFinalNewline]

end Spelling

/-- Any other text is refused as no key. -/
theorem parse_of_no_spelling {key : String} (h : ∀ s : Spelling, key ≠ s.key ∧ key ≠ s.key ++ "\n") :
    parse key = .error (.invalidKey key) := by
  rw [parse]
  cases hsplit : split? (dropFinalNewline key.toList) with
  | none => rfl
  | some r =>
    obtain ⟨s, hs⟩ := exists_spelling hsplit
    rcases dropFinalNewline_append key.toList with hend | hend
    · refine absurd ?_ (h s).1
      rw [Spelling.key, hs, ← hend, String.ofList_toList]
    · refine absurd ?_ (h s).2
      apply String.toList_injective
      rw [hend, String.toList_append, Spelling.key, String.toList_ofList, hs]
      rfl

/-- Is the text read by its form: as the parts of a key if it is one, and refused as no key otherwise? -/
def ReadsByForm (key : String) : Prop :=
  (∀ s : Spelling, key = s.key → parse key = .ok s.parts) ∧
    ((∀ s : Spelling, key ≠ s.key) → parse key = .error (.invalidKey key))

/-- A text is read by its form unless it is a key with a line feed behind it or a key of more digits than an integer
may have.  The line feed makes no difference to the outcome, and the digits are refused by their number; every text
that is neither a key nor one with a line feed behind it is refused as no key. -/
theorem parse_readsByForm_iff (key : String) :
    (ReadsByForm key ↔
      ¬∃ s : Spelling, key = s.key ++ "\n" ∨ key = s.key ∧ digitLimit < s.digits.length) ∧
    (∀ s : Spelling, key = s.key ∨ key = s.key ++ "\n" → parse key = s.reading) ∧
    ((∀ s : Spelling, key ≠ s.key ∧ key ≠ s.key ++ "\n") → parse key = .error (.invalidKey key)) := by
  refine ⟨⟨?_, ?_⟩, ?_, parse_of_no_spelling⟩
  · rintro ⟨hkeys, hothers⟩ ⟨s, rfl | ⟨rfl, hlong⟩⟩
    · have hrefused := hothers fun s' => (s'.key_ne_append_newline s).symm
      rw [s.parse_key_newline, Spelling.reading] at hrefused
      split at hrefused <;> cases hrefused
    · have hread := hkeys s rfl
      rw [s.parse_key, Spelling.reading, if_pos hlong] at hread
      cases hread
  · intro hplain
    simp only [not_exists, not_or, not_and] at hplain
    constructor
    · rintro s rfl
      rw [s.parse_key, Spelling.reading, if_neg ((hplain s).2 rfl)]
    · exact fun hothers => parse_of_no_spelling fun s => ⟨hothers s, (hplain s).1⟩
  · rintro s (rfl | rfl)
    · exact s.parse_key
    · exact s.parse_key_newline

/-- The key of the id `a` with a version of so many zeros and a one. -/
def paddedOne (zeros : Nat) : Spelling where
  id := ['a']
  digits := List.replicate zeros '0' ++ ['1']
  variant := none
  isLabel_id := ⟨by decide, by decide, by decide, by simp only [List.forall_mem_singleton]; decide⟩
  digits_ne_nil := by simp
  isDigit_of_mem := by
    intro c hc
    rcases List.mem_append.1 hc with hc | hc
    · rw [List.eq_of_mem_replicate hc]
      decide
    · rw [List.mem_singleton.1 hc]
      decide
  isLabel_variant := nofun

/-- A key with a line feed behind it is read, and a key whose version has too many leading zeros is not. -/
theorem not_readsByForm_of_newline_or_zeros :
    "a@1\n" = (paddedOne 0).key ++ "\n" ∧ ¬ReadsByForm "a@1\n" ∧ ¬ReadsByForm (paddedOne digitLimit).key := by
  have hkey : "a@1\n" = (paddedOne 0).key ++ "\n" := by decide
  refine ⟨hkey, ?_, ?_⟩
  · rintro ⟨-, hothers⟩
    have hrefused := hothers fun s => hkey ▸ (s.key_ne_append_newline _).symm
    have hread : parse "a@1\n" = .ok (paddedOne 0).parts := hkey ▸ (paddedOne 0).parse_key_newline
    rw [hread] at hrefused
    cases hrefused
  · rintro ⟨hkeys, -⟩
    have hread := hkeys _ rfl
    have hlong : digitLimit < (paddedOne digitLimit).digits.length := by simp [paddedOne]
    rw [Spelling.parse_key, Spelling.reading, if_pos hlong] at hread
    cases hread

/-! ### Building a key and reading it -/

/-- Can the parts be read from a key that is built from them? -/
structure Parts.IsReadable (p : Parts) : Prop where
  id : IsLabel p.id.toList
  version_nonneg : 0 ≤ p.version
  version_short : p.version.toNat < 10 ^ digitLimit
  variant : ∀ name ∈ p.variant, IsLabel name.toList

/-- The key that is built from readable parts, spelt. -/
def Parts.IsReadable.spelling {p : Parts} (h : p.IsReadable) : Spelling where
  id := p.id.toList
  digits := natText p.version.toNat
  variant := p.variant.map String.toList
  isLabel_id := h.id
  digits_ne_nil := natText_ne_nil _
  isDigit_of_mem := by
    intro c hc
    obtain ⟨d, hd, rfl⟩ := mem_natText hc
    exact isDigit_digitChar hd
  isLabel_variant := by
    intro name hname
    obtain ⟨s, hs, rfl⟩ := Option.mem_map.1 hname
    exact h.variant s hs

namespace Parts.IsReadable

variable {p : Parts}

theorem isLong_version (h : p.IsReadable) : isLong p.version = false :=
  isLong_of_nonneg h.version_nonneg h.version_short

theorem key_spelling (h : p.IsReadable) : p.key = .ok h.spelling.key := by
  have hversion : intText p.version = natText p.version.toNat := by
    obtain ⟨n, hn⟩ := Int.eq_ofNat_of_zero_le h.version_nonneg
    rw [hn]
    rfl
  have hlong := h.isLong_version
  obtain ⟨id, version, variant⟩ := p
  rw [Parts.key, build_of_short hlong]
  refine congrArg Except.ok (String.toList_injective ?_)
  cases variant with
  | none =>
    have hvariant : variantOf none = none := rfl
    simp [Spelling.key, Spelling.text, Spelling.ending, spelling, text, join, hversion, hvariant]
  | some name =>
    have hname : name ≠ "" := fun hempty => (h.variant name rfl).1 (by rw [hempty]; rfl)
    have hvariant : variantOf (some name) = some name := by simp [variantOf, hname]
    simp [Spelling.key, Spelling.text, Spelling.ending, spelling, text, join, hversion, hvariant]

theorem parts_spelling (h : p.IsReadable) : h.spelling.parts = p := by
  have hversion : Int.ofNat p.version.toNat = p.version := Int.toNat_of_nonneg h.version_nonneg
  have hvariant : (p.variant.map String.toList).map String.ofList = p.variant := by
    cases p.variant <;> simp
  simp only [Spelling.parts, spelling, digitValues_natText, ofDigits_digits, hversion, hvariant, String.ofList_toList]

/-- Readable parts have a key, which is read as these parts. -/
theorem parse_key (h : p.IsReadable) : ∃ key, p.key = .ok key ∧ parse key = .ok p := by
  have hshort : ¬digitLimit < h.spelling.digits.length :=
    Nat.not_lt.2 (length_natText_le (by decide) h.version_short)
  refine ⟨h.spelling.key, h.key_spelling, ?_⟩
  rw [Spelling.parse_key, Spelling.reading, if_neg hshort, h.parts_spelling]

end Parts.IsReadable

theorem Spelling.isReadable_parts {s : Spelling} (h : s.digits.length ≤ digitLimit) : s.parts.IsReadable where
  id := by simpa [parts] using s.isLabel_id
  version_nonneg := Int.natCast_nonneg _
  version_short := by
    have hlength : (digitValues s.digits).length = s.digits.length := List.length_map _
    calc ofDigits (digitValues s.digits) < 10 ^ (digitValues s.digits).length :=
          ofDigits_lt (digitValues_lt s.isDigit_of_mem)
      _ ≤ 10 ^ digitLimit := Nat.pow_le_pow_right (by decide) (hlength ▸ h)
  variant := by
    intro name hname
    obtain ⟨cs, hcs, rfl⟩ := Option.mem_map.1 hname
    rw [String.toList_ofList]
    exact s.isLabel_variant cs hcs

/-- What is read from a key is readable. -/
theorem isReadable_of_parse {key : String} {p : Parts} (h : parse key = .ok p) : p.IsReadable := by
  by_cases hspelt : ∃ s : Spelling, key = s.key ∨ key = s.key ++ "\n"
  · obtain ⟨s, hs⟩ := hspelt
    have hreading : s.reading = .ok p := by
      rcases hs with rfl | rfl
      · rw [← h, s.parse_key]
      · rw [← h, s.parse_key_newline]
    rw [Spelling.reading] at hreading
    split at hreading
    · cases hreading
    · next hshort =>
      obtain rfl := Except.ok.inj hreading
      exact Spelling.isReadable_parts (Nat.not_lt.1 hshort)
  · simp only [not_exists, not_or] at hspelt
    rw [parse_of_no_spelling hspelt] at h
    cases h

/-- From an id, a version and a variant a key is built that is read as these, if the id and the variant can stand in a
key and the version is a natural number that is not too long.  Whatever key is read, from its parts a key is built
that is read as the same parts. -/
theorem parse_build :
    (∀ id version variant, IsLabel id.toList → 0 ≤ version → version.toNat < 10 ^ digitLimit →
      (∀ name ∈ variant, IsLabel name.toList) →
        ∃ key, build id version variant = .ok key ∧ parse key = .ok ⟨id, version, variant⟩) ∧
    ∀ key p, parse key = .ok p → ∃ rebuilt, build p.id p.version p.variant = .ok rebuilt ∧ parse rebuilt = .ok p := by
  constructor
  · intro id version variant hid hnonneg hshort hvariant
    have hreadable : Parts.IsReadable ⟨id, version, variant⟩ := ⟨hid, hnonneg, hshort, hvariant⟩
    exact hreadable.parse_key
  · intro key p hparse
    exact (isReadable_of_parse hparse).parse_key

/-- A version in other digits with leading zeros and a line feed behind it is read, and then built without them. -/
theorem parse_build_zeros :
    (∃ key, build "site_copy" 3 (some "b") = .ok key ∧ parse key = .ok ⟨"site_copy", 3, some "b"⟩) ∧
      parse "x@٠٠٧\n" = .ok ⟨"x", 7, none⟩ ∧ build "x" 7 none = .ok "x@7" ∧ parse "x@7" = .ok ⟨"x", 7, none⟩ := by
  have hlabel : ∀ cs : List Char, cs.all isKeyChar = true → cs ≠ [] → IsLabel cs := by
    intro cs hall hne
    exact isLabel_iff.2 ⟨hne, List.all_eq_true.1 hall⟩
  have hshort : (3 : Int).toNat < 10 ^ digitLimit :=
    calc (3 : Int).toNat < 10 ^ 1 := by decide
      _ ≤ 10 ^ digitLimit := Nat.pow_le_pow_right (by decide) (by decide)
  have hread : parse "x@٠٠٧\n" = .ok ⟨"x", 7, none⟩ := by rfl
  have hbuild : build "x" 7 none = .ok "x@7" :=
    build_eq_ok_iff.2 ⟨isLong_of_lt_hundred (by decide), by decide +kernel⟩
  obtain ⟨rebuilt, hrebuilt, hagain⟩ := parse_build.2 _ ⟨"x", 7, none⟩ hread
  obtain rfl : "x@7" = rebuilt := Except.ok.inj (hbuild.symm.trans hrebuilt)
  refine ⟨parse_build.1 _ _ _ (hlabel _ (by decide) (by decide)) (by decide) hshort ?_, hread, hbuild, hagain⟩
  rintro _ ⟨⟩
  exact hlabel _ (by decide) (by decide)

end Promptbook.Key
