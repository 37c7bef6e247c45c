import Promptbook.Metadata.Block
import Promptbook.Proofs.Text.Lines

/-!
# Elements of arrays

What can stand behind a colon, and what can stand between the commas of an inline array.  An array is cut at its
commas outside quotes, so an element must hold no such comma and close every quote that it opens.  Elements of this
kind are found again whatever else they hold (`elementTexts_commaJoined`), and each is read as a scalar
(`parseItem_bracketed`).
-/

namespace Promptbook.Metadata

open Promptbook.Text

/-! ### Values -/

/-- Can the text stand behind a colon? -/
structure IsValue (cs : List Char) : Prop where
  bare : Bare isBlank cs
  oneLine : OneLine cs

theorem IsValue.of_isBlank {cs : List Char} (h : ∀ c ∈ cs, isBlank c = false) : IsValue cs :=
  ⟨Bare.of_forall h, OneLine.of_isBlank h⟩

theorem IsValue.nil : IsValue [] :=
  .of_isBlank (by simp)

/-- A text that stands in no brackets is a scalar. -/
theorem parseItem_of_isBracketed {cs : List Char} (hne : cs ≠ []) (h : isBracketed cs = false) :
    parseItem cs = (parseScalar cs).map .scalar := by
  rw [parseItem, if_neg (by simpa using hne), h, if_neg (by decide)]

theorem parseItem_of_head? {cs : List Char} (hne : cs ≠ []) (h : cs.head? ≠ some '[') :
    parseItem cs = (parseScalar cs).map .scalar :=
  parseItem_of_isBracketed hne (by simp [isBracketed, h])

/-- What is read back one by one is read back as a list. -/
theorem mapM_map_eq_ok {α β γ : Type} {as : List α} {f : α → β} {g : β → Except Misuse γ} {r : α → γ}
    (h : ∀ a ∈ as, g (f a) = .ok (r a)) : (as.map f).mapM g = .ok (as.map r) := by
  induction as with
  | nil => rfl
  | cons a as ih =>
    rw [List.map_cons, List.mapM_cons, h a List.mem_cons_self, ih fun b hb => h b (List.mem_cons_of_mem _ hb)]
    rfl

/-! ### Cutting at commas -/

/-- Does the text hold no comma outside quotes and end outside quotes, given the quote that is open at its start? -/
def isUncut : Option Char → List Char → Bool
  | openQuote, [] => openQuote.isNone
  | openQuote, c :: rest => ¬(openQuote = none ∧ c = ',') && isUncut (nextQuote openQuote c) rest

/-- Can the text stand between the commas of an inline array? -/
structure IsElement (cs : List Char) : Prop where
  ne_nil : cs ≠ []
  strip_eq : strip cs = cs
  oneLine : OneLine cs
  uncut : isUncut none cs = true

instance (cs : List Char) : Decidable (IsElement cs) :=
  decidable_of_iff (cs ≠ [] ∧ strip cs = cs ∧ OneLine cs ∧ isUncut none cs = true)
    ⟨fun h => ⟨h.1, h.2.1, h.2.2.1, h.2.2.2⟩, fun h => ⟨h.ne_nil, h.strip_eq, h.oneLine, h.uncut⟩⟩

theorem IsElement.isValue {cs : List Char} (h : IsElement cs) : IsValue cs :=
  ⟨bare_of_trim_eq_self h.strip_eq, h.oneLine⟩

/-- Has the character no meaning in an array: is it no blank, quote, comma or opening bracket? -/
def isPlain (c : Char) : Bool :=
  !isBlank c && !isQuote c && c != ',' && c != '['

section Plain

variable {cs : List Char} (hne : cs ≠ []) (h : cs.all isPlain = true)

include hne h

theorem IsElement.of_isPlain : IsElement cs := by
  rw [List.all_eq_true] at h
  simp only [isPlain, Bool.and_eq_true, Bool.not_eq_true', bne_iff_ne] at h
  have hblank : ∀ c ∈ cs, isBlank c = false := fun c hc => (h c hc).1.1.1
  have huncut : isUncut none cs = true := by
    clear hne hblank
    induction cs with
    | nil => rfl
    | cons c cs ih =>
      have hc := h c List.mem_cons_self
      simpa [isUncut, nextQuote, hc.1.1.2, hc.1.2] using ih fun d hd => h d (List.mem_cons_of_mem _ hd)
  exact ⟨hne, trim_eq_self (.of_forall hblank), .of_isBlank hblank, huncut⟩

theorem parseItem_of_isPlain : parseItem cs = (parseScalar cs).map .scalar := by
  refine parseItem_of_head? hne fun hhead => ?_
  have hbracket := List.all_eq_true.1 h '[' (List.mem_of_mem_head? hhead)
  revert hbracket
  decide

end Plain

/-- A text that is not cut goes into the first element of the whole. -/
theorem splitElements_append {openQuote : Option Char} {cs rest element : List Char} {elements : List (List Char)}
    (h : isUncut openQuote cs = true) (hrest : splitElements none rest = element :: elements) :
    splitElements openQuote (cs ++ rest) = (cs ++ element) :: elements := by
  induction cs generalizing openQuote with
  | nil =>
    obtain rfl := Option.isNone_iff_eq_none.1 h
    exact hrest
  | cons c cs ih =>
    rw [isUncut, Bool.and_eq_true] at h
    rw [List.cons_append, splitElements, if_neg (of_decide_eq_true h.1), ih h.2]
    rfl

theorem commaJoined_cons (cs next : List Char) (rest : List (List Char)) :
    commaJoined (cs :: next :: rest) = cs ++ ',' :: ' ' :: commaJoined (next :: rest) := by
  simp [commaJoined, joined]

variable {e : List Char} {es : List (List Char)}

theorem splitElements_commaJoined (h : ∀ t ∈ e :: es, isUncut none t = true) :
    splitElements none (commaJoined (e :: es)) = e :: es.map (' ' :: ·) := by
  induction es generalizing e with
  | nil =>
    have hread := splitElements_append (h e List.mem_cons_self) (show splitElements none [] = [] :: [] from rfl)
    rwa [List.append_nil] at hread
  | cons next es ih =>
    have htail := ih fun t ht => h t (List.mem_cons_of_mem _ ht)
    -- the comma cuts, and the blank after it stays with the next element
    have hcomma : splitElements none (',' :: ' ' :: commaJoined (next :: es)) =
        [] :: (' ' :: next) :: es.map (' ' :: ·) := by
      rw [splitElements, if_pos ⟨rfl, rfl⟩, splitElements, if_neg (by decide),
        show nextQuote none ' ' = none from rfl, htail]
    have hread := splitElements_append (h e List.mem_cons_self) hcomma
    rw [List.append_nil] at hread
    rw [commaJoined_cons, hread]
    rfl

theorem oneLine_commaJoined (h : ∀ t ∈ es, OneLine t) : OneLine (commaJoined es) := by
  induction es with
  | nil => exact IsValue.nil.oneLine
  | cons e es ih =>
    have he := h e List.mem_cons_self
    have htail := ih fun t ht => h t (List.mem_cons_of_mem _ ht)
    cases es with
    | nil => exact he
    | cons next es =>
      rw [commaJoined_cons]
      exact he.append (.cons (by decide) (.cons (by decide) htail))

private theorem bare_commaJoined (h : ∀ t ∈ e :: es, t ≠ [] ∧ Bare isBlank t) :
    Bare isBlank (commaJoined (e :: es)) := by
  constructor
  · have hhead : (commaJoined (e :: es)).head? = e.head? := by
      cases es with
      | nil => rfl
      | cons next es => rw [commaJoined_cons, List.head?_append_of_ne_nil _ (h e List.mem_cons_self).1]
    rw [hhead]
    exact (h e List.mem_cons_self).2.1
  · induction es generalizing e with
    | nil => exact (h e List.mem_cons_self).2.2
    | cons next es ih =>
      have hne : commaJoined (next :: es) ≠ [] := by
        have hnext := (h next (by simp)).1
        cases es <;> simp [commaJoined, joined, hnext]
      rw [commaJoined_cons, List.getLast?_append_of_ne_nil _ (List.cons_ne_nil _ _),
        List.getLast?_cons_of_ne_nil (List.cons_ne_nil _ _), List.getLast?_cons_of_ne_nil hne]
      exact ih fun t ht => h t (List.mem_cons_of_mem _ ht)

/-- Elements that are joined with commas are found again. -/
theorem elementTexts_commaJoined (h : ∀ t ∈ es, IsElement t) : elementTexts (commaJoined es) = es := by
  cases es with
  | nil => rfl
  | cons e es =>
    have hstrip : ∀ t ∈ es, strip (' ' :: t) = t := fun t ht =>
      (trim_of_all_append (show [' '].all isBlank = true by decide)).trans (h t (List.mem_cons_of_mem _ ht)).strip_eq
    have hbare := bare_commaJoined fun t ht => ⟨(h t ht).ne_nil, (h t ht).isValue.bare⟩
    have hcut : (splitElements none (strip (commaJoined (e :: es)))).map strip = e :: es := by
      rw [strip, trim_eq_self hbare, splitElements_commaJoined fun t ht => (h t ht).uncut, List.map_cons,
        List.map_map, (h e List.mem_cons_self).strip_eq]
      exact congrArg (e :: ·) ((List.map_congr_left hstrip).trans (List.map_id es))
    have hlast : (e :: es).getLast? ≠ some [] := fun hnil => (h [] (List.mem_of_getLast? hnil)).ne_nil rfl
    rw [elementTexts, hcut, dropEmptyLast, if_neg hlast]

/-! ### Inline arrays -/

/-- The text of an inline array. -/
def bracketed (es : List (List Char)) : List Char :=
  '[' :: commaJoined es ++ [']']

theorem bracketed_ne_nil (es : List (List Char)) : bracketed es ≠ [] :=
  List.cons_ne_nil _ _

private theorem getLast?_bracketed (es : List (List Char)) : (bracketed es).getLast? = some ']' := by
  rw [bracketed, List.getLast?_append_of_ne_nil _ (List.cons_ne_nil _ _)]
  rfl

theorem IsValue.bracketed (h : ∀ t ∈ es, OneLine t) : IsValue (bracketed es) := by
  refine ⟨⟨?_, ?_⟩, ?_⟩
  · intro c hc
    obtain rfl := Option.some.inj hc
    decide
  · intro c hc
    rw [getLast?_bracketed] at hc
    obtain rfl := Option.some.inj hc
    decide
  · exact .cons (by decide) ((oneLine_commaJoined h).append (.cons (by decide) IsValue.nil.oneLine))

/-- The elements of an inline array are read one by one. -/
theorem parseItem_bracketed (h : ∀ t ∈ es, IsElement t) :
    parseItem (bracketed es) = (es.mapM parseScalar).map .list := by
  have hbracket : isBracketed (bracketed es) = true := by
    rw [isBracketed, getLast?_bracketed]
    rfl
  have hinner : ((bracketed es).drop 1).dropLast = commaJoined es := by
    simp [bracketed]
  rw [parseItem, if_neg (by simpa using bracketed_ne_nil es), if_pos hbracket, parseInlineArray, hinner,
    elementTexts_commaJoined h]

end Promptbook.Metadata
