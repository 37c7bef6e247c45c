import Mathlib
import Promptbook.Render.Template

/-!
# Templates as literal texts and placeholders

A template can be cut in one way only into literal texts with placeholders between them, if no placeholder stands
in a literal text (`Cut.Of.unique`).  The reason is that two placeholders cannot overlap, braces being no word
characters (`mention_prefix_of_append`).  The scan of `pieces` finds this cut (`Cut.Of.pieces_eq`), so filling a
template changes nothing but its placeholders (`Cut.Of.fill_eq`), and the names that are found are those of all
placeholders that stand anywhere in the template (`mem_names_iff`).
-/

namespace Promptbook.Template

open Promptbook.Text

/-- One or more word characters. -/
def IsName (name : String) : Prop :=
  name ≠ "" ∧ ∀ c ∈ name.toList, isWord c = true

/-- The placeholder of a name. -/
def mention (name : String) : String :=
  String.ofList (Piece.placeholder name.toList).source

/-- A placeholder stands somewhere in a text. -/
def Mentions (text name : String) : Prop :=
  IsName name ∧ (mention name).toList <:+: text.toList

/-- Literal texts with placeholders between them: the first literal text, and then the name of each placeholder with
the literal text after it. -/
structure Cut where
  first : String
  rest : List (String × String)
deriving Repr, DecidableEq

namespace Cut

/-- The literal texts, in order. -/
def literals (s : Cut) : List String :=
  s.first :: s.rest.map (·.2)

/-- The names of the placeholders, in order. -/
def names (s : Cut) : List String :=
  s.rest.map (·.1)

/-- The text with something put in the place of each placeholder. -/
def text (s : Cut) (put : String → String) : String :=
  s.first ++ String.join (s.rest.map fun e => put e.1 ++ e.2)

/-- Two cuts with a placeholder between them. -/
def join (s : Cut) (name : String) (t : Cut) : Cut :=
  ⟨s.first, s.rest ++ (name, t.first) :: t.rest⟩

/-- The pieces of a cut. -/
def parts (s : Cut) : List Piece :=
  s.first.toList.map .literal ++ s.rest.flatMap fun e => .placeholder e.1.toList :: e.2.toList.map .literal

/-- The cut that belongs to a template: with its placeholders it is the template, and no placeholder stands in a
literal text. -/
structure Of (s : Cut) (template : String) : Prop where
  text_mention : s.text mention = template
  isName : ∀ name ∈ s.names, IsName name
  plain : ∀ literal ∈ s.literals, ∀ name, ¬ Mentions literal name

end Cut

/-! ### Placeholders -/

theorem toList_mention (name : String) :
    (mention name).toList = '\x7b' :: '\x7b' :: (name.toList ++ ['\x7d', '\x7d']) := by
  simp [mention, Piece.source]

theorem length_mention_pos (name : String) : 0 < (mention name).length := by
  rw [← String.length_toList, toList_mention]
  exact Nat.succ_pos _

theorem isWord_openBrace : isWord '\x7b' = false := by decide

theorem isWord_closeBrace : isWord '\x7d' = false := by decide

theorem IsName.toList_ne_nil {name : String} (h : IsName name) : name.toList ≠ [] := by
  simpa using h.1

theorem IsName.openBrace_notMem {name : String} (h : IsName name) : '\x7b' ∉ name.toList := by
  intro hmem
  have hword := h.2 _ hmem
  rw [isWord_openBrace] at hword
  cases hword

/-- A text starts with the placeholder that is found at its front. -/
theorem mention_prefix_of_placeholder? {cs name : List Char} (h : placeholder? cs = some name) :
    IsName (String.ofList name) ∧ (mention (String.ofList name)).toList <+: cs := by
  obtain ⟨rest, rfl, hne, hword⟩ := placeholder?_eq_some h
  refine ⟨⟨by simpa using hne, by simpa using hword⟩, ?_⟩
  rw [mention, String.toList_ofList, String.toList_ofList]
  exact List.prefix_append _ _

/-- The placeholder that a text starts with is found. -/
theorem placeholder?_mention_append {name : String} (h : IsName name) (rest : List Char) :
    placeholder? ((mention name).toList ++ rest) = some name.toList := by
  have htake : (name.toList ++ '\x7d' :: '\x7d' :: rest).takeWhile isWord = name.toList := by
    rw [List.takeWhile_append_of_pos h.2, List.takeWhile_cons_of_neg (by simp [isWord_closeBrace]), List.append_nil]
  have hafter : afterName? (name.toList ++ '\x7d' :: '\x7d' :: rest) = some rest := by
    rw [afterName?, List.dropWhile_append_of_pos h.2, List.dropWhile_cons_of_neg (by simp [isWord_closeBrace])]
    rfl
  have hname : name.toList.isEmpty = false := by simpa using h.1
  rw [toList_mention, List.cons_append, List.cons_append, List.append_assoc]
  simp only [placeholder?, List.cons_append, List.nil_append, htake, hafter, hname, Option.isNone_some, Bool.or_self,
    Bool.false_eq_true, if_false]

/-- A placeholder that starts inside a text ends in it, if what follows is another placeholder: two placeholders do
not overlap. -/
theorem mention_prefix_of_append {u rest : List Char} (hu : u ≠ []) {name : String} (h : IsName name)
    (hp : (mention name).toList <+: u ++ '\x7b' :: '\x7b' :: rest) : (mention name).toList <+: u := by
  rcases List.prefix_or_prefix_of_prefix hp (List.prefix_append u _) with hin | hout
  · exact hin
  · obtain ⟨v, hv⟩ := hout
    rw [← hv, List.prefix_append_right_inj] at hp
    rw [toList_mention] at hv
    have hbrace : '\x7b' ∉ name.toList ++ ['\x7d', '\x7d'] := by simpa using h.openBrace_notMem
    cases v with
    | nil => rw [toList_mention, ← hv, List.append_nil]
    | cons a v =>
      -- the rest of the placeholder would start with an opening brace, or with two of them
      obtain ⟨rfl, hmore⟩ := List.cons_prefix_cons.1 hp
      obtain ⟨b, u, rfl⟩ := List.exists_cons_of_ne_nil hu
      rw [List.cons_append, List.cons.injEq] at hv
      cases u with
      | nil =>
        rw [List.nil_append, List.cons.injEq] at hv
        obtain ⟨c, cs, hcs⟩ := List.exists_cons_of_ne_nil h.toList_ne_nil
        rw [hv.2.2, hcs, List.cons_append, List.cons_prefix_cons] at hmore
        refine absurd ?_ hbrace
        rw [hcs, hmore.1]
        exact List.mem_append_left _ List.mem_cons_self
      | cons b' u =>
        rw [List.cons_append, List.cons.injEq] at hv
        refine absurd ?_ hbrace
        rw [← hv.2.2]
        exact List.mem_append_right _ List.mem_cons_self

/-! ### The scan -/

theorem pieces_mention_append {name : String} (h : IsName name) (rest : List Char) :
    pieces ((mention name).toList ++ rest) = .placeholder name.toList :: pieces rest := by
  have hfound := placeholder?_mention_append h rest
  have hdrop : ('\x7b' :: (name.toList ++ ['\x7d', '\x7d']) ++ rest).drop (name.toList.length + 3) = rest :=
    List.drop_left' (by simp)
  rw [toList_mention, List.cons_append] at hfound ⊢
  simp only [pieces, piecesFrom, hfound]
  rw [piecesFrom_eq_drop, hdrop]

theorem pieces_cons_of_none {c : Char} {rest : List Char} (h : placeholder? (c :: rest) = none) :
    pieces (c :: rest) = .literal c :: pieces rest := by
  simp only [pieces, piecesFrom, h]

/-- A text without placeholders is scanned character by character, up to the end or the next placeholder. -/
theorem pieces_append {u rest : List Char} (hu : ∀ name, IsName name → ¬ (mention name).toList <:+: u)
    (hrest : rest = [] ∨ ['\x7b', '\x7b'] <+: rest) : pieces (u ++ rest) = u.map .literal ++ pieces rest := by
  induction u with
  | nil => rfl
  | cons c u ih =>
    have hnone : placeholder? (c :: u ++ rest) = none := by
      by_contra hsome
      obtain ⟨name, hname⟩ := Option.ne_none_iff_exists'.1 hsome
      obtain ⟨hn, hp⟩ := mention_prefix_of_placeholder? hname
      refine hu _ hn (List.IsPrefix.isInfix ?_)
      rcases hrest with rfl | ⟨more, rfl⟩
      · rwa [List.append_nil] at hp
      · exact mention_prefix_of_append (List.cons_ne_nil c u) hn hp
    rw [List.cons_append] at hnone ⊢
    rw [pieces_cons_of_none hnone, List.map_cons, List.cons_append]
    congr 1
    exact ih fun name hn hin => hu name hn (hin.trans (List.suffix_cons c u).isInfix)

theorem pieces_plain_append {l : String} (hl : ∀ name, ¬ Mentions l name) {rest : List Char}
    (hrest : rest = [] ∨ ['\x7b', '\x7b'] <+: rest) :
    pieces (l.toList ++ rest) = l.toList.map .literal ++ pieces rest :=
  pieces_append (fun name hn hin => hl name ⟨hn, hin⟩) hrest

/-! ### Cuts -/

namespace Cut

theorem toList_text (s : Cut) (put : String → String) :
    (s.text put).toList = s.first.toList ++ s.rest.flatMap fun e => (put e.1).toList ++ e.2.toList := by
  simp [text, String.toList_append, String.toList_join, List.flatMap_map]

/-- A cut is a literal text, or a literal text and a placeholder before another cut. -/
@[elab_as_elim]
theorem induction {motive : Cut → Prop} (literal : ∀ l, motive ⟨l, []⟩)
    (placeholder : ∀ l name s, motive s → motive (join ⟨l, []⟩ name s)) (s : Cut) : motive s := by
  obtain ⟨first, rest⟩ := s
  induction rest generalizing first with
  | nil => exact literal first
  | cons e rest ih => exact placeholder first e.1 ⟨e.2, rest⟩ (ih e.2)

@[simp] theorem text_literal (l : String) (put : String → String) : text ⟨l, []⟩ put = l :=
  String.append_empty

theorem parts_literal (l : String) : parts ⟨l, []⟩ = l.toList.map .literal :=
  List.append_nil _

theorem text_join (s : Cut) (name : String) (t : Cut) (put : String → String) :
    (s.join name t).text put = s.text put ++ put name ++ t.text put := by
  rw [← String.toList_inj]
  simp [join, toList_text, String.toList_append]

theorem names_join (s : Cut) (name : String) (t : Cut) : (s.join name t).names = s.names ++ name :: t.names := by
  simp [join, names]

theorem literals_join (s : Cut) (name : String) (t : Cut) : (s.join name t).literals = s.literals ++ t.literals := by
  simp [join, literals]

theorem parts_join (s : Cut) (name : String) (t : Cut) :
    (s.join name t).parts = s.parts ++ .placeholder name.toList :: t.parts := by
  simp [join, parts]

theorem text_congr {s : Cut} {put put' : String → String} (h : ∀ name ∈ s.names, put name = put' name) :
    s.text put = s.text put' := by
  have hrest : (s.rest.map fun e => put e.1 ++ e.2) = s.rest.map fun e => put' e.1 ++ e.2 :=
    List.map_congr_left fun e he => by rw [h e.1 (List.mem_map_of_mem he)]
  rw [text, text, hrest]

theorem length_text_le (s : Cut) {put put' : String → String} (h : ∀ name, (put name).length ≤ (put' name).length) :
    (s.text put).length ≤ (s.text put').length := by
  rw [← String.length_toList, ← String.length_toList, toList_text, toList_text, List.length_append,
    List.length_append, List.length_flatMap, List.length_flatMap]
  refine Nat.add_le_add_left (List.sum_le_sum fun e _ => ?_) _
  rw [List.length_append, List.length_append, String.length_toList, String.length_toList, String.length_toList]
  exact Nat.add_le_add_right (h e.1) _

/-- A placeholder of a cut stands between two cuts. -/
theorem exists_join_of_mem {s : Cut} {name : String} (h : name ∈ s.names) :
    ∃ before after : Cut, s = before.join name after := by
  obtain ⟨e, he, rfl⟩ := List.mem_map.1 h
  obtain ⟨before, after, hrest⟩ := List.append_of_mem he
  exact ⟨⟨s.first, before⟩, ⟨e.2, after⟩, by rw [join, ← hrest]⟩

/-- The cut of pieces. -/
def ofParts : List Piece → Cut
  | [] => ⟨"", []⟩
  | .literal c :: ps => ⟨String.singleton c ++ (ofParts ps).first, (ofParts ps).rest⟩
  | .placeholder name :: ps => ⟨"", (String.ofList name, (ofParts ps).first) :: (ofParts ps).rest⟩

private theorem ofParts_literals (u : List Char) (ps : List Piece) :
    ofParts (u.map .literal ++ ps) = ⟨String.ofList u ++ (ofParts ps).first, (ofParts ps).rest⟩ := by
  induction u with
  | nil => simp
  | cons c u ih =>
    rw [List.map_cons, List.cons_append, ofParts, ih]
    congr 1
    rw [← String.toList_inj]
    simp

theorem ofParts_parts (s : Cut) : ofParts s.parts = s := by
  induction s using Cut.induction with
  | literal l => simpa [parts_literal, ofParts] using ofParts_literals l.toList []
  | placeholder l name s ih =>
    rw [parts_join, parts_literal, ofParts_literals, ofParts, ih]
    simp [join]

namespace Of

variable {s : Cut} {template : String}

theorem join (h : s.Of template) {name : String} (hname : IsName name) {t : Cut} {template' : String}
    (h' : t.Of template') : (s.join name t).Of (template ++ mention name ++ template') where
  text_mention := by rw [text_join, h.text_mention, h'.text_mention]
  isName := by
    rw [names_join]
    rintro n hn
    rcases List.mem_append.1 hn with hn | hn
    · exact h.isName n hn
    · rcases List.mem_cons.1 hn with rfl | hn
      · exact hname
      · exact h'.isName n hn
  plain := by
    rw [literals_join]
    intro l hl
    rcases List.mem_append.1 hl with hl | hl
    · exact h.plain l hl
    · exact h'.plain l hl

/-- What follows a placeholder of a cut is the cut of its own text. -/
theorem right {name : String} {t : Cut} (h : (s.join name t).Of template) : t.Of (t.text mention) where
  text_mention := rfl
  isName := fun n hn => h.isName n (by rw [names_join]; exact List.mem_append_right _ (List.mem_cons_of_mem _ hn))
  plain := fun l hl => h.plain l (by rw [literals_join]; exact List.mem_append_right _ hl)

theorem isName_of_join {name : String} {t : Cut} (h : (s.join name t).Of template) : IsName name :=
  h.isName name (by rw [names_join]; exact List.mem_append_right _ List.mem_cons_self)

/-- The scan finds the pieces of the cut. -/
theorem pieces_eq (h : s.Of template) : pieces template.toList = s.parts := by
  induction s using Cut.induction generalizing template with
  | literal l =>
    have hscan := pieces_plain_append (h.plain l List.mem_cons_self) (.inl rfl)
    rw [← h.text_mention, text_literal]
    simpa [parts_literal, pieces, piecesFrom] using hscan
  | placeholder l name s ih =>
    have hstart : ['\x7b', '\x7b'] <+: (mention name).toList ++ (s.text mention).toList := by
      rw [toList_mention]
      exact ⟨_, rfl⟩
    rw [← h.text_mention, text_join, text_literal, String.toList_append, String.toList_append, List.append_assoc,
      pieces_plain_append (h.plain l List.mem_cons_self) (.inr hstart), pieces_mention_append h.isName_of_join,
      ih h.right, parts_join, parts_literal]

/-- A template has one cut only. -/
theorem unique (h : s.Of template) {t : Cut} (h' : t.Of template) : t = s := by
  rw [← ofParts_parts s, ← ofParts_parts t, ← h.pieces_eq, ← h'.pieces_eq]

theorem names_eq (h : s.Of template) : Template.names template = s.names := by
  rw [Template.names, h.pieces_eq]
  clear h
  induction s using Cut.induction with
  | literal l => simp [parts_literal, names, List.filterMap_map, Function.comp_def, Piece.name?]
  | placeholder l name s ih =>
    have hname : Piece.name? (.placeholder name.toList) = some name := by rw [Piece.name?, String.ofList_toList]
    rw [parts_join, List.filterMap_append, List.filterMap_cons_some hname, ih, names_join, parts_literal]
    simp [names, List.filterMap_map, Function.comp_def, Piece.name?]

end Of

private theorem ofList_mention_ofList {name template : String} {before after : List Char}
    (h : before ++ (mention name).toList ++ after = template.toList) :
    String.ofList before ++ mention name ++ String.ofList after = template :=
  String.toList_inj.1 (by simpa using h)

/-- Every template has a cut. -/
theorem exists_of (template : String) : ∃ s : Cut, s.Of template := by
  induction hn : template.toList.length using Nat.strongRecOn generalizing template with
  | ind n ih =>
    by_cases hplain : ∀ name, ¬ Mentions template name
    · refine ⟨⟨template, []⟩, by simp [text], by simp [names], ?_⟩
      intro l hl
      obtain rfl := List.mem_singleton.1 hl
      exact hplain
    · -- both sides of a placeholder are shorter templates
      push Not at hplain
      obtain ⟨name, hname, before, after, hsplit⟩ := hplain
      have hlength : before.length + (mention name).toList.length + after.length = n := by
        rw [← hn, ← hsplit, List.length_append, List.length_append]
      have hpos : 0 < (mention name).toList.length := by
        rw [String.length_toList]
        exact length_mention_pos name
      obtain ⟨s, hs⟩ := ih before.length (by omega) (String.ofList before) (by rw [String.toList_ofList])
      obtain ⟨t, ht⟩ := ih after.length (by omega) (String.ofList after) (by rw [String.toList_ofList])
      exact ⟨s.join name t, ofList_mention_ofList hsplit ▸ hs.join hname ht⟩

end Cut

/-! ### Names -/

/-- The names that are found are those of all placeholders that stand anywhere in the template. -/
theorem mem_names_iff {template name : String} : name ∈ names template ↔ Mentions template name := by
  constructor
  · intro hmem
    obtain ⟨s, hs⟩ := Cut.exists_of template
    rw [hs.names_eq] at hmem
    obtain ⟨before, after, rfl⟩ := Cut.exists_join_of_mem hmem
    refine ⟨hs.isName name hmem, (before.text mention).toList, (after.text mention).toList, ?_⟩
    rw [← hs.text_mention, Cut.text_join, String.toList_append, String.toList_append]
  · rintro ⟨hname, before, after, hsplit⟩
    -- the cuts of both sides make the cut of the template
    obtain ⟨s, hs⟩ := Cut.exists_of (String.ofList before)
    obtain ⟨t, ht⟩ := Cut.exists_of (String.ofList after)
    have hjoin := hs.join hname ht
    rw [Cut.ofList_mention_ofList hsplit] at hjoin
    rw [hjoin.names_eq, Cut.names_join]
    exact List.mem_append_right _ List.mem_cons_self

-- further braces around a placeholder are literal text
example : names "{{{a}}} {{{{b}}c}}" = ["a", "b"] := by decide +kernel

/-! ### Filling -/

/-- What stands in the place of a placeholder. -/
def standIn (value? : String → Option String) (dropUnresolved : Bool) (name : String) : String :=
  (value? name).getD (if dropUnresolved then "" else mention name)

private theorem fill_placeholder (value? : String → Option String) (dropUnresolved : Bool) (name : String) :
    Piece.fill value? dropUnresolved (.placeholder name.toList) = (standIn value? dropUnresolved name).toList := by
  rw [Piece.fill, String.ofList_toList, standIn]
  cases value? name with
  | some value => rfl
  | none =>
    cases dropUnresolved with
    | true => rfl
    | false => simp [mention]

private theorem fill_literals (value? : String → Option String) (dropUnresolved : Bool) (u : List Char) :
    (u.map Piece.literal).flatMap (Piece.fill value? dropUnresolved) = u := by
  simp [List.flatMap_map, Piece.fill]

/-- Filling a template changes nothing but its placeholders. -/
theorem Cut.Of.fill_eq {s : Cut} {template : String} (h : s.Of template) (value? : String → Option String)
    (dropUnresolved : Bool) : fill template value? dropUnresolved = s.text (standIn value? dropUnresolved) := by
  rw [← String.toList_inj, fill, String.toList_ofList, h.pieces_eq]
  clear h
  induction s using Cut.induction with
  | literal l => simp [Cut.parts_literal, fill_literals]
  | placeholder l name s ih =>
    rw [Cut.parts_join, Cut.parts_literal, List.flatMap_append, fill_literals, List.flatMap_cons, fill_placeholder,
      ih, Cut.text_join, Cut.text_literal, String.toList_append, String.toList_append, List.append_assoc]

/-- Filling depends on the values of the names in the template only. -/
theorem fill_congr {template : String} {value? other? : String → Option String}
    (h : ∀ name ∈ names template, value? name = other? name) (dropUnresolved : Bool) :
    fill template value? dropUnresolved = fill template other? dropUnresolved := by
  obtain ⟨s, hs⟩ := Cut.exists_of template
  rw [hs.names_eq] at h
  rw [hs.fill_eq, hs.fill_eq]
  exact Cut.text_congr fun name hname => by rw [standIn, standIn, h name hname]

/-- A template has one cut, whatever its values, and filling it puts the values in the places of the placeholders of
this cut as they are. -/
theorem fill_unique_cut (template : String) :
    ∃ s : Cut, s.Of template ∧ (∀ t : Cut, t.Of template → t = s) ∧
      (∀ value? dropUnresolved, fill template value? dropUnresolved = s.text (standIn value? dropUnresolved)) ∧
      (∀ value? dropUnresolved name value, ∀ before after : Cut, s = before.join name after →
        value? name = some value →
        fill template value? dropUnresolved =
          before.text (standIn value? dropUnresolved) ++ value ++ after.text (standIn value? dropUnresolved)) ∧
      (∀ value? other? dropUnresolved, (∀ name ∈ s.names, value? name = other? name) →
        fill template value? dropUnresolved = fill template other? dropUnresolved) ∧
      fill template (fun _ => none) false = template ∧
      ∀ name, name ∈ names template ↔ name ∈ s.names := by
  obtain ⟨s, hs⟩ := Cut.exists_of template
  refine ⟨s, hs, fun t ht => hs.unique ht, hs.fill_eq, ?_, ?_, ?_, ?_⟩
  · intro value? dropUnresolved name value before after hjoin hvalue
    have hname : standIn value? dropUnresolved name = value := by rw [standIn, hvalue, Option.getD_some]
    rw [hs.fill_eq, hjoin, Cut.text_join, hname]
  · intro value? other? dropUnresolved hsame
    exact fill_congr (by rwa [hs.names_eq]) dropUnresolved
  · rw [hs.fill_eq]
    exact hs.text_mention
  · intro name
    rw [hs.names_eq]

end Promptbook.Template
