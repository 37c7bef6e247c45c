import Promptbook.Json.Basic
import Promptbook.Proofs.Number.IntegerText

/-!
# Outlines of trees

The `outline` of a tree has texts, lists and tables as they are, but nothing, Booleans and numbers only as the words
that stand for them.  In ASCII and on one line, whatever comes after commas and colons (`Style.flat`), a tree is
written from its outline alone: `write_flat`.
-/

namespace Promptbook.Json

open Promptbook.Number Promptbook.Text

/-! ### Words -/

/-- Does the character end what stands before it in a list or a table? -/
def isStop (c : Char) : Bool :=
  c == ',' || c == ']' || c == '\x7d'

/-- Does a text, a list or a table begin with the character? -/
def isOpening (c : Char) : Bool :=
  c == '"' || c == '[' || c == '\x7b'

/-- Can the character stand in a word? -/
def isWordChar (c : Char) : Bool :=
  !isStop c && !isOpening c

/-- A text of characters without a meaning of their own. -/
@[ext] structure Word where
  text : List Char
  ne_nil : text ≠ []
  chars : text.all isWordChar = true

private theorem isWordChar_digitChar {d : Nat} (h : d < 10) : isWordChar (digitChar d) = true := by
  have all : ∀ d < 10, isWordChar (digitChar d) = true := by decide
  exact all d h

private theorem all_isWordChar_natText (n : Nat) : (natText n).all isWordChar = true := by
  rw [List.all_eq_true]
  intro c hc
  obtain ⟨d, hd, rfl⟩ := mem_natText hc
  exact isWordChar_digitChar hd

namespace Word

/-- The word for nothing. -/
def null : Word :=
  ⟨"null".toList, by decide, by decide⟩

/-- The word for a Boolean. -/
def ofBool (b : Bool) : Word where
  text := (if b then "true" else "false").toList
  ne_nil := by cases b <;> decide
  chars := by cases b <;> decide

/-- The word for an integer. -/
def ofInt (n : Int) : Word where
  text := intText n
  ne_nil := by
    cases n with
    | ofNat n => exact natText_ne_nil n
    | negSucc n => exact List.cons_ne_nil _ _
  chars := by
    rw [List.all_eq_true]
    intro c hc
    rcases eq_minus_or_digit_of_mem_intText hc with rfl | ⟨d, hd, rfl⟩
    · decide
    · exact isWordChar_digitChar hd

theorem ofInt_inj {m n : Int} (h : ofInt m = ofInt n) : m = n :=
  intText_inj (congrArg text h)

end Word

private theorem all_isWordChar_digitsText (layout : Layout) {ds : List Char} (hds : ds.all isWordChar = true)
    (lead : Int) : (layout.digitsText ds lead).all isWordChar = true := by
  have hzeros : ∀ n, (List.replicate n '0').all isWordChar = true := by
    intro n
    rw [List.all_eq_true]
    intro c hc
    rw [List.eq_of_mem_replicate hc]
    decide
  have hpoint : isWordChar '.' = true := by decide
  unfold Layout.digitsText
  dsimp only
  split
  · have hpower : ('e' :: (if lead < 0 then '-' else '+') :: paddedText layout.exponentWidth lead.natAbs).all
        isWordChar = true := by
      have hsign : isWordChar (if lead < 0 then '-' else '+') = true := by split <;> decide
      have he : isWordChar 'e' = true := by decide
      rw [List.all_cons, List.all_cons, he, hsign, paddedText, List.all_append, hzeros, all_isWordChar_natText]
      rfl
    rw [List.all_append, hpower, Bool.and_true]
    split
    · rfl
    · exact hds
    · rw [List.all_cons, List.all_cons, hpoint, Bool.true_and]
      exact hds
  · split
    · rw [List.cons_append, List.cons_append, List.all_cons, List.all_cons, hpoint, List.all_append, hzeros, hds]
      decide
    · have hpadded : (ds ++ List.replicate (lead.toNat + 1 + 1 - ds.length) '0').all isWordChar = true := by
        rw [List.all_append, hds, hzeros]
        rfl
      rw [← List.take_append_drop (lead.toNat + 1) (ds ++ _), List.all_append] at hpadded
      rw [List.all_append, List.all_cons, hpoint, Bool.true_and]
      exact hpadded

private theorem digitsText_ne_nil (layout : Layout) (ds : List Char) (lead : Int) :
    layout.digitsText ds lead ≠ [] := by
  unfold Layout.digitsText
  dsimp only
  split
  · simp
  · split
    · exact List.cons_ne_nil _ _
    · simp

/-- The word for a floating point number. -/
def Word.ofFloat (x : Float) : Word where
  text := Layout.json.text x
  ne_nil := by
    unfold Layout.text
    split
    · split
      · decide
      · split <;> decide
    · dsimp only
      split
      · simp
      · simp [digitsText_ne_nil]
  chars := by
    unfold Layout.text
    split
    · split
      · decide
      · split <;> decide
    · next d _ =>
      have hsign : (if d.negative then ['-'] else []).all isWordChar = true := by split <;> decide
      dsimp only
      split
      · rw [List.all_append, hsign]
        decide
      · rw [List.all_append, hsign, all_isWordChar_digitsText _ (all_isWordChar_natText _)]
        rfl

/-! ### Outlines -/

/-- What the text of a tree shows: words, texts between quotes, lists and tables. -/
inductive Outline
  | word (w : Word)
  | text (s : String)
  | list (items : List Outline)
  | table (entries : List (String × Outline))

/-- What holds of words and texts, and of a list or a table if it holds of its parts, holds of all outlines. -/
@[elab_as_elim]
theorem Outline.induction {P : Outline → Prop} (word : ∀ w, P (.word w)) (text : ∀ s, P (.text s))
    (list : ∀ items, (∀ o ∈ items, P o) → P (.list items))
    (table : ∀ entries : Entries Outline, (∀ e ∈ entries, P e.2) → P (.table entries)) (o : Outline) : P o :=
  @Outline.rec P (fun items => ∀ o ∈ items, P o) (fun entries => ∀ e ∈ entries, P e.2) (fun e => P e.2) word text list
    table nofun (fun _ _ ho hitems => List.forall_mem_cons.2 ⟨ho, hitems⟩) nofun
    (fun _ _ he hentries => List.forall_mem_cons.2 ⟨he, hentries⟩) (fun _ _ ho => ho) o

mutual

/-- The outline of a tree. -/
def outline : Json → Outline
  | null => .word .null
  | bool b => .word (.ofBool b)
  | int n => .word (.ofInt n)
  | float x => .word (.ofFloat x)
  | text s => .text s
  | list items => .list (outlineItems items)
  | table entries => .table (outlineEntries entries)

/-- The outlines of items. -/
def outlineItems : List Json → List Outline
  | [] => []
  | j :: js => outline j :: outlineItems js

/-- The outlines of entries. -/
def outlineEntries : List (String × Json) → List (String × Outline)
  | [] => []
  | (k, j) :: es => (k, outline j) :: outlineEntries es

end

@[simp] theorem outlineItems_eq_map (items : List Json) : outlineItems items = items.map outline := by
  induction items with
  | nil => rfl
  | cons j js ih => rw [outlineItems, ih, List.map_cons]

@[simp] theorem outlineEntries_eq_map (entries : List (String × Json)) :
    outlineEntries entries = entries.map fun e => (e.1, outline e.2) := by
  induction entries with
  | nil => rfl
  | cons e es ih => rw [outlineEntries, ih, List.map_cons]

/-- Parts between brackets, with a comma and what comes after commas between them. -/
def enclosed (space : List Char) (opening closing : Char) (parts : List (List Char)) : List Char :=
  opening :: (joined (',' :: space) parts ++ [closing])

mutual

/-- The text on one line that an outline stands for, with something after commas and colons. -/
def Outline.write (space : List Char) : Outline → List Char
  | .word w => w.text
  | .text s => textLiteral .compact s
  | .list items => enclosed space '[' ']' (Outline.writeItems space items)
  | .table entries => enclosed space '\x7b' '\x7d' (Outline.writeEntries space entries)

/-- The texts of items. -/
def Outline.writeItems (space : List Char) : List Outline → List (List Char)
  | [] => []
  | o :: os => o.write space :: Outline.writeItems space os

/-- The texts of entries. -/
def Outline.writeEntries (space : List Char) : List (String × Outline) → List (List Char)
  | [] => []
  | (k, o) :: es => (textLiteral .compact k ++ ':' :: space ++ o.write space) :: Outline.writeEntries space es

end

/-- The text of an entry. -/
def Outline.entryText (space : List Char) (e : String × Outline) : List Char :=
  textLiteral .compact e.1 ++ ':' :: space ++ e.2.write space

@[simp] theorem Outline.writeItems_eq_map (space : List Char) (items : List Outline) :
    Outline.writeItems space items = items.map (Outline.write space) := by
  induction items with
  | nil => rfl
  | cons o os ih => rw [Outline.writeItems, ih, List.map_cons]

@[simp] theorem Outline.writeEntries_eq_map (space : List Char) (entries : List (String × Outline)) :
    Outline.writeEntries space entries = entries.map (Outline.entryText space) := by
  induction entries with
  | nil => rfl
  | cons e es ih =>
    rw [Outline.writeEntries, ih, List.map_cons]
    rfl

/-- Everything on one line in ASCII, with something after commas and colons. -/
def Style.flat (space : List Char) : Style :=
  ⟨escapeToAscii, Layout.json, ':' :: space, ',' :: space, fun _ => []⟩

theorem Style.spaced_eq_flat : Style.spaced = .flat [' '] :=
  rfl

theorem Style.compact_eq_flat : Style.compact = .flat [] :=
  rfl

private theorem bracketed_flat (space : List Char) (depth : Nat) (opening closing : Char) (parts : List (List Char)) :
    bracketed (.flat space) depth opening closing parts = enclosed space opening closing parts := by
  rw [bracketed, enclosed]
  cases parts with
  | nil => rfl
  | cons part parts => simp [Style.flat]

mutual

/-- A text on one line is written from the outline alone. -/
theorem write_flat (space : List Char) (depth : Nat) :
    (j : Json) → write (.flat space) depth j = j.outline.write space
  | .null | .bool _ | .int _ | .float _ | .text _ => rfl
  | .list items => by
    rw [write, bracketed_flat, writeItems_flat space _ items]
    rfl
  | .table entries => by
    rw [write, bracketed_flat, writeEntries_flat space _ entries]
    rfl

theorem writeItems_flat (space : List Char) (depth : Nat) : (items : List Json) →
    writeItems (.flat space) depth items = Outline.writeItems space (outlineItems items)
  | [] => rfl
  | j :: js => by
    rw [writeItems, write_flat space depth j, writeItems_flat space depth js]
    rfl

theorem writeEntries_flat (space : List Char) (depth : Nat) : (entries : List (String × Json)) →
    writeEntries (.flat space) depth entries = Outline.writeEntries space (outlineEntries entries)
  | [] => rfl
  | (k, j) :: es => by
    rw [writeEntries, write_flat space depth j, writeEntries_flat space depth es]
    rfl

end

end Promptbook.Json
