import Promptbook.Proofs.Json.Literals
import Promptbook.Proofs.Json.Outlines

/-!
# Unique reading of texts on one line

The first character of a text tells what is to be read (`Outline.beginsAs_write`), and from there on the text shows
where it ends, as long as a comma or a closing bracket comes next: `Outline.write_append_inj`.  So trees have the same
text on one line exactly if they have the same outline (`write_flat_eq_iff`).  A tree without floating point numbers
is known by its outline, and a compact text is the text of one such tree only (`toText_compact_inj`).
-/

namespace Promptbook.Json

open Promptbook.Number Promptbook.Text

/-! ### First characters -/

/-- The character with which the text of an outline begins, if it is not a word. -/
def Outline.opening? : Outline → Option Char
  | .word _ => none
  | .text _ => some '"'
  | .list _ => some '['
  | .table _ => some '\x7b'

/-- Does a text begin like that of an outline with an opening character, or without one? -/
def BeginsAs (opening? : Option Char) (cs : List Char) : Prop :=
  ∃ c rest, cs = c :: rest ∧ isStop c = false ∧ opening? = if isOpening c then some c else none

theorem BeginsAs.eq_of_append {opening? other? : Option Char} {cs ds r r' : List Char} (hcs : BeginsAs opening? cs)
    (hds : BeginsAs other? ds) (h : cs ++ r = ds ++ r') : opening? = other? := by
  obtain ⟨c, rest, rfl, -, hc⟩ := hcs
  obtain ⟨d, others, rfl, -, hd⟩ := hds
  rw [hc, hd, (List.cons.inj h).1]

theorem Outline.beginsAs_write (space : List Char) (o : Outline) : BeginsAs o.opening? (o.write space) := by
  cases o with
  | word w =>
    obtain ⟨c, rest, htext⟩ := List.exists_cons_of_ne_nil w.ne_nil
    have hchar : isWordChar c = true := List.all_eq_true.1 w.chars c (htext ▸ List.mem_cons_self)
    simp only [isWordChar, Bool.and_eq_true, Bool.not_eq_true'] at hchar
    refine ⟨c, rest, htext, hchar.1, ?_⟩
    rw [hchar.2]
    rfl
  | text s => exact ⟨'"', _, rfl, by decide, rfl⟩
  | list items => exact ⟨'[', _, rfl, by decide, rfl⟩
  | table entries => exact ⟨'\x7b', _, rfl, by decide, rfl⟩

theorem Outline.beginsAs_entryText (space : List Char) (e : String × Outline) :
    BeginsAs (some '"') (Outline.entryText space e) :=
  ⟨'"', _, rfl, by decide, rfl⟩

/-! ### Parts between brackets -/

/-- Does a text end, or go on with a comma or a closing bracket? -/
def Stops (r : List Char) : Prop :=
  ∀ c ∈ r.head?, isStop c = true

theorem stops_nil : Stops [] :=
  nofun

theorem stops_cons {c : Char} (h : isStop c = true) (r : List Char) : Stops (c :: r) := by
  intro d hd
  rwa [← Option.some.inj hd]

section Parts

variable {α : Type} {f : α → List Char} {space : List Char} {opening closing : Char} {xs ys : List α}
  {r r' : List Char}

/-- With a comma before them, joined parts are parts with a comma before each of them. -/
private theorem comma_joined (space : List Char) (f : α → List Char) (x : α) (xs : List α) :
    ',' :: space ++ joined (',' :: space) ((x :: xs).map f) = (x :: xs).flatMap fun y => ',' :: space ++ f y := by
  induction xs generalizing x with
  | nil => simp [joined]
  | cons y xs ih =>
    rw [List.flatMap_cons, ← ih, List.map_cons, List.map_cons, joined]
    simp only [List.append_assoc]

/-- A part does not begin with a closing bracket, so a list with parts is not taken for one without. -/
private theorem closing_ne_joined (hclosing : isStop closing = true) {opening? : Option Char} {z : α}
    (hz : BeginsAs opening? (f z)) (zs : List α) (rest other : List Char) :
    closing :: rest ≠ joined (',' :: space) ((z :: zs).map f) ++ other := by
  obtain ⟨c, tail, hz, hc, -⟩ := hz
  intro heq
  have hfirst : closing = c := by
    cases zs <;> simp only [List.map_cons, List.map_nil, joined, hz, List.cons_append] at heq <;>
      exact (List.cons.inj heq).1
  rw [hfirst, hc] at hclosing
  cases hclosing

/-- Parts that show where they end are read one after the other, up to the closing bracket. -/
theorem enclosed_append_inj (hclosing : isStop closing = true) (hcomma : ',' ≠ closing)
    (hparts : ∀ x ∈ xs, ∀ y ∈ ys, Separates Stops f x y) (hfirst : ∀ x, ∃ opening?, BeginsAs opening? (f x))
    (h : enclosed space opening closing (xs.map f) ++ r = enclosed space opening closing (ys.map f) ++ r') :
    xs = ys ∧ r = r' := by
  have hrest :
      joined (',' :: space) (xs.map f) ++ closing :: r = joined (',' :: space) (ys.map f) ++ closing :: r' := by
    simpa [enclosed] using h
  cases xs with
  | nil =>
    cases ys with
    | nil => exact ⟨rfl, (List.cons.inj hrest).2⟩
    | cons y ys =>
      obtain ⟨opening?, hy⟩ := hfirst y
      exact absurd hrest (closing_ne_joined hclosing hy ys _ _)
  | cons x xs =>
    cases ys with
    | nil =>
      obtain ⟨opening?, hx⟩ := hfirst x
      exact absurd hrest.symm (closing_ne_joined hclosing hx xs _ _)
    | cons y ys =>
      have hcommas := congrArg ((',' :: space) ++ ·) hrest
      simp only [← List.append_assoc, comma_joined] at hcommas
      have hfollows : ∀ (zs : List α) (rest : List Char),
          Stops ((zs.flatMap fun z => ',' :: space ++ f z) ++ closing :: rest) := by
        intro zs rest
        cases zs with
        | nil => exact stops_cons hclosing rest
        | cons z zs => exact stops_cons (by decide) _
      have hcommaFirst : ∀ z, ∃ first rest, first ≠ closing ∧ ',' :: space ++ f z = first :: rest := fun z =>
        ⟨',', _, hcomma, rfl⟩
      refine flatMap_append_inj hcommaFirst hfollows ?_ hcommas
      intro z hz w hw r r' hr hr' hzw
      rw [List.append_assoc, List.append_assoc] at hzw
      exact hparts z hz w hw hr hr' (List.append_cancel_left hzw)

end Parts

/-! ### Trees -/

/-- The text of a word is all that comes before the first character that stands in no word. -/
private theorem takeWhile_word_append (w : Word) {r : List Char} (hr : Stops r) :
    (w.text ++ r).takeWhile isWordChar = w.text := by
  have hrest : r.takeWhile isWordChar = [] := by
    cases r with
    | nil => rfl
    | cons c r =>
      refine List.takeWhile_cons_of_neg ?_
      rw [isWordChar, hr c rfl]
      exact Bool.false_ne_true
  rw [List.takeWhile_append_of_pos (List.all_eq_true.1 w.chars), hrest, List.append_nil]

private theorem word_append_inj {w x : Word} {r r' : List Char} (hr : Stops r) (hr' : Stops r')
    (h : w.text ++ r = x.text ++ r') : w = x ∧ r = r' := by
  have htext : w.text = x.text := by
    rw [← takeWhile_word_append w hr, h, takeWhile_word_append x hr']
  rw [htext] at h
  exact ⟨Word.ext htext, List.append_cancel_left h⟩

private theorem separates_entryText {space : List Char} {e e' : String × Outline}
    (h : Separates Stops (Outline.write space) e.2 e'.2) : Separates Stops (Outline.entryText space) e e' := by
  intro r r' hr hr' htexts
  simp only [Outline.entryText, List.append_assoc] at htexts
  obtain ⟨hkey, hrest⟩ := textLiteral_append_inj htexts
  obtain ⟨hvalue, hafter⟩ := h hr hr' (List.append_cancel_left hrest)
  exact ⟨Prod.ext hkey hvalue, hafter⟩

/-- An outline is read from its text, whatever stops it. -/
theorem Outline.write_append_inj (space : List Char) (o p : Outline) : Separates Stops (Outline.write space) o p := by
  intro r r' hr hr' h
  have hopening := (o.beginsAs_write space).eq_of_append (p.beginsAs_write space) h
  induction o using Outline.induction generalizing p r r' with
  | word w =>
    cases p <;> cases hopening
    obtain ⟨rfl, hrest⟩ := word_append_inj hr hr' h
    exact ⟨rfl, hrest⟩
  | text s =>
    cases p <;> cases hopening
    obtain ⟨rfl, hrest⟩ := textLiteral_append_inj h
    exact ⟨rfl, hrest⟩
  | list items ih =>
    cases p <;> cases hopening
    next others =>
      rw [write, write, writeItems_eq_map, writeItems_eq_map] at h
      have hparts : ∀ x ∈ items, ∀ y ∈ others, Separates Stops (Outline.write space) x y := by
        intro x hx y _ r r' hr hr' h
        exact ih x hx y hr hr' h ((x.beginsAs_write space).eq_of_append (y.beginsAs_write space) h)
      obtain ⟨rfl, hrest⟩ := enclosed_append_inj (by decide) (by decide) hparts
        (fun x => ⟨_, x.beginsAs_write space⟩) h
      exact ⟨rfl, hrest⟩
  | table entries ih =>
    cases p <;> cases hopening
    next others =>
      rw [write, write, writeEntries_eq_map, writeEntries_eq_map] at h
      have hparts : ∀ e ∈ entries, ∀ e' ∈ others, Separates Stops (Outline.entryText space) e e' := by
        intro e he e' _
        refine separates_entryText fun r r' hr hr' h => ?_
        exact ih e he e'.2 hr hr' h ((e.2.beginsAs_write space).eq_of_append (e'.2.beginsAs_write space) h)
      obtain ⟨rfl, hrest⟩ := enclosed_append_inj (by decide) (by decide) hparts
        (fun e => ⟨_, Outline.beginsAs_entryText space e⟩) h
      exact ⟨rfl, hrest⟩

theorem Outline.write_inj {space : List Char} {o p : Outline} (h : o.write space = p.write space) : o = p :=
  (o.write_append_inj space p stops_nil stops_nil (by rw [h])).1

/-- Trees have the same text on one line exactly if they have the same outline. -/
theorem write_flat_eq_iff {space : List Char} {depth : Nat} {j k : Json} :
    write (.flat space) depth j = write (.flat space) depth k ↔ j.outline = k.outline := by
  rw [write_flat, write_flat]
  exact ⟨Outline.write_inj, fun h => by rw [h]⟩

/-! ### Plain trees -/

/-- Is the tree made of nothing, Booleans, integers that are not too long, texts, lists and tables with distinct
keys? -/
inductive IsPlain : Json → Prop
  | null : IsPlain .null
  | bool (b : Bool) : IsPlain (.bool b)
  | int {n : Int} (hshort : n.natAbs < longInteger) : IsPlain (.int n)
  | text (s : String) : IsPlain (.text s)
  | list {items : List Json} (hitems : ∀ j ∈ items, IsPlain j) : IsPlain (.list items)
  | table {entries : Entries Json} (hkeys : entries.keys.Nodup) (hentries : ∀ e ∈ entries, IsPlain e.2) :
    IsPlain (.table entries)

private theorem ofBool_ne_null (b : Bool) : Word.ofBool b ≠ .null := by
  intro h
  have htext := congrArg Word.text h
  cases b <;> exact absurd htext (by decide)

/-- No integer is written with a letter. -/
private theorem ofInt_ne {n : Int} {w : Word} (h : 'l' ∈ w.text ∨ 'u' ∈ w.text) : Word.ofInt n ≠ w := by
  rintro rfl
  rcases h with h | h
  · exact notMem_intText (by decide) (by decide) n h
  · exact notMem_intText (by decide) (by decide) n h

private theorem ofInt_ne_null (n : Int) : Word.ofInt n ≠ .null :=
  ofInt_ne (by decide)

private theorem ofInt_ne_ofBool (n : Int) (b : Bool) : Word.ofInt n ≠ .ofBool b :=
  ofInt_ne (by cases b <;> decide)

private theorem ofBool_inj {b c : Bool} (h : Word.ofBool b = .ofBool c) : b = c := by
  have htext := congrArg Word.text h
  cases b <;> cases c <;> first | rfl | exact absurd htext (by decide)

/-- A plain tree is known by its outline. -/
theorem IsPlain.outline_inj {j k : Json} (hj : j.IsPlain) (hk : k.IsPlain) (h : j.outline = k.outline) : j = k := by
  induction hj generalizing k with
  | null =>
    cases hk with
    | null => rfl
    | bool b => exact absurd (Outline.word.inj h).symm (ofBool_ne_null b)
    | int => exact absurd (Outline.word.inj h).symm (ofInt_ne_null _)
    | _ => cases h
  | bool b =>
    cases hk with
    | null => exact absurd (Outline.word.inj h) (ofBool_ne_null b)
    | bool c => rw [ofBool_inj (Outline.word.inj h)]
    | int => exact absurd (Outline.word.inj h).symm (ofInt_ne_ofBool _ b)
    | _ => cases h
  | int =>
    cases hk with
    | null => exact absurd (Outline.word.inj h) (ofInt_ne_null _)
    | bool b => exact absurd (Outline.word.inj h) (ofInt_ne_ofBool _ b)
    | int => rw [Word.ofInt_inj (Outline.word.inj h)]
    | _ => cases h
  | text s =>
    cases hk with
    | text t => rw [Outline.text.inj h]
    | _ => cases h
  | @list items hitems ih =>
    cases hk with
    | @list others hothers =>
      rw [outline, outline, Outline.list.injEq, outlineItems_eq_map, outlineItems_eq_map] at h
      rw [map_inj_of_mem (fun x hx y hy => ih x hx (hothers y hy)) h]
    | _ => cases h
  | @table entries hkeys hentries ih =>
    cases hk with
    | @table others hkeys' hothers =>
      rw [outline, outline, Outline.table.injEq, outlineEntries_eq_map, outlineEntries_eq_map] at h
      refine congrArg Json.table (map_inj_of_mem (fun e he e' he' hee' => ?_) h)
      exact Prod.ext (Prod.ext_iff.1 hee').1 (ih e he (hothers e' he') (Prod.ext_iff.1 hee').2)
    | _ => cases h

/-- A compact text is the text of one plain tree. -/
theorem toText_compact_inj {j k : Json} (hj : j.IsPlain) (hk : k.IsPlain)
    (h : j.toText .compact = k.toText .compact) : j = k :=
  hj.outline_inj hk (write_flat_eq_iff.1 (String.ofList_inj.1 h))

end Promptbook.Json
