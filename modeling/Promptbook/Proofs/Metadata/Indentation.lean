import Promptbook.Document.Templates
import Promptbook.Proofs.Metadata.Sections

/-!
# Indentation

A block is read the same whatever spaces and tabs its lines are indented by and end with; only whether a line is
indented counts (`parse_respaced`).  Two lines that differ in nothing else (`Respaced`) stand at the margin together,
and there they have the same key and value, since a name ends before a space and a value is stripped
(`Respaced.readKey?_eq`); below the margin only the stripped line is read (`Respaced.strip_eq`).
-/

namespace Promptbook.Metadata

open Promptbook.Text
open Promptbook.Document (isGap eq_of_isGap)

variable {line line' : List Char} {lines lines' : List (List Char)}

/-- A line and the same line with other spaces and tabs: a run of them at the start for another one, where neither is
empty, and a run of them at the end for any other one. -/
inductive Respaced : List Char → List Char → Prop
  | intro (core : List Char) {front front' back back' : List Char}
      (hfront : ∀ c ∈ front ++ front', isGap c = true) (hback : ∀ c ∈ back ++ back', isGap c = true)
      (hindent : front = [] ↔ front' = []) : Respaced (front ++ core ++ back) (front' ++ core ++ back')

/-! ### Spaces and tabs -/

private theorem isBlank_of_isGap {c : Char} (h : isGap c = true) : isBlank c = true := by
  rcases eq_of_isGap h with rfl | rfl <;> decide

private theorem isWord_of_isGap {c : Char} (h : isGap c = true) : isWord c = false := by
  rcases eq_of_isGap h with rfl | rfl <;> decide

private theorem oneLine_of_isGap {cs : List Char} (h : ∀ c ∈ cs, isGap c = true) : OneLine cs := by
  intro c hc
  rcases eq_of_isGap (h c hc) with rfl | rfl <;> decide

private theorem allBlank_of_isGap {cs : List Char} (h : ∀ c ∈ cs, isGap c = true) : cs.all isBlank = true := by
  rw [List.all_eq_true]
  intro c hc
  exact isBlank_of_isGap (h c hc)

/-! ### Runs at the end of a line -/

/-- A run of characters ends where the text ends or a character that is not of the class follows. -/
private theorem span_append_of_stop {p : Char → Bool} {ys : List Char} (h : ∀ c ∈ ys, p c = false) (xs : List Char) :
    (xs ++ ys).takeWhile p = xs.takeWhile p ∧ (xs ++ ys).dropWhile p = xs.dropWhile p ++ ys := by
  induction xs with
  | nil =>
    cases ys with
    | nil => simp
    | cons y ys => simp [h y List.mem_cons_self]
  | cons x xs ih =>
    by_cases hx : p x = true
    · simp [hx, ih]
    · simp [hx]

/-- What stands behind the name of a key and the blanks after it, with more blanks at the end of the line. -/
private theorem dropWhile_append_blanks {ys : List Char} (h : ys.all isBlank = true) (xs : List Char) :
    (xs ++ ys).dropWhile isBlank = [] ∧ xs.dropWhile isBlank = [] ∨
      xs.dropWhile isBlank ≠ [] ∧ (xs ++ ys).dropWhile isBlank = xs.dropWhile isBlank ++ ys := by
  rw [List.dropWhile_append]
  by_cases hxs : xs.dropWhile isBlank = []
  · left
    rw [hxs]
    simpa using h
  · right
    simp [hxs]

private theorem splitName?_append {back : List Char} (hback : ∀ c ∈ back, isGap c = true) {c : Char}
    (rest : List Char) :
    splitName? (c :: rest ++ back) = (splitName? (c :: rest)).map fun r => (r.1, r.2 ++ back) := by
  have hstop := span_append_of_stop (fun c hc => isWord_of_isGap (hback c hc)) rest
  rw [List.cons_append, splitName?, splitName?, hstop.1, hstop.2]
  split <;> rfl

/-- Spaces and tabs at the end of a line belong neither to its key nor to its value. -/
theorem readKey?_append {back : List Char} (hback : ∀ c ∈ back, isGap c = true) (line : List Char) :
    readKey? (line ++ back) = readKey? line := by
  cases line with
  | nil =>
    cases back with
    | nil => rfl
    | cons c back =>
      have hname : isNameStart c = false := by
        rcases eq_of_isGap (hback c List.mem_cons_self) with rfl | rfl <;> decide
      simp [readKey?, splitName?, hname]
  | cons c rest =>
    rw [readKey?, readKey?, splitName?_append hback]
    cases splitName? (c :: rest) with
    | none => rfl
    | some r =>
      obtain ⟨name, tail⟩ := r
      have hblank := allBlank_of_isGap hback
      rcases dropWhile_append_blanks hblank tail with ⟨hboth, hnil⟩ | ⟨hne, happend⟩
      · simp [hboth, hnil]
      · cases htail : tail.dropWhile isBlank with
        | nil => exact absurd htail hne
        | cons d value =>
          have hvalue : strip (value ++ back) = strip value := trim_append_of_all hblank
          by_cases hd : d = ':'
          · subst hd
            simp [happend, htail, hvalue]
          · simp [happend, htail, hd]

/-! ### Lines with other spaces and tabs -/

theorem Respaced.strip_eq (h : Respaced line line') : strip line = strip line' := by
  obtain ⟨core, hfront, hback, -⟩ := h
  rw [List.forall_mem_append] at hfront hback
  have hstrip : ∀ {front back : List Char}, (∀ c ∈ front, isGap c = true) → (∀ c ∈ back, isGap c = true) →
      strip (front ++ core ++ back) = strip core := by
    intro front back hfront hback
    rw [strip, trim_append_of_all (allBlank_of_isGap hback), trim_of_all_append (allBlank_of_isGap hfront), strip]
  rw [hstrip hfront.1 hback.1, hstrip hfront.2 hback.2]

private theorem isOutdented_append {front : List Char} (hfront : ∀ c ∈ front, isGap c = true) (hne : front ≠ [])
    (rest : List Char) : isOutdented (front ++ rest) = false := by
  cases front with
  | nil => exact absurd rfl hne
  | cons c front => simp [isOutdented, isBlank_of_isGap (hfront c List.mem_cons_self)]

/-- A line without indentation stands at the margin, whatever it ends with, if it holds anything else. -/
private theorem isOutdented_append_gaps {back : List Char} (hback : ∀ c ∈ back, isGap c = true) (core : List Char) :
    isOutdented (core ++ back) = isOutdented core := by
  cases core with
  | nil =>
    cases back with
    | nil => rfl
    | cons c back => exact isOutdented_append hback (List.cons_ne_nil _ _) []
  | cons c core => rfl

theorem Respaced.isOutdented_eq (h : Respaced line line') : isOutdented line = isOutdented line' := by
  obtain @⟨core, front, front', back, back', hfront, hback, hindent⟩ := h
  rw [List.forall_mem_append] at hfront hback
  by_cases hnil : front = []
  · rw [hnil, hindent.1 hnil, isOutdented_append_gaps hback.1, isOutdented_append_gaps hback.2]
  · rw [List.append_assoc, List.append_assoc, isOutdented_append hfront.1 hnil,
      isOutdented_append hfront.2 fun h => hnil (hindent.2 h)]

theorem Respaced.readKey?_eq (h : Respaced line line') (hmargin : isOutdented line = true) :
    readKey? line = readKey? line' := by
  obtain @⟨core, front, front', back, back', hfront, hback, hindent⟩ := h
  rw [List.forall_mem_append] at hfront hback
  have hnil : front = [] := by
    by_contra hne
    rw [List.append_assoc, isOutdented_append hfront.1 hne] at hmargin
    cases hmargin
  rw [hnil, hindent.1 hnil, readKey?_append hback.1, readKey?_append hback.2]

theorem Respaced.oneLine (h : Respaced line line') (hline : OneLine line) : OneLine line' := by
  obtain ⟨core, hfront, hback, -⟩ := h
  rw [List.forall_mem_append] at hfront hback
  have hcore : OneLine core := fun c hc => hline c (by simp [hc])
  exact ((oneLine_of_isGap hfront.2).append hcore).append (oneLine_of_isGap hback.2)

/-! ### Blocks -/

/-- One line is taken in the same way with other spaces and tabs, whatever is gathered from the lines below it. -/
theorem Respaced.gather_cons (h : Respaced line line') (hlines : gather lines = gather lines') :
    gather (line :: lines) = gather (line' :: lines') := by
  have hcontent : isContent line = isContent line' := by rw [isContent, isContent, h.strip_eq]
  rw [gather, gather, hlines, ← h.isOutdented_eq, ← hcontent, ← h.strip_eq]
  split
  · next hmargin => rw [h.readKey?_eq hmargin]
  · rfl

theorem gather_respaced (h : List.Forall₂ Respaced lines lines') : gather lines = gather lines' := by
  induction h with
  | nil => rfl
  | cons hline _ ih => exact hline.gather_cons ih

theorem oneLine_respaced (h : List.Forall₂ Respaced lines lines') (hlines : ∀ l ∈ lines, OneLine l) :
    ∀ l ∈ lines', OneLine l := by
  induction h with
  | nil => exact hlines
  | cons hline _ ih =>
    rw [List.forall_mem_cons] at hlines ⊢
    exact ⟨hline.oneLine hlines.1, ih hlines.2⟩

/-- Only whether a line is indented counts: with other spaces and tabs at the start of indented lines and at the end
of any lines, the outcome of reading a block is the same, whether the lines are joined by line feeds or end with line
breaks of any kind. -/
theorem parse_respaced (h : List.Forall₂ Respaced lines lines') :
    ((∀ l ∈ lines, OneLine l) → parse (unlines lines) = parse (unlines lines')) ∧
      ∀ cs ds, splitLines cs = lines → splitLines ds = lines' → parse cs = parse ds := by
  have hgather := gather_respaced h
  constructor
  · intro hlines
    rw [parse_unlines hlines, parse_unlines (oneLine_respaced h hlines), readLines, readLines, sections, sections,
      hgather]
  · intro cs ds hcs hds
    rw [parse, parse, sections, sections, hcs, hds, hgather]

/-- A key with a value and trailing spaces, a key with children that are indented by spaces and then by tabs, a
comment and a blank line among them, and a line that belongs to nothing. -/
theorem parse_respaced_children :
    let lines := ["id: x".toList, "models: ".toList, "  - a".toList, " # note".toList, " ".toList, "  - b".toList,
      "stray".toList]
    let lines' := ["id: x \t".toList, "models:".toList, "\t\t- a ".toList, "      # note".toList, "\t ".toList,
      " - b".toList, "stray ".toList]
    List.Forall₂ Respaced lines lines' ∧ (∀ l ∈ lines, OneLine l) ∧
      parse (unlines lines) = parse (unlines lines') := by
  intro lines lines'
  have hrespaced : List.Forall₂ Respaced lines lines' := by
    refine .cons ?_ (.cons ?_ (.cons ?_ (.cons ?_ (.cons ?_ (.cons ?_ (.cons ?_ .nil))))))
    · exact @Respaced.intro "id: x".toList [] [] [] [' ', '\t'] (by simp) (by simp [isGap]) (by simp)
    · exact @Respaced.intro "models:".toList [] [] [' '] [] (by simp) (by simp [isGap]) (by simp)
    · exact @Respaced.intro "- a".toList [' ', ' '] ['\t', '\t'] [] [' '] (by simp [isGap]) (by simp [isGap])
        (by simp)
    · exact @Respaced.intro "# note".toList [' '] "      ".toList [] [] (by simp [isGap]) (by simp) (by simp)
    · exact @Respaced.intro [] [' '] ['\t', ' '] [] [] (by simp [isGap]) (by simp) (by simp)
    · exact @Respaced.intro "- b".toList [' ', ' '] [' '] [] [] (by simp [isGap]) (by simp) (by simp)
    · exact @Respaced.intro "stray".toList [] [] [] [' '] (by simp) (by simp [isGap]) (by simp)
  have hlines : ∀ l ∈ lines, OneLine l := by decide
  exact ⟨hrespaced, hlines, (parse_respaced hrespaced).1 hlines⟩

end Promptbook.Metadata
