import Promptbook.Text.Word

/-!
# Templates

A template is a text with placeholders: a name made of word characters between two opening and two closing
braces.  `pieces` cuts a text into literal characters and placeholders, and `fill` puts texts in their places.
The pieces depend on the template alone, so nothing in a text that is put in is ever taken for a placeholder.

`source_pieces`: the pieces make up the text.
-/

namespace Promptbook.Template

open Promptbook.Text

/-- A part of a template. -/
inductive Piece
  | literal (c : Char)
  | placeholder (name : List Char)
deriving Repr, DecidableEq

/-- The text of a piece in the template. -/
def Piece.source : Piece → List Char
  | literal c => [c]
  | placeholder name => '\x7b' :: '\x7b' :: name ++ ['\x7d', '\x7d']

/-- What follows a name that two closing braces end. -/
def afterName? (cs : List Char) : Option (List Char) :=
  match cs.dropWhile isWord with
  | '\x7d' :: '\x7d' :: rest => some rest
  | _ => none

/-- The name of the placeholder that a text starts with. -/
def placeholder? : List Char → Option (List Char)
  | '\x7b' :: '\x7b' :: rest =>
    let name := rest.takeWhile isWord
    if name.isEmpty || (afterName? rest).isNone then none else some name
  | _ => none

/-- Cuts a text into pieces, after as many characters as still belong to a placeholder that came before. -/
def piecesFrom : Nat → List Char → List Piece
  | _, [] => []
  | skip + 1, _ :: rest => piecesFrom skip rest
  | 0, c :: rest =>
    match placeholder? (c :: rest) with
    | some name => .placeholder name :: piecesFrom (name.length + 3) rest
    | none => .literal c :: piecesFrom 0 rest

/-- The pieces of a template. -/
def pieces (cs : List Char) : List Piece :=
  piecesFrom 0 cs

/-- The text of pieces in the template. -/
def source (ps : List Piece) : List Char :=
  ps.flatMap Piece.source

/-- The name of a piece that is a placeholder. -/
def Piece.name? : Piece → Option String
  | literal _ => none
  | placeholder name => some (String.ofList name)

/-- The names of the placeholders of a template, in order and with repetitions. -/
def names (template : String) : List String :=
  (pieces template.toList).filterMap Piece.name?

/-- The text of a piece once the values are put in: a placeholder without a value is kept or dropped. -/
def Piece.fill (value? : String → Option String) (dropUnresolved : Bool) : Piece → List Char
  | literal c => [c]
  | placeholder name =>
    match value? (String.ofList name) with
    | some value => value.toList
    | none => if dropUnresolved then [] else (placeholder name).source

/-- The template with the values in the places of the placeholders. -/
def fill (template : String) (value? : String → Option String) (dropUnresolved : Bool) : String :=
  String.ofList ((pieces template.toList).flatMap (Piece.fill value? dropUnresolved))

theorem afterName?_eq_some {cs rest : List Char} (h : afterName? cs = some rest) :
    cs = cs.takeWhile isWord ++ '\x7d' :: '\x7d' :: rest := by
  unfold afterName? at h
  split at h
  · next heq =>
    obtain rfl := Option.some.inj h
    rw [← heq, List.takeWhile_append_dropWhile]
  · simp at h

theorem placeholder?_eq_some {cs name : List Char} (h : placeholder? cs = some name) :
    ∃ rest, cs = (Piece.placeholder name).source ++ rest ∧ name ≠ [] ∧ name.all isWord = true := by
  unfold placeholder? at h
  split at h
  · next rest =>
    simp only at h
    split at h
    · simp at h
    · next hn =>
      obtain rfl := Option.some.inj h
      simp only [Bool.or_eq_true, List.isEmpty_iff, Option.isNone_iff_eq_none, not_or] at hn
      obtain ⟨tail, ht⟩ := Option.ne_none_iff_exists'.1 hn.2
      refine ⟨tail, ?_, hn.1, ?_⟩
      · have := afterName?_eq_some ht
        simp only [Piece.source, List.cons_append, List.append_assoc, List.nil_append, List.cons.injEq,
          true_and]
        exact this
      · simp
  · simp at h

theorem piecesFrom_eq_drop (skip : Nat) (cs : List Char) :
    piecesFrom skip cs = piecesFrom 0 (cs.drop skip) := by
  induction skip generalizing cs with
  | zero => simp
  | succ skip ih =>
    cases cs with
    | nil => simp [piecesFrom]
    | cons c rest => simpa [piecesFrom] using ih rest

/-- Cutting a template into pieces loses nothing. -/
theorem source_pieces (cs : List Char) : source (pieces cs) = cs := by
  unfold pieces
  induction h : cs.length using Nat.strongRecOn generalizing cs with
  | ind n ih =>
    cases cs with
    | nil => rfl
    | cons c rest =>
      unfold piecesFrom
      split
      · next name hname =>
        obtain ⟨tail, htail, _, _⟩ := placeholder?_eq_some hname
        have hrest : rest = '\x7b' :: (name ++ ['\x7d', '\x7d']) ++ tail := by
          simpa [Piece.source] using (List.cons.inj htail).2
        have hdrop : rest.drop (name.length + 3) = tail := by
          rw [hrest]
          apply List.drop_left'
          simp
        have hlt : tail.length < n := by
          rw [← h, htail]
          simp [Piece.source]
          omega
        rw [piecesFrom_eq_drop, hdrop]
        have := ih tail.length hlt tail rfl
        simp only [source, List.flatMap_cons] at this ⊢
        rw [this, htail]
      · have := ih rest.length (by rw [← h]; simp) rest rfl
        simp only [source, List.flatMap_cons, Piece.source] at this ⊢
        rw [this]
        rfl

end Promptbook.Template
