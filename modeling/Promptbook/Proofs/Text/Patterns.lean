import Promptbook.Proofs.Text.Lines

/-!
# Patterns

A pattern is a list of atoms that are matched one after the other: the start and the end of a line, a character of a
class, a run of them, and at most one of them.  `endings` tries the longest part first and goes back to shorter ones;
it finds exactly the places that the meaning of the pattern admits (`mem_endings_iff`).  `search?` looks for the first
place from a given one on where the pattern matches at all.
-/

namespace Promptbook.Text

/-- A step of a pattern: the start or the end of a line, one character of a class, one or more of a class, or at most
one. -/
inductive Atom
  | lineStart
  | lineEnd
  | one (p : Char → Bool)
  | run (p : Char → Bool)
  | atMostOne (p : Char → Bool)

/-- The place behind the character at a place, if that is of a class. -/
def placeBehind (text : List Char) (i : Nat) (p : Char → Bool) : List Nat :=
  if text[i]?.any p then [i + 1] else []

/-- The places to which an atom can lead from a place of the text, the farthest first. -/
def Atom.places (text : List Char) (i : Nat) : Atom → List Nat
  | .lineStart => if i = 0 ∨ text[i - 1]? = some '\n' then [i] else []
  | .lineEnd => if i = text.length ∨ text[i]? = some '\n' then [i] else []
  | .one p => placeBehind text i p
  | .run p => ((List.range (((text.drop i).takeWhile p).length + 1)).map (i + ·)).reverse
  | .atMostOne p => placeBehind text i p ++ [i]

/-- The places where a match from a place can end, in the order in which they are tried. -/
def endings (text : List Char) : List Atom → Nat → List Nat
  | [], i => [i]
  | atom :: atoms, i => (atom.places text i).flatMap (endings text atoms)

/-- The start and the end of the first match from a place on. -/
def search? (text : List Char) (pattern : List Atom) (start : Nat) : Option (Nat × Nat) :=
  (List.range' start (text.length + 1 - start)).findSome? fun i =>
    (endings text pattern i).head?.map fun j => (i, j)

variable {text before rest part mark after : List Char} {pattern : List Atom}

/-! ### What a pattern means -/

/-- Does a line start behind the text? -/
def StartsLine (before : List Char) : Prop :=
  ∀ c ∈ before.getLast?, c = '\n'

/-- Does a line end before the text? -/
def EndsLine (after : List Char) : Prop :=
  ∀ c ∈ after.head?, c = '\n'

/-- The parts that an atom takes between two texts. -/
def Atom.Takes (before part after : List Char) : Atom → Prop
  | .lineStart => part = [] ∧ StartsLine before
  | .lineEnd => part = [] ∧ EndsLine after
  | .one p => ∃ c, part = [c] ∧ p c = true
  | .run p => ∀ c ∈ part, p c = true
  | .atMostOne p => part = [] ∨ ∃ c, part = [c] ∧ p c = true

/-- The marks that a pattern takes between two texts: its atoms take one part after the other. -/
def Matches (before mark after : List Char) : List Atom → Prop
  | [] => mark = []
  | atom :: atoms => ∃ part rest, mark = part ++ rest ∧ atom.Takes before part (rest ++ after) ∧
      Matches (before ++ part) rest after atoms

theorem matches_append {atoms : List Atom} :
    Matches before mark after (pattern ++ atoms) ↔ ∃ front back, mark = front ++ back ∧
      Matches before front (back ++ after) pattern ∧ Matches (before ++ front) back after atoms := by
  induction pattern generalizing before mark with
  | nil => simp [Matches]
  | cons atom pattern ih =>
    simp only [List.cons_append, Matches, ih]
    constructor
    · rintro ⟨part, rest, rfl, htakes, front, back, rfl, hfront, hback⟩
      refine ⟨part ++ front, back, by simp, ⟨part, front, rfl, by simpa using htakes, hfront⟩, by simpa using hback⟩
    · rintro ⟨_, back, rfl, ⟨part, front, rfl, htakes, hfront⟩, hback⟩
      exact ⟨part, front ++ back, by simp, by simpa using htakes, front, back, rfl, hfront, by simpa using hback⟩

/-! ### Places of an atom -/

private theorem startsLine_iff (before rest : List Char) :
    (before.length = 0 ∨ (before ++ rest)[before.length - 1]? = some '\n') ↔ StartsLine before := by
  rcases List.eq_nil_or_concat before with rfl | ⟨front, c, rfl⟩
  · simp [StartsLine]
  · simp [StartsLine]

private theorem endsLine_iff (before rest : List Char) :
    (before.length = (before ++ rest).length ∨ (before ++ rest)[before.length]? = some '\n') ↔ EndsLine rest := by
  cases rest with
  | nil => simp [EndsLine]
  | cons c rest => simp [EndsLine]

private theorem mem_placeBehind_iff {p : Char → Bool} (before rest : List Char) (j : Nat) :
    j ∈ placeBehind (before ++ rest) before.length p ↔
      ∃ c after, rest = c :: after ∧ p c = true ∧ j = before.length + 1 := by
  cases rest with
  | nil => simp [placeBehind]
  | cons c rest =>
    by_cases hc : p c = true
    · simp [placeBehind, hc]
    · simp [placeBehind, hc]

/-- A run can end anywhere before the first character that is not of the class. -/
private theorem le_takeWhile_iff {p : Char → Bool} (rest : List Char) (k : Nat) :
    k ≤ (rest.takeWhile p).length ↔
      ∃ part after, rest = part ++ after ∧ part.length = k ∧ ∀ c ∈ part, p c = true := by
  constructor
  · intro hk
    have hlength : (rest.takeWhile p).length ≤ rest.length := (List.takeWhile_sublist p).length_le
    have hpart : rest.take k = (rest.takeWhile p).take k := by
      conv => lhs; rw [← List.takeWhile_append_dropWhile (p := p) (l := rest)]
      rw [List.take_append_of_le_length hk]
    refine ⟨rest.take k, rest.drop k, (List.take_append_drop k rest).symm, by simp; omega, ?_⟩
    intro c hc
    rw [hpart] at hc
    exact List.mem_takeWhile_imp (List.mem_of_mem_take hc)
  · rintro ⟨part, after, rfl, rfl, hpart⟩
    rw [List.takeWhile_append_of_pos hpart, List.length_append]
    omega

theorem Atom.mem_places_iff (atom : Atom) (before rest : List Char) (j : Nat) :
    j ∈ atom.places (before ++ rest) before.length ↔ ∃ part after, rest = part ++ after ∧
      j = before.length + part.length ∧ atom.Takes before part after := by
  cases atom with
  | lineStart =>
    rw [Atom.places]
    by_cases h : StartsLine before
    · rw [if_pos ((startsLine_iff before rest).2 h)]
      simp [Atom.Takes, h]
    · rw [if_neg (mt (startsLine_iff before rest).1 h)]
      simp [Atom.Takes, h]
  | lineEnd =>
    rw [Atom.places]
    by_cases h : EndsLine rest
    · rw [if_pos ((endsLine_iff before rest).2 h)]
      simp only [Atom.Takes, List.mem_singleton]
      constructor
      · rintro rfl
        exact ⟨[], rest, rfl, rfl, rfl, h⟩
      · rintro ⟨_, after, rfl, rfl, rfl, -⟩
        rfl
    · rw [if_neg (mt (endsLine_iff before rest).1 h)]
      simp only [Atom.Takes, List.not_mem_nil, false_iff]
      rintro ⟨_, after, rfl, -, rfl, hafter⟩
      exact h hafter
  | one p =>
    rw [Atom.places, mem_placeBehind_iff]
    constructor
    · rintro ⟨c, after, rfl, hc, rfl⟩
      exact ⟨[c], after, rfl, rfl, c, rfl, hc⟩
    · rintro ⟨_, after, rfl, rfl, c, rfl, hc⟩
      exact ⟨c, after, rfl, hc, rfl⟩
  | run p =>
    have hrest : (before ++ rest).drop before.length = rest := List.drop_left
    simp only [Atom.places, hrest, Atom.Takes, List.mem_reverse, List.mem_map, List.mem_range]
    constructor
    · rintro ⟨k, hk, rfl⟩
      obtain ⟨part, after, rfl, rfl, hpart⟩ := (le_takeWhile_iff rest k).1 (Nat.le_of_lt_succ hk)
      exact ⟨part, after, rfl, rfl, hpart⟩
    · rintro ⟨part, after, rfl, rfl, hpart⟩
      have hk := (le_takeWhile_iff (part ++ after) part.length).2 ⟨part, after, rfl, rfl, hpart⟩
      exact ⟨part.length, Nat.lt_succ_of_le hk, rfl⟩
  | atMostOne p =>
    rw [Atom.places, List.mem_append, mem_placeBehind_iff, List.mem_singleton]
    constructor
    · rintro (⟨c, after, rfl, hc, rfl⟩ | rfl)
      · exact ⟨[c], after, rfl, rfl, .inr ⟨c, rfl, hc⟩⟩
      · exact ⟨[], rest, rfl, rfl, .inl rfl⟩
    · rintro ⟨_, after, rfl, rfl, rfl | ⟨c, rfl, hc⟩⟩
      · exact .inr rfl
      · exact .inl ⟨c, after, rfl, hc, rfl⟩

/-- The matcher finds the places where a mark that the pattern takes ends. -/
theorem mem_endings_iff (pattern : List Atom) (before rest : List Char) (j : Nat) :
    j ∈ endings (before ++ rest) pattern before.length ↔ ∃ mark after, rest = mark ++ after ∧
      j = before.length + mark.length ∧ Matches before mark after pattern := by
  induction pattern generalizing before rest with
  | nil => simp [endings, Matches]
  | cons atom atoms ih =>
    simp only [endings, List.mem_flatMap, Atom.mem_places_iff, Matches]
    constructor
    · rintro ⟨_, ⟨part, rest, rfl, rfl, htakes⟩, hj⟩
      rw [← List.append_assoc, ← List.length_append, ih] at hj
      obtain ⟨mark, after, rfl, rfl, hmatches⟩ := hj
      exact ⟨part ++ mark, after, by simp, by simp; omega, part, mark, rfl, htakes, hmatches⟩
    · rintro ⟨_, after, rfl, rfl, part, mark, rfl, htakes, hmatches⟩
      refine ⟨before.length + part.length, ⟨part, mark ++ after, by simp, rfl, htakes⟩, ?_⟩
      rw [List.append_assoc part, ← List.append_assoc before, ← List.length_append, ih]
      exact ⟨mark, after, rfl, by simp; omega, hmatches⟩

/-! ### Searching for a line -/

/-- Does the pattern take exactly the lines of a kind, as a whole, and does no line of that kind hold a line feed? -/
structure FindsLines (pattern : List Atom) (q : List Char → Prop) : Prop where
  takes : ∀ before mark after, Matches before mark after pattern ↔ StartsLine before ∧ q mark ∧ EndsLine after
  oneLine : ∀ mark, q mark → '\n' ∉ mark

theorem startsLine_nil : StartsLine [] := by
  simp [StartsLine]

theorem startsLine_append_newline (before : List Char) : StartsLine (before ++ ['\n']) := by
  simp [StartsLine]

theorem not_startsLine_append {line : List Char} (hne : line ≠ []) (hline : '\n' ∉ line) (before : List Char) :
    ¬StartsLine (before ++ line) := by
  intro h
  rw [StartsLine, List.getLast?_append_of_ne_nil _ hne, List.getLast?_eq_some_getLast hne] at h
  exact hline (h _ rfl ▸ List.getLast_mem hne)

theorem endsLine_begunLines (lines : List (List Char)) : EndsLine (begunLines lines) := by
  cases lines with
  | nil => simp [EndsLine, begunLines]
  | cons line lines => simp [EndsLine, begunLines]

/-- The first line of a text ends where the first line feed stands. -/
theorem eq_of_append_eq {line line' after after' : List Char} (hline : '\n' ∉ line) (hline' : '\n' ∉ line')
    (hafter : EndsLine after) (hafter' : EndsLine after') (h : line ++ after = line' ++ after') : line = line' := by
  have hspan : ∀ {l r : List Char}, '\n' ∉ l → EndsLine r → (l ++ r).takeWhile (· != '\n') = l := by
    intro l r hl hr
    have hl' : ∀ c ∈ l, (c != '\n') = true := by
      intro c hc
      have : c ≠ '\n' := fun heq => hl (heq ▸ hc)
      simpa using this
    rw [List.takeWhile_append_of_pos hl']
    cases r with
    | nil => simp
    | cons c r =>
      obtain rfl : c = '\n' := hr c rfl
      simp
  rw [← hspan hline hafter, h, hspan hline' hafter']

variable {q : List Char → Prop}

theorem FindsLines.endings_eq_nil (h : FindsLines pattern q) (hbefore : ¬StartsLine before) (rest : List Char) :
    endings (before ++ rest) pattern before.length = [] := by
  rw [List.eq_nil_iff_forall_not_mem]
  intro j hj
  obtain ⟨mark, after, -, -, hmatches⟩ := (mem_endings_iff pattern before rest j).1 hj
  exact hbefore ((h.takes _ _ _).1 hmatches).1

/-- A match from the start of a line ends where the line ends. -/
theorem FindsLines.mem_endings_iff (h : FindsLines pattern q) {line : List Char} (hbefore : StartsLine before)
    (hline : '\n' ∉ line) (hafter : EndsLine after) (j : Nat) :
    j ∈ endings (before ++ (line ++ after)) pattern before.length ↔ q line ∧ j = before.length + line.length := by
  rw [Promptbook.Text.mem_endings_iff]
  constructor
  · rintro ⟨mark, after', hrest, rfl, hmatches⟩
    obtain ⟨-, hmark, hafter'⟩ := (h.takes _ _ _).1 hmatches
    obtain rfl := eq_of_append_eq hline (h.oneLine mark hmark) hafter hafter' hrest
    exact ⟨hmark, rfl⟩
  · rintro ⟨hq, rfl⟩
    exact ⟨line, after, rfl, rfl, (h.takes _ _ _).2 ⟨hbefore, hq, hafter⟩⟩

/-- Where nothing matches, the search goes on at the next place. -/
theorem search?_succ {start : Nat} (hstart : start ≤ text.length) :
    search? text pattern start =
      ((endings text pattern start).head?.map fun j => (start, j)).or (search? text pattern (start + 1)) := by
  have hcount : text.length + 1 - start = (text.length + 1 - (start + 1)) + 1 := by omega
  rw [search?, hcount, List.range'_succ, List.findSome?_cons, search?]
  cases (endings text pattern start).head? <;> rfl

theorem search?_add {start count : Nat} (hcount : start + count ≤ text.length + 1)
    (hnone : ∀ i, start ≤ i → i < start + count → endings text pattern i = []) :
    search? text pattern start = search? text pattern (start + count) := by
  induction count generalizing start with
  | zero => rfl
  | succ count ih =>
    have hfirst : endings text pattern start = [] := hnone start (by omega) (by omega)
    have hrest : search? text pattern (start + 1) = search? text pattern (start + 1 + count) :=
      ih (by omega) fun i hle hlt => hnone i (by omega) (by omega)
    rw [search?_succ (by omega), hfirst, List.head?_nil, Option.map_none, Option.none_or, hrest]
    congr 1
    omega

theorem FindsLines.search?_of_line (h : FindsLines pattern q) {line : List Char} (hbefore : StartsLine before)
    (hline : q line) (hafter : EndsLine after) :
    search? (before ++ (line ++ after)) pattern before.length =
      some (before.length, before.length + line.length) := by
  have hends := h.mem_endings_iff hbefore (h.oneLine line hline) hafter
  have hhead : (endings (before ++ (line ++ after)) pattern before.length).head? =
      some (before.length + line.length) := by
    cases hall : endings (before ++ (line ++ after)) pattern before.length with
    | nil =>
      have := (hends _).2 ⟨hline, rfl⟩
      rw [hall] at this
      cases this
    | cons j js =>
      have hj := (hends j).1 (by rw [hall]; exact List.mem_cons_self)
      rw [List.head?_cons, hj.2]
  rw [search?_succ (by simp), hhead]
  rfl

/-- A line of another kind is passed over with its line feed. -/
theorem FindsLines.search?_of_not_line (h : FindsLines pattern q) {line : List Char} (hbefore : StartsLine before)
    (hline : '\n' ∉ line) (hq : ¬q line) (hafter : EndsLine after) :
    search? (before ++ (line ++ after)) pattern before.length =
      search? (before ++ (line ++ after)) pattern (before.length + line.length + 1) := by
  have hcount : before.length + (line.length + 1) ≤ (before ++ (line ++ after)).length + 1 := by
    rw [List.length_append, List.length_append]
    omega
  refine search?_add hcount fun i hle hlt => ?_
  rcases Nat.eq_or_lt_of_le hle with rfl | hinside
  · rw [List.eq_nil_iff_forall_not_mem]
    intro j hj
    exact hq ((h.mem_endings_iff hbefore hline hafter j).1 hj).1
  · -- inside the line, no line starts
    obtain ⟨k, rfl⟩ : ∃ k, i = before.length + k := ⟨i - before.length, by omega⟩
    have hne : line.take k ≠ [] := by
      rw [ne_eq, ← List.length_eq_zero_iff, List.length_take]
      omega
    have hfeed : '\n' ∉ line.take k := fun hmem => hline (List.mem_of_mem_take hmem)
    have hnone := h.endings_eq_nil (not_startsLine_append hne hfeed before) (line.drop k ++ after)
    have htext : before ++ line.take k ++ (line.drop k ++ after) = before ++ (line ++ after) := by
      rw [List.append_assoc, ← List.append_assoc (line.take k), List.take_append_drop]
    have hplace : (before ++ line.take k).length = before.length + k := by
      rw [List.length_append, List.length_take]
      omega
    rwa [htext, hplace] at hnone

theorem FindsLines.search?_eq_some (h : FindsLines pattern q) {line : List Char} (hbefore : StartsLine before)
    {above : List (List Char)} (habove : ∀ l ∈ above, '\n' ∉ l ∧ ¬q l) (hline : q line) (hafter : EndsLine after) :
    search? (before ++ endedLines above ++ (line ++ after)) pattern before.length =
      some ((before ++ endedLines above).length, (before ++ endedLines above).length + line.length) := by
  induction above generalizing before with
  | nil =>
    rw [endedLines, List.flatMap_nil, List.append_nil]
    exact h.search?_of_line hbefore hline hafter
  | cons first above ih =>
    rw [List.forall_mem_cons] at habove
    have hnext := ih (startsLine_append_newline (before ++ first)) habove.2
    have hsplit : before ++ endedLines (first :: above) = before ++ first ++ ['\n'] ++ endedLines above := by
      simp [endedLines]
    have hfirst : before ++ first ++ ['\n'] ++ endedLines above ++ (line ++ after) =
        before ++ (first ++ '\n' :: (endedLines above ++ (line ++ after))) := by simp
    have hplace : (before ++ first ++ ['\n']).length = before.length + first.length + 1 := by simp; omega
    have hfeed : EndsLine ('\n' :: (endedLines above ++ (line ++ after))) := by simp [EndsLine]
    rw [hplace, hfirst] at hnext
    rw [hsplit, hfirst, h.search?_of_not_line hbefore habove.1.1 habove.1.2 hfeed]
    exact hnext

theorem FindsLines.search?_eq_none (h : FindsLines pattern q) (hbefore : StartsLine before) {line : List Char}
    {lines : List (List Char)} (hlines : ∀ l ∈ line :: lines, '\n' ∉ l ∧ ¬q l) :
    search? (before ++ (line ++ begunLines lines)) pattern before.length = none := by
  induction lines generalizing before line with
  | nil =>
    rw [List.forall_mem_cons] at hlines
    rw [h.search?_of_not_line hbefore hlines.1.1 hlines.1.2 (endsLine_begunLines []), search?]
    have hnothing : (before ++ (line ++ begunLines [])).length + 1 - (before.length + line.length + 1) = 0 := by
      simp [begunLines]
    rw [hnothing]
    rfl
  | cons next lines ih =>
    rw [List.forall_mem_cons] at hlines
    have hnext := ih (startsLine_append_newline (before ++ line)) hlines.2
    have htext : before ++ line ++ ['\n'] ++ (next ++ begunLines lines) =
        before ++ (line ++ begunLines (next :: lines)) := by simp [begunLines]
    have hplace : (before ++ line ++ ['\n']).length = before.length + line.length + 1 := by simp; omega
    rw [hplace, htext] at hnext
    rw [h.search?_of_not_line hbefore hlines.1.1 hlines.1.2 (endsLine_begunLines _), hnext]

/-- From the end of a line the search goes on at the line below it. -/
theorem FindsLines.search?_newline (h : FindsLines pattern q) {line : List Char} (hne : line ≠ [])
    (hline : '\n' ∉ line) (before rest : List Char) :
    search? (before ++ line ++ '\n' :: rest) pattern (before ++ line).length =
      search? (before ++ line ++ ['\n'] ++ rest) pattern (before ++ line ++ ['\n']).length := by
  have hnone := h.endings_eq_nil (not_startsLine_append hne hline before) ('\n' :: rest)
  have hplace : (before ++ line ++ ['\n']).length = (before ++ line).length + 1 := List.length_append
  rw [search?_succ (by simp), hnone, hplace, List.append_cons]
  rfl

theorem FindsLines.search?_below_eq_none (h : FindsLines pattern q) (before : List Char) {line : List Char}
    (hne : line ≠ []) (hline : '\n' ∉ line) {lines : List (List Char)} (hlines : ∀ l ∈ lines, '\n' ∉ l ∧ ¬q l) :
    search? (before ++ line ++ begunLines lines) pattern (before ++ line).length = none := by
  cases lines with
  | nil =>
    have hnone := h.endings_eq_nil (not_startsLine_append hne hline before) []
    have hnothing : (before ++ line ++ begunLines []).length + 1 - ((before ++ line).length + 1) = 0 := by
      simp [begunLines]
    rw [search?_succ (by simp), search?, hnothing, begunLines, List.flatMap_nil, hnone]
    rfl
  | cons first lines =>
    rw [begunLines_cons, h.search?_newline hne hline, unlines_cons]
    exact h.search?_eq_none (startsLine_append_newline _) hlines

theorem FindsLines.search?_below_eq_some (h : FindsLines pattern q) (before : List Char) {line line' : List Char}
    (hne : line ≠ []) (hline : '\n' ∉ line) {inner : List (List Char)} (hinner : ∀ l ∈ inner, '\n' ∉ l ∧ ¬q l)
    (hline' : q line') (hafter : EndsLine after) :
    search? (before ++ line ++ '\n' :: (endedLines inner ++ (line' ++ after))) pattern (before ++ line).length =
      some ((before ++ line ++ ['\n'] ++ endedLines inner).length,
        (before ++ line ++ ['\n'] ++ endedLines inner).length + line'.length) := by
  rw [h.search?_newline hne hline, ← List.append_assoc _ (endedLines inner)]
  exact h.search?_eq_some (startsLine_append_newline _) hinner hline' hafter

end Promptbook.Text
