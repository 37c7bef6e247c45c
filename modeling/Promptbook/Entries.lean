/-!
# Ordered tables

`Entries` are keys with values, in the order in which the keys first came.  `put` keeps a present key at its place
and replaces its value; `get?_put_self` and `get?_put_of_ne` say what a lookup finds afterwards, `keys_put` what
becomes of the order.  A `Table` holds entries in which no key stands twice.
-/

namespace Promptbook

/-- Keys with values, in order. -/
abbrev Entries (α : Type) := List (String × α)

namespace Entries

variable {α : Type}

/-- The keys in order. -/
def keys (t : Entries α) : List String :=
  t.map (·.1)

/-- The values in order. -/
def values (t : Entries α) : List α :=
  t.map (·.2)

/-- The value of the first entry with a key. -/
def get? : Entries α → String → Option α
  | [], _ => none
  | (k, v) :: t, key => if k = key then some v else get? t key

/-- Is there an entry with a key? -/
def has (t : Entries α) (key : String) : Bool :=
  (t.get? key).isSome

/-- Sets the value of a key: in its place if the key is present, at the end otherwise. -/
def put : Entries α → String → α → Entries α
  | [], key, value => [(key, value)]
  | (k, v) :: t, key, value => if k = key then (k, value) :: t else (k, v) :: put t key value

/-- Sets the values of all entries of a second table, in its order. -/
def putAll (t u : Entries α) : Entries α :=
  u.foldl (fun t e => t.put e.1 e.2) t

/-- The table of a list of pairs: a repeated key keeps its first place and its last value. -/
def ofPairs (pairs : List (String × α)) : Entries α :=
  putAll [] pairs

/-- The entries in the order of their keys' code points. -/
def sorted (t : Entries α) : Entries α :=
  t.mergeSort fun a b => a.1 ≤ b.1

/-- The entries without those of a key. -/
def without (t : Entries α) (key : String) : Entries α :=
  t.filter fun e => e.1 != key

theorem get?_put_self (t : Entries α) (key : String) (value : α) :
    (t.put key value).get? key = some value := by
  induction t with
  | nil => simp [put, get?]
  | cons e t ih =>
    by_cases h : e.1 = key
    · simp [put, get?, h]
    · simp [put, get?, h, ih]

theorem get?_put_of_ne (t : Entries α) {key other : String} (value : α) (h : other ≠ key) :
    (t.put key value).get? other = t.get? other := by
  induction t with
  | nil => simp [put, get?, Ne.symm h]
  | cons e t ih =>
    by_cases he : e.1 = key
    · have : e.1 ≠ other := fun ho => h (ho.symm.trans he)
      simp [put, get?, he, Ne.symm h]
    · simp [put, get?, he, ih]

/-- Setting a key keeps the order of the keys; a new key comes last. -/
theorem keys_put (t : Entries α) (key : String) (value : α) :
    (t.put key value).keys = if key ∈ t.keys then t.keys else t.keys ++ [key] := by
  induction t with
  | nil => simp [put, keys]
  | cons e t ih =>
    by_cases h : e.1 = key
    · simp [put, keys, h]
    · simp only [keys] at ih
      simp only [put, if_neg h, keys, List.map_cons, ih, List.mem_cons, Ne.symm h, false_or]
      split <;> simp_all

/-- Setting a key leaves no key twice. -/
theorem nodup_keys_put {t : Entries α} (h : t.keys.Nodup) (key : String) (value : α) :
    (t.put key value).keys.Nodup := by
  rw [keys_put]
  split
  case isTrue => exact h
  case isFalse hkey =>
    refine List.nodup_append.2 ⟨h, List.pairwise_singleton _ _, fun k hk l hl heq => hkey ?_⟩
    rwa [← List.mem_singleton.1 hl, ← heq]

end Entries

/-- Entries in which no key stands twice. -/
structure Table (α : Type) where
  entries : Entries α
  nodup : entries.keys.Nodup
deriving Repr

namespace Table

variable {α : Type}

/-- The table without entries. -/
def empty : Table α := ⟨[], List.Pairwise.nil⟩

/-- The keys in order. -/
def keys (t : Table α) : List String := t.entries.keys

/-- The values in order. -/
def values (t : Table α) : List α := t.entries.values

/-- The number of entries. -/
def length (t : Table α) : Nat := t.entries.length

/-- The value of a key. -/
def get? (t : Table α) (key : String) : Option α := t.entries.get? key

/-- Is there an entry with a key? -/
def has (t : Table α) (key : String) : Bool := t.entries.has key

/-- Sets the value of a key: in its place if the key is present, at the end otherwise. -/
def put (t : Table α) (key : String) (value : α) : Table α :=
  ⟨t.entries.put key value, Entries.nodup_keys_put t.nodup key value⟩

@[ext] theorem ext {t u : Table α} (h : t.entries = u.entries) : t = u := by
  cases t
  cases h
  rfl

end Table
end Promptbook
