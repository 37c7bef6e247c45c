/-!
# Tables with slots

A table whose size is a power of two gives each item a slot by a number, its key.  An item takes the slot of
its key or a free one in a run behind it; if the run is full, the search goes on elsewhere.  A table in which
three fifths of the slots would be taken is replaced by a larger one.  `Slots.order` lists items by their
slots.
-/

namespace Promptbook

/-- Items with their keys, each in its slot. -/
structure Slots (α : Type) where
  slots : Array (Option (Nat × α))
  count : Nat

namespace Slots

variable {α : Type}

/-- A table of free slots. -/
def ofSize (size : Nat) : Slots α :=
  ⟨Array.replicate size none, 0⟩

/-- The number of slots of the smallest table. -/
def leastSize : Nat := 8

/-- The number of slots behind a first one that are tried before the search goes on elsewhere. -/
def runLength : Nat := 9

/-- Is a slot free? -/
def isFree (t : Slots α) (i : Nat) : Bool :=
  ((t.slots[i]?).getD none).isNone

/-- The slots tried from one on: a run, where it fits into the table. -/
def run (t : Slots α) (i : Nat) : List Nat :=
  if i + runLength < t.slots.size then List.range' i (runLength + 1) else [i]

/-- Searches a free slot in at most `fuel` runs; `key` is what is left of an item's key. -/
def search (t : Slots α) : Nat → Nat → Nat → Option Nat
  | 0, _, _ => none
  | fuel + 1, i, key =>
    match (t.run i).find? t.isFree with
    | some j => some j
    | none => search t fuel ((5 * i + 1 + key / 32) % t.slots.size) (key / 32)

/-- Puts an item with a key into a table.  Once the key is used up the search visits every slot. -/
def place (t : Slots α) (item : Nat × α) : Slots α :=
  match t.search (t.slots.size + 64) (item.1 % t.slots.size) item.1 with
  | some i => ⟨t.slots.set! i (some item), t.count + 1⟩
  | none => t

/-- The items by their slots. -/
def items (t : Slots α) : List (Nat × α) :=
  t.slots.toList.filterMap id

/-- The least size of a table, doubled until it is beyond a number. -/
def sizeBeyond (n : Nat) : Nat :=
  max leastSize (Nat.pow 2 (n.log2 + 1))

/-- Moves the items into a larger table if too many slots are taken. -/
def grown (t : Slots α) : Slots α :=
  if 5 * t.count < 3 * (t.slots.size - 1) then t
  else t.items.foldl place (ofSize (sizeBeyond (if 50000 < t.count then 2 * t.count else 4 * t.count)))

/-- Puts an item with a key into a table, which may grow. -/
def insert (t : Slots α) (item : Nat × α) : Slots α :=
  (t.place item).grown

/-- Items with their keys in the order of their slots, after they were put into a table one by one. -/
def order (items : List (Nat × α)) : List α :=
  (items.foldl insert (ofSize leastSize)).items.map (·.2)

end Slots
end Promptbook
