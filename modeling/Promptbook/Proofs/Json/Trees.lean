import Mathlib
import Promptbook.Json.Encoding

/-!
# JSON trees as values

A tree that is turned into a value is that value's tree again (`toJson_toValue`), so that what was once made plain can
be written without fail.  Putting keys in order neither adds nor drops a part of a tree; in particular it leaves the
integers that are too long to be written (`holdsLongInteger_sortKeys`).
-/

namespace Promptbook

@[simp] theorem itemsToValues_eq_map (items : List Json) : itemsToValues items = items.map Json.toValue := by
  induction items with
  | nil => rfl
  | cons j js ih => rw [itemsToValues, ih, List.map_cons]

@[simp] theorem entriesToValues_eq_map (entries : List (String × Json)) :
    entriesToValues entries = entries.map fun e => (e.1, e.2.toValue) := by
  induction entries with
  | nil => rfl
  | cons e es ih => rw [entriesToValues, ih, List.map_cons]

namespace Value

mutual

/-- A tree as a value has that tree. -/
theorem toJson_toValue : (j : Json) → j.toValue.toJson = .ok j
  | .null | .bool _ | .int _ | .float _ | .text _ => rfl
  | .list items => by
    rw [Json.toValue, toJson, itemsToJson_toValues items]
    rfl
  | .table entries => by
    rw [Json.toValue, toJson, entriesToJson_toValues entries]
    rfl

theorem itemsToJson_toValues : (items : List Json) → itemsToJson (itemsToValues items) = .ok items
  | [] => rfl
  | j :: js => by
    rw [itemsToValues, itemsToJson, toJson_toValue j, itemsToJson_toValues js]
    rfl

theorem entriesToJson_toValues : (entries : List (String × Json)) →
    entriesToJson (entriesToValues entries) = .ok entries
  | [] => rfl
  | (k, j) :: es => by
    rw [entriesToValues, entriesToJson, toJson_toValue j, entriesToJson_toValues es]
    rfl

end

end Value

namespace Json

theorem itemsHoldLongInteger_eq_any (items : List Json) :
    itemsHoldLongInteger items = items.any holdsLongInteger := by
  induction items with
  | nil => rfl
  | cons j js ih => rw [itemsHoldLongInteger, ih, List.any_cons]

theorem entriesHoldLongInteger_eq_any (entries : List (String × Json)) :
    entriesHoldLongInteger entries = entries.any fun e => e.2.holdsLongInteger := by
  induction entries with
  | nil => rfl
  | cons e es ih => rw [entriesHoldLongInteger, ih, List.any_cons]

private theorem any_sorted (entries : Entries Json) (p : String × Json → Bool) :
    entries.sorted.any p = entries.any p :=
  List.Perm.any_eq (List.mergeSort_perm entries _)

mutual

/-- Putting keys in order keeps all parts, and so the integers that are too long. -/
theorem holdsLongInteger_sortKeys : (j : Json) → j.sortKeys.holdsLongInteger = j.holdsLongInteger
  | .null | .bool _ | .int _ | .float _ | .text _ => rfl
  | .list items => by
    rw [sortKeys, holdsLongInteger, holdsLongInteger, itemsHoldLongInteger_sortKeys items]
  | .table entries => by
    rw [sortKeys, holdsLongInteger, holdsLongInteger, entriesHoldLongInteger_eq_any, any_sorted,
      ← entriesHoldLongInteger_eq_any, entriesHoldLongInteger_sortKeys entries]

theorem itemsHoldLongInteger_sortKeys : (items : List Json) →
    itemsHoldLongInteger (sortKeysItems items) = itemsHoldLongInteger items
  | [] => rfl
  | j :: js => by
    rw [sortKeysItems, itemsHoldLongInteger, itemsHoldLongInteger, holdsLongInteger_sortKeys j,
      itemsHoldLongInteger_sortKeys js]

theorem entriesHoldLongInteger_sortKeys : (entries : List (String × Json)) →
    entriesHoldLongInteger (sortKeysEntries entries) = entriesHoldLongInteger entries
  | [] => rfl
  | (_, j) :: es => by
    rw [sortKeysEntries, entriesHoldLongInteger, entriesHoldLongInteger, holdsLongInteger_sortKeys j,
      entriesHoldLongInteger_sortKeys es]

end

mutual

/-- A tree and its value hold the same integers. -/
theorem holdsLong_toValue : (j : Json) → j.toValue.holdsLong = j.holdsLongInteger
  | .null | .bool _ | .int _ | .float _ | .text _ => rfl
  | .list items => itemsHoldLong_itemsToValues items
  | .table entries => entriesHoldLong_entriesToValues entries

theorem itemsHoldLong_itemsToValues : (items : List Json) →
    Value.itemsHoldLong (itemsToValues items) = itemsHoldLongInteger items
  | [] => rfl
  | j :: js => by
    rw [itemsToValues, Value.itemsHoldLong, itemsHoldLongInteger, holdsLong_toValue j, itemsHoldLong_itemsToValues js]

theorem entriesHoldLong_entriesToValues : (entries : List (String × Json)) →
    Value.entriesHoldLong (entriesToValues entries) = entriesHoldLongInteger entries
  | [] => rfl
  | (_, j) :: es => by
    rw [entriesToValues, Value.entriesHoldLong, entriesHoldLongInteger, holdsLong_toValue j,
      entriesHoldLong_entriesToValues es]

end

end Json

/-- A tree without integers that are too long has a canonical text. -/
theorem Value.canonicalText_toValue {j : Json} (h : j.holdsLongInteger = false) :
    j.toValue.canonicalText = .ok (j.sortKeys.toText .compact) := by
  rw [canonicalText, toJson_toValue]
  show writtenText .compact j.sortKeys = _
  rw [writtenText, Json.holdsLongInteger_sortKeys, h]
  rfl

end Promptbook
