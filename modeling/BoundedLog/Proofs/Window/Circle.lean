import BoundedLog.Proofs.Window.History
import Mathlib.Algebra.GroupWithZero.Nat
import Mathlib.Data.List.Nodup

/-!
# The circle of slots

However a window came about, its records lie in consecutive slots of the circle, from `tail` up to
the slot in front of `head`, and no other slot holds one. So an operation never leaves its bounds:
the slots that it reads and writes exist, the number of slots by which it takes a remainder is not
zero, and the sum of the lengths is not less than the length of the record that it evicts.

`Checked` has the operations on the slots with a look at these bounds at every step. None of the
looks ever fails (`Reachable.circle_in_bounds`). All other operations on windows reach the slots
through these.
-/

namespace BoundedLog.Window

variable {w : Window} {records : List Record}

/-! ### Operations that look first -/

namespace Checked

/-- The remainder of a division, unless it is one by zero. -/
def remainder? (a b : Nat) : Option Nat := if b = 0 then none else some (a % b)

/-- The difference of two numbers, unless it is below zero. -/
def difference? (a b : Nat) : Option Nat := if b ≤ a then some (a - b) else none

/-- The number of records held. -/
def count? (w : Window) : Option Nat :=
  if w.full then some w.capacity
  else do remainder? (← difference? (w.head + w.capacity) w.tail) w.capacity

/-- The slot of the record with `index` older records before it. -/
def slotOf? (w : Window) (index : Nat) : Option Nat := remainder? (w.tail + index) w.capacity

/-- The record with `index` older records before it. -/
def get? (w : Window) (index : Nat) : Option (Option Record) := do
  if index < (← count? w) then w.slots[← slotOf? w index]? else some none

/-- The records, oldest first. -/
def toList? (w : Window) : Option (List Record) := do
  let contents ← (List.range (← count? w)).mapM fun index => do w.slots[← slotOf? w index]?
  some contents.reduceOption

/-- A full window without its oldest record, and that record; any other window as it is. -/
def makeRoom? (w : Window) : Option (Window × Option Record) :=
  if w.full then do
    let oldest ← w.slots[w.tail]?
    let tail ← remainder? (w.tail + 1) w.capacity
    let size ← difference? w.size ((oldest.map List.length).getD 0)
    some ({ w with
      slots := w.slots.setIfInBounds w.tail none
      tail
      full := false
      size
      evicted := w.evicted + if oldest.isSome then 1 else 0 }, oldest)
  else some (w, none)

/-- A window that is not full, with a record put behind the newest one. -/
def put? (w : Window) (record : Record) : Option Window := do
  let _ ← w.slots[w.head]?
  let head ← remainder? (w.head + 1) w.capacity
  some { w with
    slots := w.slots.setIfInBounds w.head (some record)
    head
    full := head == w.tail
    size := w.size + record.length
    appended := w.appended + 1 }

/-- Appends a record. -/
def append? (w : Window) (record : Record) : Option (Window × Option Record) := do
  let (roomy, evicted) ← makeRoom? w
  some (← put? roomy record, evicted)

theorem remainder?_eq (a : Nat) {b : Nat} (hb : 0 < b) :
  remainder? a b = some (a % b)
  := if_neg (Nat.ne_of_gt hb)

theorem difference?_eq {a b : Nat} (hle : b ≤ a) :
  difference? a b = some (a - b)
  := if_pos hle

end Checked

/-! ### The slots -/

theorem getElem?_slots {i : Nat} (hi : i < w.capacity) :
  w.slots[i]? = some (w.slot i)
  := by
  rw [slot, Array.getD_eq_getD_getElem?, Array.getElem?_eq_getElem hi]
  rfl

theorem toList_slots (w : Window) :
  w.slots.toList = (List.range w.capacity).map w.slot
  := by
  apply List.ext_getElem?
  intro i
  by_cases hi : i < w.capacity
  · rw [Array.getElem?_toList, getElem?_slots hi, List.getElem?_map, List.getElem?_range hi]
    rfl
  · rw [List.getElem?_eq_none (Nat.le_of_not_lt hi), List.getElem?_eq_none]
    rw [List.length_map, List.length_range]
    apply Nat.le_of_not_lt hi

/-- Every slot is reached within one turn of the circle. -/
theorem exists_slotOf_eq (htail : w.tail < w.capacity) {j : Nat} (hj : j < w.capacity) :
  ∃ i < w.capacity, w.slotOf i = j
  := by
  by_cases hle : w.tail ≤ j
  · refine ⟨j - w.tail, by omega, ?_⟩
    rw [slotOf_eq_ite htail (by omega), if_pos (by omega)]
    omega
  · refine ⟨j + w.capacity - w.tail, by omega, ?_⟩
    rw [slotOf_eq_ite htail (by omega), if_neg (by omega)]
    omega

/-- One turn of the circle goes through all slots. -/
theorem perm_map_slotOf (htail : w.tail < w.capacity) :
  ((List.range w.capacity).map w.slotOf).Perm (List.range w.capacity)
  := by
  have hnodup : ((List.range w.capacity).map w.slotOf).Nodup := by
    apply List.nodup_range.map_on
    intro i hi j hj hslots
    apply (slotOf_inj htail (List.mem_range.mp hi) (List.mem_range.mp hj)).mp hslots
  apply (List.perm_ext_iff_of_nodup hnodup List.nodup_range).mpr
  intro j
  rw [List.mem_map, List.mem_range]
  constructor
  · rintro ⟨i, -, rfl⟩
    apply slotOf_lt htail
  · intro hj
    obtain ⟨i, hi, hslot⟩ := exists_slotOf_eq htail hj
    exact ⟨i, List.mem_range.mpr hi, hslot⟩

namespace Holds

theorem head_lt (h : w.Holds records) :
  w.head < w.capacity
  := by
  rw [h.head_eq]
  apply slotOf_lt h.tail_lt

/-- No record lies in a slot that is not one of the held records. -/
theorem slot_eq_none (h : w.Holds records) {j : Nat} (hj : j < w.capacity)
    (hother : ∀ i < records.length, w.slotOf i ≠ j) :
  w.slot j = none
  := by
  obtain ⟨i, hi, rfl⟩ := exists_slotOf_eq h.tail_lt hj
  rw [h.slot_slotOf i hi, List.getElem?_eq_none]
  by_contra hlt
  exact hother i (Nat.lt_of_not_le hlt) rfl

/-- The slots hold the records and nothing else, in an order of their own. -/
theorem perm_slots (h : w.Holds records) :
  w.slots.toList.reduceOption.Perm records
  := by
  have hturn : (List.range w.capacity).map (fun i => w.slot (w.slotOf i))
      = records.map some ++ List.replicate (w.capacity - records.length) none := by
    have hle := h.length_le
    apply List.ext_getElem
    · simp only [List.length_map, List.length_range, List.length_append, List.length_replicate]
      omega
    · intro i hi _
      have hlt : i < w.capacity := by simpa using hi
      rw [List.getElem_map, List.getElem_range, h.slot_slotOf i hlt, List.getElem_append]
      split
      · next hheld => simp at hheld ⊢
      · next hheld => simpa using hheld
  have hheld : ((List.range w.capacity).map fun i => w.slot (w.slotOf i)).reduceOption = records
    := by
    rw [hturn, List.reduceOption_append, List.reduceOption_replicate_none, List.append_nil,
      List.reduceOption, List.filterMap_map]
    apply List.filterMap_some
  have hperm : w.slots.toList.Perm ((List.range w.capacity).map fun i => w.slot (w.slotOf i)) := by
    have hslots := ((perm_map_slotOf h.tail_lt).map w.slot).symm
    rwa [← toList_slots, List.map_map] at hslots
  rw [← hheld]
  apply hperm.filterMap

/-- The oldest record is not longer than all records together. -/
theorem length_oldest_le (h : w.Holds records) (hfull : w.full = true) :
  ((w.slot w.tail).map List.length).getD 0 ≤ w.size
  := by
  obtain ⟨oldest, rest, rfl, -⟩ := h.exists_cons hfull
  have holdest := h.slot_slotOf 0 (Nat.zero_lt_of_lt h.tail_lt)
  rw [slotOf_zero h.tail_lt] at holdest
  rw [holdest, h.size_eq, List.flatten_cons, List.length_append]
  apply Nat.le_add_right

/-! ### Within bounds -/

theorem checked_slotOf? (h : w.Holds records) (index : Nat) :
  Checked.slotOf? w index = some (w.slotOf index)
  := Checked.remainder?_eq _ (Nat.zero_lt_of_lt h.tail_lt)

theorem checked_count? (h : w.Holds records) :
  Checked.count? w = some w.count
  := by
  have htail := h.tail_lt
  rw [Checked.count?, count]
  split
  · rfl
  · rw [Checked.difference?_eq (by omega)]
    apply Checked.remainder?_eq _ (by omega)

theorem checked_read (h : w.Holds records) (index : Nat) :
  (do w.slots[← Checked.slotOf? w index]?) = some (w.slot (w.slotOf index))
  := by
  rw [h.checked_slotOf?]
  apply getElem?_slots (slotOf_lt h.tail_lt index)

theorem checked_get? (h : w.Holds records) (index : Nat) :
  Checked.get? w index = some (w.get? index)
  := by
  rw [Checked.get?, h.checked_count?, get?]
  show (if index < w.count then _ else _) = _
  split
  · apply h.checked_read
  · rfl

theorem checked_toList? (h : w.Holds records) :
  Checked.toList? w = some w.toList
  := by
  have hread : (fun index => (do w.slots[← Checked.slotOf? w index]?))
      = fun index => some (w.slot (w.slotOf index)) := funext h.checked_read
  rw [Checked.toList?, h.checked_count?, hread]
  show ((List.range w.count).mapM (m := Option) fun index => pure (w.slot (w.slotOf index)))
    >>= _ = _
  rw [List.mapM_pure]
  show some (List.filterMap id (List.map _ _)) = _
  rw [List.filterMap_map]
  rfl

theorem checked_makeRoom? (h : w.Holds records) :
  Checked.makeRoom? w = some w.makeRoom
  := by
  rw [Checked.makeRoom?, makeRoom]
  split
  · next hfull =>
    simp only [getElem?_slots h.tail_lt, Checked.remainder?_eq _ (Nat.zero_lt_of_lt h.tail_lt),
      Option.bind_eq_bind, Option.bind_some, Checked.difference?_eq (h.length_oldest_le hfull)]
  · rfl

theorem checked_put? (h : w.Holds records) (record : Record) :
  Checked.put? w record = some (w.put record)
  := by
  rw [Checked.put?, getElem?_slots h.head_lt, Checked.remainder?_eq _ (Nat.zero_lt_of_lt h.tail_lt)]
  rfl

/-- Behind the first half of an append, in which the oldest record leaves, there still is a circle
with records. -/
theorem checked_append? (h : w.Holds records) (record : Record) :
  Checked.append? w record = some (w.append record)
  := by
  obtain ⟨staying, hroom⟩ : ∃ staying, w.makeRoom.1.Holds staying := by
    by_cases hfull : w.full = true
    · obtain ⟨oldest, rest, rfl, -⟩ := h.exists_cons hfull
      exact ⟨rest, (h.makeRoom_of_full hfull).1⟩
    · rw [makeRoom_of_not_full hfull]
      exact ⟨records, h⟩
  rw [Checked.append?, h.checked_makeRoom?]
  show (do some (← Checked.put? w.makeRoom.1 record, w.makeRoom.2)) = _
  rw [hroom.checked_put?]
  rfl

end Holds

/-- In every window to which appending and clearing lead, the records lie in the slots from `tail`
on, and no other slot holds one; `head`, `full` and `size` agree with that. So no operation reads or
writes behind the last slot, divides by zero, or takes the length of an evicted record from a
smaller sum. -/
theorem Reachable.circle_in_bounds (h : w.Reachable) :
  (1 ≤ w.capacity ∧ w.head < w.capacity ∧ w.tail < w.capacity ∧ w.count ≤ w.capacity)
  ∧ w.head = (w.tail + w.count) % w.capacity
  ∧ (w.full = true ↔ w.count = w.capacity)
  ∧ (∀ i < w.count, ∃ record, w.slots[(w.tail + i) % w.capacity]? = some (some record))
  ∧ (∀ j < w.capacity, (∀ i < w.count, (w.tail + i) % w.capacity ≠ j) → w.slots[j]? = some none)
  ∧ w.size = (w.slots.toList.reduceOption.map List.length).sum
  ∧ (Checked.count? w = some w.count
    ∧ (∀ index, Checked.slotOf? w index = some (w.slotOf index))
    ∧ (∀ index, Checked.get? w index = some (w.get? index))
    ∧ Checked.toList? w = some w.toList
    ∧ (∀ record, Checked.append? w record = some (w.append record)))
  := by
  have hholds := h.holds
  have hcount := hholds.count_eq
  have htail := hholds.tail_lt
  refine ⟨⟨by omega, hholds.head_lt, htail, ?_⟩, ?_, ?_, ?_, ?_, ?_, hholds.checked_count?,
    hholds.checked_slotOf?, hholds.checked_get?, hholds.checked_toList?, hholds.checked_append?⟩
  · rw [hcount]
    apply hholds.length_le
  · rw [hcount]
    apply hholds.head_eq
  · rw [hcount]
    apply hholds.full_iff
  · intro i hi
    have hle := hholds.length_le
    have hheld := hholds.slot_slotOf i (by omega)
    rw [List.getElem?_eq_getElem (by omega)] at hheld
    use w.toList[i]
    rw [← hheld]
    apply getElem?_slots (slotOf_lt htail i)
  · intro j hj hother
    rw [hcount] at hother
    rw [getElem?_slots hj, hholds.slot_eq_none hj hother]
  · rw [hholds.size_eq, List.length_flatten]
    apply (hholds.perm_slots.map _).symm.sum_nat

/-- The fourth record has taken the slot of the first one, and a clear has emptied all slots that no
newer record has taken. -/
theorem circle_in_bounds_behind_turn :
  let w := ((ofCapacity 3).run [.append [1], .append [2, 2], .append [3], .append [4, 4]]).2
  let cleared := (w.clear.append [5]).1
  w.Reachable ∧ cleared.Reachable
    ∧ w.tail = 1 ∧ w.head = w.tail ∧ w.full = true ∧ w.size = 5
    ∧ (∃ record, w.slots[0]? = some (some record))
    ∧ Checked.append? w [7] = some (w.append [7]) ∧ (w.append [7]).2 = some [2, 2]
    ∧ cleared.slots[2]? = some none
  := by
  intro w cleared
  have hw : w.Reachable := reachable_run 3 _
  have hcleared : cleared.Reachable := hw.clear.append [5]
  have htail : w.tail = 1 := rfl
  have hcapacity : w.capacity = 3 := rfl
  have hcount : w.count = 3 := rfl
  obtain ⟨-, hhead, hfull, hheld, -, hsize, -, -, -, -, happend⟩ := hw.circle_in_bounds
  obtain ⟨-, -, -, -, hempty, -⟩ := hcleared.circle_in_bounds
  refine ⟨hw, hcleared, htail, ?_, ?_, hsize, ?_, happend [7], rfl, ?_⟩
  · rw [hhead, htail, hcount, hcapacity]
  · rw [hfull, hcount, hcapacity]
  · rw [htail, hcount, hcapacity] at hheld
    apply hheld 2 (by omega)
  · apply hempty 2
    · decide
    · decide

end BoundedLog.Window
