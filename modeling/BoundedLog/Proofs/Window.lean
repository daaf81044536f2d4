import BoundedLog.Window
import Mathlib.Data.List.DropRight
import Mathlib.Data.List.ReduceOption

/-!
# The records that a window holds

A window `Holds` a list of records when they lie in consecutive slots of the circle, from `tail`
on, while all other slots are empty, and `head`, `full` and `size` agree with them. All that is
observed of such a window is about the list, and the operations on windows are operations on the
list: an append drops the first record of a list that is as long as the circle and puts the new
record behind the others.
-/

namespace BoundedLog.Window

variable {w : Window} {records : List Record}

/-! ### The circle of slots -/

theorem slotOf_eq_ite (htail : w.tail < w.capacity) {i : Nat} (hi : i ≤ w.capacity) :
  w.slotOf i = if w.tail + i < w.capacity then w.tail + i else w.tail + i - w.capacity
  := by
  rw [slotOf]
  split
  · next h => apply Nat.mod_eq_of_lt h
  · next h =>
    rw [Nat.mod_eq_sub_mod (by omega)]
    apply Nat.mod_eq_of_lt
    omega

theorem slotOf_zero (htail : w.tail < w.capacity) :
  w.slotOf 0 = w.tail
  := Nat.mod_eq_of_lt htail

theorem slotOf_capacity (htail : w.tail < w.capacity) :
  w.slotOf w.capacity = w.tail
  := by
  rw [slotOf, Nat.add_mod_right]
  apply Nat.mod_eq_of_lt htail

theorem slotOf_lt (htail : w.tail < w.capacity) (i : Nat) :
  w.slotOf i < w.capacity
  := Nat.mod_lt _ (by omega)

/-- Indices within one turn of the circle lead to different slots. -/
theorem slotOf_inj (htail : w.tail < w.capacity) {i j : Nat} (hi : i < w.capacity)
    (hj : j < w.capacity) :
  w.slotOf i = w.slotOf j ↔ i = j
  := by
  rw [slotOf_eq_ite htail hi.le, slotOf_eq_ite htail hj.le]
  split <;> split <;> omega

/-- Only the index of a whole turn comes back to the slot of the oldest record. -/
theorem slotOf_succ_eq_tail_iff (htail : w.tail < w.capacity) {i : Nat} (hi : i < w.capacity) :
  w.slotOf (i + 1) = w.tail ↔ i + 1 = w.capacity
  := by
  rw [slotOf_eq_ite htail hi]
  split <;> omega

theorem getD_setIfInBounds (slots : Array (Option Record)) {i j : Nat} (hi : i < slots.size)
    (content : Option Record) :
  (slots.setIfInBounds i content).getD j none = if i = j then content else slots.getD j none
  := by
  simp only [Array.getD_eq_getD_getElem?, Array.getElem?_setIfInBounds]
  split
  · rfl
  · rfl

/-! ### The invariant -/

/-- The window holds these records, oldest first, and nothing else. -/
structure Holds (w : Window) (records : List Record) : Prop where
  tail_lt : w.tail < w.capacity
  length_le : records.length ≤ w.capacity
  head_eq : w.head = w.slotOf records.length
  full_iff : w.full = true ↔ records.length = w.capacity
  slot_slotOf : ∀ i < w.capacity, w.slot (w.slotOf i) = records[i]?
  size_eq : w.size = records.flatten.length

theorem capacity_ofCapacity (capacity : Nat) :
  (ofCapacity capacity).capacity = max capacity 1
  := Array.size_replicate

theorem capacity_clear (w : Window) :
  w.clear.capacity = w.capacity
  := Array.size_replicate

/-- A window all of whose slots are empty holds nothing. -/
theorem holds_nil (hpos : 0 < w.capacity) (hslots : ∀ i, w.slot i = none)
    (hhead : w.head = 0) (htail : w.tail = 0) (hfull : w.full = false) (hsize : w.size = 0) :
  w.Holds []
  where
  tail_lt := by omega
  length_le := Nat.zero_le _
  head_eq := by
    rw [List.length_nil, slotOf_zero (by omega)]
    omega
  full_iff := by
    rw [hfull, List.length_nil]
    constructor
    · intro h
      contradiction
    · omega
  slot_slotOf i _ := hslots _
  size_eq := hsize

theorem getD_replicate_none (capacity i : Nat) :
  (Array.replicate capacity (none : Option Record)).getD i none = none
  := by
  rw [Array.getD_eq_getD_getElem?, Array.getElem?_replicate]
  split <;> rfl

theorem holds_ofCapacity (capacity : Nat) :
  (ofCapacity capacity).Holds []
  := by
  apply holds_nil
  · rw [capacity_ofCapacity]
    omega
  · apply getD_replicate_none
  all_goals rfl

theorem Holds.clear (h : w.Holds records) :
  w.clear.Holds []
  := by
  apply holds_nil
  · rw [capacity_clear]
    apply Nat.zero_lt_of_lt h.tail_lt
  · apply getD_replicate_none
  all_goals rfl

/-! ### What is observed -/

theorem Holds.count_eq (h : w.Holds records) :
  w.count = records.length
  := by
  have htail := h.tail_lt
  have hle := h.length_le
  rw [count]
  split
  · next hfull => exact (h.full_iff.mp hfull).symm
  · next hfull =>
    have hlt : records.length < w.capacity := by
      have := mt h.full_iff.mpr hfull
      omega
    rw [h.head_eq, slotOf_eq_ite htail hle]
    split
    · rw [show w.tail + records.length + w.capacity - w.tail = records.length + w.capacity by omega,
        Nat.add_mod_right]
      apply Nat.mod_eq_of_lt hlt
    · rw [show w.tail + records.length - w.capacity + w.capacity - w.tail = records.length by omega]
      apply Nat.mod_eq_of_lt hlt

theorem Holds.get?_eq (h : w.Holds records) (index : Nat) :
  w.get? index = records[index]?
  := by
  rw [get?, h.count_eq]
  split
  · next hi => apply h.slot_slotOf index (by have := h.length_le; omega)
  · next hi => exact (List.getElem?_eq_none (by omega)).symm

theorem Holds.toList_eq (h : w.Holds records) :
  w.toList = records
  := by
  have hslots : (List.range records.length).map (fun i => w.slot (w.slotOf i)) = records.map some
    := by
    apply List.ext_getElem
    · simp
    · intro i hi _
      have hlt : i < records.length := by simpa using hi
      simp only [List.getElem_map, List.getElem_range]
      rw [h.slot_slotOf i (by have := h.length_le; omega), List.getElem?_eq_getElem hlt]
  have hfilter := congrArg List.reduceOption hslots
  rw [toList, h.count_eq]
  simpa [List.reduceOption, List.filterMap_map] using hfilter

theorem Holds.content_eq (h : w.Holds records) :
  w.content = records.flatten
  := by
  rw [content, h.toList_eq]

/-! ### Appending -/

theorem capacity_makeRoom (w : Window) :
  w.makeRoom.1.capacity = w.capacity
  := by
  rw [makeRoom]
  split
  · apply Array.size_setIfInBounds
  · rfl

theorem capacity_put (w : Window) (record : Record) :
  (w.put record).capacity = w.capacity
  := Array.size_setIfInBounds

theorem capacity_append (w : Window) (record : Record) :
  (w.append record).1.capacity = w.capacity
  := by
  rw [append, capacity_put, capacity_makeRoom]

/-- A record goes to the slot behind the newest one. -/
theorem Holds.put (h : w.Holds records) (hlt : records.length < w.capacity) (record : Record) :
  (w.put record).Holds (records ++ [record])
  := by
  have htail := h.tail_lt
  have hhead : w.head < w.capacity := by
    rw [h.head_eq]
    apply slotOf_lt htail
  have hslotOf : ∀ i, (w.put record).slotOf i = w.slotOf i := by
    intro i
    rw [slotOf, capacity_put]
    rfl
  have hnext : (w.put record).head = w.slotOf (records.length + 1) := by
    show (w.head + 1) % w.capacity = _
    rw [h.head_eq, slotOf, slotOf, Nat.mod_add_mod, Nat.add_assoc]
  constructor
  · rw [capacity_put]
    exact htail
  · rw [capacity_put, List.length_append]
    exact hlt
  · rw [hslotOf, hnext, List.length_append]
    rfl
  · show ((w.put record).head == w.tail) = true ↔ _
    rw [beq_iff_eq, hnext, slotOf_succ_eq_tail_iff htail hlt, capacity_put, List.length_append]
    rfl
  · intro i hi
    rw [capacity_put] at hi
    rw [hslotOf]
    show (w.slots.setIfInBounds w.head (some record)).getD (w.slotOf i) none = _
    rw [getD_setIfInBounds _ hhead, h.head_eq]
    simp only [slotOf_inj htail hlt hi]
    split
    · next hi =>
      subst hi
      rw [List.getElem?_concat_length]
    · next hne =>
      show w.slot (w.slotOf i) = _
      rw [h.slot_slotOf i hi]
      rcases Nat.lt_or_gt_of_ne hne with hgt | hlt
      · rw [List.getElem?_eq_none (by omega), List.getElem?_eq_none]
        rw [List.length_append, List.length_singleton]
        omega
      · rw [List.getElem?_append_left hlt]
  · show w.size + record.length = _
    rw [h.size_eq]
    simp

/-- A full window gives up its oldest record. -/
theorem Holds.makeRoom_of_full {oldest : Record} {rest : List Record}
    (h : w.Holds (oldest :: rest)) (hfull : w.full = true) :
  w.makeRoom.1.Holds rest ∧ w.makeRoom.2 = some oldest
  := by
  have htail := h.tail_lt
  have hlength : rest.length + 1 = w.capacity := h.full_iff.mp hfull
  have holdest : w.slot w.tail = some oldest := by
    have := h.slot_slotOf 0 (by omega)
    rwa [slotOf_zero htail] at this
  have hroom : w.makeRoom.1.tail = (w.tail + 1) % w.capacity
      ∧ w.makeRoom.1.slots = w.slots.setIfInBounds w.tail none
      ∧ w.makeRoom.1.head = w.head
      ∧ w.makeRoom.1.full = false
      ∧ w.makeRoom.1.size = w.size - oldest.length
      ∧ w.makeRoom.2 = some oldest := by
    rw [makeRoom, if_pos hfull, holdest]
    exact ⟨rfl, rfl, rfl, rfl, rfl, rfl⟩
  obtain ⟨htail', hslots', hhead', hfull', hsize', hevicted⟩ := hroom
  have hslotOf : ∀ i, w.makeRoom.1.slotOf i = w.slotOf (i + 1) := by
    intro i
    rw [slotOf, capacity_makeRoom, htail', Nat.mod_add_mod, slotOf, Nat.add_assoc, Nat.add_comm 1]
  constructor
  · constructor
    · rw [capacity_makeRoom, htail']
      apply Nat.mod_lt
      omega
    · rw [capacity_makeRoom]
      omega
    · rw [hslotOf, hhead', h.head_eq]
      rfl
    · rw [capacity_makeRoom, hfull']
      constructor
      · intro h
        contradiction
      · omega
    · intro i hi
      rw [capacity_makeRoom] at hi
      rw [hslotOf, slot, hslots', getD_setIfInBounds _ htail]
      by_cases hlast : i + 1 = w.capacity
      · rw [hlast, slotOf_capacity htail, if_pos rfl, List.getElem?_eq_none (by omega)]
      · rw [if_neg]
        · show w.slot (w.slotOf (i + 1)) = _
          rw [h.slot_slotOf (i + 1) (by omega), List.getElem?_cons_succ]
        · rw [eq_comm, slotOf_succ_eq_tail_iff htail hi]
          exact hlast
    · rw [hsize', h.size_eq]
      simp
  · exact hevicted

theorem Holds.exists_cons (h : w.Holds records) (hfull : w.full = true) :
  ∃ oldest rest, records = oldest :: rest ∧ rest.length + 1 = w.capacity
  := by
  have hlength := h.full_iff.mp hfull
  have htail := h.tail_lt
  obtain ⟨oldest, rest, rfl⟩ := List.exists_cons_of_length_pos (by omega : 0 < records.length)
  use oldest, rest, rfl, hlength

theorem makeRoom_of_not_full (hfull : w.full ≠ true) :
  w.makeRoom = (w, none)
  := if_neg hfull

/-- What was dropped before is not among the last records any more. -/
theorem rtake_rtake_concat (records : List Record) (record : Record) (n : Nat) :
  (records.rtake n ++ [record]).rtake n = (records ++ [record]).rtake n
  := by
  cases n with
  | zero => simp
  | succ n =>
    rw [List.rtake_concat_succ, List.rtake_concat_succ]
    simp only [List.rtake, List.length_drop, List.drop_drop]
    congr 2
    omega

/-- The records that are evicted when one more is appended: the oldest one, if no slot is free. -/
def leaving (w : Window) : List Record := if w.full then w.toList.take 1 else []

/-- What leaves is in front of the others, and the next record goes behind them. -/
theorem Holds.exists_staying (h : w.Holds records) (record : Record) :
  ∃ staying, records = w.leaving ++ staying
    ∧ (records ++ [record]).rtake w.capacity = staying ++ [record]
    ∧ (w.append record).1.Holds (staying ++ [record])
  := by
  rw [leaving, Window.append, h.toList_eq]
  by_cases hfull : w.full = true
  · obtain ⟨oldest, rest, rfl, hlength⟩ := h.exists_cons hfull
    obtain ⟨hroom, -⟩ := h.makeRoom_of_full hfull
    use rest
    rw [if_pos hfull]
    and_intros
    · rfl
    · rw [← hlength, List.rtake_concat_succ]
      simp [List.rtake]
    · apply hroom.put
      rw [capacity_makeRoom]
      apply Nat.lt_of_succ_le hlength.le
  · have hlt : records.length < w.capacity :=
      Nat.lt_of_le_of_ne h.length_le (mt h.full_iff.mpr hfull)
    use records
    rw [if_neg hfull, makeRoom_of_not_full hfull]
    and_intros
    · rfl
    · rw [List.rtake, List.length_append, List.length_singleton, Nat.sub_eq_zero_of_le hlt,
        List.drop_zero]
    · apply h.put hlt

/-- An append keeps the last records, as many as there are slots. -/
theorem Holds.append (h : w.Holds records) (record : Record) :
  (w.append record).1.Holds ((records ++ [record]).rtake w.capacity)
  := by
  obtain ⟨staying, -, hlast, hholds⟩ := h.exists_staying record
  rw [hlast]
  apply hholds

/-- An append hands back the oldest of as many records as there are slots. -/
theorem Holds.append_snd (h : w.Holds records) (record : Record) :
  (w.append record).2 = if records.length = w.capacity then records.head? else none
  := by
  show w.makeRoom.2 = _
  by_cases hfull : w.full = true
  · obtain ⟨oldest, rest, rfl, hlength⟩ := h.exists_cons hfull
    rw [(h.makeRoom_of_full hfull).2, List.length_cons, if_pos hlength]
    rfl
  · rw [makeRoom_of_not_full hfull, if_neg (mt h.full_iff.mpr hfull)]

/-- An append hands back what leaves. -/
theorem Holds.toList_append_snd (h : w.Holds records) (record : Record) :
  (w.append record).2.toList = w.leaving
  := by
  rw [h.append_snd, leaving, h.toList_eq, List.take_one]
  by_cases hfull : w.full = true
  · rw [if_pos hfull, if_pos (h.full_iff.mp hfull)]
  · rw [if_neg hfull, if_neg (mt h.full_iff.mpr hfull)]
    rfl

/-- An append takes away what leaves from the front of the content, and puts the record behind. -/
theorem Holds.content_append (h : w.Holds records) (record : Record) :
  (w.append record).2.getD [] ++ (w.append record).1.content = w.content ++ record
  := by
  obtain ⟨staying, hrecords, -, hholds⟩ := h.exists_staying record
  have hleaving : (w.append record).2.getD [] = w.leaving.flatten := by
    rw [← h.toList_append_snd record]
    cases (w.append record).2 with
    | none => rfl
    | some oldest => exact List.flatten_singleton.symm
  rw [hleaving, hholds.content_eq, h.content_eq, hrecords, List.flatten_append,
    List.flatten_append, List.flatten_singleton, List.append_assoc]

theorem appended_append (w : Window) (record : Record) :
  (w.append record).1.appended = w.appended + 1
  := by
  show w.makeRoom.1.appended + 1 = _
  rw [makeRoom]
  split <;> rfl

theorem evicted_append (w : Window) (record : Record) :
  (w.append record).1.evicted = w.evicted + if (w.append record).2.isSome then 1 else 0
  := by
  show w.makeRoom.1.evicted = w.evicted + if w.makeRoom.2.isSome then 1 else 0
  rw [makeRoom]
  split <;> rfl

/-! ### Reachable windows -/

/-- The windows to which appending and clearing lead from an empty one. -/
inductive Reachable : Window → Prop
  | ofCapacity (capacity : Nat) : Reachable (ofCapacity capacity)
  | append {w : Window} (h : Reachable w) (record : Record) : Reachable (w.append record).1
  | clear {w : Window} (h : Reachable w) : Reachable w.clear

theorem Reachable.holds (h : w.Reachable) :
  w.Holds w.toList
  := by
  have hsome : ∃ records, w.Holds records := by
    induction h with
    | ofCapacity capacity => exact ⟨[], holds_ofCapacity capacity⟩
    | append _ record ih =>
      obtain ⟨records, hrecords⟩ := ih
      exact ⟨_, hrecords.append record⟩
    | clear _ ih =>
      obtain ⟨records, hrecords⟩ := ih
      exact ⟨[], hrecords.clear⟩
  obtain ⟨records, hrecords⟩ := hsome
  rw [hrecords.toList_eq]
  exact hrecords

end BoundedLog.Window
