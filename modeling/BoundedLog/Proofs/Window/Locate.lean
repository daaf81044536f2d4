import BoundedLog.Proofs.Window.Address
import BoundedLog.Proofs.Window.History
import Mathlib.Data.List.Infix

/-!
# The two addresses of a byte

A position is looked for from the oldest record on: a record that lies in front of it is passed
over, and its length is taken off the position. What is found is the record that the position lies
in, so an empty record, in which nothing lies, is never found. The place of a byte is counted the
other way round, from the index of a record to the sum of the lengths of the older ones. Both say
the same: the records in order cut the positions into pieces without a gap, and the longer way to
a byte, by index first and then by offset, keeps their order.
-/

namespace BoundedLog

/-! ### The places of bytes among records -/

/-- Up to an index there is at most as much as up to a later one. -/
theorem length_flatten_take_le (records : List Record) {i j : Nat} (h : i ≤ j) :
  (records.take i).flatten.length ≤ (records.take j).flatten.length
  := by
  apply List.IsPrefix.length_le
  apply List.IsPrefix.flatten
  apply List.take_prefix_take_left h

/-- Behind a record there is as much as in front of it, and the record itself. -/
theorem length_flatten_take_succ {records : List Record} {index : Nat} {record : Record}
    (h : records[index]? = some record) :
  (records.take (index + 1)).flatten.length
    = (records.take index).flatten.length + record.length
  := by
  rw [List.take_add_one, h, Option.toList_some, List.flatten_append, List.length_append,
    List.flatten_singleton]

/-- The places of the bytes of a record are in front of those of the newer records. -/
theorem place_lt_of_index_lt {records : List Record} {index index' offset : Nat} {record : Record}
    (hrecord : records[index]? = some record) (hoffset : offset < record.length)
    (hindex : index < index') (offset' : Nat) :
  (records.take index).flatten.length + offset
    < (records.take index').flatten.length + offset'
  := by
  have hbehind := length_flatten_take_succ hrecord
  have hle := length_flatten_take_le records (i := index + 1) (j := index') hindex
  omega

/-- The places of bytes are in the order of the indices of their records, and in the order of
their offsets in one record. -/
theorem place_lt_place_iff {records : List Record} {index index' offset offset' : Nat}
    {record record' : Record} (hrecord : records[index]? = some record)
    (hoffset : offset < record.length) (hrecord' : records[index']? = some record')
    (hoffset' : offset' < record'.length) :
  (records.take index).flatten.length + offset < (records.take index').flatten.length + offset'
    ↔ index < index' ∨ index = index' ∧ offset < offset'
  := by
  rcases Nat.lt_trichotomy index index' with hlt | rfl | hgt
  · have := place_lt_of_index_lt hrecord hoffset hlt offset'
    omega
  · omega
  · have := place_lt_of_index_lt hrecord' hoffset' hgt offset
    omega

/-- From the place of a byte on there is the rest of its record, and behind it all newer records. -/
theorem drop_flatten_place {records : List Record} {index offset : Nat} {record : Record}
    (hrecord : records[index]? = some record) (hoffset : offset < record.length) :
  records.flatten.drop ((records.take index).flatten.length + offset)
    = record.drop offset ++ (records.drop (index + 1)).flatten
  := by
  obtain ⟨hindex, rfl⟩ := List.getElem?_eq_some_iff.mp hrecord
  rw [Window.drop_place, List.drop_eq_getElem_cons hindex, List.flatten_cons,
    List.drop_append_of_le_length hoffset.le]

/-- At the place of a byte there is this byte. -/
theorem getElem?_flatten_place {records : List Record} {index offset : Nat} {record : Record}
    (hrecord : records[index]? = some record) (hoffset : offset < record.length) :
  records.flatten[(records.take index).flatten.length + offset]? = record[offset]?
  := by
  rw [← List.head?_drop, drop_flatten_place hrecord hoffset, List.head?_append_of_ne_nil,
    List.head?_drop]
  rw [Ne, List.drop_eq_nil_iff]
  omega

/-! ### Looking for a position -/

namespace Located

/-- Nothing is found exactly at the end of the records and behind it. -/
theorem among?_eq_none_iff {first : Nat} {records : List Record} {position : Nat} :
  among? first records position = none ↔ records.flatten.length ≤ position
  := by
  induction records generalizing first position with
  | nil => simp [among?]
  | cons record rest ih =>
    rw [among?, List.flatten_cons, List.length_append]
    split
    · next h =>
      constructor
      · intro hnone
        cases hnone
      · intro hle
        omega
    · next h =>
      rw [ih]
      omega

/-- What is found at a position is the byte whose place it is, and no other. -/
theorem among?_eq_some_iff {first : Nat} {records : List Record} {position : Nat}
    {located : Located} :
  among? first records position = some located
    ↔ ∃ i, located.index = first + i ∧ records[i]? = some located.record
      ∧ located.offset < located.record.length
      ∧ (records.take i).flatten.length + located.offset = position
  := by
  induction records generalizing first position with
  | nil => simp [among?]
  | cons record rest ih =>
    rw [among?]
    split
    · next hinside =>
      constructor
      · rintro ⟨⟩
        exact ⟨0, rfl, rfl, hinside, Nat.zero_add position⟩
      · rintro ⟨i, hindex, hrecord, hoffset, hplace⟩
        cases i with
        | zero =>
          obtain ⟨index, found, offset⟩ := located
          obtain rfl := Option.some.inj hrecord
          obtain rfl : index = first := hindex
          obtain rfl : offset = position := (Nat.zero_add offset).symm.trans hplace
          rfl
        | succ i =>
          rw [List.take_succ_cons, List.flatten_cons, List.length_append] at hplace
          omega
    · next hbehind =>
      rw [ih]
      constructor
      · rintro ⟨i, hindex, hrecord, hoffset, hplace⟩
        use i + 1
        rw [List.take_succ_cons, List.flatten_cons, List.length_append]
        refine ⟨by omega, hrecord, hoffset, by omega⟩
      · rintro ⟨i, hindex, hrecord, hoffset, hplace⟩
        cases i with
        | zero =>
          obtain rfl := Option.some.inj hrecord
          rw [List.take_zero, List.flatten_nil, List.length_nil] at hplace
          omega
        | succ i =>
          rw [List.take_succ_cons, List.flatten_cons, List.length_append] at hplace
          exact ⟨i, by omega, hrecord, hoffset, by omega⟩

end Located

namespace Window

variable {w : Window} {records : List Record}

theorem Holds.locate?_eq (h : w.Holds records) (position : Nat) :
  w.locate? position = Located.among? 0 records position
  := by
  rw [locate?, h.toList_eq, h.size_eq]
  split
  · rfl
  · next hsize =>
    symm
    apply Located.among?_eq_none_iff.mpr (Nat.le_of_not_lt hsize)

theorem Holds.locate?_eq_none_iff (h : w.Holds records) {position : Nat} :
  w.locate? position = none ↔ w.size ≤ position
  := by
  rw [h.locate?_eq, Located.among?_eq_none_iff, h.size_eq]

/-- What is found at a position of a window is the byte whose place it is, and no other. -/
theorem Holds.locate?_eq_some_iff (h : w.Holds records) {position : Nat} {located : Located} :
  w.locate? position = some located
    ↔ records[located.index]? = some located.record ∧ located.offset < located.record.length
      ∧ (records.take located.index).flatten.length + located.offset = position
  := by
  rw [h.locate?_eq, Located.among?_eq_some_iff]
  simp only [Nat.zero_add, exists_eq_left']

/-- There is a place for the byte that is found at it, and for no other. -/
theorem Holds.position_eq_ok_iff_locate? (h : w.Holds records) {index offset place : Nat} :
  w.position index offset = .ok place
    ↔ ∃ record, w.locate? place = some ⟨index, record, offset⟩
  := by
  rw [h.position_eq_ok_iff]
  simp only [h.locate?_eq_some_iff]

/-- A place is refused if there are too few records, or if the record is too short. -/
theorem Holds.position_eq_error_iff (h : w.Holds records) {index offset : Nat}
    {fault : RangeFault} :
  w.position index offset = .error fault
    ↔ w.count ≤ index ∧ fault = .noRecord index w.count
      ∨ ∃ record, records[index]? = some record ∧ record.length ≤ offset
        ∧ fault = .noByte index offset record.length
  := by
  rw [position, h.count_eq, h.toList_eq]
  by_cases hindex : index < records.length
  · rw [if_neg (Nat.not_le_of_lt hindex), List.drop_eq_getElem_cons hindex,
      List.getElem?_eq_getElem hindex]
    simp only [Nat.not_le_of_lt hindex, false_and, false_or, Option.some.injEq, exists_eq_left']
    split
    · next hoffset =>
      rw [Except.error.injEq, eq_comm]
      simp only [hoffset, true_and]
    · next hoffset =>
      simp only [hoffset, false_and, iff_false]
      rintro ⟨⟩
  · have hle := Nat.le_of_not_lt hindex
    rw [if_pos hle, List.getElem?_eq_none hle, Except.error.injEq, eq_comm]
    simp [hle]

/-! ### Reachable windows -/

/-- At every position of the content, and at no other, a byte is found: the record that it belongs
to, which is not empty, and its offset in it. The lengths of the older records and the offset add up
to the position, so it is the byte that the content has there. -/
theorem Reachable.locate?_finds_byte (h : w.Reachable) (position : Nat) :
  (w.locate? position = none ↔ w.size ≤ position)
  ∧ ∀ located, w.locate? position = some located →
      w.get? located.index = some located.record
        ∧ located.offset < located.record.length
        ∧ position = (w.toList.take located.index).flatten.length + located.offset
        ∧ w.content[position]? = located.record[located.offset]?
        ∧ located.record ≠ []
  := by
  have hholds := h.holds
  constructor
  · apply hholds.locate?_eq_none_iff
  · intro located hlocated
    obtain ⟨hrecord, hoffset, hplace⟩ := hholds.locate?_eq_some_iff.mp hlocated
    refine ⟨?_, hoffset, hplace.symm, ?_, ?_⟩
    · rw [hholds.get?_eq]
      apply hrecord
    · rw [← hplace]
      apply getElem?_flatten_place hrecord hoffset
    · apply List.ne_nil_of_length_pos
      apply Nat.zero_lt_of_lt hoffset

/-- The window was full once, and there is an empty record in it, which is passed over. -/
theorem locate?_finds_byte_behind_empty :
  let w := ((ofCapacity 3).run [.append [1, 2], .append [9], .append [], .append [7, 8]]).2
  w.toList = [[9], [], [7, 8]]
    ∧ w.locate? 1 = some ⟨2, [7, 8], 0⟩
    ∧ w.content[1]? = some 7
    ∧ w.locate? 3 = none
  := by
  intro w
  have hw : w.Reachable := reachable_run 3 _
  have hlist : w.toList = [[9], [], [7, 8]] := by
    decide
  have hlocated : w.locate? 1 = some ⟨2, [7, 8], 0⟩ := by
    decide
  obtain ⟨-, hfound⟩ := hw.locate?_finds_byte 1
  obtain ⟨-, -, -, hbyte, -⟩ := hfound _ hlocated
  obtain ⟨hnone, -⟩ := hw.locate?_finds_byte 3
  exact ⟨hlist, hlocated, hbyte, hnone.mpr (by decide)⟩

/-- The two addresses of a byte lead to each other. In the order of the indices of records, and of
the offsets in one record, the places of bytes grow, and they are all the positions of the content.
There is no place exactly if there are too few records or the record is too short for it, and the
fault says which; a record with a smaller index than there are records is always met. -/
theorem Reachable.position_inverts_locate? (h : w.Reachable) :
  (∀ index offset place, w.position index offset = .ok place
    ↔ ∃ record, w.locate? place = some ⟨index, record, offset⟩)
  ∧ (∀ index offset place index' offset' place', w.position index offset = .ok place →
      w.position index' offset' = .ok place' →
      (place < place' ↔ index < index' ∨ index = index' ∧ offset < offset'))
  ∧ (∀ place, place < w.size ↔ ∃ index offset, w.position index offset = .ok place)
  ∧ (∀ index offset fault, w.position index offset = .error fault
    ↔ w.count ≤ index ∧ fault = .noRecord index w.count
      ∨ index < w.count ∧ ∃ record, w.get? index = some record ∧ record.length ≤ offset
        ∧ fault = .noByte index offset record.length)
  ∧ (∀ index < w.count, ∃ record newer, w.toList.drop index = record :: newer
    ∧ w.get? index = some record)
  := by
  have hholds := h.holds
  refine ⟨?_, ?_, ?_, ?_, ?_⟩
  · intro index offset place
    apply hholds.position_eq_ok_iff_locate?
  · intro index offset place index' offset' place' hplace hplace'
    obtain ⟨record, hrecord, hoffset, rfl⟩ := hholds.position_eq_ok_iff.mp hplace
    obtain ⟨record', hrecord', hoffset', rfl⟩ := hholds.position_eq_ok_iff.mp hplace'
    apply place_lt_place_iff hrecord hoffset hrecord' hoffset'
  · intro place
    rw [← Nat.not_le, ← hholds.locate?_eq_none_iff, ← Ne, Option.ne_none_iff_exists']
    constructor
    · rintro ⟨⟨index, record, offset⟩, hlocated⟩
      use index, offset
      apply hholds.position_eq_ok_iff_locate?.mpr ⟨record, hlocated⟩
    · rintro ⟨index, offset, hplace⟩
      obtain ⟨record, hlocated⟩ := hholds.position_eq_ok_iff_locate?.mp hplace
      exact ⟨_, hlocated⟩
  · intro index offset fault
    rw [hholds.position_eq_error_iff, hholds.get?_eq]
    apply or_congr_right
    constructor
    · rintro ⟨record, hrecord, hfault⟩
      refine ⟨?_, record, hrecord, hfault⟩
      rw [hholds.count_eq]
      apply (List.getElem?_eq_some_iff.mp hrecord).1
    · rintro ⟨-, hfault⟩
      apply hfault
  · intro index hindex
    rw [hholds.count_eq] at hindex
    use w.toList[index], w.toList.drop (index + 1), List.drop_eq_getElem_cons hindex
    rw [hholds.get?_eq]
    apply List.getElem?_eq_getElem hindex

/-- The first byte of the third record is the second one of the content; the second record has
none. -/
theorem position_inverts_locate?_behind_empty :
  let w := ((ofCapacity 3).run [.append [1, 2], .append [9], .append [], .append [7, 8]]).2
  w.position 2 0 = .ok 1
    ∧ (∃ index offset, w.position index offset = .ok 2)
    ∧ w.position 1 0 = .error (.noByte 1 0 0)
    ∧ w.position 3 0 = .error (.noRecord 3 3)
  := by
  intro w
  have hw : w.Reachable := reachable_run 3 _
  obtain ⟨hinverse, -, hcovered, hfault, -⟩ := hw.position_inverts_locate?
  have hcount : w.count = 3 := by
    decide
  have hlocated : w.locate? 1 = some ⟨2, [7, 8], 0⟩ := by
    decide
  have hempty : w.get? 1 = some [] := by
    decide
  refine ⟨(hinverse 2 0 1).mpr ⟨_, hlocated⟩, (hcovered 2).mp (by decide), ?_, ?_⟩
  · apply (hfault 1 0 _).mpr
    right
    exact ⟨by omega, [], hempty, Nat.le_refl 0, rfl⟩
  · apply (hfault 3 0 _).mpr
    left
    exact ⟨hcount.le, by rw [hcount]⟩

end Window

end BoundedLog
