import BoundedLog.Proofs.Window
import BoundedLog.Window.Address

/-!
# Places in the content

The place of byte `offset` of a record is its offset behind all older records, so what begins
there is the record from that byte on with all newer records behind it. An append that evicts a
record takes its bytes away from the front of the content: every other record moves forward by so
many bytes, and a place that was found before does not move along.
-/

namespace BoundedLog.Window

variable {w : Window} {records : List Record}

/-- There is a place exactly for the bytes of the records that are held. -/
theorem Holds.position_eq_ok_iff (h : w.Holds records) {index offset place : Nat} :
  w.position index offset = .ok place
    ↔ ∃ record, records[index]? = some record ∧ offset < record.length
      ∧ (records.take index).flatten.length + offset = place
  := by
  rw [position, h.count_eq, h.toList_eq]
  by_cases hindex : index < records.length
  · rw [if_neg (Nat.not_le_of_lt hindex), List.drop_eq_getElem_cons hindex,
      List.getElem?_eq_getElem hindex]
    simp only [Option.some.injEq, exists_eq_left']
    split
    · next hoffset =>
      constructor
      · intro hplace
        cases hplace
      · rintro ⟨hlt, -⟩
        exact absurd hlt (Nat.not_lt_of_le hoffset)
    · next hoffset =>
      rw [Except.ok.injEq]
      constructor
      · intro hplace
        exact ⟨Nat.lt_of_not_le hoffset, hplace⟩
      · intro hplace
        apply hplace.2
  · rw [if_pos (Nat.le_of_not_lt hindex), List.getElem?_eq_none (Nat.le_of_not_lt hindex)]
    constructor
    · intro hplace
      cases hplace
    · rintro ⟨record, hnone, -⟩
      cases hnone

/-- From the place of a byte on there are the rest of its record and the newer records. -/
theorem drop_place (records : List Record) (index offset : Nat) :
  records.flatten.drop ((records.take index).flatten.length + offset)
    = (records.drop index).flatten.drop offset
  := by
  have hsplit : records.flatten = (records.take index).flatten ++ (records.drop index).flatten := by
    rw [← List.flatten_append, List.take_append_drop]
  rw [← List.drop_drop]
  conv_lhs => rw [hsplit]
  rw [List.drop_left]

/-- From the place of a byte on there is at least that byte. -/
theorem drop_flatten_ne_nil {record : Record} {index offset : Nat}
    (hrecord : records[index]? = some record) (hoffset : offset < record.length) :
  (records.drop index).flatten.drop offset ≠ []
  := by
  obtain ⟨hindex, rfl⟩ := List.getElem?_eq_some_iff.mp hrecord
  rw [List.drop_eq_getElem_cons hindex, List.flatten_cons, Ne, List.drop_eq_nil_iff,
    List.length_append]
  omega

/-! ### Leaving records -/

/-- A record that stays has fewer older records. -/
theorem getElem?_of_leaving {leaving staying : List Record} {index : Nat}
    (hindex : leaving.length ≤ index) (hlt : index < (leaving ++ staying).length)
    (newer : List Record) :
  (staying ++ newer)[index - leaving.length]? = (leaving ++ staying)[index]?
  := by
  rw [List.getElem?_append_right hindex, List.getElem?_append_left]
  rw [List.length_append] at hlt
  apply Nat.sub_lt_left_of_lt_add hindex hlt

/-- What is found at a place after a record that stays has moved forward, compared with what was
asked for: it lacks as many bytes as have left. -/
theorem drop_place_of_leaving {leaving staying : List Record} {index : Nat}
    (hindex : leaving.length ≤ index) (hle : index ≤ (leaving ++ staying).length)
    (newer : List Record) (offset : Nat) :
  (staying ++ newer).flatten.drop (((leaving ++ staying).take index).flatten.length + offset)
    = (((staying ++ newer).drop (index - leaving.length)).flatten.drop offset).drop
      leaving.flatten.length
  := by
  obtain ⟨n, rfl⟩ := Nat.exists_eq_add_of_le hindex
  have hn : n ≤ staying.length := by
    rw [List.length_append] at hle
    apply Nat.le_of_add_le_add_left hle
  rw [Nat.add_sub_cancel_left, ← drop_place, List.take_length_add_append,
    List.take_append_of_le_length hn, List.flatten_append, List.length_append, List.drop_drop,
    Nat.add_assoc, Nat.add_comm]

end BoundedLog.Window
