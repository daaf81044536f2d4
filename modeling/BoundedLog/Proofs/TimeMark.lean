import BoundedLog.Calendar
import BoundedLog.Proofs.Lines

/-!
# Time marks as byte strings

The bytes of a text are those of its parts, one after the other, and those of its characters. In
UTF-8 only a line break has a newline among its bytes. A time mark has a line break at its end and
none in its parts, so its bytes are a line, whatever moment it shows, and they begin in the same way
as those of all other marks.
-/

namespace BoundedLog

namespace Bytes

/-- The bytes of an array, from a place on, behind those that were collected. -/
theorem toList_loop (bytes : ByteArray) (place : Nat) (collected : List UInt8) :
  ByteArray.toList.loop bytes place collected
    = collected.reverse ++ bytes.data.toList.drop place
  := by
  induction place, collected using ByteArray.toList.loop.induct bytes with
  | case1 place collected hlt ih =>
    have hplace : place < bytes.data.toList.length := hlt
    rw [ByteArray.toList.loop, if_pos hlt, ih, List.drop_eq_getElem_cons hplace,
      List.reverse_cons, List.append_assoc]
    have hget : bytes.get! place = bytes.data.toList[place] := by
      rw [Array.getElem_toList]
      exact getElem!_pos bytes.data place hlt
    rw [hget]
    rfl
  | case2 place collected hge =>
    rw [ByteArray.toList.loop, if_neg hge, List.drop_eq_nil_of_le (Nat.le_of_not_lt hge),
      List.append_nil]

theorem ofText_eq (text : String) :
  ofText text = text.toByteArray.data.toList
  := toList_loop text.toByteArray 0 []

theorem ofText_append (front behind : String) :
  ofText (front ++ behind) = ofText front ++ ofText behind
  := by
  rw [ofText_eq, ofText_eq, ofText_eq, String.toByteArray_append, ByteArray.data_append,
    Array.toList_append]

theorem ofText_eq_flatMap (text : String) :
  ofText text = text.toList.flatMap String.utf8EncodeChar
  := by
  rw [ofText_eq, ← String.utf8Encode_toList, List.utf8Encode]
  apply List.toList_data_toByteArray

/-- A byte of a character is the code of the character, or its highest bit is set. -/
theorem toNat_of_mem_utf8EncodeChar {c : Char} {b : UInt8} (h : b ∈ String.utf8EncodeChar c) :
  c.toNat = b.toNat ∨ 128 ≤ b.toNat
  := by
  rw [String.utf8EncodeChar] at h
  simp only [Char.toNat]
  split at h
  · left
    rw [List.mem_singleton.mp h, UInt8.toNat_ofNat']
    omega
  · right
    have hhigh {n : Nat} (hn : 128 ≤ n ∧ n < 256) : 128 ≤ (UInt8.ofNat n).toNat := by
      rw [UInt8.toNat_ofNat', Nat.mod_eq_of_lt hn.2]
      exact hn.1
    -- two, three or four bytes
    revert b
    split
    · simp only [List.forall_mem_cons]
      exact ⟨hhigh (by omega), hhigh (by omega), List.forall_mem_nil _⟩
    · split
      · simp only [List.forall_mem_cons]
        exact ⟨hhigh (by omega), hhigh (by omega), hhigh (by omega), List.forall_mem_nil _⟩
      · simp only [List.forall_mem_cons]
        exact ⟨hhigh (by omega), hhigh (by omega), hhigh (by omega), hhigh (by omega),
          List.forall_mem_nil _⟩

/-- Only a line break has a newline among its bytes. -/
theorem newline_not_mem_ofText {text : String} (h : '\n' ∉ text.toList) :
  newline ∉ ofText text
  := by
  rw [ofText_eq_flatMap, List.mem_flatMap]
  rintro ⟨c, hmem, hbyte⟩
  rcases toNat_of_mem_utf8EncodeChar hbyte with hcode | hhigh
  · obtain rfl : c = '\n' := Char.toNat_inj.mp hcode
    exact h hmem
  · exact absurd hhigh (by decide)

/-- The bytes of a text begin with those of its beginning. -/
theorem ofText_prefix {front text : String} (h : front.toList <+: text.toList) :
  ofText front <+: ofText text
  := by
  obtain ⟨behind, hbehind⟩ := h
  rw [ofText_eq_flatMap, ofText_eq_flatMap, ← hbehind, List.flatMap_append]
  apply List.prefix_append

end Bytes

namespace Moment

/-! ### The parts of a mark -/

theorem lineBreak_not_mem_padded (width n : Nat) :
  '\n' ∉ (padded width n).toList
  := by
  rw [padded, String.toList_ofList, List.mem_append, not_or]
  constructor
  · intro hzero
    cases (List.mem_replicate.mp hzero).2
  · intro hdigit
    cases Nat.isDigit_of_mem_toDigits (by decide) (by decide) hdigit

theorem lineBreak_not_mem_getD {names : List String} (h : ∀ name ∈ names, '\n' ∉ name.toList)
    (place : Nat) :
  '\n' ∉ (names[place]?.getD "").toList
  := by
  cases hname : names[place]? with
  | none => apply List.not_mem_nil
  | some name => apply h name (List.mem_of_getElem? hname)

theorem lineBreak_not_mem_yearText (year : Int) :
  '\n' ∉ (yearText year).toList
  := by
  rw [yearText]
  split
  · apply lineBreak_not_mem_padded
  · rw [String.toList_append, List.mem_append, not_or]
    constructor
    · split
      · decide
      · decide
    · apply lineBreak_not_mem_padded

theorem lineBreak_not_mem_offsetText (offset : Int) :
  '\n' ∉ (offsetText offset).toList
  := by
  rw [offsetText]
  simp only [String.toList_append, List.mem_append, not_or]
  refine ⟨⟨?_, lineBreak_not_mem_padded _ _⟩, lineBreak_not_mem_padded _ _⟩
  split
  · decide
  · decide

/-! ### Marks -/

/-- A time mark has a line break at its end, and none in front of it. -/
theorem exists_mark_eq (m : Moment) :
  ∃ front, m.mark = front ++ "\n" ∧ '\n' ∉ front.toList ∧ "timestamp:".toList <+: front.toList
  := by
  have hweekday : ∀ name ∈ Date.weekdays, '\n' ∉ name.toList := by decide
  have hmonth : ∀ name ∈ Date.months, '\n' ∉ name.toList := by decide
  refine ⟨_, rfl, ?_, ?_⟩
  · simp [lineBreak_not_mem_getD hweekday, lineBreak_not_mem_getD hmonth, lineBreak_not_mem_padded,
      lineBreak_not_mem_yearText, lineBreak_not_mem_offsetText]
  · simp only [String.toList_append, List.append_assoc]
    apply List.prefix_append

/-- A time mark is a line. -/
theorem isLine_mark (m : Moment) :
  (Bytes.ofText m.mark).IsLine
  := by
  obtain ⟨front, hmark, hbreak, -⟩ := m.exists_mark_eq
  have hending : Bytes.ofText "\n" = [newline] := by
    rw [Bytes.ofText_eq]
    rfl
  use Bytes.ofText front, Bytes.newline_not_mem_ofText hbreak
  rw [hmark, Bytes.ofText_append, hending]

/-- All time marks begin in the same way. -/
theorem begins_mark (m : Moment) :
  Bytes.ofText "timestamp:" <+: Bytes.ofText m.mark
  := by
  obtain ⟨front, hmark, -, hbegins⟩ := m.exists_mark_eq
  apply Bytes.ofText_prefix
  rw [hmark, String.toList_append]
  apply hbegins.trans (List.prefix_append _ _)

/-- A time mark ends with a newline. -/
theorem endsLine_mark (m : Moment) :
  (Bytes.ofText m.mark).endsLine = true
  := m.isLine_mark.endsLine

end Moment

end BoundedLog
