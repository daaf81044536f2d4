import BoundedLog.Cursor
import BoundedLog.Proofs.SharedLog
import BoundedLog.Proofs.Window.Locate

/-!
# Reading piece by piece

A read hands out bytes of one record, and the cursor moves on by as many. So what was left before
the read is what it handed out and what is left behind it, and this holds of any number of reads.
A read hands out nothing only if nothing is left: where a record ends, the next byte is looked for in
the newer ones, and empty records are passed over. Every other read moves the cursor, so after as
many reads as there were bytes left all of them are handed out.
-/

namespace BoundedLog

/-! ### One read -/

namespace SharedLog

variable {log : SharedLog}

theorem length_readFrom (h : log.window.Reachable) (position : Nat) :
  (log.readFrom position).length = log.window.size - position
  := by
  rw [readFrom, List.length_drop, snapshot, Window.content, ← h.holds.size_eq]

/-- A read finds nothing, at the end of the log or behind it, or it hands out the front of what is
left of one record. -/
theorem read_cases (h : log.window.Reachable) (position limit : Nat) :
  (log.window.size ≤ position ∧ log.read position limit = [])
  ∨ ∃ record ∈ log.window.toList, ∃ offset < record.length, ∃ newer,
      log.readFrom position = record.drop offset ++ newer
        ∧ log.read position limit = (record.drop offset).take limit
  := by
  rw [read]
  cases hlocated : log.window.locate? position with
  | none =>
    left
    constructor
    · apply h.holds.locate?_eq_none_iff.mp hlocated
    · rfl
  | some located =>
    obtain ⟨hrecord, hoffset, rfl⟩ := h.holds.locate?_eq_some_iff.mp hlocated
    right
    use located.record, List.mem_of_getElem? hrecord, located.offset, hoffset
    use (log.window.toList.drop (located.index + 1)).flatten, drop_flatten_place hrecord hoffset

/-- A read hands out the front of what is left. -/
theorem read_prefix_readFrom (h : log.window.Reachable) (position limit : Nat) :
  log.read position limit <+: log.readFrom position
  := by
  rcases log.read_cases h position limit with
    ⟨-, hnone⟩ | ⟨record, -, offset, -, newer, hleft, hread⟩
  · rw [hnone]
    apply List.nil_prefix
  · rw [hread, hleft]
    apply List.prefix_append_of_prefix
    apply List.take_prefix

/-- What is left is what a read hands out and what is left behind it. -/
theorem read_append_readFrom (h : log.window.Reachable) (position limit : Nat) :
  log.read position limit ++ log.readFrom (position + (log.read position limit).length)
    = log.readFrom position
  := by
  rw [readFrom, ← List.drop_drop]
  apply List.prefix_iff_eq_append.mp
  apply log.read_prefix_readFrom h

/-- All that a read hands out is of one record. -/
theorem exists_infix_of_read (h : log.window.Reachable) {position limit : Nat}
    (hread : log.read position limit ≠ []) :
  ∃ record ∈ log.window.toList, log.read position limit <:+: record
  := by
  rcases log.read_cases h position limit with
    ⟨-, hnone⟩ | ⟨record, hrecord, offset, -, newer, -, htake⟩
  · exact absurd hnone hread
  · use record, hrecord
    rw [htake]
    apply List.IsInfix.trans (List.take_prefix _ _).isInfix (List.drop_suffix _ _).isInfix

/-- A read that is allowed a byte hands out nothing exactly at the end of the log and behind it. -/
theorem read_eq_nil_iff (h : log.window.Reachable) (position limit : Nat) :
  log.read position limit = [] ↔ limit = 0 ∨ log.window.size ≤ position
  := by
  rcases log.read_cases h position limit with
    ⟨hend, hnone⟩ | ⟨record, -, offset, hoffset, newer, hleft, htake⟩
  · exact iff_of_true hnone (.inr hend)
  · have hlength := congrArg List.length hleft
    rw [length_readFrom h, List.length_append, List.length_drop] at hlength
    rw [htake, List.take_eq_nil_iff, List.drop_eq_nil_iff]
    omega

end SharedLog

/-! ### Any number of reads -/

namespace Cursor

variable {log : SharedLog}

/-- Reads again and again, each time at most as many bytes as the next limit says: what each read
handed out, and the cursor behind all of them. -/
def reads (c : Cursor) (log : SharedLog) : List Nat → List Bytes × Cursor
  | [] => ([], c)
  | limit :: limits =>
    let first := c.read log limit
    let others := first.2.reads log limits
    (first.1 :: others.1, others.2)

theorem reads_take (c : Cursor) (log : SharedLog) (limits : List Nat) (n : Nat) :
  (c.reads log (limits.take n)).1 = (c.reads log limits).1.take n
  := by
  induction limits generalizing c n with
  | nil => simp [reads]
  | cons limit limits ih =>
    cases n with
    | zero => rfl
    | succ n => rw [List.take_succ_cons, reads, ih, reads, List.take_succ_cons]

/-- What one of the reads hands out is what the cursor behind the earlier ones hands out. -/
theorem getElem?_reads (c : Cursor) (log : SharedLog) (limits : List Nat) (n : Nat) :
  (c.reads log limits).1[n]?
    = limits[n]?.map fun limit => ((c.reads log (limits.take n)).2.read log limit).1
  := by
  induction limits generalizing c n with
  | nil => simp [reads]
  | cons limit limits ih =>
    cases n with
    | zero => rfl
    | succ n =>
      rw [reads, List.getElem?_cons_succ, ih, List.getElem?_cons_succ, List.take_succ_cons, reads]

/-- The cursor moves on by what is handed out. -/
theorem position_reads (c : Cursor) (log : SharedLog) (limits : List Nat) :
  (c.reads log limits).2.position = c.position + (c.reads log limits).1.flatten.length
  := by
  induction limits generalizing c with
  | nil => rfl
  | cons limit limits ih =>
    rw [reads, ih, read, List.flatten_cons, List.length_append, Nat.add_assoc]

/-- What is left is what the reads hand out and what is left behind them. -/
theorem flatten_reads_append (h : log.window.Reachable) (c : Cursor) (limits : List Nat) :
  (c.reads log limits).1.flatten ++ log.readFrom (c.reads log limits).2.position
    = log.readFrom c.position
  := by
  induction limits generalizing c with
  | nil => rfl
  | cons limit limits ih =>
    rw [reads, List.flatten_cons, List.append_assoc, ih]
    apply log.read_append_readFrom h

/-- Every read that is allowed a byte moves the cursor, until it is at the end of the log. -/
theorem le_position_reads (h : log.window.Reachable) (c : Cursor) {limits : List Nat}
    (hlimits : ∀ limit ∈ limits, 0 < limit) :
  min log.window.size (c.position + limits.length) ≤ (c.reads log limits).2.position
  := by
  induction limits generalizing c with
  | nil => apply Nat.min_le_right
  | cons limit limits ih =>
    rw [List.forall_mem_cons] at hlimits
    have hothers := ih (c.read log limit).2 hlimits.2
    have hfirst := log.read_eq_nil_iff h c.position limit
    rw [← List.length_eq_zero_iff] at hfirst
    have hposition : (c.read log limit).2.position
        = c.position + (log.read c.position limit).length := rfl
    rw [List.length_cons]
    show _ ≤ ((c.read log limit).2.reads log limits).2.position
    omega

/-- As many reads as there are bytes left hand out all of them. -/
theorem flatten_reads_eq (h : log.window.Reachable) (c : Cursor) {limits : List Nat}
    (hlimits : ∀ limit ∈ limits, 0 < limit)
    (henough : log.window.size - c.position ≤ limits.length) :
  (c.reads log limits).1.flatten = log.readFrom c.position
  := by
  have hmoved := le_position_reads h c hlimits
  have hend : log.window.size ≤ (c.reads log limits).2.position := by
    omega
  rw [← flatten_reads_append h c limits, List.self_eq_append_right, ← List.length_eq_zero_iff,
    log.length_readFrom h]
  apply Nat.sub_eq_zero_of_le hend

/-- Reading piece by piece hands out what is left of the log, which is the snapshot without the bytes
in front of the position. Every read hands out bytes of one record, and none exactly at the end of
the log and behind it. What the reads have handed out is at every point the front of what was left,
and after as many reads as there were bytes left it is all of it. -/
theorem reads_deliver (h : log.Reachable) (c : Cursor) {limits : List Nat}
    (hlimits : ∀ limit ∈ limits, 0 < limit) :
  let results := (c.reads log limits).1
  let last := (c.reads log limits).2
  log.readFrom c.position = log.snapshot.drop (min c.position log.stats.size)
  ∧ (∀ n limit, limits[n]? = some limit →
      let before := (c.reads log (limits.take n)).2
      let bytes := (before.read log limit).1
      results[n]? = some bytes
        ∧ before.position = c.position + (results.take n).flatten.length
        ∧ bytes.length ≤ limit
        ∧ (bytes ≠ [] → ∃ record ∈ log.window.toList, bytes <:+: record)
        ∧ (bytes = [] ↔ log.stats.size ≤ before.position))
  ∧ (∀ n, (results.take n).flatten <+: log.readFrom c.position)
  ∧ (log.stats.size - c.position ≤ limits.length →
      results.flatten = log.readFrom c.position
        ∧ last.position = max c.position log.stats.size)
  := by
  intro results last
  have hwindow := h.window
  have hsize : log.snapshot.length = log.window.size := log.length_readFrom hwindow 0
  refine ⟨?_, ?_, ?_, ?_⟩
  · show log.snapshot.drop _ = log.snapshot.drop (min c.position log.window.size)
    rw [← hsize, ← List.drop_eq_drop_min]
  · intro n limit hlimit before bytes
    refine ⟨?_, ?_, log.length_read_le _ _, log.exists_infix_of_read hwindow, ?_⟩
    · show (c.reads log limits).1[n]? = _
      rw [getElem?_reads, hlimit, Option.map_some]
    · show (c.reads log (limits.take n)).2.position = _
      rw [position_reads, reads_take]
    · have hpositive := hlimits limit (List.mem_of_getElem? hlimit)
      show (before.read log limit).1 = [] ↔ _
      rw [read, log.read_eq_nil_iff hwindow, or_iff_right (Nat.ne_of_gt hpositive)]
      rfl
  · intro n
    rw [← reads_take, ← flatten_reads_append hwindow c (limits.take n)]
    apply List.prefix_append
  · intro henough
    have hall : results.flatten = log.readFrom c.position :=
      flatten_reads_eq hwindow c hlimits henough
    use hall
    show (c.reads log limits).2.position = max c.position log.window.size
    rw [position_reads]
    show c.position + results.flatten.length = _
    rw [hall, log.length_readFrom hwindow]
    omega

/-- Two records are read from the second byte on. The second read stays in the first record though it
may hand out more, and the last one finds nothing. -/
theorem reads_deliver_two_records :
  let disk : Disk := { tree := .empty }
  let first := ((SharedLog.accept (.ofCapacity 2) {} [97, 98, newline]).run disk).1.2.1
  let log := ((first.accept {} [99, newline]).run disk).1.2.1
  let c : Cursor := { position := 1 }
  let limits := [1, 5, 3, 1]
  (c.reads log limits).1 = [[98], [newline], [99, newline], []]
    ∧ (c.reads log limits).1.flatten = log.readFrom 1
    ∧ (c.reads log limits).2.position = 5
  := by
  intro disk first log c limits
  have hlog : log.Reachable := .accept (.accept (.ofCapacity 2 none) _ _ _) _ _ _
  have hsize : log.stats.size = 5 := by
    decide
  have hresults : (c.reads log limits).1 = [[98], [newline], [99, newline], []] := by
    decide
  have hlimits : ∀ limit ∈ limits, 0 < limit := by
    decide
  obtain ⟨-, -, -, hall⟩ := reads_deliver hlog c hlimits
  rw [hsize] at hall
  obtain ⟨hflatten, hposition⟩ := hall (by decide)
  exact ⟨hresults, hflatten, hposition⟩

end Cursor

end BoundedLog
