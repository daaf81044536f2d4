import BoundedLog.Proofs.Window
import BoundedLog.SharedLog

/-!
# What a write comes to

The bytes of a call are added to the draft of the writer, and the draft alone decides whether they
complete a record and what is left of the draft. The log takes part only by appending the record,
if there is one; so does the replica, if there is one, by being brought up to date.
-/

namespace BoundedLog

/-- What a draft comes to when bytes are added to it: the record that they complete, if they do,
and the draft that is left. -/
def Draft.add (draft : Draft) (bytes : Bytes) : Option Record × Draft :=
  if bytes.isEmpty then (none, draft)
  else if Bytes.endsLine (draft.bytes ++ bytes) then (some (draft.bytes ++ bytes), {})
  else (none, ⟨draft.bytes ++ bytes⟩)

/-- Adding bytes neither loses nor makes any. -/
theorem Draft.flatten_add (draft : Draft) (bytes : Bytes) :
  (draft.add bytes).1.getD [] ++ (draft.add bytes).2.bytes = draft.bytes ++ bytes
  := by
  rw [Draft.add]
  by_cases hempty : bytes.isEmpty = true
  · rw [if_pos hempty, List.isEmpty_iff.mp hempty]
    simp
  · rw [if_neg hempty]
    split
    · simp
    · rfl

/-- The records that chunks complete in a draft, one after the other, and the draft that is left. -/
def Draft.addAll (draft : Draft) : List Bytes → List Record × Draft
  | [] => ([], draft)
  | chunk :: chunks =>
    let rest := addAll (draft.add chunk).2 chunks
    ((draft.add chunk).1.toList ++ rest.1, rest.2)

/-- The records and what is left are the draft and the chunks. -/
theorem Draft.flatten_addAll (draft : Draft) (chunks : List Bytes) :
  (draft.addAll chunks).1.flatten ++ (draft.addAll chunks).2.bytes = draft.bytes ++ chunks.flatten
  := by
  induction chunks generalizing draft with
  | nil => exact (List.append_nil _).symm
  | cons chunk chunks ih =>
    have hadd := draft.flatten_add chunk
    rw [addAll, List.flatten_append, List.append_assoc, ih, List.flatten_cons, ← List.append_assoc,
      ← List.append_assoc, ← hadd]
    cases (draft.add chunk).1 with
    | none => rfl
    | some record => simp

/-- A line completes a record at once. -/
theorem Draft.add_line {line : Bytes} (h : line.endsLine = true) :
  Draft.add {} line = (some line, {})
  := by
  have hline : line.isEmpty = false := by
    cases line with
    | nil => cases h
    | cons b rest => rfl
  rw [Draft.add, hline, List.nil_append, h]
  rfl

namespace SharedLog

/-- The log behind a record, if there is one. -/
def committing (log : SharedLog) : Option Record → SharedLog
  | none => log
  | some record => { log with window := (log.window.append record).1 }

/-- All bytes are accepted, and the log appends the record that they complete in the draft. -/
theorem accept_fst (log : SharedLog) (draft : Draft) (bytes : Bytes) (d : Disk) :
  ((log.accept draft bytes).run d).1
    = (bytes.length, log.committing (draft.add bytes).1, (draft.add bytes).2)
  := by
  rw [accept, Draft.add]
  by_cases hempty : bytes.isEmpty = true
  · rw [if_pos hempty, if_pos hempty, List.isEmpty_iff.mp hempty]
    rfl
  · rw [if_neg hempty, if_neg hempty]
    by_cases hend : Bytes.endsLine (draft.bytes ++ bytes) = true
    · simp only [if_pos hend]
      rfl
    · simp only [if_neg hend]
      rfl

theorem write_fst (log : SharedLog) (draft : Draft) (bytes : Bytes) (d : Disk) :
  ((log.write draft bytes).run d).1
    = (log.committing (draft.add bytes).1, (draft.add bytes).2)
  := congrArg Prod.snd (log.accept_fst draft bytes d)

/-- The record that was committed between two instants of a log, as the log shows it. -/
def committed? (before after : SharedLog) : Option Record :=
  if after.stats.appended = before.stats.appended then none else after.window.toList.getLast?

theorem appended_committing (log : SharedLog) (record? : Option Record) :
  (log.committing record?).window.appended = log.window.appended + record?.toList.length
  := by
  cases record? with
  | none => rfl
  | some record => apply Window.appended_append

theorem capacity_committing (log : SharedLog) (record? : Option Record) :
  (log.committing record?).window.capacity = log.window.capacity
  := by
  cases record? with
  | none => rfl
  | some record => apply Window.capacity_append

/-- What was committed last is the last record of the log. -/
theorem committed?_committing {log : SharedLog} {records : List Record}
    (h : log.window.Holds records) (record? : Option Record) :
  committed? log (log.committing record?) = record?
  := by
  have happended := log.appended_committing record?
  cases record? with
  | none => exact if_pos rfl
  | some record =>
    have hpos : 0 < log.window.capacity := Nat.zero_lt_of_lt h.tail_lt
    have hlist : (log.committing (some record)).window.toList
        = (records ++ [record]).rtake log.window.capacity := (h.append record).toList_eq
    obtain ⟨n, hn⟩ := Nat.exists_eq_add_one.mpr hpos
    rw [committed?, if_neg, hlist, hn, List.rtake_concat_succ, List.getLast?_concat]
    show (log.committing (some record)).window.appended ≠ log.window.appended
    rw [happended]
    simp

/-- The record that was evicted between two instants of a log, as the log shows it. -/
def evicted? (before after : SharedLog) : Option Record :=
  if after.stats.evicted = before.stats.evicted then none else before.window.toList.head?

/-- What was evicted is what the window handed back. -/
theorem evicted?_committing {log : SharedLog} {records : List Record}
    (h : log.window.Holds records) (record? : Option Record) :
  evicted? log (log.committing record?)
    = record?.bind fun record => (log.window.append record).2
  := by
  cases record? with
  | none => exact if_pos rfl
  | some record =>
    have hcount : (log.committing (some record)).stats.evicted
        = log.stats.evicted + if (log.window.append record).2.isSome then 1 else 0 :=
      Window.evicted_append log.window record
    have holdest := h.append_snd record
    rw [evicted?, hcount, Option.bind_some, h.toList_eq]
    cases hsnd : (log.window.append record).2 with
    | none => exact if_pos rfl
    | some oldest =>
      rw [hsnd] at holdest
      split at holdest
      · rw [← holdest]
        apply if_neg
        simp
      · cases holdest

/-- No byte of a log is lost: what is evicted was in front of the others, and what is committed goes
behind them. -/
theorem evicted?_append_snapshot {log : SharedLog} {records : List Record}
    (h : log.window.Holds records) (record? : Option Record) :
  (evicted? log (log.committing record?)).getD [] ++ (log.committing record?).snapshot
    = log.snapshot ++ record?.getD []
  := by
  rw [evicted?_committing h]
  cases record? with
  | none => exact (List.append_nil _).symm
  | some record => exact h.content_append record

/-- The log has counted these records and holds the last of them. -/
def Shows (log : SharedLog) (all : List Record) : Prop :=
  log.window.Holds (all.rtake log.window.capacity) ∧ log.window.appended = all.length

theorem shows_nil (capacity : Nat) (replica : Option Replica) :
  Shows { window := .ofCapacity capacity, replica } []
  := by
  constructor
  · rw [List.rtake_nil]
    apply Window.holds_ofCapacity
  · rfl

/-- A record goes behind those that the log has held, and the log holds the last of them. -/
theorem holds_committing {log : SharedLog} {all : List Record}
    (h : log.window.Holds (all.rtake log.window.capacity)) (record? : Option Record) :
  (log.committing record?).window.Holds ((all ++ record?.toList).rtake log.window.capacity)
  := by
  cases record? with
  | none =>
    rw [Option.toList_none, List.append_nil]
    exact h
  | some record =>
    rw [Option.toList_some, ← Window.rtake_rtake_concat]
    apply h.append

theorem Shows.committing {log : SharedLog} {all : List Record} (h : log.Shows all)
    (record? : Option Record) :
  (log.committing record?).Shows (all ++ record?.toList)
  := by
  obtain ⟨hholds, happended⟩ := h
  constructor
  · rw [capacity_committing]
    apply holds_committing hholds
  · rw [appended_committing, happended, List.length_append]

/-! ### Reachable logs -/

theorem reachable_committing {log : SharedLog} (h : log.window.Reachable)
    (record? : Option Record) :
  (log.committing record?).window.Reachable
  := by
  cases record? with
  | none => exact h
  | some record => exact h.append record

/-- The logs to which writing and closing lead from an empty one, whatever drafts the bytes are added
to and whatever becomes of the disk. -/
inductive Reachable : SharedLog → Prop
  | ofCapacity (capacity : Nat) (replica : Option Replica) :
    Reachable { window := .ofCapacity capacity, replica }
  | accept {log : SharedLog} (h : Reachable log) (draft : Draft) (bytes : Bytes) (d : Disk) :
    Reachable ((log.accept draft bytes).run d).1.2.1
  | close {log : SharedLog} (h : Reachable log) (d : Disk) : Reachable (log.close.run d).1.1

theorem window_close (log : SharedLog) (d : Disk) :
  (log.close.run d).1.1.window = log.window.clear
  := by
  rw [close]
  split
  · rfl
  · rfl

theorem Reachable.window {log : SharedLog} (h : log.Reachable) :
  log.window.Reachable
  := by
  induction h with
  | ofCapacity capacity replica => exact .ofCapacity capacity
  | accept _ draft bytes d ih =>
    rw [accept_fst]
    apply reachable_committing ih
  | close _ d ih =>
    rw [window_close]
    exact .clear ih

/-- A reachable log holds the last of the records that it holds. -/
theorem Reachable.holds_rtake {log : SharedLog} (h : log.Reachable) :
  log.window.Holds (log.window.toList.rtake log.window.capacity)
  := by
  rw [List.rtake, Nat.sub_eq_zero_of_le h.window.holds.length_le]
  apply h.window.holds

end SharedLog

end BoundedLog
