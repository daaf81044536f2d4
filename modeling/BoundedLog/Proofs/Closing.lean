import BoundedLog.Proofs.Independence

/-!
# Logs that were closed

A log that is closed has no records and no replica, however the removal of its replica went. From
then on it is like a new log of the same capacity, apart from what it has counted before: whatever
writers, readers and closers do with either of them, they are told the same, and neither touches the
disk. Bytes that a writer has added to its draft before the log was closed are still there and may
become part of a record, but that record has no replica any more.
-/

namespace BoundedLog

/-! ### Counts -/

namespace Window

/-- The window, with others appended and evicted records counted as well. -/
def counting (w : Window) (appended evicted : Nat) : Window :=
  { w with appended := w.appended + appended, evicted := w.evicted + evicted }

variable (w : Window) (appended evicted : Nat)

/-- Clearing leaves a new window that has counted what was counted before. -/
theorem clear_eq (hpos : 0 < w.capacity) :
  w.clear = (ofCapacity w.capacity).counting w.appended w.evicted
  := by
  rw [ofCapacity, Nat.max_eq_left hpos, counting, clear, Nat.zero_add, Nat.zero_add]

theorem append_counting (record : Record) :
  (w.counting appended evicted).append record
    = ((w.append record).1.counting appended evicted, (w.append record).2)
  := by
  have hroom : (w.counting appended evicted).makeRoom
      = (w.makeRoom.1.counting appended evicted, w.makeRoom.2) := by
    have hsame : (w.counting appended evicted).full = w.full := rfl
    by_cases hfull : w.full = true
    · rw [makeRoom, makeRoom, if_pos (hsame.trans hfull), if_pos hfull]
      simp only [counting, slot, capacity, Nat.add_right_comm _ evicted]
      rfl
    · rw [makeRoom_of_not_full (hsame ▸ hfull), makeRoom_of_not_full hfull]
  rw [append, append, hroom]
  simp only [counting, put, capacity, Nat.add_right_comm _ appended]

end Window

/-! ### Closing and what comes later -/

/-- Something that is done with a log. -/
inductive Deed (Writer : Type)
  | call (c : Call Writer)
  | ask (question : Question)
  | close

/-- What one is told about it. -/
inductive Report
  | answer (answer : Answer)
  | closed (outcome : Except ResourceFault Unit)

namespace Desk

variable {Writer : Type} [DecidableEq Writer] {w v : Desk Writer} {appended evicted : Nat}

/-- Does one thing with the log of a desk. -/
def carryOut (w : Desk Writer) : Deed Writer → StateM Disk (Report × Desk Writer)
  | .call c => do
    let (answer, w) ← w.perform (.inl c)
    return (.answer answer, w)
  | .ask question => do
    let (answer, w) ← w.perform (.inr question)
    return (.answer answer, w)
  | .close => do
    let (log, outcome) ← w.log.close
    return (.closed outcome, { w with log })

/-- Does one thing after the other. -/
def carryOutAll (w : Desk Writer) : List (Deed Writer) → StateM Disk (List Report × Desk Writer)
  | [] => return ([], w)
  | deed :: deeds => do
    let (report, w) ← w.carryOut deed
    let (reports, w) ← w.carryOutAll deeds
    return (report :: reports, w)

/-- The same records without a replica and the same drafts, but the first log has counted others as
well. -/
structure Outlives (appended evicted : Nat) (w v : Desk Writer) : Prop where
  window_eq : w.log.window = v.log.window.counting appended evicted
  drafts_eq : w.drafts = v.drafts
  replica_eq : w.log.replica = none ∧ v.log.replica = none

end Desk

namespace SharedLog

/-- A log without a replica leaves the disk alone. -/
theorem accept_snd_of_none {log : SharedLog} (h : log.replica = none) (draft : Draft)
    (bytes : Bytes) (d : Disk) :
  ((log.accept draft bytes).run d).2 = d
  := by
  obtain ⟨window, _⟩ := log
  cases h
  rw [accept]
  split
  · rfl
  · dsimp only
    split
    · rfl
    · rfl

theorem close_of_none {log : SharedLog} (h : log.replica = none) (d : Disk) :
  log.close.run d = (({ window := log.window.clear }, .ok ()), d)
  := by
  rw [close, h]
  rfl

theorem replica_close (log : SharedLog) (d : Disk) :
  (log.close.run d).1.1.replica = none
  := by
  rw [close]
  split
  · rfl
  · rfl

variable {log other : SharedLog} {appended evicted : Nat}

/-- What a reader is told has to do with the records and not with the counts. -/
theorem answer_counting (h : log.window = other.window.counting appended evicted)
    (question : Question) :
  log.answer question = other.answer question
  := by
  obtain ⟨window, replica⟩ := log
  cases h
  cases question with
  | read position limit | seek index offset => rfl
  | snapshot | count | size => rfl
  | readFrom position => rfl

theorem window_committing_counting (h : log.window = other.window.counting appended evicted)
    (record? : Option Record) :
  (log.committing record?).window = (other.committing record?).window.counting appended evicted
  := by
  cases record? with
  | none => exact h
  | some record =>
    rw [committing, h, Window.append_counting]
    rfl

end SharedLog

namespace Desk

variable {Writer : Type} [DecidableEq Writer] {w v : Desk Writer} {appended evicted : Nat}

theorem run_carryOut_call (w : Desk Writer) (c : Call Writer) (d : Disk) :
  (w.carryOut (.call c)).run d
    = let performed := (w.perform (.inl c)).run d
      ((.answer performed.1.1, performed.1.2), performed.2)
  := rfl

theorem run_carryOut_close (w : Desk Writer) (d : Disk) :
  (w.carryOut .close).run d
    = let closing := w.log.close.run d
      ((.closed closing.1.2, { w with log := closing.1.1 }), closing.2)
  := rfl

/-- Whatever is done with both logs, the same is reported, a closing goes well, the disk is left
alone, and the one log stays like the other. -/
theorem Outlives.carryOut (h : Outlives appended evicted w v) (deed : Deed Writer) (d d' : Disk) :
  let result := (w.carryOut deed).run d
  let other := (v.carryOut deed).run d'
  result.2 = d
    ∧ result.1.1 = other.1.1
    ∧ (∀ outcome, result.1.1 = .closed outcome → outcome = .ok ())
    ∧ Outlives appended evicted result.1.2 other.1.2
  := by
  intro result other
  obtain ⟨hreplica, hreplica'⟩ := h.replica_eq
  cases deed with
  | call c =>
    have hdisk : result.2 = d := SharedLog.accept_snd_of_none hreplica _ _ d
    simp only [result, other, run_carryOut_call, perform_call_fst, h.drafts_eq] at hdisk ⊢
    refine ⟨hdisk, trivial, nofun, ?_, rfl, ?_, ?_⟩
    · apply SharedLog.window_committing_counting h.window_eq
    · rw [SharedLog.replica_committing, hreplica]
    · rw [SharedLog.replica_committing, hreplica']
  | ask question =>
    exact ⟨rfl, congrArg Report.answer (SharedLog.answer_counting h.window_eq question), nofun, h⟩
  | close =>
    simp only [result, other, run_carryOut_close, SharedLog.close_of_none hreplica,
      SharedLog.close_of_none hreplica']
    refine ⟨trivial, trivial, ?_, ?_, h.drafts_eq, rfl, rfl⟩
    · rintro outcome ⟨⟩
      rfl
    · show w.log.window.clear = v.log.window.clear.counting appended evicted
      rw [h.window_eq]
      rfl

theorem carryOutAll_cons (w : Desk Writer) (deed : Deed Writer) (deeds : List (Deed Writer))
    (d : Disk) :
  let first := (w.carryOut deed).run d
  let others := (first.1.2.carryOutAll deeds).run first.2
  (w.carryOutAll (deed :: deeds)).run d = ((first.1.1 :: others.1.1, others.1.2), others.2)
  := rfl

theorem Outlives.carryOutAll (h : Outlives appended evicted w v) (deeds : List (Deed Writer))
    (d d' : Disk) :
  let result := (w.carryOutAll deeds).run d
  let other := (v.carryOutAll deeds).run d'
  result.2 = d
    ∧ result.1.1 = other.1.1
    ∧ (∀ outcome, .closed outcome ∈ result.1.1 → outcome = .ok ())
    ∧ Outlives appended evicted result.1.2 other.1.2
  := by
  induction deeds generalizing w v d d' with
  | nil => exact ⟨rfl, rfl, nofun, h⟩
  | cons deed deeds ih =>
    obtain ⟨hdisk, hreport, hok, hfirst⟩ := h.carryOut deed d d'
    obtain ⟨hdisk', hreports, hoks, hlast⟩ :=
      ih hfirst ((w.carryOut deed).run d).2 ((v.carryOut deed).run d').2
    rw [carryOutAll_cons, carryOutAll_cons]
    refine ⟨hdisk'.trans hdisk, List.cons_eq_cons.mpr ⟨hreport, hreports⟩, ?_, hlast⟩
    intro outcome hmem
    rcases List.mem_cons.mp hmem with heq | hmem
    · apply hok outcome heq.symm
    · apply hoks outcome hmem

/-- Closing a log detaches it for good. However the removal of its replica goes, there are no records
any more and no replica, and the counts are as before. Whatever is done with the log from then on, by
writers with whatever drafts, by readers and by closers: the disk is left alone, every further
closing goes well, and everybody is told what they would be told of a new log of that capacity, which
holds the same records but has not counted what was counted before. -/
theorem close_detaches {log : SharedLog} (hreachable : log.Reachable) (drafts : Writer → Draft)
    (d : Disk) :
  let closed := (log.close.run d).1.1
  closed.stats
      = { log.stats with count := 0, size := 0, replicated := false }
    ∧ closed.window.toList = []
    ∧ ∀ (deeds : List (Deed Writer)) (now : Disk),
      let result := (carryOutAll { log := closed, drafts } deeds).run now
      let other := (carryOutAll { log := .ofCapacity log.stats.capacity, drafts } deeds).run now
      let w := result.1.2
      let v := other.1.2
      result.2 = now
      ∧ (∀ outcome, .closed outcome ∈ result.1.1 → outcome = .ok ())
      ∧ result.1.1 = other.1.1
      ∧ w.drafts = v.drafts
      ∧ w.log.replica = none
      ∧ w.log.window = { v.log.window with
          appended := v.log.window.appended + log.stats.appended
          evicted := v.log.window.evicted + log.stats.evicted }
  := by
  intro closed
  have hpos : 0 < log.window.capacity :=
    Nat.zero_lt_of_lt hreachable.window.holds.tail_lt
  have hempty : closed.window.Holds [] := by
    rw [SharedLog.window_close]
    apply hreachable.window.holds.clear
  have hreplica : closed.replica = none := log.replica_close d
  refine ⟨?_, hempty.toList_eq, ?_⟩
  · rw [SharedLog.stats, hempty.count_eq, hempty.size_eq, hreplica, SharedLog.window_close,
      Window.capacity_clear]
    rfl
  · intro deeds now result other w v
    have hstart : Outlives log.window.appended log.window.evicted
        ({ log := closed, drafts } : Desk Writer)
        { log := .ofCapacity log.stats.capacity, drafts } := by
      refine ⟨?_, rfl, hreplica, rfl⟩
      show closed.window = _
      rw [SharedLog.window_close, Window.clear_eq _ hpos]
      rfl
    obtain ⟨hdisk, hreports, hoks, hlast⟩ := hstart.carryOutAll deeds now now
    exact ⟨hdisk, hoks, hreports, hlast.drafts_eq, hlast.replica_eq.1, hlast.window_eq⟩

/-- The replica cannot be removed, for a directory is at its path, and a writer has begun a record. It
completes the record, which readers see and which nobody tries to show in a file any more. -/
theorem close_detaches_behind_failure :
  let d : Disk := { tree := ⟨[(["d"], .directory)]⟩ }
  let log := (((SharedLog.withReplica 1 ⟨⟨"d"⟩⟩).accept {} [97, newline]).run d).1.2.1
  let closing := log.close.run d
  let deeds : List (Deed Unit) := [.call ⟨(), [newline]⟩, .ask .snapshot, .close]
  let result := (carryOutAll { log := closing.1.1, drafts := fun _ => ⟨[98]⟩ } deeds).run d
  (log.Reachable ∧ log.snapshot = [97, newline] ∧ closing.1.2.isOk = false)
    ∧ result.2 = d
    ∧ result.1.1 = [.answer (.number 1), .answer (.bytes [98, newline]), .closed (.ok ())]
    ∧ result.1.2.log.window.appended = 2
  := by
  intro d log closing deeds result
  have hreachable : log.Reachable := .accept (.ofCapacity 1 (some ⟨⟨"d"⟩⟩)) {} [97, newline] d
  have hfailed : closing.1.2.isOk = false := by decide +kernel +zetaReduce
  obtain ⟨-, -, hlater⟩ := close_detaches hreachable (fun _ : Unit => ⟨[98]⟩) d
  have hlog : log = (SharedLog.withReplica 1 ⟨⟨"d"⟩⟩).committing (some [97, newline]) :=
    congrArg (·.2.1) (SharedLog.accept_fst _ {} [97, newline] d)
  obtain ⟨hdisk, -, hreports, -, -, hwindow⟩ := hlater deeds d
  rw [hlog] at hreports hwindow
  refine ⟨⟨hreachable, ?_, hfailed⟩, hdisk, hreports, congrArg Window.appended hwindow⟩
  rw [hlog]
  rfl

end Desk

end BoundedLog
