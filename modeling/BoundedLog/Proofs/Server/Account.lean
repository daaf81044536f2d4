import BoundedLog.Proofs.Server.Sound
import Mathlib.Algebra.GroupWithZero.Nat

/-!
# Who has committed how much

Each session counts the records that it commits, and the pulse counts its marks. `Server.Account`
says what a step does to the log and to these counts. So in every run the log has appended as many
records as the sessions and the pulse have counted, and those from outside; and the records that are
committed by steps of one worker are as many as its session has counted.
-/

namespace BoundedLog.Server

variable {s s' : Server} {action : Action} {actions : List Action} {log : SharedLog} {disk : Disk}

/-- How many records the sessions have counted, in the order in which their workers were
started. -/
def counts (s : Server) : List Nat := s.crew.jobs.map (·.session.summary.records)

/-- How many marks the pulse has counted. -/
def marksWritten (s : Server) : Nat := (s.heart.map (·.2.written)).getD 0

/-- Whether the worker with a number takes a step. -/
def Action.isWorkOf (id : Nat) : Action → Bool
  | work other => other == id
  | _ => false

/-- Whether a writer from outside writes. -/
def Action.isWrite : Action → Bool
  | write _ _ => true
  | _ => false

/-! ### One step -/

/-- What a step does to the log and to the counts of those who commit records. -/
inductive Account (s : Server) (action : Action) (s' : Server) : Prop
  /-- Nothing is committed. -/
  | quiet (happended : s'.hub.log.window.appended = s.hub.log.window.appended)
      (hcounts : s'.counts = s.counts) (hmarks : s'.marksWritten = s.marksWritten)
  /-- A session begins. -/
  | start (happended : s'.hub.log.window.appended = s.hub.log.window.appended)
      (hcounts : s'.counts = s.counts ++ [0]) (hmarks : s'.marksWritten = s.marksWritten)
  /-- A session takes a step, and may commit a record. -/
  | serve (place : Nat) (haction : action = .work (place + 1)) (record? : Option Record)
      (hlog : s'.hub.log = s.hub.log.committing record?) {count : Nat}
      (hcount : s.counts[place]? = some count)
      (hcounts : s'.counts = s.counts.set place (count + record?.toList.length))
      (hmarks : s'.marksWritten = s.marksWritten)
  /-- The pulse commits a mark. -/
  | mark (now : Moment) (haction : action = .beat now)
      (hlog : s'.hub.log = s.hub.log.committing (some (Bytes.ofText now.mark)))
      (hcounts : s'.counts = s.counts) (hmarks : s'.marksWritten = s.marksWritten + 1)
  /-- A writer from outside may complete a record. -/
  | write (writer : Nat) (bytes : Bytes) (haction : action = .write writer bytes)
      (record? : Option Record) (hlog : s'.hub.log = s.hub.log.committing record?)
      (hcounts : s'.counts = s.counts) (hmarks : s'.marksWritten = s.marksWritten)

theorem counts_congr (h : s'.crew.jobs = s.crew.jobs) :
  s'.counts = s.counts
  := by
  rw [counts, h, counts]

theorem marksWritten_congr (h : s'.heart = s.heart) :
  s'.marksWritten = s.marksWritten
  := by
  rw [marksWritten, h, marksWritten]

theorem counts_of_set {place : Nat} {job : Service}
    (h : s'.crew.jobs = s.crew.jobs.set place job) :
  s'.counts = s.counts.set place job.session.summary.records
  := by
  rw [counts, h, List.map_set, counts]

theorem getElem?_counts {place : Nat} {job : Service} (h : s.crew.jobs[place]? = some job) :
  s.counts[place]? = some job.session.summary.records
  := by
  rw [counts, List.getElem?_map, h, Option.map_some]

theorem account_of_step (hsound : s.Sound) (hstep : s.step action = some s') :
  Account s action s'
  := by
  cases effect_of_step hstep with
  | pass _ hlog _ _ hheart hjobs =>
    apply Account.quiet _ (counts_congr hjobs) (marksWritten_congr hheart)
    rw [hlog]
  | start _ outlet hhub hheart hjobs =>
    apply Account.start _ _ (marksWritten_congr hheart)
    · rw [hhub]
    · rw [counts, hjobs, List.map_append, counts]
      rfl
  | wake _ hhub hheart hjobs =>
    apply Account.quiet _ (counts_congr hjobs) (marksWritten_congr hheart)
    rw [hhub, Hub.wakePulse]
  | feed _ place hjob hsession hjobs hhub hheart =>
    obtain ⟨arrivals, hsession⟩ := hsession
    apply Account.quiet _ _ (marksWritten_congr hheart)
    · rw [hhub]
    · obtain ⟨hlt, hget⟩ := List.getElem?_eq_some_iff.mp (getElem?_counts hjob)
      rw [counts_of_set hjobs, hsession]
      dsimp only
      rw [← hget, List.set_getElem_self]
  | serve place haction hjob hserve hjobs hheart =>
    have hadvances := Service.advances_of_step (hsound.orderly_of_getElem? hjob) hserve
    obtain ⟨record?, hlog, hrecords⟩ := hadvances.commits
    apply Account.serve place haction record? hlog (getElem?_counts hjob) _
      (marksWritten_congr hheart)
    rw [counts_of_set hjobs, hrecords]
  | tick _ pulse hbefore htick hafter hjobs =>
    have hmarks : s'.marksWritten = s.marksWritten := by
      rw [marksWritten, hafter, marksWritten, hbefore]
      rfl
    apply Account.quiet _ (counts_congr hjobs) hmarks
    cases Ticker.change_of_step htick with
    | rise _ hhub => rw [hhub]
    | post _ hhub => rw [hhub, Hub.wakePulse]
  | beat now haction ticker hbefore hbeat hafter hjobs =>
    cases Pulse.change_of_step (hsound.draft_eq _ _ hbefore) hbeat with
    | wake _ hpulse hhub =>
      apply Account.quiet _ (counts_congr hjobs)
      · rw [marksWritten, hafter, hpulse, marksWritten, hbefore]
        rfl
      · rw [hhub, Hub.wakePulse]
    | look _ hpulse hhub =>
      apply Account.quiet _ (counts_congr hjobs)
      · rw [marksWritten, hafter, hpulse, marksWritten, hbefore]
        rfl
      · rw [hhub]
    | write _ hpulse disk hhub =>
      apply Account.mark now haction _ (counts_congr hjobs)
      · rw [marksWritten, hafter, hpulse, marksWritten, hbefore]
        rfl
      · rw [hhub]
  | write writer bytes haction draft hhub hheart hjobs =>
    obtain ⟨disk, hwrite⟩ := s.hub.exists_write_eq draft bytes
    apply Account.write writer bytes haction (draft.add bytes).1 _ (counts_congr hjobs)
      (marksWritten_congr hheart)
    rw [hhub, hwrite]
  | close _ _ _ hhub hheart hjobs =>
    obtain ⟨disk, hclose⟩ := s.hub.exists_close_eq
    apply Account.quiet _ (counts_congr hjobs) (marksWritten_congr hheart)
    rw [hhub, hclose]
    rfl

/-! ### All together -/

theorem sum_set {counts : List Nat} {place count : Nat} (h : counts[place]? = some count)
    (more : Nat) :
  (counts.set place (count + more)).sum = counts.sum + more
  := by
  induction counts generalizing place with
  | nil => cases h
  | cons first rest ih =>
    cases place with
    | zero =>
      obtain rfl := Option.some.inj h
      rw [List.set_cons_zero, List.sum_cons, List.sum_cons, Nat.add_right_comm]
    | succ place =>
      rw [List.set_cons_succ, List.sum_cons, List.sum_cons, ih h, Nat.add_assoc]

/-- What is committed in a step is counted by the session or the pulse that has committed it, or
it comes from outside. -/
theorem Account.appended_eq (h : Account s action s') (hsound : s.Sound) :
  s'.hub.log.window.appended + s.counts.sum + s.marksWritten
    = s.hub.log.window.appended + s'.counts.sum + s'.marksWritten
      + (Step.mk s action s').commit?.toList.countP (·.1.isWrite)
  := by
  cases h with
  | quiet happended hcounts hmarks =>
    rw [Step.commit?_of_appended_eq happended, happended, hcounts, hmarks]
    rfl
  | start happended hcounts hmarks =>
    rw [Step.commit?_of_appended_eq happended, happended, hcounts, hmarks, List.sum_append]
    rfl
  | serve place haction record? hlog hcount hcounts hmarks =>
    rw [Step.countP_commit?_of_committing action Action.isWrite hsound.reachable hlog, hlog,
      SharedLog.appended_committing, hcounts, sum_set hcount, hmarks, haction]
    simp only [Action.isWrite, Bool.false_eq_true, if_false]
    omega
  | mark now haction hlog hcounts hmarks =>
    rw [Step.countP_commit?_of_committing action Action.isWrite hsound.reachable hlog, hlog,
      SharedLog.appended_committing, hcounts, hmarks, haction]
    simp only [Action.isWrite, Bool.false_eq_true, if_false, Option.toList_some,
      List.length_singleton]
    omega
  | write writer bytes haction record? hlog hcounts hmarks =>
    rw [Step.countP_commit?_of_committing action Action.isWrite hsound.reachable hlog, hlog,
      SharedLog.appended_committing, hcounts, hmarks, haction, Action.isWrite, if_pos rfl]
    omega

/-- All that was committed in a run is counted, or comes from outside. -/
theorem appended_eq_of_run (hlog : log.window.Reachable)
    (hrun : (ofLog log disk).run actions = some s) :
  s.hub.log.window.appended = log.window.appended + s.counts.sum + s.marksWritten
    + ((ofLog log disk).commits actions).countP (·.1.isWrite)
  := by
  have hstart := sound_ofLog hlog disk
  apply run_induction (P := fun before t => t.hub.log.window.appended
    = log.window.appended + t.counts.sum + t.marksWritten
      + ((ofLog log disk).commits before).countP (·.1.isWrite)) _ _ hrun
  · have hmarks : (ofLog log disk).marksWritten = 0 := by
      rw [marksWritten, ofLog]
      dsimp only
      split
      · rfl
      · rfl
    rw [hmarks]
    rfl
  · intro before t action t' hbefore ih hstep
    have hsound := hstart.run hbefore
    have happended := (account_of_step hsound hstep).appended_eq hsound
    rw [ih] at happended
    rw [commits_concat hbefore hstep, List.countP_append]
    omega

/-! ### One worker -/

/-- What a worker commits in a step is counted by its session, and nobody else counts it. -/
theorem Account.counts_eq (h : Account s action s') (hsound : s.Sound) (place : Nat) :
  s'.counts[place]?.getD 0
    = s.counts[place]?.getD 0
      + (Step.mk s action s').commit?.toList.countP (·.1.isWorkOf (place + 1))
  := by
  cases h with
  | quiet happended hcounts =>
    rw [Step.commit?_of_appended_eq happended, hcounts]
    rfl
  | start happended hcounts =>
    rw [Step.commit?_of_appended_eq happended, hcounts, List.getElem?_append]
    split
    · rfl
    · next hlt =>
      -- who has just begun has counted nothing, and neither has who is not there
      rw [List.getElem?_eq_none (Nat.le_of_not_lt hlt)]
      cases place - s.counts.length with
      | zero => rfl
      | succ place => rfl
  | serve other haction record? hlog hcount hcounts =>
    rw [Step.countP_commit?_of_committing action (Action.isWorkOf (place + 1)) hsound.reachable
      hlog, hcounts, haction, Action.isWorkOf, List.getElem?_set]
    simp only [beq_iff_eq, Nat.add_right_cancel_iff]
    split
    · next heq =>
      subst heq
      rw [if_pos (List.getElem?_eq_some_iff.mp hcount).1, hcount]
      rfl
    · rfl
  | mark now haction hlog hcounts =>
    rw [Step.countP_commit?_of_committing action (Action.isWorkOf (place + 1)) hsound.reachable
      hlog, hcounts, haction]
    rfl
  | write writer bytes haction record? hlog hcounts =>
    rw [Step.countP_commit?_of_committing action (Action.isWorkOf (place + 1)) hsound.reachable
      hlog, hcounts, haction]
    rfl

/-- The session of a worker has counted the records that were committed by its steps. -/
theorem countP_commits_of_run (hlog : log.window.Reachable)
    (hrun : (ofLog log disk).run actions = some s) (place : Nat) :
  ((ofLog log disk).commits actions).countP (·.1.isWorkOf (place + 1))
    = s.counts[place]?.getD 0
  := by
  have hstart := sound_ofLog hlog disk
  apply run_induction (P := fun before t =>
    ((ofLog log disk).commits before).countP (·.1.isWorkOf (place + 1))
      = t.counts[place]?.getD 0) _ _ hrun
  · rfl
  · intro before t action t' hbefore ih hstep
    have hsound := hstart.run hbefore
    rw [commits_concat hbefore hstep, List.countP_append, ih,
      (account_of_step hsound hstep).counts_eq hsound]

end BoundedLog.Server
