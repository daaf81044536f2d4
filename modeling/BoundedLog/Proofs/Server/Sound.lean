import BoundedLog.Proofs.Server.Effect
import BoundedLog.Proofs.Server.History
import BoundedLog.Proofs.Server.Service
import BoundedLog.Proofs.TimeMark

/-!
# What holds of the log and of its writers between two steps

Whatever the threads of a server do, the log is one to which appending and clearing lead, the
sessions are orderly, and the draft of the pulse is empty. So a worker commits at most one record
in a step, the pulse commits its time mark whole, and closing commits nothing.
-/

namespace BoundedLog

namespace Hub

/-- A write commits the record that it completes in the draft, and changes nothing else but the
disk. -/
theorem exists_write_eq (h : Hub) (draft : Draft) (bytes : Bytes) :
  ∃ disk, h.write draft bytes
    = ((draft.add bytes).2, { h with log := h.log.committing (draft.add bytes).1, disk })
  := by
  have hfst := h.log.write_fst draft bytes h.disk
  use ((h.log.write draft bytes).run h.disk).2
  rw [write]
  generalize (h.log.write draft bytes).run h.disk = written at hfst ⊢
  obtain ⟨⟨log, draft'⟩, disk⟩ := written
  obtain ⟨rfl, rfl⟩ := Prod.mk.inj hfst
  rfl

/-- Closing leaves a log without records and without a replica. -/
theorem exists_close_eq (h : Hub) :
  ∃ disk, h.close.2 = { h with log := { window := h.log.window.clear }, disk }
  := by
  obtain ⟨⟨window, replica⟩, disk⟩ := h
  cases replica with
  | none => exact ⟨disk, rfl⟩
  | some replica => exact ⟨_, rfl⟩

end Hub

/-- What a step of a ticker comes to. -/
inductive Ticker.Change (t : Ticker) (h : Hub) (t' : Ticker) (h' : Hub) : Prop
  /-- It wakes up, and ends if the server stops. -/
  | rise (hbefore : t ≠ .ended) (hhub : h' = h)
  /-- It adds a permit for the pulse. -/
  | post (hbefore : t ≠ .ended) (hhub : h' = h.wakePulse)

theorem Ticker.change_of_step {t t' : Ticker} {h h' : Hub} (hstep : t.step h = some (t', h')) :
  t.Change h t' h'
  := by
  cases t with
  | sleeping =>
    obtain ⟨-, rfl⟩ := Prod.mk.inj (Option.some.inj hstep)
    exact .rise nofun rfl
  | posting =>
    obtain ⟨-, rfl⟩ := Prod.mk.inj (Option.some.inj hstep)
    exact .post nofun rfl
  | ended => cases hstep

/-- What a step of a pulse whose draft is empty comes to. -/
inductive Pulse.Change (p : Pulse) (h : Hub) (now : Moment) (p' : Pulse) (h' : Hub) : Prop
  /-- It takes a permit. -/
  | wake (hbefore : p.place = .waiting) (hafter : p' = { p with place := .woken })
      (hhub : h = h'.wakePulse)
  /-- It looks at the stop flag. -/
  | look (hbefore : p.place = .woken)
      (hafter : p' = { p with place := if h.stopped then .ended else .writing }) (hhub : h' = h)
  /-- It writes a time mark. -/
  | write (hbefore : p.place = .writing)
      (hafter : p' = { p with place := .waiting, written := p.written + 1 }) (disk : Disk)
      (hhub : h' = { h with log := h.log.committing (some (Bytes.ofText now.mark)), disk })

theorem Pulse.change_of_step {p p' : Pulse} {h h' : Hub} {now : Moment} (hdraft : p.draft = {})
    (hstep : p.step h now = some (p', h')) :
  p.Change h now p' h'
  := by
  obtain ⟨place, draft, written⟩ := p
  obtain rfl : draft = {} := hdraft
  cases place with
  | waiting =>
    obtain ⟨taken, htaken, hstep⟩ := Option.bind_eq_some_iff.mp hstep
    obtain ⟨rfl, rfl⟩ := Prod.mk.inj (Option.some.inj hstep)
    obtain ⟨log, disk, stopped, accepting, wakes⟩ := h
    cases wakes with
    | zero => cases htaken
    | succ wakes =>
      obtain rfl := Option.some.inj htaken
      exact .wake rfl rfl rfl
  | woken =>
    obtain ⟨rfl, rfl⟩ := Prod.mk.inj (Option.some.inj hstep)
    exact .look rfl rfl rfl
  | writing =>
    have hmark := Moment.endsLine_mark now
    obtain ⟨disk, hwrite⟩ := h.exists_write_eq {} (Bytes.ofText now.mark)
    rw [Draft.add_line hmark] at hwrite
    rw [step] at hstep
    dsimp only at hstep
    rw [hwrite] at hstep
    obtain ⟨hpulse, hhub⟩ := Prod.mk.inj (Option.some.inj hstep)
    exact .write rfl hpulse.symm disk hhub.symm
  | ended => cases hstep

namespace Server

variable {s s' : Server} {action : Action} {actions : List Action} {log : SharedLog} {disk : Disk}

/-- What holds of the log and of its writers between two steps. -/
structure Sound (s : Server) : Prop where
  reachable : s.hub.log.window.Reachable
  orderly : ∀ job ∈ s.crew.jobs, job.session.Orderly
  draft_eq : ∀ ticker pulse, s.heart = some (ticker, pulse) → pulse.draft = {}

theorem sound_ofLog (hlog : log.window.Reachable) (disk : Disk) :
  (ofLog log disk).Sound
  where
  reachable := hlog
  orderly := List.forall_mem_nil _
  draft_eq ticker pulse h := by
    rw [ofLog] at h
    dsimp only at h
    split at h
    · obtain ⟨-, rfl⟩ := Prod.mk.inj (Option.some.inj h)
      rfl
    · cases h

/-- A worker whose service is known serves a session that is orderly. -/
theorem Sound.orderly_of_getElem? (h : s.Sound) {place : Nat} {job : Service}
    (hjob : s.crew.jobs[place]? = some job) :
  job.session.Orderly
  := h.orderly job (List.mem_of_getElem? hjob)

/-- The sessions stay orderly if one is exchanged for another that is. -/
theorem Sound.orderly_set (h : s.Sound) {job : Service} (horderly : job.session.Orderly)
    (place : Nat) :
  ∀ other ∈ s.crew.jobs.set place job, other.session.Orderly
  := by
  intro other hother
  rcases List.mem_or_eq_of_mem_set hother with hold | rfl
  · exact h.orderly other hold
  · exact horderly

/-! ### One step -/

/-- Where a record that an action commits comes from: it is a line that has arrived for a worker, or
a time mark, or it comes from outside. -/
inductive Source (s : Server) : Action → Record → Prop
  | client (place : Nat) {job : Service} (hjob : s.crew.jobs[place]? = some job) {record : Record}
    (hline : Session.IsRecordOf job.session.arrivals record) : Source s (.work (place + 1)) record
  | pulse (now : Moment) : Source s (.beat now) (Bytes.ofText now.mark)
  | outside (writer : Nat) (bytes : Bytes) (record : Record) : Source s (.write writer bytes) record

/-- A step commits one record at most, and this has a source, or it closes the log. -/
theorem Effect.exists_source (h : Effect s action s') (hsound : s.Sound) :
  ∃ record?,
    s'.hub.log = s.hub.log.committing record? ∧ (∀ record ∈ record?, s.Source action record)
    ∨ record? = none ∧ s.supervisor = .closingLog
      ∧ s'.hub.log = { window := s.hub.log.window.clear }
  := by
  cases h with
  | pass _ hlog => exact ⟨none, .inl ⟨hlog, nofun⟩⟩
  | start _ outlet hhub | wake _ hhub | feed _ place _ _ _ hhub =>
    use none
    left
    rw [hhub]
    exact ⟨rfl, nofun⟩
  | serve place haction hjob hstep =>
    obtain ⟨record?, hlog, hline⟩ :=
      Service.commits_of_step (hsound.orderly_of_getElem? hjob) hstep
    use record?
    left
    rw [haction]
    exact ⟨hlog, fun record hrecord => .client place hjob (hline record hrecord)⟩
  | tick _ pulse _ hstep =>
    use none
    left
    cases Ticker.change_of_step hstep with
    | rise _ hhub | post _ hhub =>
      rw [hhub]
      exact ⟨rfl, nofun⟩
  | beat now haction ticker hbefore hstep =>
    have hdraft := hsound.draft_eq _ _ hbefore
    cases Pulse.change_of_step hdraft hstep with
    | wake _ _ hhub | look _ _ hhub =>
      use none
      left
      rw [hhub]
      exact ⟨rfl, nofun⟩
    | write _ _ disk hhub =>
      use some (Bytes.ofText now.mark)
      left
      rw [hhub, haction]
      constructor
      · rfl
      · rintro record ⟨⟩
        exact .pulse now
  | write writer bytes haction draft hhub =>
    obtain ⟨disk, hwrite⟩ := s.hub.exists_write_eq draft bytes
    use (draft.add bytes).1
    left
    rw [hhub, hwrite, haction]
    exact ⟨rfl, fun record _ => .outside writer bytes record⟩
  | close _ hbefore _ hhub =>
    obtain ⟨disk, hclose⟩ := s.hub.exists_close_eq
    use none
    right
    use rfl, hbefore
    rw [hhub, hclose]

/-- A step commits one record at most, or closes the log. -/
theorem Effect.exists_log_eq (h : Effect s action s') (hsound : s.Sound) :
  ∃ record?, s'.hub.log = s.hub.log.committing record?
    ∨ record? = none ∧ s.supervisor = .closingLog
      ∧ s'.hub.log = { window := s.hub.log.window.clear }
  := by
  obtain ⟨record?, hlog⟩ := h.exists_source hsound
  use record?
  apply hlog.imp_left And.left

/-- Every step leaves the sessions orderly. -/
theorem Effect.orderly (h : Effect s action s') (hsound : s.Sound) :
  ∀ job ∈ s'.crew.jobs, job.session.Orderly
  := by
  cases h with
  | pass _ _ _ _ _ hjobs | wake _ _ _ hjobs | tick _ _ _ _ _ hjobs | beat _ _ _ _ _ _ hjobs
  | write _ _ _ _ _ _ hjobs | close _ _ _ _ _ hjobs =>
    rw [hjobs]
    exact hsound.orderly
  | start _ outlet _ _ hjobs =>
    rw [hjobs]
    intro job hjob
    rcases List.mem_append.mp hjob with hold | hnew
    · apply hsound.orderly job hold
    · rw [List.mem_singleton.mp hnew]
      apply Session.orderly_start
  | feed _ place hjob hsession hjobs =>
    rw [hjobs]
    apply hsound.orderly_set
    obtain ⟨arrivals, hsession⟩ := hsession
    rw [hsession]
    apply (hsound.orderly_of_getElem? hjob).with_arrivals
  | serve place _ hjob hstep hjobs =>
    rw [hjobs]
    have hadvances := Service.advances_of_step (hsound.orderly_of_getElem? hjob) hstep
    apply hsound.orderly_set hadvances.orderly

/-- Every step leaves the draft of the pulse empty. -/
theorem Effect.draft_eq (h : Effect s action s') (hsound : s.Sound) (ticker : Ticker)
    (pulse : Pulse) (hheart : s'.heart = some (ticker, pulse)) :
  pulse.draft = {}
  := by
  cases h with
  | pass _ _ _ _ hsame | start _ _ _ hsame | wake _ _ hsame | feed _ _ _ _ _ _ hsame
  | serve _ _ _ _ _ hsame | write _ _ _ _ _ hsame | close _ _ _ _ hsame =>
    rw [hsame] at hheart
    apply hsound.draft_eq ticker pulse hheart
  | tick _ pulse' hbefore _ hafter =>
    rw [hafter] at hheart
    obtain ⟨-, rfl⟩ := Prod.mk.inj (Option.some.inj hheart)
    apply hsound.draft_eq _ _ hbefore
  | beat now _ ticker' hbefore hstep hafter =>
    rw [hafter] at hheart
    obtain ⟨-, rfl⟩ := Prod.mk.inj (Option.some.inj hheart)
    have hdraft := hsound.draft_eq _ _ hbefore
    cases Pulse.change_of_step hdraft hstep with
    | wake _ hpulse | look _ hpulse | write _ hpulse => rw [hpulse, hdraft]

/-- Every step keeps the log and its writers sound. -/
theorem Effect.sound (h : Effect s action s') (hsound : s.Sound) :
  s'.Sound
  := by
  constructor
  · obtain ⟨record?, hlog | ⟨-, -, hlog⟩⟩ := h.exists_log_eq hsound
    · rw [hlog]
      apply SharedLog.reachable_committing hsound.reachable
    · rw [hlog]
      apply hsound.reachable.clear
  · apply h.orderly hsound
  · apply h.draft_eq hsound

/-- A run keeps the log and its writers sound. -/
theorem Sound.run (h : s.Sound) (hrun : s.run actions = some s') :
  s'.Sound
  := run_induction (P := fun _ t => t.Sound) h
    (fun _ _ _ _ _ hsound hstep => (effect_of_step hstep).sound hsound) hrun

/-! ### What is committed -/

theorem Step.commit?_of_committing {record? : Option Record} (hlog : s.hub.log.window.Reachable)
    (h : s'.hub.log = s.hub.log.committing record?) :
  (Step.mk s action s').commit? = record?.map (action, ·)
  := by
  rw [commit?, h, SharedLog.committed?_committing hlog.holds]

/-- The commits of a step are all by its action. -/
theorem Step.countP_commit?_of_committing (action : Action) (p : Action → Bool)
    {record? : Option Record} (hlog : s.hub.log.window.Reachable)
    (h : s'.hub.log = s.hub.log.committing record?) :
  (Step.mk s action s').commit?.toList.countP (p ·.1)
    = if p action then record?.toList.length else 0
  := by
  rw [commit?_of_committing hlog h]
  cases record? with
  | none => exact (ite_self 0).symm
  | some record => apply List.countP_singleton

theorem Step.commit?_of_appended_eq
    (h : s'.hub.log.window.appended = s.hub.log.window.appended) :
  (Step.mk s action s').commit? = none
  := by
  have hnone : s.hub.log.committed? s'.hub.log = none := if_pos h
  rw [commit?, hnone, Option.map_none]

end Server

end BoundedLog
