import BoundedLog.Proofs.Server.Account

/-!
# The log is closed last

When the supervisor comes to close the log, the collector has waited for every worker, and the
supervisor has found the ticker and the pulse at their ends. None of these threads begins again, so
from then on only writers from outside can commit anything. Closing leaves no record and no replica,
and the log still knows how many records were committed: as many as the sessions and the pulse have
counted, and those from outside.
-/

namespace BoundedLog

namespace Server

variable {s s' t start : Server} {action : Action} {actions : List Action} {log : SharedLog}
  {disk : Disk}

/-! ### Everybody is gone -/

/-- Nobody but the supervisor and the collector can take another step. -/
structure Still (s : Server) : Prop where
  alone : s.supervisor.stage = .alone
  heart_ended : ∀ ticker pulse, s.heart = some (ticker, pulse) →
    ticker = .ended ∧ pulse.place = .ended

namespace Still

/-- No worker takes a step. -/
theorem work_eq_none (h : s.Still) (hdraining : s.IsDraining) (id : Nat) :
  s.step (.work id) = none
  := by
  apply Option.eq_none_iff_forall_ne_some.mpr
  intro s' hwork
  obtain ⟨worker, hworker, hwork⟩ := Option.bind_eq_some_iff.mp hwork
  obtain ⟨-, -, hover⟩ := hdraining.collected h.alone
  have houtcome := hover id (Crew.mem_range'_of_worker? hworker)
  rw [Crew.outcome?, Crew.progress?, hworker, Option.map_some] at houtcome
  cases hprogress : worker.progress with
  | working | marked ok | announced ok =>
    rw [hprogress] at houtcome
    cases houtcome
  | ended ok | vanished =>
    rw [hprogress] at hwork
    cases hwork

/-- The pulse takes no step. -/
theorem beat_eq_none (h : s.Still) (now : Moment) :
  s.step (.beat now) = none
  := by
  apply Option.eq_none_iff_forall_ne_some.mpr
  intro s' hbeat
  obtain ⟨⟨ticker, pulse⟩, hheart, hbeat⟩ := Option.bind_eq_some_iff.mp hbeat
  obtain ⟨-, hpulse⟩ := h.heart_ended ticker pulse hheart
  obtain ⟨⟨pulse', hub⟩, hbeat, -⟩ := Option.bind_eq_some_iff.mp hbeat
  rw [Pulse.step, hpulse] at hbeat
  cases hbeat

/-- The ticker and the pulse stay as they are. -/
theorem heart_of_step (h : s.Still) (hstep : s.step action = some s') :
  s'.heart = s.heart
  := by
  cases effect_of_step hstep with
  | pass _ _ _ _ hheart | start _ _ _ hheart | wake _ _ hheart | feed _ _ _ _ _ _ hheart
  | serve _ _ _ _ _ hheart | write _ _ _ _ _ hheart | close _ _ _ _ hheart => exact hheart
  | tick haction pulse hbefore htick =>
    obtain ⟨hticker, -⟩ := h.heart_ended _ _ hbefore
    rw [hticker] at htick
    cases htick
  | beat now haction =>
    rw [haction, h.beat_eq_none now] at hstep
    cases hstep

theorem of_step (h : s.Still) (hstep : s.step action = some s') :
  s'.Still
  where
  alone := (change_of_step hstep).alone h.alone
  heart_ended := by
    rw [h.heart_of_step hstep]
    apply h.heart_ended

end Still

/-! ### The end of the supervisor -/

/-- While the ticker is at work the supervisor has not waited for it. -/
theorem hasJoined_of_ticker {place : Supervisor} {ticker : Ticker} {pulse : Pulse}
    (h : place.HasJoined (some (ticker, pulse))) (hticker : ticker ≠ .ended)
    (heart : Option (Ticker × Pulse)) :
  place.HasJoined heart
  := by
  cases place with
  | awaitingPulse => exact absurd h hticker
  | closingLog | ended failure => exact absurd h.1 hticker
  | _ => trivial

/-- While the pulse is at work the supervisor has not waited for it. -/
theorem hasJoined_of_pulse {place : Supervisor} {ticker : Ticker} {pulse : Pulse}
    (h : place.HasJoined (some (ticker, pulse))) (hpulse : pulse.place ≠ .ended)
    (pulse' : Pulse) :
  place.HasJoined (some (ticker, pulse'))
  := by
  cases place with
  | awaitingPulse => exact h
  | closingLog | ended failure => exact absurd h.2 hpulse
  | _ => trivial

/-- Every step keeps to what the supervisor has waited for. -/
theorem Effect.hasJoined (h : Effect s action s') (hjoined : s.supervisor.HasJoined s.heart) :
  s'.supervisor.HasJoined s'.heart
  := by
  cases h with
  | pass _ _ _ _ hheart _ _ _ hkeeps | wake _ _ hheart _ _ hkeeps =>
    rw [hheart]
    apply hkeeps hjoined
  | start _ _ _ _ _ _ hafter =>
    rw [hafter]
    trivial
  | feed _ _ _ _ _ _ hheart hplan | serve _ _ _ _ _ hheart hplan | write _ _ _ _ _ hheart _ hplan =>
    rw [hheart, hplan.1]
    exact hjoined
  | @tick _ ticker ticker' pulse hbefore hstep hafter _ hplan =>
    have hticker : ticker ≠ .ended := by
      cases Ticker.change_of_step hstep with
      | rise hticker | post hticker => exact hticker
    rw [hbefore] at hjoined
    rw [hafter, hplan.1]
    apply hasJoined_of_ticker hjoined hticker
  | @beat now _ ticker pulse pulse' hbefore hstep hafter _ hplan =>
    have hpulse : pulse.place ≠ .ended := by
      intro hended
      rw [Pulse.step, hended] at hstep
      cases hstep
    rw [hbefore] at hjoined
    rw [hafter, hplan.1]
    apply hasJoined_of_pulse hjoined hpulse
  | close _ hbefore hafter _ hheart =>
    obtain ⟨failure, hafter⟩ := hafter
    rw [hbefore] at hjoined
    rw [hafter, hheart]
    cases hheart : s.heart with
    | none => trivial
    | some heart =>
      rw [hheart] at hjoined
      exact hjoined

/-- A supervisor that is about to close the log, or has closed it, has seen everybody end. -/
theorem still_of_hasJoined (h : s.supervisor.HasJoined s.heart)
    (hplace : s.supervisor = .closingLog ∨ s.supervisor.isEnded) :
  s.Still
  := by
  rcases hplace with hplace | hplace
  · constructor
    · rw [hplace]
      rfl
    · intro ticker pulse hheart
      rw [hplace, hheart] at h
      exact h
  · cases hsupervisor : s.supervisor with
    | ended failure =>
      constructor
      · rw [hsupervisor]
        rfl
      · intro ticker pulse hheart
        rw [hsupervisor, hheart] at h
        exact h
    | _ =>
      rw [hsupervisor] at hplace
      cases hplace

/-- Who is not there any more commits nothing. -/
theorem Still.commit?_eq_none (h : s.Still) (hsound : s.Sound) (hdraining : s.IsDraining)
    (hstep : s.step action = some s') (haction : action.isWrite = false) :
  (Step.mk s action s').commit? = none
  := by
  cases account_of_step hsound hstep with
  | quiet happended | start happended => apply Step.commit?_of_appended_eq happended
  | serve place hwork =>
    rw [hwork, h.work_eq_none hdraining] at hstep
    cases hstep
  | mark now hbeat =>
    rw [hbeat, h.beat_eq_none] at hstep
    cases hstep
  | write writer bytes hwrite =>
    rw [hwrite] at haction
    cases haction

/-- Once everybody is gone this is so for good, and only writers from outside commit anything. -/
theorem Still.run (h : s.Still) (hsound : s.Sound) (hdraining : s.IsDraining)
    (hrun : s.run actions = some t) :
  t.Still ∧ t.IsDraining ∧ ∀ commit ∈ s.commits actions, commit.1.isWrite = true
  := by
  apply run_induction (P := fun before t => t.Still ∧ t.IsDraining
    ∧ ∀ commit ∈ s.commits before, commit.1.isWrite = true) _ _ hrun
  · use h, hdraining
    apply List.forall_mem_nil
  · rintro before t action t' hbefore ⟨hstill, hdraining, hcommits⟩ hstep
    use hstill.of_step hstep, (change_of_step hstep).isDraining hdraining
    rw [commits_concat hbefore hstep]
    intro commit hcommit
    rcases List.mem_append.mp hcommit with hold | hnew
    · apply hcommits commit hold
    · have hmem := Option.mem_toList.mp hnew
      rw [Step.fst_of_mem_commit? hmem]
      by_contra haction
      rw [hstill.commit?_eq_none (hsound.run hbefore) hdraining hstep
        (Bool.eq_false_iff.mpr haction)] at hmem
      cases hmem

/-- A supervisor that has returned has closed the log. -/
theorem Effect.closed_or_ended (h : Effect s action s') (hended : s'.supervisor.isEnded) :
  s.supervisor.isEnded ∨ s'.hub.log = { window := s.hub.log.window.clear }
  := by
  cases h with
  | pass _ _ _ _ _ _ _ _ _ hsame | wake _ _ _ _ _ _ hsame =>
    left
    rw [← hsame]
    exact hended
  | start _ _ _ _ _ _ hafter =>
    rw [hafter] at hended
    cases hended
  | feed _ _ _ _ _ _ _ hplan | serve _ _ _ _ _ _ hplan | tick _ _ _ _ _ _ hplan
  | beat _ _ _ _ _ _ _ hplan | write _ _ _ _ _ _ _ hplan =>
    left
    rw [← hplan.1]
    exact hended
  | close _ _ _ hhub =>
    obtain ⟨disk, hclose⟩ := s.hub.exists_close_eq
    right
    rw [hhub, hclose]

/-- What a log that was closed holds behind some actions. -/
def ClosedBehind (log : SharedLog) (actions : List Action) : Prop :=
  log.replica = none ∧ ((∀ action ∈ actions, action.isWrite = false) → log.window.toList = [])

/-- Behind the close only writers from outside can bring records in, and nobody brings a replica
in. -/
theorem ClosedBehind.of_step (h : ClosedBehind s.hub.log actions) (hsound : s.Sound)
    (hstill : s.Still) (hdraining : s.IsDraining) (hstep : s.step action = some s') :
  ClosedBehind s'.hub.log (actions ++ [action])
  := by
  obtain ⟨hreplica, hempty⟩ := h
  obtain ⟨record?, hlog | ⟨-, -, hlog⟩⟩ := (effect_of_step hstep).exists_log_eq hsound
  · constructor
    · rw [hlog]
      cases record? with
      | none => exact hreplica
      | some record => exact hreplica
    · intro hnone
      obtain ⟨hbefore, haction⟩ := List.forall_mem_append.mp hnone
      have hcommit := hstill.commit?_eq_none hsound hdraining hstep
        (haction action (List.mem_singleton_self _))
      rw [Step.commit?_of_committing hsound.reachable hlog, Option.map_eq_none_iff] at hcommit
      rw [hlog, hcommit]
      apply hempty hbefore
  · rw [hlog]
    use rfl
    intro
    apply hsound.reachable.holds.clear.toList_eq

/-- What the supervisor has done by the time of its place is as it should be. -/
theorem joined_of_run (hlog : log.window.Reachable)
    (hrun : (ofLog log disk).run actions = some s) :
  s.supervisor.HasJoined s.heart ∧ (s.supervisor.isEnded → ClosedBehind s.hub.log actions)
  := by
  apply run_induction (P := fun before t => t.supervisor.HasJoined t.heart
    ∧ (t.supervisor.isEnded → ClosedBehind t.hub.log before)) _ _ hrun
  · use trivial
    nofun
  · rintro before t action t' hbefore ⟨hjoined, hclosed⟩ hstep
    have hsound := (sound_ofLog hlog disk).run hbefore
    have heffect := effect_of_step hstep
    use heffect.hasJoined hjoined
    intro hended
    -- Either the supervisor had returned before, when nobody else is there, or it closes the log now.
    rcases heffect.closed_or_ended hended with hbefore' | hlog'
    · have hstill := still_of_hasJoined hjoined (.inr hbefore')
      apply (hclosed hbefore').of_step hsound hstill (isDraining_of_run hbefore) hstep
    · rw [hlog']
      use rfl
      intro
      apply hsound.reachable.holds.clear.toList_eq

/-- When the supervisor comes to close the log, nobody is on the roster whom it could take off, the
collector has waited for the thread of each worker, and these threads as well as the ticker and the
pulse have ended. So no worker and no pulse takes a step ever after, and only writers from outside
commit anything. Closing leaves no record and no replica; and if nobody from outside writes, this is
what a server that has returned leaves behind. As many records were committed then as its sessions
and its pulse have counted, apart from those that came from outside. -/
theorem run_shuts_down (hlog : log.window.Reachable)
    (hrun : (ofLog log disk).run actions = some s) :
  (s.supervisor = .takingAll → s.crew.takeAll.1 = [])
  ∧ (s.supervisor = .closingLog →
      s.crew.roster = []
      ∧ s.collector.joined.Perm (List.range' 1 s.crew.workers.length)
      ∧ (∀ id ∈ s.collector.joined, (s.crew.outcome? id).isSome)
      ∧ (∀ ticker pulse, s.heart = some (ticker, pulse) → ticker = .ended ∧ pulse.place = .ended)
      ∧ (∀ later t, s.run later = some t →
        (∀ id, t.step (.work id) = none)
          ∧ (∀ now, t.step (.beat now) = none)
          ∧ ∀ commit ∈ s.commits later, commit.1.isWrite = true)
      ∧ ∃ closed failure, s.step .supervise = some closed
        ∧ closed.supervisor = .ended failure
        ∧ closed.hub.log.window.toList = []
        ∧ closed.hub.log.replica = none)
  ∧ (∀ failure, s.supervisor = .ended failure →
      ((∀ action ∈ actions, action.isWrite = false) → s.hub.log.window.toList = [])
      ∧ s.hub.log.replica = none
      ∧ s.hub.log.window.appended = log.window.appended + s.counts.sum + s.marksWritten
        + ((ofLog log disk).commits actions).countP (·.1.isWrite))
  := by
  have hsound := (sound_ofLog hlog disk).run hrun
  have hdraining := isDraining_of_run hrun
  obtain ⟨hjoined, hclosed⟩ := joined_of_run hlog hrun
  refine ⟨?_, ?_, ?_⟩
  · intro hplace
    have hstage : s.supervisor.stage = .alone := by
      rw [hplace]
      rfl
    apply (hdraining.collected hstage).1
  · intro hplace
    have hstill := still_of_hasJoined hjoined (.inl hplace)
    obtain ⟨hroster, hperm, hover⟩ := hdraining.collected hstill.alone
    refine ⟨hroster, hperm, ?_, hstill.heart_ended, ?_, ?_⟩
    · intro id hid
      apply hover id (hperm.mem_iff.mp hid)
    · intro later t hlater
      obtain ⟨hstill', hdraining', hcommits⟩ := hstill.run hsound hdraining hlater
      exact ⟨hstill'.work_eq_none hdraining', hstill'.beat_eq_none, hcommits⟩
    · have hstep : s.step .supervise = some { s with
          hub := s.hub.close.2
          supervisor := .ended (s.hub.close.1.or (s.listenFailure.map .io)) } := by
        rw [step, supervise, hplace]
      obtain ⟨disk', hclose⟩ := s.hub.exists_close_eq
      refine ⟨_, _, hstep, rfl, ?_, ?_⟩
      · rw [hclose]
        apply hsound.reachable.holds.clear.toList_eq
      · rw [hclose]
  · intro failure hplace
    obtain ⟨hreplica, hempty⟩ := hclosed (by rw [hplace]; rfl)
    use hempty, hreplica
    apply appended_eq_of_run hlog hrun

/-- A worker has committed the record of its client and breaks down before it replies, somebody asks
the server to stop, and all threads come to their ends. The log is empty, but it knows that there
was a record. -/
theorem run_shuts_down_behind_record :
  let peer : Endpoint := ⟨.short [127, 0, 0, 1], 4000⟩
  let start := ofLog { window := .ofCapacity 1, replica := some ⟨⟨"/copy"⟩⟩ } { tree := .empty }
  let actions : List Action :=
    [.supervise, .welcome peer {}, .deliver 1 [97, newline], .work 1, .breakDown 1, .work 1,
        .work 1, .requestStop]
      ++ List.replicate 6 .supervise ++ List.replicate 8 .collect ++ List.replicate 3 .supervise
      ++ [.tick, .supervise, .beat { seconds := 0 }, .beat { seconds := 0 }, .supervise,
        .supervise]
  ∃ s failure, start.run actions = some s
    ∧ s.supervisor = .ended failure
    ∧ s.hub.log.window.toList = []
    ∧ s.hub.log.replica = none
    ∧ s.hub.log.window.appended = 1
  := by
  intro peer start actions
  have hinside : ∀ action ∈ actions, action.isWrite = false := by decide
  have houtside : (start.commits actions).countP (·.1.isWrite) = 0 := by
    apply List.countP_eq_zero.mpr
    intro commit hcommit
    rw [hinside commit.1 (fst_mem_of_mem_commits hcommit)]
    nofun
  have hstate : (start.run actions).map (fun s => (s.supervisor.isEnded, s.counts.sum,
        s.marksWritten))
      = some (true, 1, 0) := by
    decide +kernel +zetaReduce
  obtain ⟨s, hrun, hstate⟩ := Option.map_eq_some_iff.mp hstate
  obtain ⟨hended, hstate⟩ := Prod.mk.inj hstate
  obtain ⟨hrecords, hmarks⟩ := Prod.mk.inj hstate
  obtain ⟨failure, hplace⟩ : ∃ failure, s.supervisor = .ended failure := by
    cases hplace : s.supervisor with
    | ended failure => use failure
    | _ =>
      rw [hplace] at hended
      cases hended
  obtain ⟨hempty, hreplica, happended⟩ :=
    (run_shuts_down (.ofCapacity 1) hrun).2.2 failure hplace
  rw [hrecords, hmarks, houtside] at happended
  exact ⟨s, failure, hrun, hplace, hempty hinside, hreplica, happended⟩

end Server

end BoundedLog
