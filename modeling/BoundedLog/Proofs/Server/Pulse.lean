import BoundedLog.Proofs.Server.Sound

/-!
# One time mark for each permit

Permits for the pulse come from the ticker, from requests to stop and from outside, in any order and
at any time, and other writers go on meanwhile. The pulse writes one mark at most for each permit it
takes, and commits it at once. It looks at the stop flag behind each permit, so when the flag is
raised it may still be about to write one mark, but it does not come to a second one. Every request
to stop raises the flag before it adds its permit; so a permit that it adds is either still there or
has made the pulse end.
-/

namespace BoundedLog.Server

variable {s s' t start : Server} {action : Action} {actions : List Action} {log : SharedLog}
  {disk : Disk} {pulse : Pulse}

/-- A server that has just begun to run and has a pulse, whether its log has a replica or not. -/
def withPulse (log : SharedLog) (disk : Disk) : Server where
  hub := { log, disk }
  heart := some (.sleeping, {})

/-- A server whose log has a replica has a pulse. -/
theorem ofLog_eq_withPulse (h : log.replica.isSome) (disk : Disk) :
  ofLog log disk = withPulse log disk
  := by
  rw [ofLog, if_pos h]
  rfl

theorem sound_withPulse (hlog : log.window.Reachable) (disk : Disk) :
  (withPulse log disk).Sound
  where
  reachable := hlog
  orderly := List.forall_mem_nil _
  draft_eq ticker pulse h := by
    obtain ⟨-, rfl⟩ := Prod.mk.inj (Option.some.inj h)
    rfl

/-- The pulse, if there is one. -/
def pulse? (s : Server) : Option Pulse := s.heart.map (·.2)

theorem exists_heart_of_pulse? (h : s.pulse? = some pulse) :
  ∃ ticker, s.heart = some (ticker, pulse)
  := by
  obtain ⟨⟨ticker, _⟩, hheart, rfl⟩ := Option.map_eq_some_iff.mp h
  use ticker

/-- Whether a step adds a permit for the pulse. -/
def Step.addsPermit (step : Step) : Bool :=
  step.before.hub.pulseWakes < step.after.hub.pulseWakes

/-- Whether a step takes a permit for the pulse away. -/
def Step.takesPermit (step : Step) : Bool :=
  step.after.hub.pulseWakes < step.before.hub.pulseWakes

/-- The records that are committed by the pulse in a run, each with the step of the pulse. -/
def marks (s : Server) (actions : List Action) : List (Action × Record) :=
  (s.commits actions).filter (·.1.isBeat)

/-! ### One step -/

/-- What a step is to the pulse. -/
inductive Pulsing (s : Server) (action : Action) (s' : Server) : Prop
  /-- The others may add a permit, raise the stop flag or go on with a request to stop. -/
  | others (haction : action.isBeat = false) (permits : Nat) (hpermits : permits ≤ 1)
      (hpulse : s'.pulse? = s.pulse?) (hwakes : s'.hub.pulseWakes = s.hub.pulseWakes + permits)
      (hstopped : s.hub.stopped = true → s'.hub.stopped = true)
      (hbegun : s'.stopRequests ≠ [] → s.stopRequests ≠ [] ∨ s'.hub.stopped = true)
      (hcomplete : .complete ∈ s'.stopRequests → .complete ∈ s.stopRequests ∨ permits = 1)
  /-- The pulse takes a step. -/
  | own (now : Moment) (haction : action = .beat now) {pulse pulse' : Pulse}
      (hbefore : s.pulse? = some pulse) (hafter : s'.pulse? = some pulse')
      (hchange : pulse.Change s.hub now pulse' s'.hub)
      (hrequests : s'.stopRequests = s.stopRequests)

theorem SamePlan.stopRequests_eq (h : s.SamePlan s') :
  s'.stopRequests = s.stopRequests
  := by
  rw [stopRequests, stopRequests, h.1, h.2]

theorem Pulsing.of_requests (haction : action.isBeat = false) (permits : Nat)
    (hpermits : permits ≤ 1) (hpulse : s'.pulse? = s.pulse?)
    (hwakes : s'.hub.pulseWakes = s.hub.pulseWakes + permits)
    (hstopped : s.hub.stopped = true → s'.hub.stopped = true)
    (hrequests : s'.stopRequests = s.stopRequests) :
  Pulsing s action s'
  := by
  refine .others haction permits hpermits hpulse hwakes hstopped ?_ ?_
  · rw [hrequests]
    exact .inl
  · rw [hrequests]
    exact .inl

theorem pulsing_of_step (hsound : s.Sound) (hstep : s.step action = some s') :
  Pulsing s action s'
  := by
  cases effect_of_step hstep with
  | pass haction _ hwakes hstopped hheart _ hbegun hcomplete =>
    refine .others haction 0 (Nat.zero_le 1) ?_ hwakes hstopped hbegun ?_
    · rw [pulse?, hheart, pulse?]
    · exact fun h => .inl (hcomplete h)
  | start haction outlet hhub hheart _ hbefore hafter hrequests =>
    apply Pulsing.of_requests haction 0 (Nat.zero_le 1)
    · rw [pulse?, hheart, pulse?]
    · rw [hhub, Nat.add_zero]
    · rw [hhub]
      exact id
    · rw [stopRequests, stopRequests, hbefore, hafter, hrequests]
      rfl
  | wake haction hhub hheart _ hbegun =>
    refine .others haction 1 (Nat.le_refl 1) ?_ ?_ ?_ ?_ ?_
    · rw [pulse?, hheart, pulse?]
    · rw [hhub, Hub.wakePulse]
    · rw [hhub]
      exact id
    · exact fun h => .inl (hbegun h)
    · exact fun _ => .inr rfl
  | feed haction place _ _ _ hhub hheart hplan =>
    apply Pulsing.of_requests haction 0 (Nat.zero_le 1)
    · rw [pulse?, hheart, pulse?]
    · rw [hhub, Nat.add_zero]
    · rw [hhub]
      exact id
    · exact hplan.stopRequests_eq
  | serve place haction hjob hserve _ hheart hplan =>
    have hadvances := Service.advances_of_step (hsound.orderly_of_getElem? hjob) hserve
    rw [haction]
    apply Pulsing.of_requests rfl 0 (Nat.zero_le 1)
    · rw [pulse?, hheart, pulse?]
    · exact hadvances.pulseWakes_eq
    · exact hadvances.stopped
    · exact hplan.stopRequests_eq
  | tick haction pulse hbefore htick hafter _ hplan =>
    have hpulse : s'.pulse? = s.pulse? := by
      rw [pulse?, hafter, pulse?, hbefore]
      rfl
    cases Ticker.change_of_step htick with
    | rise _ hhub =>
      apply Pulsing.of_requests haction 0 (Nat.zero_le 1) hpulse
      · rw [hhub, Nat.add_zero]
      · rw [hhub]
        exact id
      · exact hplan.stopRequests_eq
    | post _ hhub =>
      apply Pulsing.of_requests haction 1 (Nat.le_refl 1) hpulse
      · rw [hhub, Hub.wakePulse]
      · rw [hhub]
        exact id
      · exact hplan.stopRequests_eq
  | beat now haction ticker hbefore hbeat hafter _ hplan =>
    have hdraft := hsound.draft_eq _ _ hbefore
    refine .own now haction ?_ ?_ (Pulse.change_of_step hdraft hbeat) hplan.stopRequests_eq
    · rw [pulse?, hbefore, Option.map_some]
    · rw [pulse?, hafter, Option.map_some]
  | write writer bytes haction draft hhub hheart _ hplan =>
    obtain ⟨disk, hwrite⟩ := s.hub.exists_write_eq draft bytes
    rw [haction]
    apply Pulsing.of_requests rfl 0 (Nat.zero_le 1)
    · rw [pulse?, hheart, pulse?]
    · rw [hhub, hwrite, Nat.add_zero]
    · rw [hhub, hwrite]
      exact id
    · exact hplan.stopRequests_eq
  | close haction hbefore hafter hhub hheart _ hrequests =>
    obtain ⟨disk, hclose⟩ := s.hub.exists_close_eq
    obtain ⟨failure, hafter⟩ := hafter
    apply Pulsing.of_requests haction 0 (Nat.zero_le 1)
    · rw [pulse?, hheart, pulse?]
    · rw [hhub, hclose, Nat.add_zero]
    · rw [hhub, hclose]
      exact id
    · rw [stopRequests, stopRequests, hbefore, hafter, hrequests]
      rfl

/-- The pulse takes its steps whatever the others are doing. -/
theorem step_beat {ticker : Ticker} {pulse' : Pulse} {hub : Hub} {now : Moment}
    (hheart : s.heart = some (ticker, pulse)) (hstep : pulse.step s.hub now = some (pulse', hub)) :
  s.step (.beat now) = some { s with hub, heart := some (ticker, pulse') }
  := by
  rw [step, hheart]
  show (pulse.step s.hub now).bind _ = _
  rw [hstep]
  rfl

/-- A step of the pulse commits its time mark if it is about to write one, and nothing otherwise. -/
theorem commit?_of_change {now : Moment} {pulse' : Pulse} (hsound : s.Sound)
    (hchange : pulse.Change s.hub now pulse' s'.hub) :
  (Step.mk s action s').commit?
    = if pulse.place = .writing then some (action, Bytes.ofText now.mark) else none
  := by
  cases hchange with
  | wake hbefore _ hhub =>
    rw [hbefore, if_neg nofun]
    apply Step.commit?_of_appended_eq
    rw [hhub, Hub.wakePulse]
  | look hbefore _ hhub =>
    rw [hbefore, if_neg nofun]
    apply Step.commit?_of_appended_eq
    rw [hhub]
  | write hbefore _ disk hhub =>
    have hlog : s'.hub.log = s.hub.log.committing (some (Bytes.ofText now.mark)) := by
      rw [hhub]
    rw [hbefore, if_pos rfl]
    apply Step.commit?_of_committing hsound.reachable hlog

/-! ### Runs -/

theorem marks_concat {before : List Action} (h : s.run before = some t)
    (hstep : t.step action = some s') :
  s.marks (before ++ [action])
    = s.marks before
      ++ (Step.mk t action s').commit?.toList.filter (·.1.isBeat)
  := by
  rw [marks, commits_concat h hstep, List.filter_append, marks]

/-- Only a step of the pulse commits a time mark. -/
theorem filter_commit?_of_others (haction : action.isBeat = false) :
  (Step.mk s action s').commit?.toList.filter (·.1.isBeat) = []
  := by
  rw [Step.commit?]
  cases s.hub.log.committed? s'.hub.log with
  | none => rfl
  | some record => exact List.filter_cons_of_neg (by simp [haction])

/-- What holds of the pulse behind the actions of a run: each permit that was added is there or
was taken, and for each that was taken a mark is written, or the pulse has not come back to wait
for another. -/
structure Beats (start : Server) (actions : List Action) (s : Server) (pulse : Pulse) : Prop where
  pulse?_eq : s.pulse? = some pulse
  written_eq : pulse.written = (start.marks actions).length
  taken_eq : (start.steps actions).countP Step.takesPermit
    = pulse.written + if pulse.place = .waiting then 0 else 1
  added_eq : (start.steps actions).countP Step.addsPermit
    = (start.steps actions).countP Step.takesPermit + s.hub.pulseWakes
  /-- Every request to stop has raised the flag. -/
  stopped : s.stopRequests ≠ [] → s.hub.stopped = true
  /-- The permit of a request to stop is still there, unless the pulse has taken it and is going to
  look at the flag. -/
  awake : .complete ∈ s.stopRequests → pulse.place = .waiting ∨ pulse.place = .writing →
    0 < s.hub.pulseWakes

theorem beats_withPulse (log : SharedLog) (disk : Disk) :
  Beats (withPulse log disk) [] (withPulse log disk) {}
  where
  pulse?_eq := rfl
  written_eq := rfl
  taken_eq := rfl
  added_eq := rfl
  stopped := nofun
  awake := nofun

/-- A step that takes no permit counts no other marks than those that are owed for permits. -/
theorem Beats.goOn {before : List Action} {permits : Nat} {pulse' : Pulse}
    (h : Beats start before t pulse) (hrun : start.run before = some t)
    (hstep : t.step action = some s') (hpermits : permits ≤ 1)
    (hwakes : s'.hub.pulseWakes = t.hub.pulseWakes + permits) (hafter : s'.pulse? = some pulse')
    (hwritten : pulse'.written = (start.marks (before ++ [action])).length)
    (howed : pulse'.written + (if pulse'.place = .waiting then 0 else 1)
      = pulse.written + if pulse.place = .waiting then 0 else 1)
    (hstopped : s'.stopRequests ≠ [] → s'.hub.stopped = true)
    (hawake : .complete ∈ s'.stopRequests → pulse'.place = .waiting ∨ pulse'.place = .writing →
      0 < s'.hub.pulseWakes) :
  Beats start (before ++ [action]) s' pulse'
  := by
  have htakes : (Step.mk t action s').takesPermit = false := by
    rw [Step.takesPermit, hwakes, decide_eq_false_iff_not]
    apply Nat.not_lt_of_le (Nat.le_add_right _ _)
  have hadds : (if (Step.mk t action s').addsPermit then 1 else 0) = permits := by
    rw [Step.addsPermit, hwakes]
    simp only [decide_eq_true_eq]
    split
    · omega
    · omega
  constructor
  · exact hafter
  · exact hwritten
  · rw [countP_steps_concat _ hrun hstep, htakes, howed]
    apply h.taken_eq
  · rw [countP_steps_concat _ hrun hstep, countP_steps_concat _ hrun hstep, htakes, hadds,
      h.added_eq, hwakes, Nat.add_assoc]
    rfl
  · exact hstopped
  · exact hawake

/-- The others take no permit and write no time mark. -/
theorem Beats.others {before : List Action} {permits : Nat} (h : Beats start before t pulse)
    (hrun : start.run before = some t) (hstep : t.step action = some s')
    (haction : action.isBeat = false) (hpermits : permits ≤ 1) (hpulse : s'.pulse? = t.pulse?)
    (hwakes : s'.hub.pulseWakes = t.hub.pulseWakes + permits)
    (hstopped : t.hub.stopped = true → s'.hub.stopped = true)
    (hbegun : s'.stopRequests ≠ [] → t.stopRequests ≠ [] ∨ s'.hub.stopped = true)
    (hcomplete : .complete ∈ s'.stopRequests → .complete ∈ t.stopRequests ∨ permits = 1) :
  Beats start (before ++ [action]) s' pulse
  := by
  apply h.goOn hrun hstep hpermits hwakes
  · rw [hpulse]
    apply h.pulse?_eq
  · rw [marks_concat hrun hstep, filter_commit?_of_others haction, List.append_nil]
    apply h.written_eq
  · rfl
  · intro hsome
    rcases hbegun hsome with hold | hnew
    · apply hstopped (h.stopped hold)
    · exact hnew
  · intro hmem hplace
    rw [hwakes]
    rcases hcomplete hmem with hold | rfl
    · apply Nat.add_pos_left (h.awake hold hplace)
    · apply Nat.succ_pos

/-- The pulse takes a permit. From now on a mark is owed for it. -/
theorem Beats.take {before : List Action} {pulse' : Pulse} (h : Beats start before t pulse)
    (hrun : start.run before = some t) (hstep : t.step action = some s')
    (hmarks : (start.marks (before ++ [action])).length = pulse.written)
    (hbefore : pulse.place = .waiting) (hpulse : pulse' = { pulse with place := .woken })
    (hafter : s'.pulse? = some pulse') (hhub : t.hub = s'.hub.wakePulse)
    (hrequests : s'.stopRequests = t.stopRequests) :
  Beats start (before ++ [action]) s' pulse'
  := by
  have hwakes : t.hub.pulseWakes = s'.hub.pulseWakes + 1 := congrArg Hub.pulseWakes hhub
  have htakes : (Step.mk t action s').takesPermit = true := by
    rw [Step.takesPermit, hwakes, decide_eq_true_eq]
    apply Nat.lt_succ_self
  have hadds : (Step.mk t action s').addsPermit = false := by
    rw [Step.addsPermit, hwakes, decide_eq_false_iff_not]
    apply Nat.not_lt_of_le (Nat.le_succ _)
  subst hpulse
  constructor
  · exact hafter
  · rw [hmarks]
  · rw [countP_steps_concat _ hrun hstep, htakes, h.taken_eq, hbefore]
    rfl
  · rw [countP_steps_concat _ hrun hstep, countP_steps_concat _ hrun hstep, htakes, hadds,
      h.added_eq, hwakes, if_pos rfl, if_neg nofun]
    omega
  · rw [hrequests]
    intro hsome
    have hstopped := h.stopped hsome
    rw [hhub] at hstopped
    exact hstopped
  · rintro - (hplace | hplace)
    · cases hplace
    · cases hplace

/-- The pulse takes a permit, looks at the stop flag, or writes a mark for the permit. -/
theorem Beats.own {before : List Action} {now : Moment} {pulse' : Pulse}
    (h : Beats start before t pulse) (hsound : t.Sound) (hrun : start.run before = some t)
    (hstep : t.step (.beat now) = some s') (hafter : s'.pulse? = some pulse')
    (hchange : pulse.Change t.hub now pulse' s'.hub) (hrequests : s'.stopRequests = t.stopRequests) :
  Beats start (before ++ [.beat now]) s' pulse'
  := by
  have hmarks : (start.marks (before ++ [.beat now])).length
      = pulse.written + if pulse.place = .writing then 1 else 0 := by
    rw [marks_concat hrun hstep, commit?_of_change hsound hchange, List.length_append,
      h.written_eq]
    split
    · rfl
    · rfl
  cases hchange with
  | wake hbefore hpulse hhub =>
    rw [hbefore, if_neg nofun] at hmarks
    apply h.take hrun hstep hmarks hbefore hpulse hafter hhub hrequests
  | look hbefore hpulse hhub =>
    rw [hbefore, if_neg nofun] at hmarks
    have hplace : pulse'.place ≠ .waiting := by
      rw [hpulse]
      dsimp only
      split
      · nofun
      · nofun
    have hwritten : pulse'.written = pulse.written := by
      rw [hpulse]
    apply h.goOn hrun hstep (Nat.zero_le 1) _ hafter
    · rw [hmarks, hwritten]
      rfl
    · rw [hwritten, hbefore, if_neg hplace, if_neg nofun]
    · rw [hrequests, hhub]
      apply h.stopped
    · rw [hrequests]
      rintro hcomplete (hwaiting | hwriting)
      · exact absurd hwaiting hplace
      · -- the flag is raised, so the pulse ends instead
        have hstopped := h.stopped (List.ne_nil_of_mem hcomplete)
        rw [hpulse, hstopped] at hwriting
        cases hwriting
    · rw [hhub, Nat.add_zero]
  | write hbefore hpulse disk hhub =>
    rw [hbefore, if_pos rfl] at hmarks
    subst hpulse
    apply h.goOn hrun hstep (Nat.zero_le 1) _ hafter
    · rw [hmarks]
    · rw [hbefore]
      rfl
    · rw [hrequests, hhub]
      apply h.stopped
    · rw [hrequests, hhub]
      intro hcomplete hplace
      apply h.awake hcomplete (.inr hbefore)
    · rw [hhub, Nat.add_zero]

/-- A run keeps count of the permits and of the marks. -/
theorem exists_beats (hlog : log.window.Reachable)
    (hrun : (withPulse log disk).run actions = some s) :
  ∃ pulse, Beats (withPulse log disk) actions s pulse
  := by
  have hstart : (withPulse log disk).Sound := sound_withPulse hlog disk
  apply run_induction (P := fun before t => ∃ pulse, Beats (withPulse log disk) before t pulse)
    _ _ hrun
  · use {}
    apply beats_withPulse
  · rintro before t action s' hrun ⟨pulse, hbeats⟩ hstep
    have hsound := hstart.run hrun
    cases pulsing_of_step hsound hstep with
    | others haction permits hpermits hpulse hwakes hstopped hbegun hcomplete =>
      use pulse
      apply hbeats.others hrun hstep haction hpermits hpulse hwakes hstopped hbegun hcomplete
    | @own now haction _ pulse' hbefore hafter hchange hrequests =>
      obtain rfl := Option.some.inj (hbeats.pulse?_eq.symm.trans hbefore)
      subst haction
      use pulse'
      apply hbeats.own hsound hrun hstep hafter hchange hrequests

/-! ### After the stop flag is raised -/

/-- How many marks the pulse is about to write without looking at the stop flag. -/
def upcoming (pulse : Pulse) : Nat := if pulse.place = .writing then 1 else 0

/-- A pulse that looks at the stop flag after it is raised is not going to write. -/
theorem upcoming_of_change (action : Action) {now : Moment} {pulse' : Pulse} (hsound : s.Sound)
    (hstopped : s.hub.stopped = true) (hchange : pulse.Change s.hub now pulse' s'.hub) :
  s'.hub.stopped = true
    ∧ (Step.mk s action s').commit?.toList.length + upcoming pulse' = upcoming pulse
  := by
  rw [commit?_of_change hsound hchange]
  cases hchange with
  | wake hbefore hpulse hhub =>
    rw [hhub] at hstopped
    use hstopped
    simp [upcoming, hbefore, hpulse]
  | look hbefore hpulse hhub =>
    rw [hhub]
    use hstopped
    simp [upcoming, hbefore, hpulse, hstopped]
  | write hbefore hpulse disk hhub =>
    rw [hhub]
    use hstopped
    simp [upcoming, hbefore, hpulse]

/-- When the stop flag is raised, the pulse may still write the mark that it is about to write, but
no further one. -/
theorem length_marks_of_stopped (hsound : s.Sound) (hstopped : s.hub.stopped = true)
    (hpulse : s.pulse? = some pulse) (hrun : s.run actions = some t) :
  (s.marks actions).length ≤ upcoming pulse
  := by
  -- The marks so far and the one that may be upcoming are never more than were upcoming at first.
  obtain ⟨-, pulse', -, hle⟩ : t.hub.stopped = true ∧ ∃ pulse', t.pulse? = some pulse'
      ∧ (s.marks actions).length + upcoming pulse' ≤ upcoming pulse := by
    apply run_induction (P := fun before t => t.hub.stopped = true
      ∧ ∃ pulse', t.pulse? = some pulse'
        ∧ (s.marks before).length + upcoming pulse' ≤ upcoming pulse) _ _ hrun
    · use hstopped, pulse, hpulse
      apply Nat.le_of_eq (Nat.zero_add _)
    · rintro before u action u' hrun ⟨hstopped, pulse', hpulse', hle⟩ hstep
      have hsound' := hsound.run hrun
      cases pulsing_of_step hsound' hstep with
      | others haction permits _ hsame _ hstop =>
        use hstop hstopped, pulse', hsame.trans hpulse'
        rw [marks_concat hrun hstep, filter_commit?_of_others haction, List.append_nil]
        exact hle
      | @own now haction _ pulse'' hbefore hafter hchange =>
        obtain rfl := Option.some.inj (hpulse'.symm.trans hbefore)
        obtain ⟨hstopped', hupcoming⟩ := upcoming_of_change action hsound' hstopped hchange
        use hstopped', pulse'', hafter
        have hfew := List.length_filter_le (·.1.isBeat) (Step.mk u action u').commit?.toList
        rw [marks_concat hrun hstep, List.length_append]
        omega
  apply Nat.le_of_add_right_le hle

/-- The pulse writes one mark at most for each permit that it takes, and takes no permit that was
not added. Its draft is empty whenever it waits, so it commits each mark as it is and counts what it
commits; it commits one mark at most after the stop flag is raised, and if a request to stop is
complete it does not wait without a permit. -/
theorem run_beats (hlog : log.window.Reachable)
    (hrun : (withPulse log disk).run actions = some s) :
  let start := withPulse log disk
  let marks := start.marks actions
  let taken := (start.steps actions).countP Step.takesPermit
  let added := (start.steps actions).countP Step.addsPermit
  ∃ pulse, s.pulse? = some pulse
    ∧ (marks.length + (if pulse.place = .waiting then 0 else 1) = taken
      ∧ taken + s.hub.pulseWakes = added)
    ∧ pulse.draft = {}
    ∧ (∀ step ∈ start.steps actions, ∀ now, step.action = .beat now →
      step.commit? = if step.before.pulse?.map (·.place) = some .writing
        then some (.beat now, Bytes.ofText now.mark) else none)
    ∧ pulse.written = marks.length
    ∧ (∀ older newer t, actions = older ++ newer → start.run older = some t →
      t.hub.stopped = true → (t.marks newer).length ≤ 1)
    ∧ ¬ (.complete ∈ s.stopRequests ∧ pulse.place = .waiting ∧ s.hub.pulseWakes = 0)
  := by
  intro start marks taken added
  have hstart : start.Sound := sound_withPulse hlog disk
  obtain ⟨pulse, hbeats⟩ := exists_beats hlog hrun
  use pulse, hbeats.pulse?_eq
  and_intros
  · rw [← hbeats.written_eq]
    exact hbeats.taken_eq.symm
  · exact hbeats.added_eq.symm
  · obtain ⟨ticker, hheart⟩ := exists_heart_of_pulse? hbeats.pulse?_eq
    apply (hstart.run hrun).draft_eq ticker pulse hheart
  · intro step hmem now haction
    obtain ⟨before, hbefore, hstep⟩ := exists_run_of_mem_steps hmem
    have hsound := hstart.run hbefore
    rw [haction] at hstep
    cases pulsing_of_step hsound hstep with
    | others hother => cases hother
    | own now' haction' hpulse _ hchange =>
      obtain rfl := Action.beat.inj haction'
      rw [← haction, commit?_of_change hsound hchange, hpulse]
      simp only [Option.map_some, Option.some.injEq]
  · exact hbeats.written_eq
  · rintro older newer t rfl holder hstopped
    obtain ⟨pulse', hbeats'⟩ := exists_beats hlog holder
    rw [run_append, holder] at hrun
    have hfew := length_marks_of_stopped (hstart.run holder) hstopped hbeats'.pulse?_eq hrun
    apply hfew.trans
    rw [upcoming]
    split
    · rfl
    · apply Nat.zero_le
  · rintro ⟨hcomplete, hwaiting, hnone⟩
    have hpermit := hbeats.awake hcomplete (.inl hwaiting)
    rw [hnone] at hpermit
    cases hpermit

/-- The stop flag is raised when the pulse has already looked at it. The pulse still writes its mark,
and ends with the permit of the request to stop. -/
theorem run_beats_late_mark :
  let start := withPulse { window := .ofCapacity 1 } { tree := .empty }
  let now : Moment := { seconds := 0 }
  let actions : List Action :=
    [.wakePulse, .beat now, .beat now, .requestStop]
      ++ [.beat now, .continueStop 0, .continueStop 0, .beat now, .beat now]
  ∃ s pulse, start.run actions = some s
    ∧ s.pulse? = some pulse
    ∧ pulse.place = .ended
    ∧ (start.marks actions).length = 1
    ∧ s.hub.pulseWakes = 0
  := by
  intro start now actions
  let asked : Server :=
    { start with
      hub := { start.hub with stopped := true }
      heart := some (.sleeping, { place := .writing })
      requests := [.raised] }
  have hasked : start.run [.wakePulse, .beat now, .beat now, .requestStop] = some asked := rfl
  obtain ⟨disk, hwrite⟩ := asked.hub.exists_write_eq {} (Bytes.ofText now.mark)
  rw [Draft.add_line (Moment.endsLine_mark now)] at hwrite
  have hbeat : asked.step (.beat now) = some { asked with
      hub := { asked.hub with
        log := asked.hub.log.committing (some (Bytes.ofText now.mark))
        disk }
      heart := some (.sleeping, { written := 1 }) } := by
    have hstep : Pulse.step { place := .writing } asked.hub now
        = some ({ written := 1 }, { asked.hub with
          log := asked.hub.log.committing (some (Bytes.ofText now.mark))
          disk }) := by
      rw [Pulse.step]
      dsimp only
      rw [hwrite]
    apply step_beat rfl hstep
  obtain ⟨s, hrun, hpulse, hwakes⟩ : ∃ s, start.run actions = some s
      ∧ s.pulse? = some { place := .ended, written := 1 } ∧ s.hub.pulseWakes = 0 := by
    rw [run_append, hasked, Option.bind_some, run, hbeat]
    exact ⟨_, rfl, rfl, rfl⟩
  obtain ⟨pulse, hpulse', -, -, -, hwritten, -⟩ := run_beats (.ofCapacity 1) hrun
  obtain rfl := Option.some.inj (hpulse.symm.trans hpulse')
  exact ⟨s, _, hrun, hpulse, rfl, hwritten.symm, hwakes⟩

end BoundedLog.Server
