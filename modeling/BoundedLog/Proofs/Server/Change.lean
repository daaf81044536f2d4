import BoundedLog.Proofs.Server.Crew
import BoundedLog.Server

/-!
# What a step of a server changes

Workers, clients and those who ask a server to stop change its crew in one way only: workers go on,
and permits are added. All else that happens to the crew, the roster included, is up to the
collector and to the supervisor, of whose places it matters only to which of four stages they
belong. `Server.Change` lists what a step may come to, and `Server.change_of_step` says that this is
all; what each of these changes keeps holds throughout a run.
-/

namespace BoundedLog

/-- How far the supervisor has come with letting clients in and waiting for the collector. -/
inductive Supervisor.Stage
  /-- Clients are let in. -/
  | admitting
  /-- Nobody is let in any more, but the collector is not woken yet. -/
  | shut
  /-- The collector is woken, and the supervisor waits for it. -/
  | told
  /-- The collector has ended. -/
  | alone
  deriving DecidableEq, Repr

/-- The stage that a place of the supervisor belongs to. -/
def Supervisor.stage : Supervisor → Supervisor.Stage
  | asking | listening | raisingStop | wakingCollector | wakingPulse | closing => .admitting
  | announcing => .shut
  | awaitingCollector => .told
  | _ => .alone

/-! ### Whether clients are let in -/

theorem Ticker.accepting_of_step {t t' : Ticker} {h h' : Hub} (hstep : t.step h = some (t', h')) :
  h'.accepting = h.accepting
  := by
  cases t with
  | sleeping | posting =>
    cases hstep
    rfl
  | ended => cases hstep

theorem Pulse.accepting_of_step {p p' : Pulse} {h h' : Hub} {now : Moment}
    (hstep : p.step h now = some (p', h')) :
  h'.accepting = h.accepting
  := by
  obtain ⟨place, draft, written⟩ := p
  cases place with
  | waiting =>
    obtain ⟨taken, htaken, hstep⟩ := Option.bind_eq_some_iff.mp hstep
    cases hstep
    rw [Hub.takePulseWake?] at htaken
    split at htaken
    · cases htaken
    · cases htaken
      rfl
  | woken | writing =>
    cases hstep
    rfl
  | ended => cases hstep

theorem Service.accepting_of_step {service service' : Service} {h h' : Hub}
    (hstep : service.step h = some (service', h')) :
  h'.accepting = h.accepting
  := by
  rw [step] at hstep
  cases hphase : service.session.phase with
  | receiving =>
    rw [hphase] at hstep
    dsimp only at hstep
    split at hstep
    · generalize (Session.receive _).run h.disk = received at hstep
      obtain ⟨⟨outcome, scene⟩, disk⟩ := received
      cases outcome with
      | ok =>
        cases hstep
        rfl
      | error cause =>
        cases hstep
        rfl
    · cases hstep
  | replying =>
    rw [hphase] at hstep
    cases hstep
    rfl
  | finished =>
    rw [hphase] at hstep
    cases hstep

namespace Server

variable {s s' : Server} {action : Action}

/-- Whether an action lets a client in. -/
def Action.isWelcome : Action → Bool
  | welcome _ _ => true
  | _ => false

/-- What a step may change of the crew, the collector and the stage of the supervisor, and of
whether clients are let in. -/
inductive Change (s : Server) (action : Action) (s' : Server) : Prop
  /-- Workers go on, or somebody adds a permit for the collector. -/
  | advance (haction : action.isWelcome = false) (hcrew : s.crew.Advances s'.crew)
      (hcollector : s'.collector = s.collector) (haccepting : s'.hub.accepting = s.hub.accepting)
      (hstage : s'.supervisor.stage = s.supervisor.stage)
  /-- A client is let in while nobody holds the roster. -/
  | welcome (haction : action.isWelcome = true) (peer : Endpoint) (service : Service)
      (hcrew : s'.crew = (s.crew.start peer service).2)
      (hroster : s.collector.place.holdsRoster = false)
      (hcollector : s'.collector = s.collector) (haccepting : s'.hub.accepting = s.hub.accepting)
      (hbefore : s.supervisor.stage = .admitting) (hafter : s'.supervisor.stage = .admitting)
  /-- The collector takes a step. -/
  | collect (haction : action.isWelcome = false)
      (hstep : s.collector.step s.hub.accepting s.crew = some (s'.collector, s'.crew))
      (haccepting : s'.hub.accepting = s.hub.accepting)
      (hstage : s'.supervisor.stage = s.supervisor.stage)
  /-- The supervisor lets nobody in any more. -/
  | shut (haction : action.isWelcome = false) (hcrew : s'.crew = s.crew)
      (hcollector : s'.collector = s.collector) (haccepting : s'.hub.accepting = false)
      (hbefore : s.supervisor.stage = .admitting) (hafter : s'.supervisor.stage = .shut)
  /-- The supervisor wakes the collector for the last time. -/
  | tell (haction : action.isWelcome = false) (hcrew : s'.crew = s.crew.wake)
      (hcollector : s'.collector = s.collector) (haccepting : s'.hub.accepting = s.hub.accepting)
      (hbefore : s.supervisor.stage = .shut) (hafter : s'.supervisor.stage = .told)
  /-- The supervisor finds that the collector has ended. -/
  | find (haction : action.isWelcome = false) (hcrew : s'.crew = s.crew)
      (hcollector : s'.collector = s.collector) (haccepting : s'.hub.accepting = s.hub.accepting)
      (hended : s.collector.place = .ended)
      (hbefore : s.supervisor.stage = .told) (hafter : s'.supervisor.stage = .alone)
  /-- The supervisor takes all members off the roster. -/
  | clear (haction : action.isWelcome = false) (hcrew : s'.crew = s.crew.takeAll.2)
      (hcollector : s'.collector = s.collector) (haccepting : s'.hub.accepting = s.hub.accepting)
      (hbefore : s.supervisor.stage = .alone) (hafter : s'.supervisor.stage = .alone)

/-- Nothing of this changes. -/
theorem Change.of_same (haction : action.isWelcome = false) (hcrew : s'.crew = s.crew)
    (hcollector : s'.collector = s.collector) (haccepting : s'.hub.accepting = s.hub.accepting)
    (hstage : s'.supervisor.stage = s.supervisor.stage) :
  Change s action s'
  := .advance haction (hcrew ▸ .refl s.crew) hcollector haccepting hstage

theorem change_of_supervise (h : s.supervise = some s') :
  Change s .supervise s'
  := by
  obtain ⟨hub, crew, supervisor, collector, heart, requests, drafts, listenFailure⟩ := s
  cases supervisor with
  | asking =>
    cases h
    refine .of_same rfl rfl rfl rfl ?_
    show (if hub.stopped then Supervisor.raisingStop else .listening).stage = _
    split
    · rfl
    · rfl
  | wakingCollector =>
    cases h
    exact .advance rfl (Crew.advances_wake crew) rfl rfl rfl
  | closing =>
    cases h
    exact .shut rfl rfl rfl rfl rfl rfl
  | announcing =>
    cases h
    exact .tell rfl rfl rfl rfl rfl rfl
  | awaitingCollector =>
    rw [supervise] at h
    dsimp only at h
    split at h
    · next hended =>
      cases h
      exact .find rfl rfl rfl rfl hended rfl rfl
    · cases h
  | takingAll =>
    cases h
    exact .clear rfl rfl rfl rfl rfl rfl
  | awaitingWorkers ids =>
    cases ids with
    | nil =>
      cases h
      exact .of_same rfl rfl rfl rfl rfl
    | cons id ids =>
      obtain ⟨ok, -, h⟩ := Option.bind_eq_some_iff.mp h
      cases h
      exact .of_same rfl rfl rfl rfl rfl
  | awaitingTicker | awaitingPulse =>
    cases heart with
    | none =>
      cases h
      exact .of_same rfl rfl rfl rfl rfl
    | some heart =>
      rw [supervise] at h
      dsimp only at h
      split at h
      · cases h
        exact .of_same rfl rfl rfl rfl rfl
      · cases h
  | listening | raisingStop | wakingPulse | closingLog =>
    cases h
    exact .of_same rfl rfl rfl rfl rfl
  | ended failure => cases h

theorem change_of_work {id : Nat} (h : s.work id = some s') :
  Change s (.work id) s'
  := by
  obtain ⟨worker, hworker, h⟩ := Option.bind_eq_some_iff.mp h
  cases hprogress : worker.progress with
  | working =>
    rw [hprogress] at h
    cases hstep : worker.job.step s.hub with
    | some stepped =>
      obtain ⟨job, hub⟩ := stepped
      rw [hstep] at h
      obtain rfl := Option.some.inj h
      exact .advance rfl (Crew.advances_setWorker hworker hprogress.symm) rfl
        (Service.accepting_of_step hstep) rfl
    | none =>
      rw [hstep] at h
      dsimp only at h
      split at h
      · obtain ⟨crew, hmark, h⟩ := Option.bind_eq_some_iff.mp h
        obtain rfl := Option.some.inj h
        exact .advance rfl (Crew.advances_of_mark? hmark) rfl rfl rfl
      · cases h
  | marked ok =>
    rw [hprogress] at h
    obtain ⟨crew, hannounce, h⟩ := Option.bind_eq_some_iff.mp h
    obtain rfl := Option.some.inj h
    exact .advance rfl (Crew.advances_of_announce? hannounce) rfl rfl rfl
  | announced ok =>
    rw [hprogress] at h
    obtain ⟨crew, hleave, h⟩ := Option.bind_eq_some_iff.mp h
    obtain rfl := Option.some.inj h
    exact .advance rfl (Crew.advances_of_leave? hleave) rfl rfl rfl
  | ended ok | vanished =>
    rw [hprogress] at h
    cases h

/-- What happens to the client of a worker takes the worker no further. -/
theorem change_of_serve {id : Nat} {change : Service → Service} (haction : action.isWelcome = false)
    (h : s.serve id change = some s') :
  Change s action s'
  := by
  obtain ⟨worker, hworker, h⟩ := Option.bind_eq_some_iff.mp h
  split at h
  · obtain rfl := Option.some.inj h
    exact .advance haction (Crew.advances_setWorker hworker rfl) rfl rfl rfl
  · cases h

/-- Every step is one of these changes. -/
theorem change_of_step (h : s.step action = some s') :
  Change s action s'
  := by
  cases action with
  | supervise => exact change_of_supervise h
  | welcome peer outlet =>
    rw [step] at h
    split at h
    · next hlistening =>
      have hstage : s.supervisor.stage = .admitting := congrArg Supervisor.stage hlistening.1
      obtain rfl := Option.some.inj h
      exact .welcome rfl peer (.ofOutlet outlet) rfl hlistening.2 rfl rfl hstage rfl
    · cases h
  | failListening cause =>
    rw [step] at h
    split at h
    · next hlistening =>
      obtain rfl := Option.some.inj h
      exact .of_same rfl rfl rfl rfl (congrArg Supervisor.stage hlistening).symm
    · cases h
  | collect =>
    obtain ⟨⟨collector, crew⟩, hcollect, h⟩ := Option.bind_eq_some_iff.mp h
    obtain rfl := Option.some.inj h
    exact .collect rfl hcollect rfl rfl
  | tick =>
    obtain ⟨⟨ticker, pulse⟩, -, h⟩ := Option.bind_eq_some_iff.mp h
    obtain ⟨⟨ticker', hub⟩, htick, h⟩ := Option.bind_eq_some_iff.mp h
    obtain rfl := Option.some.inj h
    exact .of_same rfl rfl rfl (Ticker.accepting_of_step htick) rfl
  | beat now =>
    obtain ⟨⟨ticker, pulse⟩, -, h⟩ := Option.bind_eq_some_iff.mp h
    obtain ⟨⟨pulse', hub⟩, hbeat, h⟩ := Option.bind_eq_some_iff.mp h
    obtain rfl := Option.some.inj h
    exact .of_same rfl rfl rfl (Pulse.accepting_of_step hbeat) rfl
  | work id => exact change_of_work h
  | breakDown id =>
    obtain ⟨crew, hmark, h⟩ := Option.bind_eq_some_iff.mp h
    obtain rfl := Option.some.inj h
    exact .advance rfl (Crew.advances_of_mark? hmark) rfl rfl rfl
  | deliver id chunk | disturb id cause | hangUp id =>
    rw [step] at h
    exact change_of_serve rfl h
  | requestStop =>
    obtain rfl := Option.some.inj h
    exact .of_same rfl rfl rfl rfl rfl
  | continueStop place =>
    obtain ⟨request, -, h⟩ := Option.bind_eq_some_iff.mp h
    cases request with
    | raised =>
      obtain rfl := Option.some.inj h
      exact .advance rfl (Crew.advances_wake s.crew) rfl rfl rfl
    | collectorWoken =>
      obtain rfl := Option.some.inj h
      exact .of_same rfl rfl rfl rfl rfl
    | complete => cases h
  | wakeCollector =>
    obtain rfl := Option.some.inj h
    exact .advance rfl (Crew.advances_wake s.crew) rfl rfl rfl
  | wakePulse =>
    obtain rfl := Option.some.inj h
    exact .of_same rfl rfl rfl rfl rfl
  | write writer bytes =>
    obtain rfl := Option.some.inj h
    exact .of_same rfl rfl rfl rfl rfl

/-! ### Runs -/

/-- What every step keeps holds at the end of a run. -/
theorem run_keeps {P : Server → Prop} (hkeeps : ∀ {s action s'}, P s → Change s action s' → P s')
    {actions : List Action} (hstart : P s) (hrun : s.run actions = some s') :
  P s'
  := by
  induction actions generalizing s with
  | nil =>
    obtain rfl := Option.some.inj hrun
    exact hstart
  | cons action actions ih =>
    obtain ⟨next, hstep, hrun⟩ := Option.bind_eq_some_iff.mp hrun
    apply ih _ hrun
    apply hkeeps hstart (change_of_step hstep)

end Server

end BoundedLog
