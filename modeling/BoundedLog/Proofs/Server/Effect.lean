import BoundedLog.Proofs.Server.Drain

/-!
# What a step does to the log and to the pulse

Four kinds of steps have to do with the log: a worker serves its client, the pulse writes a time
mark, a writer from outside writes, and the supervisor closes the log. The permits of the pulse are
added by the ticker, by a request to stop, and from outside, and only the pulse takes them.
`Server.Effect` lists what a step may come to in these respects, and `Server.effect_of_step` says
that this is all. A request to stop is followed from its beginning to its end, whether it was made
from outside or by the supervisor.
-/

namespace BoundedLog

/-! ### The jobs of a crew -/

namespace Crew

variable {Job : Type} {c c' : Crew Job} {id : Nat}

/-- The jobs of the workers, in the order in which they were started. -/
def jobs (c : Crew Job) : List Job := c.workers.map (·.job)

theorem getElem?_jobs (c : Crew Job) (place : Nat) :
  c.jobs[place]? = (c.worker? (place + 1)).map (·.job)
  := List.getElem?_map

theorem jobs_start (c : Crew Job) (peer : Endpoint) (job : Job) :
  (c.start peer job).2.jobs = c.jobs ++ [job]
  := List.map_append

theorem jobs_setWorker (c : Crew Job) (place : Nat) (after : Worker Job) :
  (c.setWorker (place + 1) after).jobs = c.jobs.set place after.job
  := List.map_set

/-- Who has come further has the same job. -/
theorem jobs_setWorker_of_same {worker after : Worker Job} (h : c.worker? id = some worker)
    (hsame : after.job = worker.job) :
  (c.setWorker id after).jobs = c.jobs
  := by
  cases id with
  | zero => cases h
  | succ place =>
    have hjob : c.jobs[place]? = some after.job := by
      rw [getElem?_jobs, h, hsame, Option.map_some]
    obtain ⟨hlt, hget⟩ := List.getElem?_eq_some_iff.mp hjob
    rw [jobs_setWorker, ← hget, List.set_getElem_self]

theorem jobs_of_mark? {ok : Bool} (h : c.mark? id ok = some c') :
  c'.jobs = c.jobs
  := by
  obtain ⟨worker, hworker, h⟩ := Option.bind_eq_some_iff.mp h
  split at h
  · obtain rfl := Option.some.inj h
    apply jobs_setWorker_of_same hworker
    rfl
  · cases h

theorem jobs_of_announce? (h : c.announce? id = some c') :
  c'.jobs = c.jobs
  := by
  obtain ⟨worker, hworker, h⟩ := Option.bind_eq_some_iff.mp h
  split at h
  · obtain rfl := Option.some.inj h
    show (c.setWorker id _).jobs = c.jobs
    apply jobs_setWorker_of_same hworker
    rfl
  · cases h

theorem jobs_of_leave? (h : c.leave? id = some c') :
  c'.jobs = c.jobs
  := by
  obtain ⟨worker, hworker, h⟩ := Option.bind_eq_some_iff.mp h
  split at h
  · obtain rfl := Option.some.inj h
    apply jobs_setWorker_of_same hworker
    rfl
  · cases h

end Crew

/-! ### The supervisor -/

/-- How far the supervisor's own request to stop has come. -/
def Supervisor.request? : Supervisor → Option StopRequest
  | asking | listening | raisingStop => none
  | wakingCollector => some .raised
  | wakingPulse => some .collectorWoken
  | _ => some .complete

/-- The supervisor has waited for the threads of the heart as far as its place says. -/
def Supervisor.HasJoined : Supervisor → Option (Ticker × Pulse) → Prop
  | awaitingPulse, some (ticker, _) => ticker = .ended
  | closingLog, some (ticker, pulse) => ticker = .ended ∧ pulse.place = .ended
  | ended _, some (ticker, pulse) => ticker = .ended ∧ pulse.place = .ended
  | _, _ => True

/-- Whether the supervisor has returned. -/
def Supervisor.isEnded : Supervisor → Bool
  | ended _ => true
  | _ => false

namespace Server

variable {s s' : Server} {action : Action}

/-- All requests to stop, that of the supervisor last. -/
def stopRequests (s : Server) : List StopRequest := s.requests ++ s.supervisor.request?.toList

/-- The pulse takes a step. -/
def Action.isBeat : Action → Bool
  | beat _ => true
  | _ => false

/-- The supervisor and the requests to stop stay as they are. -/
def SamePlan (s s' : Server) : Prop := s'.supervisor = s.supervisor ∧ s'.requests = s.requests

/-- What a step may do to the log, to the jobs of the workers, to the pulse and its permits, and to
the requests to stop. -/
inductive Effect (s : Server) (action : Action) (s' : Server) : Prop
  /-- It is about something else, or about a request to stop. -/
  | pass (haction : action.isBeat = false) (hlog : s'.hub.log = s.hub.log)
      (hwakes : s'.hub.pulseWakes = s.hub.pulseWakes)
      (hstopped : s.hub.stopped = true → s'.hub.stopped = true)
      (hheart : s'.heart = s.heart) (hjobs : s'.crew.jobs = s.crew.jobs)
      (hbegun : s'.stopRequests ≠ [] → s.stopRequests ≠ [] ∨ s'.hub.stopped = true)
      (hcomplete : .complete ∈ s'.stopRequests → .complete ∈ s.stopRequests)
      (hjoined : s.supervisor.HasJoined s.heart → s'.supervisor.HasJoined s.heart)
      (hended : s'.supervisor.isEnded = s.supervisor.isEnded)
  /-- A worker is started. -/
  | start (haction : action.isBeat = false) (outlet : Outlet) (hhub : s'.hub = s.hub)
      (hheart : s'.heart = s.heart) (hjobs : s'.crew.jobs = s.crew.jobs ++ [.ofOutlet outlet])
      (hbefore : s.supervisor = .listening) (hafter : s'.supervisor = .asking)
      (hrequests : s'.requests = s.requests)
  /-- The pulse gets a permit, but not from the ticker. -/
  | wake (haction : action.isBeat = false) (hhub : s'.hub = s.hub.wakePulse)
      (hheart : s'.heart = s.heart) (hjobs : s'.crew.jobs = s.crew.jobs)
      (hbegun : s'.stopRequests ≠ [] → s.stopRequests ≠ [])
      (hjoined : s.supervisor.HasJoined s.heart → s'.supervisor.HasJoined s.heart)
      (hended : s'.supervisor.isEnded = s.supervisor.isEnded)
  /-- Something happens to the client of a worker. -/
  | feed (haction : action.isBeat = false) (place : Nat) {job job' : Service}
      (hjob : s.crew.jobs[place]? = some job)
      (hsession : ∃ arrivals, job'.session = { job.session with arrivals })
      (hjobs : s'.crew.jobs = s.crew.jobs.set place job') (hhub : s'.hub = s.hub)
      (hheart : s'.heart = s.heart) (hplan : s.SamePlan s')
  /-- A worker serves its client. -/
  | serve (place : Nat) (haction : action = .work (place + 1)) {job job' : Service}
      (hjob : s.crew.jobs[place]? = some job) (hstep : job.step s.hub = some (job', s'.hub))
      (hjobs : s'.crew.jobs = s.crew.jobs.set place job') (hheart : s'.heart = s.heart)
      (hplan : s.SamePlan s')
  /-- The ticker takes a step. -/
  | tick (haction : action.isBeat = false) {ticker ticker' : Ticker} (pulse : Pulse)
      (hbefore : s.heart = some (ticker, pulse))
      (hstep : ticker.step s.hub = some (ticker', s'.hub))
      (hafter : s'.heart = some (ticker', pulse)) (hjobs : s'.crew.jobs = s.crew.jobs)
      (hplan : s.SamePlan s')
  /-- The pulse takes a step. -/
  | beat (now : Moment) (haction : action = .beat now) (ticker : Ticker) {pulse pulse' : Pulse}
      (hbefore : s.heart = some (ticker, pulse))
      (hstep : pulse.step s.hub now = some (pulse', s'.hub))
      (hafter : s'.heart = some (ticker, pulse')) (hjobs : s'.crew.jobs = s.crew.jobs)
      (hplan : s.SamePlan s')
  /-- Somebody from outside writes to the log. -/
  | write (writer : Nat) (bytes : Bytes) (haction : action = .write writer bytes) (draft : Draft)
      (hhub : s'.hub = (s.hub.write draft bytes).2) (hheart : s'.heart = s.heart)
      (hjobs : s'.crew.jobs = s.crew.jobs) (hplan : s.SamePlan s')
  /-- The supervisor closes the log. -/
  | close (haction : action.isBeat = false) (hbefore : s.supervisor = .closingLog)
      (hafter : ∃ failure, s'.supervisor = .ended failure) (hhub : s'.hub = s.hub.close.2)
      (hheart : s'.heart = s.heart) (hjobs : s'.crew.jobs = s.crew.jobs)
      (hrequests : s'.requests = s.requests)

/-- Nothing of this changes, and no request to stop has come further. -/
theorem Effect.of_same (haction : action.isBeat = false) (hlog : s'.hub.log = s.hub.log)
    (hwakes : s'.hub.pulseWakes = s.hub.pulseWakes) (hstopped : s'.hub.stopped = s.hub.stopped)
    (hheart : s'.heart = s.heart) (hjobs : s'.crew.jobs = s.crew.jobs)
    (hrequests : s'.stopRequests = s.stopRequests)
    (hjoined : s.supervisor.HasJoined s.heart → s'.supervisor.HasJoined s.heart)
    (hended : s'.supervisor.isEnded = s.supervisor.isEnded) :
  Effect s action s'
  := by
  refine .pass haction hlog hwakes ?_ hheart hjobs ?_ ?_ hjoined hended
  · rw [hstopped]
    exact id
  · rw [hrequests]
    exact .inl
  · rw [hrequests]
    exact id

theorem effect_of_supervise (h : s.supervise = some s') :
  Effect s .supervise s'
  := by
  obtain ⟨hub, crew, supervisor, collector, heart, requests, drafts, listenFailure⟩ := s
  cases supervisor with
  | asking =>
    cases h
    cases hub.stopped with
    | true => exact .of_same rfl rfl rfl rfl rfl rfl rfl id rfl
    | false => exact .of_same rfl rfl rfl rfl rfl rfl rfl id rfl
  | raisingStop =>
    cases h
    refine .pass rfl rfl rfl (fun _ => rfl) rfl rfl (fun _ => .inr rfl) ?_ id rfl
    simp [stopRequests, Supervisor.request?]
  | wakingCollector =>
    cases h
    refine .pass rfl rfl rfl id rfl rfl ?_ ?_ id rfl
    · simp [stopRequests, Supervisor.request?]
    · simp [stopRequests, Supervisor.request?]
  | wakingPulse =>
    cases h
    refine .wake rfl rfl rfl rfl ?_ id rfl
    simp [stopRequests, Supervisor.request?]
  | awaitingCollector =>
    rw [supervise] at h
    dsimp only at h
    split at h
    · cases h
      exact .of_same rfl rfl rfl rfl rfl rfl rfl id rfl
    · cases h
  | awaitingWorkers ids =>
    cases ids with
    | nil =>
      cases h
      exact .of_same rfl rfl rfl rfl rfl rfl rfl id rfl
    | cons id ids =>
      obtain ⟨ok, -, h⟩ := Option.bind_eq_some_iff.mp h
      cases h
      exact .of_same rfl rfl rfl rfl rfl rfl rfl (fun hjoined => hjoined) rfl
  | awaitingTicker =>
    cases heart with
    | none =>
      cases h
      exact .of_same rfl rfl rfl rfl rfl rfl rfl id rfl
    | some heart =>
      rw [supervise] at h
      dsimp only at h
      split at h
      · next hended =>
        cases h
        exact .of_same rfl rfl rfl rfl rfl rfl rfl (fun _ => hended) rfl
      · cases h
  | awaitingPulse =>
    cases heart with
    | none =>
      cases h
      exact .of_same rfl rfl rfl rfl rfl rfl rfl id rfl
    | some heart =>
      rw [supervise] at h
      dsimp only at h
      split at h
      · next hended =>
        cases h
        exact .of_same rfl rfl rfl rfl rfl rfl rfl (fun hticker => ⟨hticker, hended⟩) rfl
      · cases h
  | closingLog =>
    cases h
    exact .close rfl rfl ⟨_, rfl⟩ rfl rfl rfl rfl
  | listening | closing | announcing | takingAll =>
    cases h
    exact .of_same rfl rfl rfl rfl rfl rfl rfl id rfl
  | ended failure => cases h

theorem effect_of_work {id : Nat} (h : s.work id = some s') :
  Effect s (.work id) s'
  := by
  obtain ⟨worker, hworker, h⟩ := Option.bind_eq_some_iff.mp h
  cases hprogress : worker.progress with
  | working =>
    rw [hprogress] at h
    cases hstep : worker.job.step s.hub with
    | some stepped =>
      obtain ⟨job, hub⟩ := stepped
      rw [hstep] at h
      obtain rfl := Option.some.inj h
      cases id with
      | zero => cases hworker
      | succ place =>
        refine .serve place rfl ?_ hstep ?_ rfl ⟨rfl, rfl⟩
        · rw [Crew.getElem?_jobs, hworker, Option.map_some]
        · apply Crew.jobs_setWorker
    | none =>
      rw [hstep] at h
      dsimp only at h
      split at h
      · obtain ⟨crew, hmark, h⟩ := Option.bind_eq_some_iff.mp h
        obtain rfl := Option.some.inj h
        exact .of_same rfl rfl rfl rfl rfl (Crew.jobs_of_mark? hmark) rfl
          (fun hjoined => hjoined) rfl
      · cases h
  | marked ok =>
    rw [hprogress] at h
    obtain ⟨crew, hannounce, h⟩ := Option.bind_eq_some_iff.mp h
    obtain rfl := Option.some.inj h
    exact .of_same rfl rfl rfl rfl rfl (Crew.jobs_of_announce? hannounce) rfl
      (fun hjoined => hjoined) rfl
  | announced ok =>
    rw [hprogress] at h
    obtain ⟨crew, hleave, h⟩ := Option.bind_eq_some_iff.mp h
    obtain rfl := Option.some.inj h
    exact .of_same rfl rfl rfl rfl rfl (Crew.jobs_of_leave? hleave) rfl
      (fun hjoined => hjoined) rfl
  | ended ok | vanished =>
    rw [hprogress] at h
    cases h

/-- What arrives from a client waits until the session takes it. -/
theorem effect_of_serve {id : Nat} {change : Service → Service} (haction : action.isBeat = false)
    (hchange : ∀ job, ∃ arrivals, (change job).session = { job.session with arrivals })
    (h : s.serve id change = some s') :
  Effect s action s'
  := by
  obtain ⟨worker, hworker, h⟩ := Option.bind_eq_some_iff.mp h
  split at h
  · obtain rfl := Option.some.inj h
    cases id with
    | zero => cases hworker
    | succ place =>
      refine .feed haction place ?_ (hchange worker.job) ?_ rfl rfl ⟨rfl, rfl⟩
      · rw [Crew.getElem?_jobs, hworker, Option.map_some]
      · apply Crew.jobs_setWorker
  · cases h

theorem exists_arrivals_deliver (job : Service) (arrival : Arrival) :
  ∃ arrivals, (job.deliver arrival).session = { job.session with arrivals }
  := by
  rw [Service.deliver]
  split
  · exact ⟨_, rfl⟩
  · exact ⟨_, rfl⟩

/-- Every step has one of these effects. -/
theorem effect_of_step (h : s.step action = some s') :
  Effect s action s'
  := by
  cases action with
  | supervise => exact effect_of_supervise h
  | welcome peer outlet =>
    rw [step] at h
    split at h
    · next hlistening =>
      obtain rfl := Option.some.inj h
      refine .start rfl outlet rfl rfl ?_ hlistening.1 rfl rfl
      apply Crew.jobs_start
    · cases h
  | failListening cause =>
    rw [step] at h
    split at h
    · next hlistening =>
      obtain rfl := Option.some.inj h
      refine .of_same rfl rfl rfl rfl rfl rfl ?_ (fun _ => trivial) ?_
      · show s.requests ++ _ = s.stopRequests
        rw [stopRequests, hlistening]
        rfl
      · rw [hlistening]
        rfl
    · cases h
  | collect =>
    obtain ⟨⟨collector, crew⟩, hcollect, h⟩ := Option.bind_eq_some_iff.mp h
    obtain rfl := Option.some.inj h
    have hjobs : crew.jobs = s.crew.jobs := by
      rw [Crew.jobs, Collector.workers_eq_of_step hcollect, Crew.jobs]
    exact .of_same rfl rfl rfl rfl rfl hjobs rfl id rfl
  | tick =>
    obtain ⟨⟨ticker, pulse⟩, hheart, h⟩ := Option.bind_eq_some_iff.mp h
    obtain ⟨⟨ticker', hub⟩, htick, h⟩ := Option.bind_eq_some_iff.mp h
    obtain rfl := Option.some.inj h
    exact .tick rfl pulse hheart htick rfl rfl ⟨rfl, rfl⟩
  | beat now =>
    obtain ⟨⟨ticker, pulse⟩, hheart, h⟩ := Option.bind_eq_some_iff.mp h
    obtain ⟨⟨pulse', hub⟩, hbeat, h⟩ := Option.bind_eq_some_iff.mp h
    obtain rfl := Option.some.inj h
    exact .beat now rfl ticker hheart hbeat rfl rfl ⟨rfl, rfl⟩
  | work id => exact effect_of_work h
  | breakDown id =>
    obtain ⟨crew, hmark, h⟩ := Option.bind_eq_some_iff.mp h
    obtain rfl := Option.some.inj h
    exact .of_same rfl rfl rfl rfl rfl (Crew.jobs_of_mark? hmark) rfl
      (fun hjoined => hjoined) rfl
  | deliver id chunk | disturb id cause =>
    rw [step] at h
    apply effect_of_serve rfl _ h
    intro job
    apply exists_arrivals_deliver
  | hangUp id =>
    rw [step] at h
    apply effect_of_serve rfl _ h
    intro job
    exact ⟨_, rfl⟩
  | requestStop =>
    obtain rfl := Option.some.inj h
    refine .pass rfl rfl rfl (fun _ => rfl) rfl rfl (fun _ => .inr rfl) ?_ id rfl
    simp [stopRequests]
  | continueStop place =>
    obtain ⟨request, hrequest, h⟩ := Option.bind_eq_some_iff.mp h
    have hbegun : s.stopRequests ≠ [] := by
      rw [stopRequests, Ne, List.append_eq_nil_iff, not_and]
      intro hnil
      rw [hnil] at hrequest
      cases hrequest
    cases request with
    | raised =>
      obtain rfl := Option.some.inj h
      refine .pass rfl rfl rfl id rfl rfl (fun _ => .inl hbegun) ?_ id rfl
      simp only [stopRequests, List.mem_append]
      rintro (hset | hown)
      · left
        rcases List.mem_or_eq_of_mem_set hset with hmem | heq
        · exact hmem
        · cases heq
      · right
        exact hown
    | collectorWoken =>
      obtain rfl := Option.some.inj h
      exact .wake rfl rfl rfl rfl (fun _ => hbegun) id rfl
    | complete => cases h
  | wakeCollector =>
    obtain rfl := Option.some.inj h
    exact .of_same rfl rfl rfl rfl rfl rfl rfl id rfl
  | wakePulse =>
    obtain rfl := Option.some.inj h
    exact .wake rfl rfl rfl rfl id id rfl
  | write writer bytes =>
    obtain rfl := Option.some.inj h
    exact .write writer bytes rfl (s.drafts writer) rfl rfl rfl ⟨rfl, rfl⟩

end Server

end BoundedLog
