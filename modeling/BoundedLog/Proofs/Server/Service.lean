import BoundedLog.Proofs.Session.AllOrNothing
import BoundedLog.Server.Service

/-!
# What a step of a service comes to

Between its steps a session has no bytes in its draft, and its summary tells what it has done: it
has asked for a place if it counts a seek, and it counts no record while it is receiving and one at
most behind that. A step of its service keeps this, and commits as many records as it counts. What
it commits is a line of the client that does not ask for a place.
-/

namespace BoundedLog

/-- Reading does not take a request to stop back. -/
theorem Arrival.stopped_readLineFrom (line : Bytes) (arrivals : List Arrival) :
  (readLineFrom line true arrivals).stopped = true
  := by
  induction arrivals generalizing line with
  | nil => rfl
  | cons arrival rest ih =>
    cases arrival with
    | bytes chunk =>
      rw [readLineFrom]
      split
      · rfl
      · apply ih
    | failure cause =>
      rw [readLineFrom]
      split
      · apply ih
      · split
        · rfl
        · rfl
    | stop => apply ih

namespace Session

/-- What holds of a session between its steps. -/
structure Orderly (s : Session) : Prop where
  draft_eq : s.draft = {}
  place_eq : s.summary.seeks = 0 → s.place = none
  records_eq : s.phase = .receiving → s.summary.records = 0
  records_le : s.summary.records ≤ 1

/-- A session that has just begun is orderly. -/
theorem orderly_start (outlet : Outlet) :
  Orderly { arrivals := [], outlet }
  where
  draft_eq := rfl
  place_eq _ := rfl
  records_eq _ := rfl
  records_le := Nat.zero_le 1

/-- The end of a session leaves its summary and its place as they are. -/
theorem Orderly.finish {s : Session} (h : s.Orderly) :
  s.finish.Orderly
  where
  draft_eq := rfl
  place_eq := h.place_eq
  records_eq := nofun
  records_le := h.records_le

/-- What arrives makes no difference before it is read. -/
theorem Orderly.with_arrivals {s : Session} (h : s.Orderly) (arrivals : List Arrival) :
  Orderly { s with arrivals }
  := ⟨h.draft_eq, h.place_eq, h.records_eq, h.records_le⟩

/-- Receiving does not take a request to stop back. -/
theorem stopped_receive {scene : Scene} (h : scene.stopped = true) (d : Disk) :
  ((receive scene).run d).1.2.stopped = true
  := by
  have hstopped : (Arrival.readLine scene.stopped scene.session.arrivals).stopped = true := by
    rw [h]
    apply Arrival.stopped_readLineFrom
  rw [receive]
  generalize Arrival.readLine scene.stopped scene.session.arrivals = reading at hstopped
  obtain ⟨result, stopped, left⟩ := reading
  cases result with
  | error cause => exact hstopped
  | ok line => exact hstopped

/-- Taking a line keeps a session orderly, and the record that is committed, if there is one, is
counted. -/
theorem Turn.orderly {before : Scene} {d : Disk} {result : (Except Fault Unit × Scene) × Disk}
    (h : Turn before d result) (hphase : before.session.phase = .receiving)
    (horderly : before.session.Orderly) :
  result.1.2.session.Orderly
    ∧ ∃ record?, result.1.2.log = before.log.committing record?
      ∧ result.1.2.session.summary.records
        = before.session.summary.records + record?.toList.length
  := by
  have hnone := horderly.records_eq hphase
  cases h with
  | @fail cause after hlog houtlet hdraft hplace hsummary
  | @finish after hreplying hlog houtlet hdraft hplace hsummary =>
    constructor
    · show after.session.Orderly
      constructor
      · exact hdraft
      · rw [hsummary, hplace]
        exact horderly.place_eq
      · rw [hsummary]
        exact fun _ => hnone
      · rw [hsummary]
        exact horderly.records_le
    · use none, hlog
      exact congrArg Summary.records hsummary
  | @seek line after hreceiving hdraft hlog houtlet hlines hsummary =>
    have hrecords := congrArg Summary.records hsummary
    constructor
    · show after.session.Orderly
      constructor
      · exact hdraft
      · rw [hsummary]
        nofun
      · exact fun _ => hrecords.trans hnone
      · rw [hrecords]
        exact horderly.records_le
    · use none, hlog
      exact hrecords
  | @record line after d' hreplying hlog houtlet hline hdraft hplace hsummary =>
    have hrecords := congrArg Summary.records hsummary
    constructor
    · show after.session.Orderly
      constructor
      · exact hdraft
      · rw [hsummary, hplace]
        exact horderly.place_eq
      · rw [hreplying]
        nofun
      · rw [hrecords]
        exact (congrArg Nat.succ hnone).le
    · use some line, hlog
      exact hrecords

/-- Taking a line commits nothing but a whole line that does not ask for a place. -/
theorem Turn.commits {before : Scene} {d : Disk} {result : (Except Fault Unit × Scene) × Disk}
    (h : Turn before d result) :
  ∃ record?, result.1.2.log = before.log.committing record?
    ∧ ∀ record ∈ record?, IsRecordOf before.session.arrivals record
  := by
  cases h with
  | fail _ hlog | finish _ hlog | seek _ _ _ hlog => exact ⟨none, hlog, nofun⟩
  | record line _ hlog _ hline =>
    use some line, hlog
    rintro record ⟨⟩
    exact hline

end Session

namespace Service

variable {service service' : Service} {h h' : Hub}

/-- What a step of a service does to the session and to what the threads have in common. -/
structure Advances (service : Service) (h : Hub) (service' : Service) (h' : Hub) : Prop where
  orderly : service'.session.Orderly
  stopped : h.stopped = true → h'.stopped = true
  pulseWakes_eq : h'.pulseWakes = h.pulseWakes
  commits : ∃ record?, h'.log = h.log.committing record?
    ∧ service'.session.summary.records
      = service.session.summary.records + record?.toList.length

/-- The reply ends the service, and the log has no part in it. What is sent is the beginning of the
reply, and all of it if nothing fails. -/
theorem reply_of_step (hphase : service.session.phase = .replying)
    (hstep : service.step h = some (service', h')) :
  h' = h
    ∧ (∃ outlet summary, service'.session = { service.session with outlet, summary }.finish
      ∧ summary.seeks = service.session.summary.seeks
      ∧ summary.records = service.session.summary.records)
    ∧ ∃ sent, service'.session.outlet.accepted = service.session.outlet.accepted ++ sent
      ∧ sent <+: service.session.content h.log
      ∧ ∀ summary, service'.outcome = some (.ok summary) → sent = service.session.content h.log
  := by
  rw [step, hphase] at hstep
  obtain ⟨hservice, rfl⟩ := Prod.mk.inj (Option.some.inj hstep)
  have hsent : service' = service.conclude
      (service.session.send (service.session.content h.log)).2
      (service.session.send (service.session.content h.log)).1 := hservice.symm
  rcases Session.send_cases service.session (service.session.content h.log) with
    ⟨cause, outlet, sent, hsend, haccepted, hprefix⟩ | ⟨outlet, hsend, haccepted, -⟩
  · rw [hsent, hsend]
    exact ⟨rfl, ⟨outlet, service.session.summary, rfl, rfl, rfl⟩, sent, haccepted, hprefix, nofun⟩
  · rw [hsent, hsend]
    exact ⟨rfl, ⟨outlet, _, rfl, rfl, rfl⟩, _, haccepted, List.prefix_rfl, fun _ _ => rfl⟩

/-- A session that is receiving takes a line, and ends if it fails at that. -/
theorem turn_of_step (horderly : service.session.Orderly)
    (hphase : service.session.phase = .receiving)
    (hstep : service.step h = some (service', h')) :
  ∃ received, Session.Turn ⟨service.session, h.log, h.stopped⟩ h.disk received
    ∧ (h.stopped = true → received.1.2.stopped = true)
    ∧ (service'.session = received.1.2.session ∨ service'.session = received.1.2.session.finish)
    ∧ h' = { h with log := received.1.2.log, disk := received.2, stopped := received.1.2.stopped }
  := by
  rw [step, hphase] at hstep
  dsimp only at hstep
  split at hstep
  · have hturn := @Session.turn_receive ⟨service.session, h.log, h.stopped⟩
      horderly.draft_eq hphase h.disk
    have hstopped (hstop : h.stopped = true) :=
      @Session.stopped_receive ⟨service.session, h.log, h.stopped⟩ hstop h.disk
    generalize (Session.receive _).run h.disk = received at hstep hturn hstopped
    refine ⟨received, hturn, hstopped, ?_⟩
    obtain ⟨⟨outcome, scene⟩, disk⟩ := received
    cases outcome with
    | ok _ =>
      obtain ⟨rfl, rfl⟩ := Prod.mk.inj (Option.some.inj hstep)
      exact ⟨.inl rfl, rfl⟩
    | error cause =>
      obtain ⟨rfl, rfl⟩ := Prod.mk.inj (Option.some.inj hstep)
      exact ⟨.inr rfl, rfl⟩
  · cases hstep

/-- A session that is finished takes no step. -/
theorem phase_ne_finished_of_step (hstep : service.step h = some (service', h')) :
  service.session.phase ≠ .finished
  := by
  intro hphase
  rw [step, hphase] at hstep
  cases hstep

theorem advances_of_step (horderly : service.session.Orderly)
    (hstep : service.step h = some (service', h')) :
  Advances service h service' h'
  := by
  cases hphase : service.session.phase with
  | receiving =>
    obtain ⟨received, hturn, hstopped, hsession, rfl⟩ := turn_of_step horderly hphase hstep
    obtain ⟨hafter, hcommits⟩ := hturn.orderly hphase horderly
    rcases hsession with hsession | hsession
    · rw [← hsession] at hafter hcommits
      exact ⟨hafter, hstopped, rfl, hcommits⟩
    · constructor
      · rw [hsession]
        apply hafter.finish
      · exact hstopped
      · rfl
      · rw [hsession]
        exact hcommits
  | replying =>
    obtain ⟨rfl, ⟨outlet, summary, hsession, hseeks, hrecords⟩, -⟩ := reply_of_step hphase hstep
    constructor
    · rw [hsession]
      refine ⟨rfl, ?_, nofun, ?_⟩
      · show summary.seeks = 0 → service.session.place = none
        rw [hseeks]
        apply horderly.place_eq
      · show summary.records ≤ 1
        rw [hrecords]
        apply horderly.records_le
    · exact id
    · rfl
    · rw [hsession]
      exact ⟨none, rfl, hrecords⟩
  | finished => exact absurd hphase (phase_ne_finished_of_step hstep)

/-- A step of a service commits nothing but a whole line that has arrived and does not ask for a
place. -/
theorem commits_of_step (horderly : service.session.Orderly)
    (hstep : service.step h = some (service', h')) :
  ∃ record?, h'.log = h.log.committing record?
    ∧ ∀ record ∈ record?, Session.IsRecordOf service.session.arrivals record
  := by
  cases hphase : service.session.phase with
  | receiving =>
    obtain ⟨received, hturn, -, -, rfl⟩ := turn_of_step horderly hphase hstep
    apply hturn.commits
  | replying =>
    obtain ⟨rfl, -, -⟩ := reply_of_step hphase hstep
    exact ⟨none, rfl, nofun⟩
  | finished => exact absurd hphase (phase_ne_finished_of_step hstep)

end Service

end BoundedLog
