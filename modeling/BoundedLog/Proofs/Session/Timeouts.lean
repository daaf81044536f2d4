import BoundedLog.Proofs.Session.Fragments
import BoundedLog.Proofs.Session.Stopping

/-!
# Timeouts and the request to stop

Nothing arrives in time: in front of a request to stop that is of no consequence, and behind one it
ends a session that is receiving. So the requests to stop matter only to a session that meets a
timeout behind one of them; any other session comes to the same end as if it had not been told to
stop at all.

What a session meets is told by its signals, which are all arrivals but the bytes: those that arrive
are those that it has met and those that are left, in this order.
-/

namespace BoundedLog

/-- A request to stop makes a difference to timeouts only. -/
theorem IoError.report?_eq_ite (cause : IoError) (stopped : Bool) :
  cause.report? stopped
    = if stopped && cause.isTimeout then some .shuttingDown else cause.report? false
  := by
  rw [report?, report?]
  by_cases hinterrupted : cause.kind = .interrupted
  · have htimeout : cause.isTimeout = false := by simp [isTimeout, hinterrupted]
    simp [hinterrupted, htimeout]
  · by_cases htimeout : cause.isTimeout = true
    · cases stopped with
      | true => simp [hinterrupted, htimeout]
      | false => simp [hinterrupted, htimeout]
    · simp [hinterrupted, htimeout]

/-- Nobody gives up because the server stops unless it does. -/
theorem IoError.report?_false_ne (cause : IoError) :
  cause.report? false ≠ some .shuttingDown
  := by
  rw [report?]
  split
  · rintro ⟨⟩
  · next hinterrupted =>
    rw [if_neg Bool.false_ne_true]
    split
    · rintro ⟨⟩
    · rintro ⟨rfl⟩
      exact hinterrupted rfl

namespace Arrival

/-! ### Signals -/

/-- Whether the arrival is anything but bytes. -/
def isSignal : Arrival → Bool
  | .bytes _ => false
  | .failure _ | .stop => true

/-- What arrives apart from bytes, in order. -/
def signals (arrivals : List Arrival) : List Arrival := arrivals.filter isSignal

/-- Whether there is a timeout behind a request to stop. -/
def timesOut (stopped : Bool) : List Arrival → Bool
  | [] => false
  | .bytes _ :: rest => timesOut stopped rest
  | .failure cause :: rest => (stopped && cause.isTimeout) || timesOut stopped rest
  | .stop :: rest => timesOut true rest

/-- Whether the server stops behind the arrivals. -/
def stopsBehind (stopped : Bool) (arrivals : List Arrival) : Bool :=
  stopped || arrivals.contains .stop

theorem stopsBehind_append (stopped : Bool) (front behind : List Arrival) :
  stopsBehind stopped (front ++ behind) = stopsBehind (stopsBehind stopped front) behind
  := by
  simp [stopsBehind, Bool.or_assoc]

theorem timesOut_append (stopped : Bool) (front behind : List Arrival) :
  timesOut stopped (front ++ behind)
    = (timesOut stopped front || timesOut (stopsBehind stopped front) behind)
  := by
  induction front generalizing stopped with
  | nil => simp [timesOut, stopsBehind]
  | cons arrival rest ih =>
    cases arrival with
    | bytes chunk | failure cause => simp [timesOut, ih, stopsBehind, Bool.or_assoc]
    | stop => simp [timesOut, ih, stopsBehind]

/-- The last one is a timeout behind a request to stop, and the only one. -/
def EndsInTimeout (stopped : Bool) (met : List Arrival) : Prop :=
  ∃ early cause, met = early ++ [.failure cause] ∧ cause.isTimeout = true
    ∧ stopsBehind stopped early = true ∧ timesOut stopped early = false

theorem EndsInTimeout.timesOut {stopped : Bool} {met : List Arrival}
    (h : EndsInTimeout stopped met) :
  timesOut stopped met = true
  := by
  obtain ⟨early, cause, rfl, hcause, hstops, -⟩ := h
  rw [timesOut_append, hstops]
  simp [Arrival.timesOut, hcause]

/-! ### What a reading meets -/

/-- The signals met on the way from arrivals to those that are left, behind which the session gives
up because the server stops, or does not. -/
structure Meets (stopped : Bool) (arrivals : List Arrival) (stopped' : Bool) (left : List Arrival)
    (gaveUp : Prop) (met : List Arrival) : Prop where
  signals_eq : signals arrivals = met ++ signals left
  stopped_eq : stopped' = stopsBehind stopped met
  endsInTimeout : gaveUp → EndsInTimeout stopped met
  timesOut_eq : ¬ gaveUp → timesOut stopped met = false

variable {stopped stopped' stopped'' : Bool} {arrivals left left' met met' : List Arrival}
  {gaveUp : Prop}

/-- Nothing is met if all signals are left. -/
theorem meets_nil (hleft : signals arrivals = signals left) (hnot : ¬ gaveUp) :
  Meets stopped arrivals stopped left gaveUp []
  := ⟨hleft, by simp [stopsBehind], fun hgaveUp => absurd hgaveUp hnot, fun _ => rfl⟩

theorem Meets.trans (h : Meets stopped arrivals stopped' left False met)
    (h' : Meets stopped' left stopped'' left' gaveUp met') :
  Meets stopped arrivals stopped'' left' gaveUp (met ++ met')
  := by
  have hcalm : timesOut stopped met = false := h.timesOut_eq id
  have hstopped := h.stopped_eq
  constructor
  · rw [h.signals_eq, h'.signals_eq, List.append_assoc]
  · rw [h'.stopped_eq, hstopped, stopsBehind_append]
  · intro hgaveUp
    obtain ⟨early, cause, rfl, hcause, hstops, hearly⟩ := h'.endsInTimeout hgaveUp
    refine ⟨met ++ early, cause, (List.append_assoc _ _ _).symm, hcause, ?_, ?_⟩
    · rw [stopsBehind_append, ← hstopped, hstops]
    · rw [timesOut_append, hcalm, ← hstopped, hearly]
      rfl
  · intro hnot
    rw [timesOut_append, hcalm, ← hstopped, h'.timesOut_eq hnot]
    rfl

theorem Meets.congr {gaveUp' : Prop} (h : Meets stopped arrivals stopped' left gaveUp met)
    (hiff : gaveUp' ↔ gaveUp) :
  Meets stopped arrivals stopped' left gaveUp' met
  := ⟨h.signals_eq, h.stopped_eq, h.endsInTimeout ∘ hiff.mp, h.timesOut_eq ∘ mt hiff.mpr⟩

/-- A reading goes past a signal and on. -/
theorem Meets.cons {arrival : Arrival} (h : Meets stopped' arrivals stopped'' left gaveUp met)
    (hsignal : arrival.isSignal = true) (hstopped : stopped' = stopsBehind stopped [arrival])
    (hcalm : timesOut stopped [arrival] = false) :
  Meets stopped (arrival :: arrivals) stopped'' left gaveUp (arrival :: met)
  := by
  have hfirst : Meets stopped (arrival :: arrivals) stopped' arrivals False [arrival] :=
    ⟨List.filter_cons_of_pos hsignal, hstopped, False.elim, fun _ => hcalm⟩
  apply hfirst.trans h

/-- A reading gives up because the server stops exactly if it meets a timeout behind a request to
stop, which is then the last signal that it meets. -/
theorem exists_meets_readLineFrom (line : Bytes) (stopped : Bool) (arrivals : List Arrival) :
  let reading := readLineFrom line stopped arrivals
  ∃ met, Meets stopped arrivals reading.stopped reading.left
    (reading.result = .error .shuttingDown) met
  := by
  induction arrivals generalizing line stopped with
  | nil =>
    use []
    apply meets_nil rfl
    rintro ⟨⟩
  | cons arrival rest ih =>
    cases arrival with
    | bytes chunk =>
      rw [readLineFrom]
      cases chunk.cutLine? with
      | some cut =>
        use []
        refine meets_nil rfl ?_
        rintro ⟨⟩
      | none =>
        obtain ⟨met, hmet⟩ := ih (line ++ chunk) stopped
        exact ⟨met, hmet.signals_eq, hmet.stopped_eq, hmet.endsInTimeout, hmet.timesOut_eq⟩
    | stop =>
      obtain ⟨met, hmet⟩ := ih line true
      use .stop :: met
      rw [readLineFrom]
      exact hmet.cons rfl (by simp [stopsBehind]) (by simp [timesOut])
    | failure cause =>
      have hstopped : stopped = stopsBehind stopped [.failure cause] := by simp [stopsBehind]
      rw [readLineFrom_failure, cause.report?_eq_ite]
      by_cases hdown : (stopped && cause.isTimeout) = true
      · obtain ⟨rfl, htimeout⟩ : stopped = true ∧ cause.isTimeout = true := by simpa using hdown
        rw [if_pos hdown]
        use [.failure cause]
        refine ⟨rfl, hstopped, fun _ => ?_, fun hnot => absurd rfl hnot⟩
        exact ⟨[], cause, rfl, htimeout, rfl, rfl⟩
      · have hcalm : timesOut stopped [.failure cause] = false := by simpa [timesOut] using hdown
        rw [if_neg hdown]
        cases hreport : cause.report? false with
        | none =>
          obtain ⟨met, hmet⟩ := ih line stopped
          use .failure cause :: met
          exact hmet.cons rfl hstopped hcalm
        | some reported =>
          use [.failure cause]
          refine ⟨rfl, hstopped, ?_, fun _ => hcalm⟩
          rintro ⟨⟩
          exact absurd hreport cause.report?_false_ne

/-! ### Other ways in which the same arrives -/

/-- The arrivals without the requests to stop. -/
def unstopped (arrivals : List Arrival) : List Arrival := arrivals.filter (· != .stop)

/-- The arrivals without the timeouts in front of a request to stop. -/
def prompt (stopped : Bool) : List Arrival → List Arrival
  | [] => []
  | .bytes chunk :: rest => .bytes chunk :: prompt stopped rest
  | .failure cause :: rest =>
    if !stopped && cause.isTimeout then prompt stopped rest
    else .failure cause :: prompt stopped rest
  | .stop :: rest => .stop :: prompt true rest

/-- Another way to put what arrives and whether the server stops. -/
abbrev Guise := Bool → List Arrival → Bool × List Arrival

/-- A reading makes no difference between the arrivals and their guise, unless it gives up because
the server stops, if that is excused. -/
structure Conceals (guise : Guise) (excused : Prop) : Prop where
  unread_eq : ∀ stopped arrivals, unread (guise stopped arrivals).2 = unread arrivals
  readLineFrom_eq : ∀ line stopped arrivals,
    let reading := readLineFrom line stopped arrivals
    let behind := guise reading.stopped reading.left
    readLineFrom line (guise stopped arrivals).1 (guise stopped arrivals).2
        = ⟨reading.result, behind.1, behind.2⟩
      ∨ (excused ∧ reading.result = .error .shuttingDown)

/-- Without the requests to stop a reading is the same unless it gives up because of them. -/
theorem conceals_unstopped :
  Conceals (fun _ arrivals => (false, unstopped arrivals)) True
  := by
  constructor
  · intro _ arrivals
    induction arrivals with
    | nil => rfl
    | cons arrival rest ih =>
      cases arrival with
      | bytes chunk => exact congrArg (chunk.length + ·) ih
      | failure cause | stop => exact ih
  · intro line stopped arrivals
    dsimp only
    induction arrivals generalizing line stopped with
    | nil => exact .inl rfl
    | cons arrival rest ih =>
      cases arrival with
      | bytes chunk =>
        rw [unstopped, List.filter_cons_of_pos rfl, readLineFrom, readLineFrom]
        cases chunk.cutLine? with
        | some cut => exact .inl rfl
        | none => apply ih
      | failure cause =>
        rw [unstopped, List.filter_cons_of_pos rfl, readLineFrom_failure, readLineFrom_failure,
          cause.report?_eq_ite stopped]
        by_cases hdown : (stopped && cause.isTimeout) = true
        · rw [if_pos hdown]
          exact .inr ⟨trivial, rfl⟩
        · rw [if_neg hdown]
          cases cause.report? false with
          | none => apply ih
          | some reported => exact .inl rfl
      | stop => apply ih

/-- A timeout in front of a request to stop makes no difference to a reading. -/
theorem conceals_prompt :
  Conceals (fun stopped arrivals => (stopped, prompt stopped arrivals)) False
  := by
  constructor
  · intro stopped arrivals
    induction arrivals generalizing stopped with
    | nil => rfl
    | cons arrival rest ih =>
      cases arrival with
      | bytes chunk => exact congrArg (chunk.length + ·) (ih stopped)
      | failure cause =>
        show unread (prompt stopped (.failure cause :: rest)) = _
        rw [prompt]
        split
        · apply ih
        · apply ih
      | stop => apply ih
  · intro line stopped arrivals
    left
    dsimp only
    induction arrivals generalizing line stopped with
    | nil => rfl
    | cons arrival rest ih =>
      cases arrival with
      | bytes chunk =>
        rw [prompt, readLineFrom, readLineFrom]
        cases chunk.cutLine? with
        | some cut => rfl
        | none => apply ih
      | failure cause =>
        rw [prompt, readLineFrom_failure]
        by_cases hdrop : (!stopped && cause.isTimeout) = true
        · obtain ⟨rfl, htimeout⟩ : stopped = false ∧ cause.isTimeout = true := by
            simpa using hdrop
          have hpasses : cause.report? false = none := by simp [IoError.report?, htimeout]
          rw [if_pos hdrop, hpasses]
          apply ih
        · rw [if_neg hdrop, readLineFrom_failure]
          cases cause.report? stopped with
          | none => apply ih
          | some reported => rfl
      | stop => apply ih

end Arrival

namespace Session

/-- A session gives up because the server stops. -/
abbrev shutDown : Except Fault Unit := .error (.resource (.io .shuttingDown))

/-! ### What a session meets -/

/-- Acting on a line, a session does not give up because the server stops. -/
theorem take_ne_shutDown (s : Session) (log : SharedLog) (line : Bytes) (d : Disk) :
  ((s.take log line).run d).1.1 ≠ shutDown
  := by
  unfold take
  split
  · split <;> nofun
  · simp only
    cases Request.ofLine line with
    | error cause => nofun
    | ok request =>
      cases request with
      | record record => nofun
      | seek index offset =>
        simp only
        cases log.seek index offset <;> nofun

theorem receive_of_error {scene : Scene} {cause : IoError} {stopped : Bool} {left : List Arrival}
    (hread : Arrival.readLine scene.stopped scene.session.arrivals = ⟨.error cause, stopped, left⟩)
    (d : Disk) :
  (receive scene).run d
    = ((.error (.resource (.io cause)),
        { scene with session := { scene.session with arrivals := left }, stopped }), d)
  := by
  rw [receive, hread]
  rfl

theorem exists_meets_receive (scene : Scene) (d : Disk) :
  let result := (receive scene).run d
  ∃ met, Arrival.Meets scene.stopped scene.session.arrivals result.1.2.stopped
    result.1.2.session.arrivals (result.1.1 = shutDown) met
  := by
  obtain ⟨met, hmet⟩ :=
    Arrival.exists_meets_readLineFrom [] scene.stopped scene.session.arrivals
  use met
  generalize hread : Arrival.readLineFrom [] scene.stopped scene.session.arrivals = reading at hmet
  obtain ⟨result, stopped, left⟩ := reading
  cases result with
  | error cause =>
    rw [receive_of_error hread]
    apply hmet.congr
    simp
  | ok line =>
    have htake := take_arrivals scene.session left scene.log line d
    have hne := take_ne_shutDown scene.session scene.log line d
    generalize (scene.session.take scene.log line).run d = taken at htake hne
    rw [receive_run hread htake]
    apply hmet.congr
    simp [hne]

/-- A session that is receiving gives up because the server stops exactly if it meets a timeout
behind a request to stop: by induction on its attempts, each of which meets what the one before has
left. -/
theorem exists_meets_receiveWithin (fuel : Nat) (scene : Scene) (d : Disk) :
  let result := (receiveWithin fuel scene).run d
  ∃ met, Arrival.Meets scene.stopped scene.session.arrivals result.1.2.stopped
    result.1.2.session.arrivals (result.1.1 = shutDown) met
  := by
  induction fuel generalizing scene d with
  | zero => exact ⟨[], Arrival.meets_nil rfl nofun⟩
  | succ fuel ih =>
    by_cases hphase : scene.session.phase = .receiving
    · obtain ⟨met, hmet⟩ := exists_meets_receive scene d
      rcases hreceive : (receive scene).run d with ⟨⟨cause | _, after⟩, d'⟩
      · rw [hreceive] at hmet
        rw [receiveWithin_of_error hphase hreceive]
        exact ⟨met, hmet⟩
      · obtain ⟨met', hmet'⟩ := ih after d'
        rw [hreceive] at hmet
        rw [receiveWithin_of_ok hphase hreceive]
        have hgoesOn : Arrival.Meets _ _ _ _ False met := hmet.congr (by simp)
        exact ⟨met ++ met', hgoesOn.trans hmet'⟩
    · rw [receiveWithin_of_not_receiving hphase]
      exact ⟨[], Arrival.meets_nil rfl nofun⟩

/-! ### Guises -/

variable {guise : Arrival.Guise} {excused : Prop}

/-- The scene with what arrives in a guise. -/
def Scene.under (scene : Scene) (guise : Arrival.Guise) : Scene :=
  let seen := guise scene.stopped scene.session.arrivals
  { scene with session := { scene.session with arrivals := seen.2 }, stopped := seen.1 }

/-- What has come of a scene, with what is left in a guise. -/
def resultUnder {α : Type} (guise : Arrival.Guise) (result : (α × Scene) × Disk) :
    (α × Scene) × Disk :=
  ((result.1.1, result.1.2.under guise), result.2)

theorem receive_under (h : Arrival.Conceals guise excused) (scene : Scene) (d : Disk) :
  (receive (scene.under guise)).run d = resultUnder guise ((receive scene).run d)
    ∨ (excused ∧ ((receive scene).run d).1.1 = shutDown)
  := by
  have hread' := h.readLineFrom_eq [] scene.stopped scene.session.arrivals
  dsimp only at hread'
  generalize hread : Arrival.readLineFrom [] scene.stopped scene.session.arrivals = reading
    at hread'
  obtain ⟨result, stopped, left⟩ := reading
  rcases hread' with hread' | ⟨hexcused, rfl⟩
  · left
    cases result with
    | error cause =>
      rw [receive_of_error hread, @receive_of_error (scene.under guise) _ _ _ hread']
      rfl
    | ok line =>
      have htake := take_arrivals scene.session left scene.log line d
      have htake' := take_arrivals scene.session (guise stopped left).2 scene.log line d
      generalize (scene.session.take scene.log line).run d = taken at htake htake'
      rw [receive_run hread htake, @receive_run _ _ _ (scene.under guise) _ _ _ _ _ hread' htake']
      rfl
  · right
    use hexcused
    rw [receive_of_error hread]

/-- So the same lines are taken. -/
theorem receiveWithin_under (h : Arrival.Conceals guise excused) (fuel : Nat) (scene : Scene)
    (d : Disk) :
  (receiveWithin fuel (scene.under guise)).run d
      = resultUnder guise ((receiveWithin fuel scene).run d)
    ∨ (excused ∧ ((receiveWithin fuel scene).run d).1.1 = shutDown)
  := by
  induction fuel generalizing scene d with
  | zero => exact .inl rfl
  | succ fuel ih =>
    by_cases hphase : scene.session.phase = .receiving
    · have hphase' : (scene.under guise).session.phase = .receiving := hphase
      have hfirst := receive_under h scene d
      rcases hreceive : (receive scene).run d with ⟨⟨cause | _, after⟩, d'⟩
      · rw [hreceive] at hfirst
        rw [receiveWithin_of_error hphase hreceive]
        apply hfirst.imp_left
        intro hfirst
        apply receiveWithin_of_error hphase' hfirst
      · rw [hreceive] at hfirst
        rw [receiveWithin_of_ok hphase hreceive]
        rcases hfirst with hfirst | ⟨-, hdown⟩
        · rw [receiveWithin_of_ok hphase' hfirst]
          apply ih
        · cases hdown
    · have hphase' : (scene.under guise).session.phase ≠ .receiving := hphase
      rw [receiveWithin_of_not_receiving hphase, receiveWithin_of_not_receiving hphase']
      exact .inl rfl

theorem reply_under (guise : Arrival.Guise) (scene : Scene) :
  reply (scene.under guise) = ((reply scene).1, (reply scene).2.under guise)
  := by
  have hseen := reply_arrivals scene.session (guise scene.stopped scene.session.arrivals).2
    scene.log (guise scene.stopped scene.session.arrivals).1
  have hscene := reply_arrivals scene.session scene.session.arrivals scene.log scene.stopped
  rw [show reply scene = _ from hscene]
  exact hseen

/-- A session comes to the same end if what arrives is put in a guise. -/
theorem run_under (h : Arrival.Conceals guise excused) (scene : Scene) (d : Disk) :
  (run (scene.under guise)).run d = resultUnder guise ((run scene).run d)
    ∨ (excused ∧ ((receiveAll scene).run d).1.1 = shutDown)
  := by
  have hunread : Arrival.unread (scene.under guise).session.arrivals
      = Arrival.unread scene.session.arrivals := h.unread_eq _ _
  have hreceived : (receiveAll (scene.under guise)).run d
        = resultUnder guise ((receiveAll scene).run d)
      ∨ (excused ∧ ((receiveAll scene).run d).1.1 = shutDown) := by
    rw [receiveAll, receiveAll, hunread]
    apply receiveWithin_under h
  apply hreceived.imp_left
  intro hreceived
  rcases hreceive : (receiveAll scene).run d with ⟨⟨cause | _, after⟩, d'⟩
  · rw [hreceive] at hreceived
    rw [run_of_error hreceive, run_of_error hreceived]
    rfl
  · rw [hreceive] at hreceived
    rw [run_of_received hreceive, run_of_received hreceived, reply_under]
    rfl

/-! ### The whole session -/

/-- The reply has nothing to do with what is to arrive. -/
theorem arrivals_run (scene : Scene) (d : Disk) :
  ((run scene).run d).1.2.session.arrivals = ((receiveAll scene).run d).1.2.session.arrivals
  := by
  rcases hreceive : (receiveAll scene).run d with ⟨⟨cause | _, after⟩, d'⟩
  · rw [run_of_error hreceive]
    rfl
  · obtain ⟨outcome, outlet, summary, sent, hreply, -⟩ := reply_cases after
    rw [run_of_received hreceive, hreply]
    rfl

/-- A session that gives up because the server stops leaves no trace. -/
theorem run_of_shutDown {log : SharedLog} {arrivals : List Arrival} {outlet : Outlet}
    {stopped : Bool} {d : Disk}
    (h : ((receiveAll ⟨{ arrivals, outlet }, log, stopped⟩).run d).1.1 = shutDown) :
  let result := (run ⟨{ arrivals, outlet }, log, stopped⟩).run d
  result.1.1 = .error (.resource (.io .shuttingDown))
    ∧ result.1.2.log = log ∧ result.2 = d
    ∧ result.1.2.session.outlet = outlet ∧ result.1.2.session.draft = {}
  := by
  have hfuel : (Arrival.delivered arrivals).lines.length < Arrival.unread arrivals + 2 :=
    Nat.lt_add_right 1 (Nat.lt_succ_of_le (Arrival.length_lines_le_unread arrivals))
  obtain ⟨record?, hreceived⟩ :=
    @exists_received ⟨{ arrivals, outlet }, log, stopped⟩ rfl rfl _ hfuel d
  rcases hreceive : (receiveAll ⟨{ arrivals, outlet }, log, stopped⟩).run d
    with ⟨⟨outcome, after⟩, d'⟩
  rw [hreceive] at h
  obtain rfl : outcome = shutDown := h
  replace hreceived : Received _ d ((shutDown, after), d') record? := hreceive ▸ hreceived
  obtain ⟨rfl, hdisk⟩ := hreceived.of_error _ rfl
  rw [run_of_error hreceive]
  exact ⟨rfl, hreceived.log_eq, hdisk, hreceived.outlet_eq, rfl⟩

/-- A request to stop ends a session that is receiving exactly if nothing arrives in time behind it.
The first timeout that the session meets behind a request to stop is the last signal that it meets:
it gives up with a failure that says so, and the log, the disk and the outlet are as before. If it
meets none, it comes to the same end as if the server had never been told to stop; and timeouts in
front of a request to stop make no difference in any case. -/
theorem run_heeds_timeouts (log : SharedLog) (arrivals : List Arrival) (outlet : Outlet)
    (stopped : Bool) (d : Disk) :
  let result := (run ⟨{ arrivals, outlet }, log, stopped⟩).run d
  let after := result.1.2
  let untold := (run ⟨{ arrivals := Arrival.unstopped arrivals, outlet }, log, false⟩).run d
  let prompt := (run ⟨{ arrivals := Arrival.prompt stopped arrivals, outlet }, log, stopped⟩).run d
  (∃ met, Arrival.signals arrivals = met ++ Arrival.signals after.session.arrivals
    ∧ if Arrival.timesOut stopped met then
        (∃ early cause, met = early ++ [.failure cause] ∧ cause.isTimeout
          ∧ Arrival.timesOut stopped early = false)
        ∧ (∃ cause, result.1.1 = .error (.resource (.io cause)) ∧ cause.kind = .interrupted
          ∧ cause.message = "server shutting down")
        ∧ after.log = log ∧ result.2 = d
        ∧ after.session.outlet = outlet ∧ after.session.draft = {}
      else
        result.1.1 = untold.1.1
        ∧ after.session.outlet = untold.1.2.session.outlet
        ∧ after.log = untold.1.2.log ∧ result.2 = untold.2)
  ∧ (result.1.1 = prompt.1.1
    ∧ after.session.outlet = prompt.1.2.session.outlet
    ∧ after.log = prompt.1.2.log ∧ result.2 = prompt.2)
  := by
  intro result after untold prompt
  let start : Scene := ⟨{ arrivals, outlet }, log, stopped⟩
  constructor
  · obtain ⟨met, hmet⟩ := exists_meets_receiveWithin (Arrival.unread arrivals + 2) start d
    use met
    constructor
    · rw [show after.session.arrivals = _ from arrivals_run start d]
      apply hmet.signals_eq
    · by_cases hdown : ((receiveAll start).run d).1.1 = shutDown
      · have hends := hmet.endsInTimeout hdown
        rw [if_pos hends.timesOut]
        obtain ⟨early, cause, hmet_eq, hcause, -, hearly⟩ := hends
        obtain ⟨houtcome, hunchanged⟩ := run_of_shutDown hdown
        refine ⟨⟨early, cause, hmet_eq, hcause, hearly⟩, ?_, hunchanged⟩
        exact ⟨_, houtcome, rfl, rfl⟩
      · have hcalm : Arrival.timesOut stopped met = false := hmet.timesOut_eq hdown
        have hsame : untold = _ := (run_under Arrival.conceals_unstopped start d).resolve_right
          fun hexcused => hdown hexcused.2
        rw [hcalm, if_neg Bool.false_ne_true, hsame]
        exact ⟨rfl, rfl, rfl, rfl⟩
  · have hsame : prompt = _ := (run_under Arrival.conceals_prompt start d).resolve_right
      fun hexcused => hexcused.1
    rw [hsame]
    exact ⟨rfl, rfl, rfl, rfl⟩

end Session

end BoundedLog
