import BoundedLog.Proofs.Session.AllOrNothing

/-!
# Running a session again

A session that has been run is finished, whatever has become of it. If it is run again, it takes no
line, and neither the log nor the disk has a part in it. But only the lines are taken depending on
how far the session has come; the reply is sent in any case. So each further run replies once more
with what the log shows from the place of the session on, even to a client that was refused.
-/

namespace BoundedLog.Session

/-- Runs a session so many times: the outcomes in order, and the last scene. -/
def runs : Nat → Scene → StateM Disk (List (Except Fault Summary) × Scene)
  | 0, scene => return ([], scene)
  | times + 1, scene => do
    let (outcome, scene) ← run scene
    let (outcomes, scene) ← runs times scene
    return (outcome :: outcomes, scene)

/-- What sending a reply comes to: the transport fails behind the beginning of the reply, or all of
it is sent. -/
def Replied (reply : Bytes) (outcome : Except Fault Summary) (sent : Bytes) : Prop :=
  sent <+: reply
    ∧ match outcome with
      | .error cause => ∃ failure, cause = .resource (.io failure)
      | .ok summary => sent = reply ∧ summary.replied = reply.length

variable {scene : Scene}

/-! ### One more run -/

theorem receiveAll_of_not_receiving (h : scene.session.phase ≠ .receiving) (d : Disk) :
  (receiveAll scene).run d = ((.ok (), scene), d)
  := receiveWithin_of_not_receiving h _ d

/-- To end a session that has ended makes no difference. -/
theorem finish_eq_self {s : Session} (hphase : s.phase = .finished) (hdraft : s.draft = {}) :
  s.finish = s
  := by
  rw [finish, ← hphase, ← hdraft]

/-- A finished session that is run replies, and nothing else happens. -/
theorem exists_run_of_finished (hphase : scene.session.phase = .finished)
    (hdraft : scene.session.draft = {}) (d : Disk) :
  ∃ outcome outlet summary sent,
    (run scene).run d
      = ((outcome, { scene with session := { scene.session with outlet, summary } }), d)
    ∧ outlet.accepted = scene.session.outlet.accepted ++ sent
    ∧ Replied (scene.session.content scene.log) outcome sent
  := by
  have hreceive := @receiveAll_of_not_receiving scene (by rw [hphase]; decide) d
  obtain ⟨outcome, outlet, summary, sent, hreply, haccepted, hsent, hall⟩ := reply_cases scene
  have hfinish := finish_eq_self (s := { scene.session with outlet, summary }) hphase hdraft
  use outcome.map fun _ => summary, outlet, summary, sent
  rw [run_of_received hreceive, hreply]
  dsimp only
  rw [hfinish]
  use rfl, haccepted, hsent
  cases outcome with
  | error cause => exact hall
  | ok _ => exact ⟨hall.1, hall.2.1⟩

/-- The session behind a reply all of which was sent. -/
def answered (s : Session) (reply : Bytes) : Session :=
  { s with
    outlet := s.outlet.behind reply
    summary := { s.summary with replied := reply.length } }

/-- If the outlet is willing, all of the reply is sent. -/
theorem run_of_finished_of_willing (hphase : scene.session.phase = .finished)
    (hdraft : scene.session.draft = {}) (hwilling : scene.session.outlet.Willing) (d : Disk) :
  let after := scene.session.answered (scene.session.content scene.log)
  (run scene).run d = ((.ok after.summary, { scene with session := after }), d)
  := by
  intro after
  have hreceive := @receiveAll_of_not_receiving scene (by rw [hphase]; decide) d
  have hreply : reply scene = (.ok (), { scene with session := after }) :=
    reply_of_willing hwilling
  rw [run_of_ok hreceive hreply]
  dsimp only
  rw [finish_eq_self (s := after) hphase hdraft]

/-! ### Any number of further runs -/

theorem runs_succ {after : Scene} {outcome : Except Fault Summary} {d d' : Disk}
    (h : (run scene).run d = ((outcome, after), d')) (times : Nat) :
  (runs (times + 1) scene).run d
    = ((outcome :: ((runs times after).run d').1.1, ((runs times after).run d').1.2),
        ((runs times after).run d').2)
  := by
  rw [runs]
  simp only [StateT.run_bind, h]
  rfl

/-- However often a finished session is run, it only replies: by induction on the runs, between
which the place of the session and the log stay the same, and so does the reply. -/
theorem exists_runs_of_finished (hphase : scene.session.phase = .finished)
    (hdraft : scene.session.draft = {}) (times : Nat) (d : Disk) :
  ∃ outcomes outlet summary sents,
    (runs times scene).run d
      = ((outcomes, { scene with session := { scene.session with outlet, summary } }), d)
    ∧ outcomes.length = times
    ∧ outlet.accepted = scene.session.outlet.accepted ++ sents.flatten
    ∧ List.Forall₂ (Replied (scene.session.content scene.log)) outcomes sents
  := by
  induction times generalizing scene with
  | zero => exact ⟨[], _, _, [], rfl, rfl, (List.append_nil _).symm, .nil⟩
  | succ times ih =>
    obtain ⟨outcome, outlet, summary, sent, hrun, haccepted, hreplied⟩ :=
      exists_run_of_finished hphase hdraft d
    obtain ⟨outcomes, outlet', summary', sents, hruns, hlength, haccepted', hreplied'⟩ :=
      @ih { scene with session := { scene.session with outlet, summary } } hphase hdraft
    use outcome :: outcomes, outlet', summary', sent :: sents
    rw [runs_succ hrun, hruns]
    refine ⟨rfl, congrArg Nat.succ hlength, ?_, .cons hreplied hreplied'⟩
    rw [haccepted', haccepted, List.flatten_cons, List.append_assoc]

/-- If the outlet is willing, as many copies of the reply are sent as there are runs. -/
theorem runs_of_finished_of_willing (hphase : scene.session.phase = .finished)
    (hdraft : scene.session.draft = {}) (hwilling : scene.session.outlet.Willing) (times : Nat)
    (d : Disk) :
  let reply := scene.session.content scene.log
  let result := (runs times scene).run d
  result.1.1 = List.replicate times (.ok { scene.session.summary with replied := reply.length })
    ∧ result.1.2.session.outlet.accepted
      = scene.session.outlet.accepted ++ (List.replicate times reply).flatten
  := by
  induction times generalizing scene with
  | zero => exact ⟨rfl, (List.append_nil _).symm⟩
  | succ times ih =>
    have hrun := run_of_finished_of_willing hphase hdraft hwilling d
    obtain ⟨houtcomes, haccepted⟩ :=
      @ih { scene with session := scene.session.answered (scene.session.content scene.log) }
        hphase hdraft (hwilling.behind _)
    have hreply := hwilling.accepted_behind (scene.session.content scene.log)
    dsimp only
    rw [runs_succ hrun, List.replicate_succ, List.replicate_succ, List.flatten_cons,
      ← List.append_assoc, ← hreply]
    exact ⟨congrArg (_ :: ·) houtcomes, haccepted⟩

/-! ### Behind the first run -/

variable {log : SharedLog} {arrivals : List Arrival} {outlet : Outlet}

/-- A session that has been run is finished, and its outlet is as willing as it was. If it was
refused, then the log and the outlet are as they were. -/
theorem run_ends (log : SharedLog) (arrivals : List Arrival) (outlet : Outlet) (stopped : Bool)
    (d : Disk) :
  let result := (run ⟨{ arrivals, outlet }, log, stopped⟩).run d
  let ended := result.1.2
  ended.session.phase = .finished
    ∧ ended.session.draft = {}
    ∧ (outlet.Willing → ended.session.outlet.Willing)
    ∧ ((∃ cause, result.1.1 = .error (.protocol cause))
        ∨ (∃ cause, result.1.1 = .error (.range cause)) →
      ended.log = log ∧ ended.session.outlet = outlet)
  := by
  intro result ended
  obtain ⟨record?, hreceived⟩ :=
    @exists_received ⟨{ arrivals, outlet }, log, stopped⟩ rfl rfl _
      (Nat.lt_add_right 1 (Nat.lt_succ_of_le (Arrival.length_lines_le_unread arrivals))) d
  generalize hreceive : (receiveAll ⟨{ arrivals, outlet }, log, stopped⟩).run d = received
  replace hreceived : Received ⟨{ arrivals, outlet }, log, stopped⟩ d received record? := by
    rw [← hreceive]
    exact hreceived
  obtain ⟨⟨outcome, before⟩, d'⟩ := received
  obtain ⟨hlog, -, houtlet, herror, -⟩ := hreceived
  replace houtlet : before.session.outlet = outlet := houtlet
  cases outcome with
  | error cause =>
    obtain ⟨rfl, -⟩ := herror cause rfl
    have hresult : result = _ := run_of_error hreceive
    have hended : ended = { before with session := before.session.finish } :=
      congrArg (·.1.2) hresult
    rw [hended]
    refine ⟨rfl, rfl, ?_, fun _ => ⟨hlog, houtlet⟩⟩
    intro hwilling
    rw [← houtlet] at hwilling
    exact hwilling
  | ok _ =>
    obtain ⟨outcome, outlet', summary, sent, hreply, -, -, hall⟩ := reply_cases before
    have hresult : result = _ := run_of_received hreceive
    have hended : ended = { (reply before).2 with session := (reply before).2.session.finish } :=
      congrArg (·.1.2) hresult
    refine ⟨?_, ?_, ?_, ?_⟩
    · rw [hended]
      rfl
    · rw [hended]
      rfl
    · intro hwilling
      rw [← houtlet] at hwilling
      rw [hended, reply_of_willing hwilling]
      apply hwilling.behind
    · -- Only the transport can still fail.
      rw [hresult, hreply]
      cases outcome with
      | error cause =>
        obtain ⟨failure, rfl⟩ := hall
        rintro (⟨_, ⟨⟩⟩ | ⟨_, ⟨⟩⟩)
      | ok _ => rintro (⟨_, ⟨⟩⟩ | ⟨_, ⟨⟩⟩)

/-- A session that has been run is finished for good: however often it is run again, it takes no
byte, and the log and the disk stay the same. But each further run replies with what the log shows
from the place of the session on, as far as the transport takes it. So if the outlet is willing, a
further run sends nothing only if this reply is empty; and a client that was refused, and was sent
nothing by the first run, is sent this reply by every other. -/
theorem runs_reply_again (log : SharedLog) (arrivals : List Arrival) (outlet : Outlet)
    (stopped : Bool) (times : Nat) (d : Disk) :
  let first := (run ⟨{ arrivals, outlet }, log, stopped⟩).run d
  let ended := first.1.2
  let again := (runs times ended).run first.2
  let after := again.1.2
  let reply := ended.log.window.content.drop (ended.session.place.getD 0)
  (ended.session.phase = .finished ∧ after.session.phase = .finished)
  ∧ (after.session.arrivals = ended.session.arrivals ∧ after.log = ended.log ∧ again.2 = first.2)
  ∧ (∃ sents, after.session.outlet.accepted = ended.session.outlet.accepted ++ sents.flatten
    ∧ again.1.1.length = times
    ∧ List.Forall₂ (Replied reply) again.1.1 sents)
  ∧ (outlet.Willing →
    again.1.1
        = List.replicate times (.ok { ended.session.summary with replied := reply.length })
      ∧ after.session.outlet.accepted
        = ended.session.outlet.accepted ++ (List.replicate times reply).flatten
      ∧ (after.session.outlet.accepted = ended.session.outlet.accepted ↔ times = 0 ∨ reply = []))
  ∧ ((∃ cause, first.1.1 = .error (.protocol cause))
      ∨ (∃ cause, first.1.1 = .error (.range cause)) →
    ended.log = log ∧ ended.session.outlet = outlet)
  := by
  intro first ended again after reply
  obtain ⟨hphase, hdraft, hwilling, hrefused⟩ := run_ends log arrivals outlet stopped d
  obtain ⟨outcomes, outlet', summary, sents, hruns, hlength, haccepted, hreplied⟩ :=
    exists_runs_of_finished hphase hdraft times first.2
  replace hruns : again = _ := hruns
  have hreply : ended.session.content ended.log = reply := content_eq_drop ended.session ended.log
  replace hreplied : List.Forall₂ (Replied (ended.session.content ended.log)) outcomes sents :=
    hreplied
  rw [hreply] at hreplied
  have hafter : after
      = { ended with session := { ended.session with outlet := outlet', summary } } :=
    congrArg (·.1.2) hruns
  refine ⟨⟨hphase, ?_⟩, ⟨?_, ?_, ?_⟩, ⟨sents, ?_, ?_, ?_⟩, ?_, hrefused⟩
  · rw [hafter]
    exact hphase
  · rw [hafter]
  · rw [hafter]
  · rw [hruns]
  · rw [hafter]
    exact haccepted
  · rw [hruns]
    exact hlength
  · rw [hruns]
    exact hreplied
  · intro houtlet
    obtain ⟨houtcomes, hcopies⟩ :=
      runs_of_finished_of_willing hphase hdraft (hwilling houtlet) times first.2
    replace hcopies : after.session.outlet.accepted = ended.session.outlet.accepted
        ++ (List.replicate times (ended.session.content ended.log)).flatten := hcopies
    replace houtcomes : again.1.1 = List.replicate times (.ok { ended.session.summary with
        replied := (ended.session.content ended.log).length }) := houtcomes
    rw [hreply] at houtcomes hcopies
    refine ⟨houtcomes, hcopies, ?_⟩
    rw [hcopies, List.append_right_eq_self, List.flatten_eq_nil_iff, List.forall_mem_replicate]

/-- A client sends a malformed line and is refused without a reply. The session is finished, but
when it is run once more, the client is sent what the log holds. -/
theorem run_again_after_refusal :
  let log : SharedLog := { window := ((Window.ofCapacity 2).append [97, newline]).1 }
  let arrivals : List Arrival := [.bytes (Request.seekWord ++ [120, newline])]
  let first := (run ⟨{ arrivals }, log, false⟩).run ⟨⟨[]⟩, [], []⟩
  let again := (runs 1 first.1.2).run first.2
  (∃ cause, first.1.1 = .error (.protocol cause))
    ∧ first.1.2.session.phase = .finished
    ∧ first.1.2.session.outlet.accepted = []
    ∧ again.1.2.session.phase = .finished
    ∧ again.1.2.session.outlet.accepted = [97, newline]
    ∧ again.1.2.session.outlet.accepted ≠ first.1.2.session.outlet.accepted
  := by
  intro log arrivals first again
  have hfirst : ∃ s cause, first = ((.error (.protocol cause), ⟨s, log, false⟩), ⟨⟨[]⟩, [], []⟩)
      ∧ s.phase = .finished ∧ s.draft = {} ∧ s.outlet = {} ∧ s.place = none := by
    simp only [first, arrivals, log]
    exact ⟨_, _, rfl, rfl, rfl, rfl, rfl⟩
  have hcontent : log.snapshot = [97, newline] := by
    simp only [log]
    rfl
  obtain ⟨s, cause, hfirst, hphase, hdraft, houtlet, hplace⟩ := hfirst
  have hreply : s.content log = [97, newline] := by
    rw [content, hplace]
    exact hcontent
  obtain ⟨outcomes, outlet, summary, sents, hruns, -⟩ := @exists_runs_of_finished
    ⟨s, log, false⟩ hphase hdraft 1 ⟨⟨[]⟩, [], []⟩
  obtain ⟨-, haccepted⟩ := @runs_of_finished_of_willing ⟨s, log, false⟩ hphase hdraft
    (houtlet ▸ Outlet.willing_default) 1 ⟨⟨[]⟩, [], []⟩
  have hagain : again = (runs 1 ⟨s, log, false⟩).run ⟨⟨[]⟩, [], []⟩ := by
    simp only [again, hfirst]
  have hsent : again.1.2.session.outlet.accepted = [97, newline] := by
    rw [hagain, haccepted, houtlet, hreply]
    rfl
  rw [hsent, hagain, hruns, hfirst]
  dsimp only
  rw [houtlet]
  exact ⟨⟨cause, rfl⟩, hphase, rfl, hphase, rfl, by decide⟩

end BoundedLog.Session
