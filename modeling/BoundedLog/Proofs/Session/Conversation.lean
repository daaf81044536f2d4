import BoundedLog.Proofs.Session.Dialogue

/-!
# A whole conversation

A session that meets no failure does what the dialogue of its client says. If a line is refused,
so is the client, and nothing else happens. Otherwise the record is appended, if there is one, and
the reply is all that the log then shows, from the last place on that the client asked for. In
both cases what is behind the last line that was looked at is still to be read.
-/

namespace BoundedLog.Session

variable {log : SharedLog} {arrivals : List Arrival} {outlet : Outlet}

/-! ### Receiving and replying -/

theorem run_of_error {scene after : Scene} {cause : Fault} {d d' : Disk}
    (hreceive : (receiveAll scene).run d = ((.error cause, after), d')) :
  (run scene).run d = ((.error cause, { after with session := after.session.finish }), d')
  := by
  rw [run]
  simp only [StateT.run_bind, hreceive]
  rfl

/-- When receiving has come to an end, the reply decides what becomes of the session. -/
theorem run_of_received {scene after : Scene} {d d' : Disk}
    (hreceive : (receiveAll scene).run d = ((.ok (), after), d')) :
  (run scene).run d
    = (((reply after).1.map fun _ => (reply after).2.session.finish.summary,
      { (reply after).2 with session := (reply after).2.session.finish }), d')
  := by
  rw [run]
  simp only [StateT.run_bind, hreceive]
  rfl

theorem run_of_ok {scene after replied : Scene} {d d' : Disk}
    (hreceive : (receiveAll scene).run d = ((.ok (), after), d'))
    (hreply : reply after = (.ok (), replied)) :
  (run scene).run d
    = ((.ok replied.session.summary, { replied with session := replied.session.finish }), d')
  := by
  rw [run_of_received hreceive, hreply]
  rfl

/-- A willing outlet takes the reply whole. -/
theorem reply_of_willing {scene : Scene} (h : scene.session.outlet.Willing) :
  reply scene
    = (.ok (), { scene with session := { scene.session with
        outlet := scene.session.outlet.behind (scene.session.content scene.log)
        summary := { scene.session.summary with
          replied := (scene.session.content scene.log).length } } })
  := by
  simp only [reply, send, h.write, (h.write_snd _).flush]
  rfl

/-- Without a place the reply begins at the first byte. -/
theorem content_eq_drop (s : Session) (log : SharedLog) :
  s.content log = log.window.content.drop (s.place.getD 0)
  := by
  rw [content]
  cases s.place with
  | none => rfl
  | some place => rfl

/-- A new session has as many attempts as it needs. -/
theorem follows_receiveAll (log : SharedLog) (hfaultless : Arrival.Faultless arrivals)
    (outlet : Outlet) (stopped : Bool) (d : Disk) :
  Follows (Dialogue.ofBytes log (Arrival.delivered arrivals)) ⟨{ arrivals, outlet }, log, stopped⟩ d
    ((receiveAll ⟨{ arrivals, outlet }, log, stopped⟩).run d)
  := by
  have hfuel : (Arrival.delivered arrivals).lines.length < Arrival.unread arrivals + 2 :=
    Nat.lt_add_right 1 (Nat.lt_succ_of_le (Arrival.length_lines_le_unread arrivals))
  apply @follows_receiveWithin ⟨{ arrivals, outlet }, log, stopped⟩ rfl rfl hfaultless _ hfuel d

/-! ### The conversation -/

/-- A refused client gets no reply, and the log is as before. -/
theorem run_of_refused (hfaultless : Arrival.Faultless arrivals) (stopped : Bool) (d : Disk)
    {cause : Fault}
    (hrefused : (Dialogue.ofBytes log (Arrival.delivered arrivals)).outcome = .error cause) :
  let dialogue := Dialogue.ofBytes log (Arrival.delivered arrivals)
  let result := (run ⟨{ arrivals, outlet }, log, stopped⟩).run d
  result.1.1 = .error cause
    ∧ Arrival.delivered result.1.2.session.arrivals = dialogue.behind
    ∧ result.1.2.session.outlet = outlet
    ∧ result.1.2.log = log
    ∧ result.2 = d
  := by
  have hfollows := follows_receiveAll log hfaultless outlet stopped d
  have hrecord : (Dialogue.ofBytes log (Arrival.delivered arrivals)).record? = none := by
    rw [Dialogue.record?, hrefused]
  obtain ⟨houtcome, hlog, hdisk, hbehind, houtlet, -⟩ := hfollows
  rw [hrecord] at hlog hdisk
  rw [hrefused] at houtcome
  generalize hreceive : (receiveAll ⟨{ arrivals, outlet }, log, stopped⟩).run d = received at *
  obtain ⟨⟨outcome, after⟩, d'⟩ := received
  obtain rfl : outcome = .error cause := houtcome
  rw [run_of_error hreceive]
  exact ⟨rfl, hbehind, houtlet, hlog, hdisk rfl⟩

/-- Any other client gets the content of the log behind its record, from its last place on. -/
theorem run_of_answered (hfaultless : Arrival.Faultless arrivals) (hwilling : outlet.Willing)
    (stopped : Bool) (d : Disk) {record? : Option Record}
    (hanswered : (Dialogue.ofBytes log (Arrival.delivered arrivals)).outcome = .ok record?) :
  let dialogue := Dialogue.ofBytes log (Arrival.delivered arrivals)
  let result := (run ⟨{ arrivals, outlet }, log, stopped⟩).run d
  let reply :=
    (log.committing record?).window.content.drop (dialogue.places.getLast?.getD 0)
  result.1.1 = .ok ⟨dialogue.places.length, record?.toList.length, reply.length⟩
    ∧ Arrival.delivered result.1.2.session.arrivals = dialogue.behind
    ∧ result.1.2.session.outlet = outlet.behind reply
    ∧ result.1.2.log = log.committing record?
    ∧ (record? = none → result.2 = d)
  := by
  have hrecord : (Dialogue.ofBytes log (Arrival.delivered arrivals)).record? = record? := by
    rw [Dialogue.record?, hanswered]
  obtain ⟨houtcome, hlog, hdisk, hbehind, houtlet, hplace, hseeks, hrecords⟩ :=
    follows_receiveAll log hfaultless outlet stopped d
  rw [hrecord] at hlog hdisk hrecords
  rw [hanswered] at houtcome
  generalize hreceive : (receiveAll ⟨{ arrivals, outlet }, log, stopped⟩).run d = received at *
  obtain ⟨⟨outcome, after⟩, d'⟩ := received
  obtain rfl : outcome = .ok () := houtcome
  rw [← show after.session.outlet = outlet from houtlet] at hwilling
  have hreply := reply_of_willing hwilling
  rw [content_eq_drop, hlog, hplace, houtlet] at hreply
  simp only [Option.or_none] at hreply
  rw [run_of_ok hreceive hreply]
  simp only [Nat.zero_add] at hseeks hrecords
  refine ⟨?_, hbehind, rfl, rfl, hdisk⟩
  simp only [hseeks, hrecords]

/-- A session does what the dialogue of its client says: the client is refused, without a reply
and without a change, or its record is appended, if it has one, behind those that the log holds,
and it is sent what the log then holds, from its last place on. What is behind the last line that
was looked at is still to be read. -/
theorem run_follows_dialogue (hlog : log.window.Reachable) (hfaultless : Arrival.Faultless arrivals)
    (hwilling : outlet.Willing) (stopped : Bool) (d : Disk) :
  let dialogue := Dialogue.ofBytes log (Arrival.delivered arrivals)
  let result := (run ⟨{ arrivals, outlet }, log, stopped⟩).run d
  let after := result.1.2
  Arrival.delivered after.session.arrivals = dialogue.behind
    ∧ match dialogue.outcome with
      | .error cause =>
        result.1.1 = .error cause
          ∧ after.log = log
          ∧ after.session.outlet = outlet
          ∧ result.2 = d
      | .ok none =>
        let reply := log.window.toList.flatten.drop (dialogue.places.getLast?.getD 0)
        result.1.1 = .ok ⟨dialogue.places.length, 0, reply.length⟩
          ∧ after.log = log
          ∧ after.session.outlet.accepted = outlet.accepted ++ reply
          ∧ result.2 = d
      | .ok (some line) =>
        let held := (log.window.toList ++ [line]).rtake log.window.capacity
        let reply := held.flatten.drop (dialogue.places.getLast?.getD 0)
        result.1.1 = .ok ⟨dialogue.places.length, 1, reply.length⟩
          ∧ after.log.window.toList = held
          ∧ after.log.window.appended = log.window.appended + 1
          ∧ after.session.outlet.accepted = outlet.accepted ++ reply
  := by
  intro dialogue result after
  cases houtcome : dialogue.outcome with
  | error cause =>
    obtain ⟨hresult, hbehind, houtlet, hsame, hdisk⟩ :=
      run_of_refused hfaultless stopped d houtcome
    exact ⟨hbehind, hresult, hsame, houtlet, hdisk⟩
  | ok record? =>
    obtain ⟨hresult, hbehind, houtlet, hafter, hdisk⟩ :=
      run_of_answered hfaultless hwilling stopped d houtcome
    replace houtlet := congrArg Outlet.accepted houtlet
    rw [hwilling.accepted_behind] at houtlet
    constructor
    · exact hbehind
    · cases record? with
      | none =>
        exact ⟨hresult, hafter, houtlet, hdisk rfl⟩
      | some line =>
        have hheld := hlog.holds.append line
        have hlist : after.log.window.toList
            = (log.window.toList ++ [line]).rtake log.window.capacity := by
          rw [hafter]
          apply hheld.toList_eq
        have happended : after.log.window.appended = log.window.appended + 1 := by
          rw [hafter]
          apply Window.appended_append
        have hcontent : (log.committing (some line)).window.content = _ := hheld.content_eq
        rw [hcontent] at hresult houtlet
        exact ⟨hresult, hlist, happended, houtlet⟩

/-- A client asks for the second byte of the record in the log and appends a record, in chunks that
do not end where the lines do. -/
theorem run_seek_then_record :
  let log : SharedLog := { window := ((Window.ofCapacity 2).append [97, newline]).1 }
  let arrivals : List Arrival :=
    [.bytes Request.seekWord, .stop, .bytes [48, 44, 49, newline, 98], .bytes [newline, 99]]
  let result := (run ⟨{ arrivals }, log, false⟩).run { tree := ⟨[]⟩ }
  result.1.1 = .ok ⟨1, 1, 3⟩
    ∧ result.1.2.session.outlet.accepted = [newline, 98, newline]
    ∧ result.1.2.log.window.toList = [[97, newline], [98, newline]]
    ∧ Arrival.delivered result.1.2.session.arrivals = [99]
  := by
  intro log arrivals result
  have hfaultless : Arrival.Faultless arrivals := by simp [arrivals, Arrival.Faultless]
  have hdialogue : Dialogue.ofBytes log (Arrival.delivered arrivals)
      = ⟨[1], .ok (some [98, newline]), [99]⟩ := by
    simp only [log, arrivals]
    rfl
  have hheld : (log.window.toList ++ [[98, newline]]).rtake log.window.capacity
      = [[97, newline], [98, newline]] := by
    simp only [log]
    rfl
  have hlog : log.window.Reachable := .append (.ofCapacity 2) _
  obtain ⟨hbehind, hanswered⟩ := run_follows_dialogue hlog hfaultless Outlet.willing_default false
    ⟨⟨[]⟩, [], []⟩
  rw [hdialogue] at hbehind hanswered
  simp only [hheld] at hanswered
  obtain ⟨hresult, hlist, -, hreply⟩ := hanswered
  exact ⟨hresult, hreply, hlist, hbehind⟩

end BoundedLog.Session
