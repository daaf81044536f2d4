import BoundedLog.Proofs.Session.Conversation

/-!
# All or nothing

Whatever arrives and however the transport fails, a session appends at most one record, and this is
a whole line that the client sent. A session that fails while it is receiving leaves nothing behind:
the log, the replica and the outlet are as before. A session that fails while it is replying keeps
its record and has sent the beginning of the reply.
-/

namespace BoundedLog

namespace Arrival

/-- A line that was read is the first of those that arrive, up to its newline, or it is all that
arrives and has no newline. -/
theorem delivered_of_readLineFrom {arrivals left : List Arrival} {line whole : Bytes}
    {stopped stopped' : Bool}
    (h : readLineFrom line stopped arrivals = ⟨.ok whole, stopped', left⟩) :
  (∃ front, whole = line ++ front ∧ (delivered arrivals).cutLine? = some (front, delivered left))
    ∨ (whole = line ++ delivered arrivals ∧ (delivered arrivals).cutLine? = none)
  := by
  induction arrivals generalizing line stopped with
  | nil =>
    right
    rw [readLineFrom, Reading.mk.injEq, Except.ok.injEq] at h
    rw [delivered, List.append_nil, ← h.1]
    exact ⟨rfl, rfl⟩
  | cons arrival rest ih =>
    cases arrival with
    | bytes chunk =>
      rw [readLineFrom] at h
      rw [delivered]
      cases hchunk : chunk.cutLine? with
      | some cut =>
        rw [hchunk, Reading.mk.injEq, Except.ok.injEq] at h
        obtain ⟨rfl, -, rfl⟩ := h
        left
        exact ⟨cut.1, rfl, Bytes.cutLine?_append_of_some hchunk _⟩
      | none =>
        rw [hchunk] at h
        rw [Bytes.cutLine?_append_of_none hchunk]
        rcases ih h with ⟨front, rfl, hcut⟩ | ⟨rfl, hcut⟩
        · left
          use chunk ++ front, List.append_assoc ..
          rw [hcut]
          rfl
        · right
          rw [hcut]
          exact ⟨List.append_assoc .., rfl⟩
    | failure cause =>
      rw [readLineFrom] at h
      split at h
      · apply ih h
      · split at h
        · split at h
          · cases h
          · apply ih h
        · cases h
    | stop => apply ih h

end Arrival

namespace Outlet

/-- What is accepted is the beginning of what is written, and all of it if all is well. -/
theorem write_cases (o : Outlet) (bytes : Bytes) :
  ∃ outcome answers sent,
    o.write bytes = (outcome, { o with answers, accepted := o.accepted ++ sent })
      ∧ sent <+: bytes ∧ (outcome = .ok () → sent = bytes)
  := by
  refine ⟨_, _, _, rfl, List.take_prefix _ bytes, ?_⟩
  intro houtcome
  rw [count_push_of_ok houtcome, List.take_length]

end Outlet

namespace Session

/-! ### Receiving -/

/-- A whole line that arrives and does not ask for a place. -/
def IsRecordOf (arrivals : List Arrival) (record : Record) : Prop :=
  record ∈ (Arrival.delivered arrivals).lines ∧ ¬ Request.seekWord <+: record

/-- What can become of a session that takes a line. -/
inductive Turn (before : Scene) (d : Disk) : (Except Fault Unit × Scene) × Disk → Prop
  /-- It fails, and nothing else has happened. -/
  | fail (cause : Fault) {after : Scene} (hlog : after.log = before.log)
    (houtlet : after.session.outlet = before.session.outlet) (hdraft : after.session.draft = {})
    (hplace : after.session.place = before.session.place)
    (hsummary : after.session.summary = before.session.summary) :
    Turn before d ((.error cause, after), d)
  /-- There are no lines any more. -/
  | finish {after : Scene} (hphase : after.session.phase = .replying)
    (hlog : after.log = before.log) (houtlet : after.session.outlet = before.session.outlet)
    (hdraft : after.session.draft = {}) (hplace : after.session.place = before.session.place)
    (hsummary : after.session.summary = before.session.summary) :
    Turn before d ((.ok (), after), d)
  /-- It has found a place, and goes on with the other lines. -/
  | seek (line : Bytes) {after : Scene} (hphase : after.session.phase = .receiving)
    (hdraft : after.session.draft = {}) (hlog : after.log = before.log)
    (houtlet : after.session.outlet = before.session.outlet)
    (hlines : (Arrival.delivered before.session.arrivals).lines
      = line :: (Arrival.delivered after.session.arrivals).lines)
    (hsummary : after.session.summary
      = { before.session.summary with seeks := before.session.summary.seeks + 1 }) :
    Turn before d ((.ok (), after), d)
  /-- It has appended a record. -/
  | record (line : Bytes) {after : Scene} {d' : Disk} (hphase : after.session.phase = .replying)
    (hlog : after.log = before.log.committing (some line))
    (houtlet : after.session.outlet = before.session.outlet)
    (hline : IsRecordOf before.session.arrivals line) (hdraft : after.session.draft = {})
    (hplace : after.session.place = before.session.place)
    (hsummary : after.session.summary
      = { before.session.summary with records := before.session.summary.records + 1 }) :
    Turn before d ((.ok (), after), d')

theorem turn_receive {scene : Scene} (hdraft : scene.session.draft = {})
    (hphase : scene.session.phase = .receiving) (d : Disk) :
  Turn scene d ((receive scene).run d)
  := by
  generalize hread : Arrival.readLine scene.stopped scene.session.arrivals = reading
  obtain ⟨result, stopped, left⟩ := reading
  cases result with
  | error cause =>
    rw [receive, hread]
    exact .fail _ rfl rfl hdraft rfl rfl
  | ok whole =>
    rcases Arrival.delivered_of_readLineFrom hread with ⟨line, hwhole, hcut⟩ | ⟨rfl, hcut⟩
    · obtain rfl : whole = line := hwhole
      have hend := Bytes.endsLine_of_cutLine? hcut
      have hlines := (Bytes.splitLines_of_cutLine?_eq_some hcut).1
      by_cases hseek : Request.seekWord <+: whole
      · rcases Request.ofLine_eq_seek_or_malformed hseek with ⟨index, offset, hline⟩ | hline
        · cases hplace : scene.log.seek index offset with
          | error cause =>
            rw [receive_run hread (take_unresolved _ scene.log hend hline hplace d)]
            exact .fail _ rfl rfl hdraft rfl rfl
          | ok place =>
            rw [receive_run hread (take_seek _ scene.log hend hline hplace d)]
            exact .seek whole hphase hdraft rfl rfl hlines rfl
        · rw [receive_run hread (take_malformed _ scene.log hend hline d)]
          exact .fail _ rfl rfl hdraft rfl rfl
      · have htake := take_record { scene.session with arrivals := left } scene.log hend hdraft
          (Request.ofLine_eq_record hseek) d
        rw [receive_run hread (Prod.ext htake rfl)]
        refine .record whole rfl rfl rfl ⟨?_, hseek⟩ rfl rfl rfl
        rw [hlines]
        apply List.mem_cons_self
    · have hend := Bytes.endsLine_of_not_mem (Bytes.cutLine?_eq_none_iff.mp hcut)
      have htake :=
        take_unterminated { scene.session with arrivals := left } scene.log hend hdraft d
      rw [List.nil_append] at hread
      split at htake
      · rw [receive_run hread htake]
        exact .finish rfl rfl rfl hdraft rfl rfl
      · rw [receive_run hread htake]
        exact .fail _ rfl rfl hdraft rfl rfl

/-- What has become of a session that is not receiving any more: it has failed without a trace, or
it is going to reply and has appended a record at most. -/
structure Received (before : Scene) (d : Disk) (result : (Except Fault Unit × Scene) × Disk)
    (record? : Option Record) : Prop where
  log_eq : result.1.2.log = before.log.committing record?
  isRecordOf : ∀ record ∈ record?, IsRecordOf before.session.arrivals record
  outlet_eq : result.1.2.session.outlet = before.session.outlet
  of_error : ∀ cause, result.1.1 = .error cause → record? = none ∧ result.2 = d
  phase_eq : result.1.1 = .ok () → result.1.2.session.phase = .replying

/-- A line that asked for a place is no record. -/
theorem Received.seek {before after : Scene} {line : Bytes} {record? : Option Record} {d : Disk}
    {result : (Except Fault Unit × Scene) × Disk} (hlog : after.log = before.log)
    (houtlet : after.session.outlet = before.session.outlet)
    (hlines : (Arrival.delivered before.session.arrivals).lines
      = line :: (Arrival.delivered after.session.arrivals).lines)
    (h : Received after d result record?) :
  Received before d result record?
  where
  log_eq := h.log_eq.trans (congrArg (·.committing record?) hlog)
  isRecordOf record hrecord := by
    obtain ⟨hmem, hseek⟩ := h.isRecordOf record hrecord
    rw [IsRecordOf, hlines]
    exact ⟨List.mem_cons_of_mem line hmem, hseek⟩
  outlet_eq := h.outlet_eq.trans houtlet
  of_error := h.of_error
  phase_eq := h.phase_eq

/-- A session with as many attempts as lines arrive comes to an end of receiving: by induction on
the attempts, each of which but the last takes a line that asks for a place. -/
theorem exists_received {scene : Scene} (hdraft : scene.session.draft = {})
    (hphase : scene.session.phase = .receiving) {fuel : Nat}
    (hfuel : (Arrival.delivered scene.session.arrivals).lines.length < fuel) (d : Disk) :
  ∃ record?, Received scene d ((receiveWithin fuel scene).run d) record?
  := by
  induction fuel generalizing scene d with
  | zero => exact absurd hfuel (Nat.not_lt_zero _)
  | succ fuel ih =>
    have hturn := turn_receive hdraft hphase d
    generalize hreceive : (receive scene).run d = result at hturn
    cases hturn with
    | fail cause hlog houtlet =>
      use none
      rw [receiveWithin_of_error hphase hreceive]
      exact ⟨hlog, nofun, houtlet, fun _ _ => ⟨rfl, rfl⟩, nofun⟩
    | finish hreplying hlog houtlet =>
      use none
      rw [receiveWithin_of_ok hphase hreceive,
        receiveWithin_of_not_receiving (by rw [hreplying]; decide)]
      exact ⟨hlog, nofun, houtlet, nofun, fun _ => hreplying⟩
    | seek line hreceiving hdraft' hlog houtlet hlines =>
      rw [receiveWithin_of_ok hphase hreceive]
      rw [hlines] at hfuel
      obtain ⟨record?, hreceived⟩ := ih hdraft' hreceiving (Nat.lt_of_succ_lt_succ hfuel) d
      exact ⟨record?, hreceived.seek hlog houtlet hlines⟩
    | record line hreplying hlog houtlet hline =>
      use some line
      rw [receiveWithin_of_ok hphase hreceive,
        receiveWithin_of_not_receiving (by rw [hreplying]; decide)]
      refine ⟨hlog, ?_, houtlet, nofun, fun _ => hreplying⟩
      rintro record ⟨⟩
      exact hline

/-! ### Replying -/

/-- Sending fails behind the beginning of the content, or it sends the content whole. -/
theorem send_cases (s : Session) (content : Bytes) :
  (∃ cause outlet sent, s.send content = (.error (.resource (.io cause)), { s with outlet })
      ∧ outlet.accepted = s.outlet.accepted ++ sent ∧ sent <+: content)
    ∨ ∃ outlet, s.send content
        = (.ok (), { s with outlet, summary := { s.summary with replied := content.length } })
      ∧ outlet.accepted = s.outlet.accepted ++ content ∧ outlet.flushes = s.outlet.flushes + 1
  := by
  obtain ⟨outcome, answers, sent, hwrite, hsent, hall⟩ := s.outlet.write_cases content
  cases outcome with
  | error cause =>
    left
    rw [send, hwrite]
    exact ⟨cause, _, sent, rfl, rfl, hsent⟩
  | ok _ =>
    obtain rfl : sent = content := hall rfl
    generalize hwritten : ({ s.outlet with answers, accepted := s.outlet.accepted ++ sent } : Outlet)
      = written at hwrite
    have hafter := written.flush_snd
    generalize hflush : written.flush = flushed at hafter
    obtain ⟨outcome, outlet⟩ := flushed
    obtain rfl : outlet = _ := hafter
    rw [send, hwrite]
    simp only [hflush]
    subst hwritten
    cases outcome with
    | error cause =>
      left
      exact ⟨cause, _, sent, rfl, rfl, hsent⟩
    | ok _ =>
      right
      exact ⟨_, rfl, rfl, rfl⟩

/-- A reply changes nothing but the outlet and the summary. -/
theorem reply_cases (scene : Scene) :
  ∃ outcome outlet summary sent,
    reply scene
      = (outcome, { scene with session := { scene.session with outlet, summary } })
    ∧ outlet.accepted = scene.session.outlet.accepted ++ sent
    ∧ sent <+: scene.session.content scene.log
    ∧ match outcome with
      | .error cause => ∃ failure, cause = .resource (.io failure)
      | .ok _ =>
        sent = scene.session.content scene.log
          ∧ summary.replied = (scene.session.content scene.log).length
          ∧ outlet.flushes = scene.session.outlet.flushes + 1
  := by
  rcases send_cases scene.session (scene.session.content scene.log) with
    ⟨cause, outlet, sent, hsend, haccepted, hsent⟩ | ⟨outlet, hsend, haccepted, hflushes⟩
  · rw [reply, hsend]
    exact ⟨_, outlet, scene.session.summary, sent, rfl, haccepted, hsent, cause, rfl⟩
  · rw [reply, hsend]
    exact ⟨_, outlet, _, _, rfl, haccepted, List.prefix_rfl, rfl, rfl, hflushes⟩

/-! ### The whole session -/

end Session

end BoundedLog
