import BoundedLog.Proofs.Session.Reading
import BoundedLog.Proofs.Session.Request
import BoundedLog.Proofs.SharedLog
import BoundedLog.Session

/-!
# What a client says, and what becomes of it

The bytes of a client are cut into lines, and the lines are looked at in order. Lines that ask
for a place are followed until one of them is refused; the first other line is a record, and what
is behind it is not looked at. If the lines end before that, the client has finished, provided that
it said something and did not stop inside a line. A `Dialogue` is this reading of the bytes; it
knows neither the phases of a session nor the chunks in which bytes arrive.
-/

namespace BoundedLog

/-- What the lines of a client come to: the places it asks for, in order; the record it appends,
if it does, or why it is refused; and the bytes behind the last line that is looked at. -/
structure Dialogue where
  places : List Nat
  outcome : Except Fault (Option Record)
  behind : Bytes

namespace Dialogue

/-- The dialogue with a place asked for in front. -/
def seeking (place : Nat) (dialogue : Dialogue) : Dialogue :=
  { dialogue with places := place :: dialogue.places }

/-- What lines with `rest` behind them come to. A client that was heard before may finish. -/
def ofLines (log : SharedLog) (heard : Bool) : List Bytes → Bytes → Dialogue
  | [], rest =>
    if heard && rest.isEmpty then ⟨[], .ok none, []⟩
    else ⟨[], .error (.protocol (.unterminated rest.length)), []⟩
  | line :: lines, rest =>
    if Request.seekWord <+: line then
      match Request.ofLine line with
      | .ok (.seek index offset) =>
        match log.seek index offset with
        | .ok place => (ofLines log true lines rest).seeking place
        | .error cause => ⟨[], .error (.range cause), lines.flatten ++ rest⟩
      | _ =>
        ⟨[], .error (.protocol (.malformedSeek (Request.shown line))), lines.flatten ++ rest⟩
    else ⟨[], .ok (some line), lines.flatten ++ rest⟩

/-- What the bytes of a client come to. -/
def ofBytes (log : SharedLog) (bytes : Bytes) : Dialogue :=
  ofLines log false bytes.lines bytes.unterminated

/-- The record that is appended, if there is one. -/
def record? (dialogue : Dialogue) : Option Record :=
  match dialogue.outcome with
  | .ok record? => record?
  | .error _ => none

variable {log : SharedLog} {line : Bytes}

theorem ofLines_seek {index offset place : Nat}
    (hline : Request.ofLine line = .ok (.seek index offset))
    (hseek : log.seek index offset = .ok place) (heard : Bool) (lines : List Bytes) (rest : Bytes) :
  ofLines log heard (line :: lines) rest = (ofLines log true lines rest).seeking place
  := by
  rw [ofLines, if_pos (Request.begins_of_ofLine_seek hline), hline]
  simp only
  rw [hseek]

theorem ofLines_record (hline : ¬ Request.seekWord <+: line) (heard : Bool) (lines : List Bytes)
    (rest : Bytes) :
  ofLines log heard (line :: lines) rest = ⟨[], .ok (some line), lines.flatten ++ rest⟩
  := by
  rw [ofLines, if_neg hline]

/-- The log has the place that a line asks for. -/
def Resolved (log : SharedLog) (line : Bytes) : Prop :=
  ∃ index offset place, Request.ofLine line = .ok (.seek index offset)
    ∧ log.seek index offset = .ok place

/-- Lines that ask for places of the log are followed up to the record. -/
theorem ofLines_of_resolved {asks : List Bytes} (hasks : ∀ ask ∈ asks, Resolved log ask)
    {last : Bytes} {index offset place : Nat}
    (hlast : Request.ofLine last = .ok (.seek index offset))
    (hplace : log.seek index offset = .ok place) (hline : ¬ Request.seekWord <+: line)
    (heard : Bool) (more : List Bytes) (rest : Bytes) :
  ∃ places, places.length = asks.length
    ∧ ofLines log heard (asks ++ last :: line :: more) rest
      = ⟨places ++ [place], .ok (some line), more.flatten ++ rest⟩
  := by
  induction asks generalizing heard with
  | nil =>
    use [], rfl
    rw [List.nil_append, ofLines_seek hlast hplace, ofLines_record hline]
    rfl
  | cons ask asks ih =>
    obtain ⟨index', offset', place', hask, hplace'⟩ := hasks ask List.mem_cons_self
    obtain ⟨places, hlength, hrest⟩ :=
      ih (fun other hother => hasks other (List.mem_cons_of_mem _ hother)) true
    use place' :: places, congrArg Nat.succ hlength
    rw [List.cons_append, ofLines_seek hask hplace', hrest]
    rfl

end Dialogue

namespace Session

variable (s : Session) (log : SharedLog) {line : Bytes}

/-! ### Acting on one line -/

/-- Behind the last newline the client has finished, or it is refused. -/
theorem take_unterminated (hend : line.endsLine = false) (hdraft : s.draft = {}) (d : Disk) :
  (s.take log line).run d
    = if s.lines != 0 && line.isEmpty then ((.ok (), { s with phase := .replying }, log), d)
      else ((.error (.protocol (.unterminated line.length)), s, log), d)
  := by
  rw [take, hend, hdraft, Bool.and_comm]
  simp only [Bool.not_false, if_true, List.length_nil, Nat.zero_add]
  split <;> rfl

theorem take_malformed {cause : ProtocolFault} (hend : line.endsLine = true)
    (hline : Request.ofLine line = .error cause) (d : Disk) :
  (s.take log line).run d
    = ((.error (.protocol cause), { s with lines := s.lines + 1 }, log), d)
  := by
  simp only [take, hend, hline]
  rfl

theorem take_unresolved {index offset : Nat} {cause : RangeFault} (hend : line.endsLine = true)
    (hline : Request.ofLine line = .ok (.seek index offset))
    (hseek : log.seek index offset = .error cause) (d : Disk) :
  (s.take log line).run d = ((.error (.range cause), { s with lines := s.lines + 1 }, log), d)
  := by
  simp only [take, hend, hline, hseek]
  rfl

/-- The session behind a line that asks for a place. -/
def sought (place : Nat) : Session :=
  { s with
    lines := s.lines + 1
    place := some place
    summary := { s.summary with seeks := s.summary.seeks + 1 } }

theorem take_seek {index offset place : Nat} (hend : line.endsLine = true)
    (hline : Request.ofLine line = .ok (.seek index offset))
    (hseek : log.seek index offset = .ok place) (d : Disk) :
  (s.take log line).run d = ((.ok (), s.sought place, log), d)
  := by
  simp only [take, hend, hline, hseek]
  rfl

/-- A record goes to the log whole, whatever becomes of the replica. -/
theorem take_record (hend : line.endsLine = true) (hdraft : s.draft = {})
    (hline : Request.ofLine line = .ok (.record line)) (d : Disk) :
  ((s.take log line).run d).1
    = (.ok (), { s with
          draft := {}
          lines := s.lines + 1
          summary := { s.summary with records := s.summary.records + 1 }
          phase := .replying }, log.committing (some line))
  := by
  have hwrite := log.write_fst s.draft line d
  have htake : ((s.take log line).run d).1
      = (.ok (), { s with
            draft := ((log.write s.draft line).run d).1.2
            lines := s.lines + 1
            summary := { s.summary with records := s.summary.records + 1 }
            phase := .replying }, ((log.write s.draft line).run d).1.1) := by
    simp only [take, hend, hline]
    rfl
  rw [hdraft, Draft.add_line hend] at hwrite
  rw [htake, hdraft, hwrite]

/-! ### Line after line -/

/-- What receiving comes to, from what taking the line comes to that is read. -/
theorem receive_run {s : Session} {log : SharedLog} {scene : Scene} {left : List Arrival}
    {stopped : Bool} {outcome : Except Fault Unit} {d d' : Disk}
    (hread : Arrival.readLine scene.stopped scene.session.arrivals = ⟨.ok line, stopped, left⟩)
    (htake : (({ scene.session with arrivals := left } : Session).take scene.log line).run d
      = ((outcome, s, log), d')) :
  (receive scene).run d = ((outcome, { session := s, log, stopped }), d')
  := by
  rw [receive, hread]
  simp only [StateT.run_bind, htake]
  rfl

theorem receiveWithin_of_not_receiving {scene : Scene} (h : scene.session.phase ≠ .receiving)
    (fuel : Nat) (d : Disk) :
  (receiveWithin fuel scene).run d = ((.ok (), scene), d)
  := by
  cases fuel with
  | zero => rfl
  | succ fuel =>
    rw [receiveWithin, if_pos h]
    rfl

/-- A refusal ends the receiving. -/
theorem receiveWithin_of_error {scene after : Scene} {cause : Fault} {d d' : Disk}
    (h : scene.session.phase = .receiving)
    (hreceive : (receive scene).run d = ((.error cause, after), d')) (fuel : Nat) :
  (receiveWithin (fuel + 1) scene).run d = ((.error cause, after), d')
  := by
  rw [receiveWithin, if_neg (not_not.mpr h)]
  simp only [StateT.run_bind, hreceive]
  rfl

/-- Otherwise receiving goes on. -/
theorem receiveWithin_of_ok {scene after : Scene} {d d' : Disk}
    (h : scene.session.phase = .receiving)
    (hreceive : (receive scene).run d = ((.ok (), after), d')) (fuel : Nat) :
  (receiveWithin (fuel + 1) scene).run d = (receiveWithin fuel after).run d'
  := by
  rw [receiveWithin, if_neg (not_not.mpr h)]
  simp only [StateT.run_bind, hreceive]
  rfl

/-- What receiving leaves of a scene, if it follows a dialogue. -/
structure Follows (dialogue : Dialogue) (before : Scene) (d : Disk)
    (result : (Except Fault Unit × Scene) × Disk) : Prop where
  outcome_eq : result.1.1 = dialogue.outcome.map fun _ => ()
  log_eq : result.1.2.log = before.log.committing dialogue.record?
  disk_eq : dialogue.record? = none → result.2 = d
  delivered_eq : Arrival.delivered result.1.2.session.arrivals = dialogue.behind
  outlet_eq : result.1.2.session.outlet = before.session.outlet
  place_eq : result.1.2.session.place = dialogue.places.getLast?.or before.session.place
  seeks_eq : result.1.2.session.summary.seeks
    = before.session.summary.seeks + dialogue.places.length
  records_eq : result.1.2.session.summary.records
    = before.session.summary.records + dialogue.record?.toList.length

/-- One more place in front of what is followed. -/
theorem Follows.seeking {dialogue : Dialogue} {before : Scene} {left : List Arrival}
    {stopped : Bool} {place : Nat} {d : Disk} {result : (Except Fault Unit × Scene) × Disk}
    (h : Follows dialogue
      ⟨sought { before.session with arrivals := left } place, before.log, stopped⟩ d result) :
  Follows (dialogue.seeking place) before d result
  where
  outcome_eq := h.outcome_eq
  log_eq := h.log_eq
  disk_eq := h.disk_eq
  delivered_eq := h.delivered_eq
  outlet_eq := h.outlet_eq
  place_eq := by
    rw [h.place_eq, Dialogue.seeking, List.getLast?_cons]
    cases dialogue.places.getLast? with
    | none => rfl
    | some last => rfl
  seeks_eq := by
    rw [h.seeks_eq, sought, Dialogue.seeking, List.length_cons, Nat.add_assoc, Nat.add_comm 1]
  records_eq := h.records_eq

/-- Where no line arrives any more, the dialogue is at its end. -/
theorem follows_of_lines_eq_nil {scene : Scene} (hphase : scene.session.phase = .receiving)
    (hdraft : scene.session.draft = {}) (hfaultless : Arrival.Faultless scene.session.arrivals)
    (hlines : (Arrival.delivered scene.session.arrivals).lines = []) (fuel : Nat) (d : Disk) :
  Follows
    (Dialogue.ofLines scene.log (scene.session.lines != 0) []
      (Arrival.delivered scene.session.arrivals).unterminated)
    scene d ((receiveWithin (fuel + 1) scene).run d)
  := by
  have hcut := Bytes.cutLine?_of_lines_eq_nil hlines
  obtain ⟨stopped, hread⟩ :=
    Arrival.readLineFrom_of_cutLine?_eq_none hfaultless hcut [] scene.stopped
  have hend := Bytes.endsLine_of_not_mem (Bytes.cutLine?_eq_none_iff.mp hcut)
  have htake := take_unterminated { scene.session with arrivals := [] } scene.log hend hdraft d
  rw [List.nil_append] at hread
  rw [(Bytes.splitLines_of_cutLine?_eq_none hcut).2, Dialogue.ofLines]
  split
  · next hfinished =>
    rw [if_pos hfinished] at htake
    rw [receiveWithin_of_ok hphase (receive_run hread htake),
      receiveWithin_of_not_receiving (by simp)]
    exact ⟨rfl, rfl, fun _ => rfl, rfl, rfl, rfl, rfl, rfl⟩
  · next hpending =>
    rw [if_neg hpending] at htake
    rw [receiveWithin_of_error hphase (receive_run hread htake)]
    exact ⟨rfl, rfl, fun _ => rfl, rfl, rfl, rfl, rfl, rfl⟩

/-- Receiving follows the dialogue of the lines that arrive: by induction on the lines, each of
which takes one attempt, while the draft stays empty and the log stays the same. -/
theorem follows_receiveWithin {scene : Scene} (hphase : scene.session.phase = .receiving)
    (hdraft : scene.session.draft = {}) (hfaultless : Arrival.Faultless scene.session.arrivals)
    {fuel : Nat} (hfuel : (Arrival.delivered scene.session.arrivals).lines.length < fuel)
    (d : Disk) :
  Follows
    (Dialogue.ofLines scene.log (scene.session.lines != 0)
      (Arrival.delivered scene.session.arrivals).lines
      (Arrival.delivered scene.session.arrivals).unterminated)
    scene d ((receiveWithin fuel scene).run d)
  := by
  generalize hlines : (Arrival.delivered scene.session.arrivals).lines = lines at hfuel ⊢
  induction lines generalizing scene fuel d with
  | nil =>
    obtain ⟨fuel, rfl⟩ := Nat.exists_eq_add_one.mpr hfuel
    apply follows_of_lines_eq_nil hphase hdraft hfaultless hlines fuel d
  | cons line lines ih =>
    obtain ⟨fuel, rfl⟩ := Nat.exists_eq_add_one.mpr (Nat.zero_lt_of_lt hfuel)
    obtain ⟨behind, hcut⟩ := Bytes.cutLine?_of_lines_eq_cons hlines
    obtain ⟨hrest, hunterminated⟩ := Bytes.splitLines_of_cutLine?_eq_some hcut
    obtain ⟨-, rfl⟩ := List.cons.inj (hlines.symm.trans hrest)
    obtain ⟨stopped, left, hread, rfl, hleft⟩ :=
      Arrival.readLineFrom_of_cutLine?_eq_some hfaultless hcut [] scene.stopped
    have hend := Bytes.endsLine_of_cutLine? hcut
    rw [List.nil_append] at hread
    rw [hunterminated, Dialogue.ofLines, Bytes.flatten_lines_append_unterminated]
    split
    · next hprefix =>
      rcases Request.ofLine_eq_seek_or_malformed hprefix with ⟨index, offset, hline⟩ | hline
      · rw [hline]
        simp only
        cases hseek : scene.log.seek index offset with
        | error cause =>
          have htake :=
            take_unresolved { scene.session with arrivals := left } scene.log hend hline hseek d
          rw [receiveWithin_of_error hphase (receive_run hread htake)]
          exact ⟨rfl, rfl, fun _ => rfl, rfl, rfl, rfl, rfl, rfl⟩
        | ok place =>
          have htake :=
            take_seek { scene.session with arrivals := left } scene.log hend hline hseek d
          rw [receiveWithin_of_ok hphase (receive_run hread htake)]
          apply Follows.seeking
          apply @ih ⟨sought { scene.session with arrivals := left } place, scene.log, stopped⟩
            hphase hdraft hleft fuel d rfl (Nat.lt_of_succ_lt_succ hfuel)
      · rw [hline]
        simp only
        have htake := take_malformed { scene.session with arrivals := left } scene.log hend hline d
        rw [receiveWithin_of_error hphase (receive_run hread htake)]
        exact ⟨rfl, rfl, fun _ => rfl, rfl, rfl, rfl, rfl, rfl⟩
    · next hprefix =>
      have htake := take_record { scene.session with arrivals := left } scene.log hend hdraft
        (Request.ofLine_eq_record hprefix) d
      rw [receiveWithin_of_ok hphase (receive_run hread (Prod.ext htake rfl)),
        receiveWithin_of_not_receiving (by simp)]
      exact ⟨rfl, rfl, nofun, rfl, rfl, rfl, rfl, rfl⟩

end Session

end BoundedLog
