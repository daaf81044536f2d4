import BoundedLog.Proofs.Session.AllOrNothing

/-!
# What a session takes behind a request to stop

A session looks at the stop flag only when nothing has arrived in time. So a request to stop does
not end it as long as its client goes on sending: what it hears is all that arrives up to the first
failure that it gives up for, and behind a request to stop a timeout is such a failure. Of the lines
that it hears it takes those that ask for places of the log, however many there are, and the first
other one.
-/

namespace BoundedLog

/-! ### What is heard of a client -/

/-- The failure that a session gives up for when this one arrives; `none` if it goes on reading. -/
def IoError.report? (cause : IoError) (stopped : Bool) : Option IoError :=
  if cause.kind = .interrupted then none
  else if cause.isTimeout then if stopped then some .shuttingDown else none
  else some cause

namespace Arrival

/-- What a session hears: the bytes that arrive before it gives up, and the failure that it gives up
for, unless the client finishes before. -/
structure Hearing where
  bytes : Bytes
  failure? : Option IoError

/-- What is heard of arrivals, which depends on whether the server stops. -/
def hear (stopped : Bool) : List Arrival → Hearing
  | [] => ⟨[], none⟩
  | .bytes chunk :: rest => ⟨chunk ++ (hear stopped rest).bytes, (hear stopped rest).failure?⟩
  | .failure cause :: rest =>
    match cause.report? stopped with
    | none => hear stopped rest
    | some reported => ⟨[], some reported⟩
  | .stop :: rest => hear true rest

variable {arrivals before : List Arrival} {stopped : Bool}

/-- No more is heard than what arrives. -/
theorem length_hear_le_unread (stopped : Bool) (arrivals : List Arrival) :
  (hear stopped arrivals).bytes.length ≤ unread arrivals
  := by
  induction arrivals generalizing stopped with
  | nil => exact Nat.le_refl 0
  | cons arrival rest ih =>
    cases arrival with
    | bytes chunk =>
      rw [hear, unread, List.length_append]
      apply Nat.add_le_add_left (ih stopped)
    | failure cause =>
      rw [hear]
      split
      · apply ih
      · apply Nat.zero_le
    | stop => apply ih

/-- If a session does not give up before it is told to stop, it hears all that is in front, and then
what it hears behind. -/
theorem hear_append_stop (h : (hear stopped before).failure? = none) (after : List Arrival) :
  hear stopped (before ++ .stop :: after)
    = ⟨delivered before ++ (hear true after).bytes, (hear true after).failure?⟩
  := by
  induction before generalizing stopped with
  | nil => rfl
  | cons arrival rest ih =>
    cases arrival with
    | bytes chunk =>
      rw [List.cons_append, hear, ih h, delivered, List.append_assoc]
    | failure cause =>
      rw [hear] at h
      rw [List.cons_append, hear]
      cases hreport : cause.report? stopped with
      | none =>
        rw [hreport] at h
        apply ih h
      | some reported =>
        rw [hreport] at h
        cases h
    | stop => apply ih h

/-! ### Reading what is heard -/

/-- Reading goes on behind a failure or reports it. -/
theorem readLineFrom_failure (line : Bytes) (stopped : Bool) (cause : IoError)
    (rest : List Arrival) :
  readLineFrom line stopped (.failure cause :: rest) =
    match cause.report? stopped with
    | none => readLineFrom line stopped rest
    | some reported => ⟨.error reported, stopped, rest⟩
  := by
  rw [readLineFrom, IoError.report?]
  split
  · rfl
  · split
    · split
      · rfl
      · rfl
    · rfl

/-- The first line that is heard is read, and the others can be heard afterwards. -/
theorem readLineFrom_of_heard_line {front behind : Bytes}
    (hcut : (hear stopped arrivals).bytes.cutLine? = some (front, behind)) (line : Bytes) :
  ∃ stopped' left, readLineFrom line stopped arrivals = ⟨.ok (line ++ front), stopped', left⟩
    ∧ hear stopped' left = ⟨behind, (hear stopped arrivals).failure?⟩
  := by
  induction arrivals generalizing line stopped front with
  | nil => cases hcut
  | cons arrival rest ih =>
    cases arrival with
    | bytes chunk =>
      rw [hear] at hcut
      rw [readLineFrom, hear]
      cases hchunk : chunk.cutLine? with
      | some cut =>
        obtain ⟨chunkFront, others⟩ := cut
        rw [Bytes.cutLine?_append_of_some hchunk, Option.some.injEq, Prod.mk.injEq] at hcut
        obtain ⟨rfl, rfl⟩ := hcut
        exact ⟨stopped, .bytes others :: rest, rfl, rfl⟩
      | none =>
        rw [Bytes.cutLine?_append_of_none hchunk, Option.map_eq_some_iff] at hcut
        obtain ⟨⟨restFront, behind'⟩, hrest, heq⟩ := hcut
        obtain ⟨rfl, rfl⟩ := Prod.mk.inj heq
        obtain ⟨stopped', left, hread, hleft⟩ := ih hrest (line ++ chunk)
        rw [List.append_assoc] at hread
        exact ⟨stopped', left, hread, hleft⟩
    | failure cause =>
      rw [hear] at hcut ⊢
      rw [readLineFrom_failure]
      cases hreport : cause.report? stopped with
      | none =>
        rw [hreport] at hcut
        apply ih hcut
      | some reported =>
        rw [hreport] at hcut
        cases hcut
    | stop => apply ih hcut

/-- If no line is heard to its end, reading comes to the failure or to all that is heard. -/
theorem readLineFrom_of_heard_all (hcut : (hear stopped arrivals).bytes.cutLine? = none)
    (line : Bytes) :
  ∃ stopped' left, readLineFrom line stopped arrivals =
    match (hear stopped arrivals).failure? with
    | none => ⟨.ok (line ++ (hear stopped arrivals).bytes), stopped', left⟩
    | some cause => ⟨.error cause, stopped', left⟩
  := by
  induction arrivals generalizing line stopped with
  | nil =>
    use stopped, []
    rw [readLineFrom, hear, List.append_nil]
  | cons arrival rest ih =>
    cases arrival with
    | bytes chunk =>
      rw [hear, Bytes.cutLine?_eq_none_iff, List.mem_append, not_or] at hcut
      obtain ⟨stopped', left, hread⟩ :=
        ih (Bytes.cutLine?_eq_none_iff.mpr hcut.2) (line ++ chunk)
      use stopped', left
      rw [readLineFrom, Bytes.cutLine?_eq_none_iff.mpr hcut.1]
      dsimp only
      rw [hread, hear, List.append_assoc]
    | failure cause =>
      rw [hear] at hcut ⊢
      rw [readLineFrom_failure]
      cases hreport : cause.report? stopped with
      | none =>
        rw [hreport] at hcut
        apply ih hcut
      | some reported => exact ⟨stopped, rest, rfl⟩
    | stop => apply ih hcut

end Arrival

/-! ### The lines that are taken -/

namespace Dialogue

variable {log : SharedLog} {line : Bytes}

/-- Whether the log has the place that a line asks for. -/
def resolves (log : SharedLog) (line : Bytes) : Bool :=
  match Request.ofLine line with
  | .ok (.seek index offset) => (log.seek index offset).isOk
  | _ => false

theorem resolves_iff :
  resolves log line = true ↔ Resolved log line
  := by
  rw [resolves, Resolved]
  cases Request.ofLine line with
  | error cause => simp
  | ok request =>
    cases request with
    | record record => simp
    | seek index offset =>
      cases hseek : log.seek index offset with
      | error cause => simp [hseek, Except.isOk, Except.toBool]
      | ok place => simp [hseek, Except.isOk, Except.toBool]

/-- How many of the lines that it hears a session takes: those in front that ask for places of the
log, and the first other one. -/
def taken (log : SharedLog) (lines : List Bytes) : Nat :=
  min lines.length ((lines.takeWhile (resolves log)).length + 1)

theorem taken_nil (log : SharedLog) :
  taken log [] = 0
  := Nat.zero_min _

theorem taken_cons (log : SharedLog) (line : Bytes) (lines : List Bytes) :
  taken log (line :: lines) = if resolves log line then taken log lines + 1 else 1
  := by
  rw [taken, taken, List.takeWhile_cons]
  split
  · rw [List.length_cons, List.length_cons, Nat.add_min_add_right]
  · apply Nat.min_eq_right (Nat.le_add_left 1 lines.length)

/-- Lines all of which ask for places of the log are all taken, and so are those behind them that
would be taken on their own. -/
theorem taken_append {asks : List Bytes} (h : ∀ ask ∈ asks, Resolved log ask)
    (lines : List Bytes) :
  taken log (asks ++ lines) = asks.length + taken log lines
  := by
  induction asks with
  | nil => exact (Nat.zero_add _).symm
  | cons ask asks ih =>
    rw [List.forall_mem_cons] at h
    rw [List.cons_append, taken_cons, if_pos (resolves_iff.mpr h.1), ih h.2, List.length_cons,
      Nat.add_right_comm]

/-- No more than one line is taken exactly if there is no other one or the first one does not ask
for a place of the log. -/
theorem taken_le_one_iff (log : SharedLog) (lines : List Bytes) :
  taken log lines ≤ 1 ↔ lines.length ≤ 1 ∨ ∃ line ∈ lines.head?, ¬ Resolved log line
  := by
  cases lines with
  | nil => simp [taken_nil]
  | cons line lines =>
    rw [taken_cons, List.length_cons, List.head?_cons]
    simp only [Option.mem_some_iff, exists_eq_left', ← resolves_iff]
    split
    · next hline =>
      cases lines with
      | nil => simp [taken_nil]
      | cons other lines =>
        rw [taken_cons]
        split <;> simp [hline]
    · next hline => simp [hline]

end Dialogue

namespace Session

variable {scene : Scene} {line behind : Bytes}

/-- A line that asks for a place of the log is taken, and the session goes on with the others. -/
theorem exists_receive_of_resolved
    (hcut : (Arrival.hear scene.stopped scene.session.arrivals).bytes.cutLine?
      = some (line, behind))
    (hline : Dialogue.Resolved scene.log line) (d : Disk) :
  ∃ left stopped place,
    (receive scene).run d
      = ((.ok (), ⟨sought { scene.session with arrivals := left } place, scene.log, stopped⟩), d)
    ∧ (Arrival.hear stopped left).bytes = behind
  := by
  obtain ⟨stopped, left, hread, hleft⟩ := Arrival.readLineFrom_of_heard_line hcut []
  obtain ⟨index, offset, place, hline, hplace⟩ := hline
  rw [List.nil_append] at hread
  use left, stopped, place
  rw [receive_run hread
    (take_seek _ scene.log (Bytes.endsLine_of_cutLine? hcut) hline hplace d), hleft]
  exact ⟨rfl, rfl⟩

/-- Any other line is taken as well, but it is the last one. -/
theorem exists_receive_of_not_resolved
    (hcut : (Arrival.hear scene.stopped scene.session.arrivals).bytes.cutLine?
      = some (line, behind))
    (hdraft : scene.session.draft = {}) (hline : ¬ Dialogue.Resolved scene.log line) (d : Disk) :
  ∃ outcome after d', (receive scene).run d = ((outcome, after), d')
    ∧ after.session.lines = scene.session.lines + 1
    ∧ (outcome = .ok () → after.session.phase = .replying)
  := by
  obtain ⟨stopped, left, hread, -⟩ := Arrival.readLineFrom_of_heard_line hcut []
  have hend := Bytes.endsLine_of_cutLine? hcut
  rw [List.nil_append] at hread
  by_cases hseek : Request.seekWord <+: line
  · rcases Request.ofLine_eq_seek_or_malformed hseek with ⟨index, offset, hrequest⟩ | hrequest
    · cases hplace : scene.log.seek index offset with
      | error cause =>
        rw [receive_run hread (take_unresolved _ scene.log hend hrequest hplace d)]
        exact ⟨_, _, _, rfl, rfl, nofun⟩
      | ok place => exact absurd ⟨index, offset, place, hrequest, hplace⟩ hline
    · rw [receive_run hread (take_malformed _ scene.log hend hrequest d)]
      exact ⟨_, _, _, rfl, rfl, nofun⟩
  · have htake := take_record { scene.session with arrivals := left } scene.log hend hdraft
      (Request.ofLine_eq_record hseek) d
    rw [receive_run hread (Prod.ext htake rfl)]
    exact ⟨_, _, _, rfl, rfl, fun _ => rfl⟩

/-- If no line is heard to its end, none is taken, and that was all. -/
theorem exists_receive_of_silence
    (hcut : (Arrival.hear scene.stopped scene.session.arrivals).bytes.cutLine? = none)
    (hdraft : scene.session.draft = {}) (d : Disk) :
  ∃ outcome after d', (receive scene).run d = ((outcome, after), d')
    ∧ after.session.lines = scene.session.lines
    ∧ (outcome = .ok () → after.session.phase = .replying)
  := by
  obtain ⟨stopped, left, hread⟩ := Arrival.readLineFrom_of_heard_all hcut []
  cases hfailure : (Arrival.hear scene.stopped scene.session.arrivals).failure? with
  | some cause =>
    rw [hfailure] at hread
    rw [receive, Arrival.readLine, hread]
    refine ⟨_, _, _, rfl, rfl, ?_⟩
    rintro ⟨⟩
  | none =>
    rw [hfailure, List.nil_append] at hread
    have hend := Bytes.endsLine_of_not_mem (Bytes.cutLine?_eq_none_iff.mp hcut)
    have htake := take_unterminated { scene.session with arrivals := left } scene.log hend hdraft d
    split at htake
    · rw [receive_run hread htake]
      exact ⟨_, _, _, rfl, rfl, fun _ => rfl⟩
    · rw [receive_run hread htake]
      refine ⟨_, _, _, rfl, rfl, ?_⟩
      rintro ⟨⟩

/-- A step behind which the session does not receive any more is the last one. -/
theorem lines_receiveWithin_of_last (hphase : scene.session.phase = .receiving) {after : Scene}
    {outcome : Except Fault Unit} {d d' : Disk}
    (hreceive : (receive scene).run d = ((outcome, after), d'))
    (hlast : outcome = .ok () → after.session.phase = .replying) (fuel : Nat) :
  ((receiveWithin (fuel + 1) scene).run d).1.2.session.lines = after.session.lines
  := by
  cases outcome with
  | error cause => rw [receiveWithin_of_error hphase hreceive]
  | ok _ =>
    rw [receiveWithin_of_ok hphase hreceive,
      receiveWithin_of_not_receiving (by rw [hlast rfl]; decide)]

/-- A session takes the lines that it hears, up to the first one that does not ask for a place of
the log: by induction on these lines, between which the log stays the same and the draft stays
empty. -/
theorem lines_receiveWithin (hphase : scene.session.phase = .receiving)
    (hdraft : scene.session.draft = {}) {fuel : Nat}
    (hfuel : (Arrival.hear scene.stopped scene.session.arrivals).bytes.lines.length < fuel)
    (d : Disk) :
  ((receiveWithin fuel scene).run d).1.2.session.lines
    = scene.session.lines + Dialogue.taken scene.log
        (Arrival.hear scene.stopped scene.session.arrivals).bytes.lines
  := by
  generalize hlines : (Arrival.hear scene.stopped scene.session.arrivals).bytes.lines = lines
    at hfuel ⊢
  induction lines generalizing scene fuel with
  | nil =>
    obtain ⟨fuel, rfl⟩ := Nat.exists_eq_add_one.mpr hfuel
    obtain ⟨outcome, after, d', hreceive, hsame, hlast⟩ :=
      exists_receive_of_silence (Bytes.cutLine?_of_lines_eq_nil hlines) hdraft d
    rw [lines_receiveWithin_of_last hphase hreceive hlast, hsame, Dialogue.taken_nil, Nat.add_zero]
  | cons line lines ih =>
    obtain ⟨fuel, rfl⟩ := Nat.exists_eq_add_one.mpr (Nat.zero_lt_of_lt hfuel)
    obtain ⟨behind, hcut⟩ := Bytes.cutLine?_of_lines_eq_cons hlines
    have hrest := (Bytes.splitLines_of_cutLine?_eq_some hcut).1
    obtain ⟨-, hbehind⟩ := List.cons.inj (hlines.symm.trans hrest)
    by_cases hline : Dialogue.Resolved scene.log line
    · obtain ⟨left, stopped, place, hreceive, hleft⟩ := exists_receive_of_resolved hcut hline d
      have hothers : (Arrival.hear stopped left).bytes.lines = lines := by rw [hleft, hbehind]
      rw [receiveWithin_of_ok hphase hreceive, Dialogue.taken_cons,
        if_pos (Dialogue.resolves_iff.mpr hline), ← Nat.add_assoc, Nat.add_right_comm]
      apply @ih ⟨sought { scene.session with arrivals := left } place, scene.log, stopped⟩ hphase
        hdraft fuel hothers (Nat.lt_of_succ_lt_succ hfuel)
    · obtain ⟨outcome, after, d', hreceive, hone, hlast⟩ :=
        exists_receive_of_not_resolved hcut hdraft hline d
      rw [lines_receiveWithin_of_last hphase hreceive hlast, hone, Dialogue.taken_cons,
        if_neg (mt Dialogue.resolves_iff.mp hline)]

/-- The reply takes no line. -/
theorem lines_run (scene : Scene) (d : Disk) :
  ((run scene).run d).1.2.session.lines = ((receiveAll scene).run d).1.2.session.lines
  := by
  generalize hreceive : (receiveAll scene).run d = received
  obtain ⟨⟨outcome, before⟩, d'⟩ := received
  cases outcome with
  | error cause =>
    rw [run_of_error hreceive]
    rfl
  | ok _ =>
    obtain ⟨outcome, outlet, summary, sent, hreply, -⟩ := reply_cases before
    rw [run_of_received hreceive, hreply]
    rfl

/-- A request to stop reaches a session that is still receiving: it has not given up, and all lines
before have asked for places of the log. Behind the request it takes the line that it is about to
read and others, as many as it hears before it gives up, which is at the first timeout at the
latest, up to the first one that does not ask for a place of the log. So it takes no more than one
line behind the request exactly if it hears no other or the first one does not ask for a place of
the log. -/
theorem run_lines_behind_stop {log : SharedLog} {before : List Arrival} {stopped : Bool}
    (hpatient : (Arrival.hear stopped before).failure? = none)
    (hasks : ∀ ask ∈ (Arrival.delivered before).lines, Dialogue.Resolved log ask)
    (after : List Arrival) (outlet : Outlet) (d : Disk) :
  let arrivals := before ++ .stop :: after
  let result := (run ⟨{ arrivals, outlet }, log, stopped⟩).run d
  let begun := (Arrival.delivered before).unterminated
  let coming := (begun ++ (Arrival.hear true after).bytes).lines
  let behindStop := min coming.length ((coming.takeWhile (Dialogue.resolves log)).length + 1)
  result.1.2.session.lines = (Arrival.delivered before).lines.length + behindStop
    ∧ (behindStop ≤ 1 ↔ coming.length ≤ 1 ∨ ∃ first ∈ coming.head?, ¬ Dialogue.Resolved log first)
  := by
  intro arrivals result begun coming behindStop
  have hheard : (Arrival.hear stopped arrivals).bytes
      = Arrival.delivered before ++ (Arrival.hear true after).bytes :=
    congrArg Arrival.Hearing.bytes (Arrival.hear_append_stop hpatient after)
  have hlines : (Arrival.hear stopped arrivals).bytes.lines
      = (Arrival.delivered before).lines ++ coming := by
    rw [hheard]
    apply Bytes.lines_append
  have hfuel : (Arrival.hear stopped arrivals).bytes.lines.length < Arrival.unread arrivals + 2 :=
    Nat.lt_add_right 1 (Nat.lt_succ_of_le
      ((Bytes.length_lines_le _).trans (Arrival.length_hear_le_unread stopped arrivals)))
  have htaken := @lines_receiveWithin ⟨{ arrivals, outlet }, log, stopped⟩ rfl rfl _ hfuel d
  dsimp only at htaken
  rw [hlines, Dialogue.taken_append hasks, Nat.zero_add] at htaken
  constructor
  · exact (lines_run _ d).trans htaken
  · apply Dialogue.taken_le_one_iff

/-- The server is told to stop inside the second line. The session takes this line and one more,
although it has to begin its reading again in between, and gives up at the timeout behind them. -/
theorem run_two_lines_behind_stop :
  let log : SharedLog := { window := ((Window.ofCapacity 2).append [97, newline]).1 }
  let ask : Bytes := Request.seekWord ++ [48, 44, 48, newline]
  let before : List Arrival := [.bytes (ask ++ Request.seekWord)]
  let after : List Arrival :=
    [.bytes [48, 44, 48, newline], .failure (.plain .interrupted), .bytes ask,
      .failure (.plain .timedOut), .bytes ask]
  let result := (run ⟨{ arrivals := before ++ .stop :: after }, log, false⟩).run ⟨⟨[]⟩, [], []⟩
  (Arrival.hear false before).failure? = none
    ∧ (∀ line ∈ (Arrival.delivered before).lines, Dialogue.Resolved log line)
    ∧ result.1.2.session.lines = 1 + 2
  := by
  intro log ask before after result
  have hask : Dialogue.Resolved log ask := by
    use 0, 0, 0, rfl
    simp only [log]
    rfl
  have hpatient : (Arrival.hear false before).failure? = none := rfl
  have hlines : (Arrival.delivered before).lines = [ask] := by
    simp only [before, ask]
    rfl
  have hasks : ∀ line ∈ (Arrival.delivered before).lines, Dialogue.Resolved log line := by
    rw [hlines, List.forall_mem_singleton]
    exact hask
  obtain ⟨htaken, -⟩ := run_lines_behind_stop hpatient hasks after {} ⟨⟨[]⟩, [], []⟩
  have hcoming : ((Arrival.delivered before).unterminated ++ (Arrival.hear true after).bytes).lines
      = [ask, ask] := by
    simp only [before, after, ask]
    rfl
  rw [hcoming, hlines] at htaken
  simp only [List.takeWhile_cons, Dialogue.resolves_iff.mpr hask] at htaken
  exact ⟨hpatient, hasks, htaken⟩

/-- The server is told to stop before the first line arrives, but the client goes on sending: the
session takes three lines and replies, and nothing is left to be read. -/
theorem run_stop_unheeded :
  let log : SharedLog := { window := ((Window.ofCapacity 2).append [97, newline]).1 }
  let ask : Bytes := Request.seekWord ++ [48, 44, 48, newline]
  let arrivals : List Arrival := [.stop, .bytes (ask ++ ask ++ ask)]
  let result := (run ⟨{ arrivals }, log, false⟩).run ⟨⟨[]⟩, [], []⟩
  result.1.1 = .ok ⟨3, 0, 2⟩
    ∧ ¬ result.1.2.session.lines ≤ 1
    ∧ Arrival.unread result.1.2.session.arrivals = 0
  := by
  intro log ask arrivals result
  have hask : Request.ofLine ask = .ok (.seek 0 0) := rfl
  have hplace : log.seek 0 0 = .ok 0 := by
    simp only [log]
    rfl
  have hlines : (Arrival.delivered arrivals).lines = [ask, ask, ask] := by
    simp only [arrivals, ask]
    rfl
  have hrest : (Arrival.delivered arrivals).unterminated = [] := by
    simp only [arrivals, ask]
    rfl
  have hdialogue : Dialogue.ofBytes log (Arrival.delivered arrivals)
      = ⟨[0, 0, 0], .ok none, []⟩ := by
    rw [Dialogue.ofBytes, hlines, hrest, Dialogue.ofLines_seek hask hplace,
      Dialogue.ofLines_seek hask hplace, Dialogue.ofLines_seek hask hplace]
    rfl
  have hcontent : log.window.content.drop 0 = [97, newline] := by
    simp only [log]
    rfl
  have hfaultless : Arrival.Faultless arrivals := by simp [arrivals, Arrival.Faultless]
  obtain ⟨hresult, hbehind, -⟩ := run_of_answered hfaultless Outlet.willing_default false
    ⟨⟨[]⟩, [], []⟩ (congrArg Dialogue.outcome hdialogue)
  simp only [hdialogue, SharedLog.committing, List.getLast?_cons_cons, List.getLast?_singleton,
    Option.getD_some, hcontent] at hresult hbehind
  have htaken : result.1.2.session.lines = 3 := by
    have hheard : (Arrival.hear false arrivals).bytes.lines = [ask, ask, ask] := hlines
    have hresolved : Dialogue.resolves log ask = true :=
      Dialogue.resolves_iff.mpr ⟨0, 0, 0, hask, hplace⟩
    have hreceive := @lines_receiveWithin ⟨{ arrivals }, log, false⟩ rfl rfl
      (Arrival.unread arrivals + 2) (by rw [hheard]; decide) ⟨⟨[]⟩, [], []⟩
    rw [hheard, Dialogue.taken_cons, Dialogue.taken_cons, Dialogue.taken_cons,
      hresolved] at hreceive
    exact (lines_run _ _).trans hreceive
  refine ⟨hresult, ?_, ?_⟩
  · rw [htaken]
    decide
  · rw [Arrival.unread_eq_length_delivered]
    apply congrArg List.length hbehind

end Session

end BoundedLog
