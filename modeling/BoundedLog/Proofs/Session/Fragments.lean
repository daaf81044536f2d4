import BoundedLog.Proofs.Session.Conversation

/-!
# What arrives, however it is cut

Bytes may arrive in chunks of any size, with interruptions and timeouts between them.
`Arrival.condense` brings arrivals into a form in which nothing of this is seen: failures that a
session gets over and empty chunks are left out, and bytes with nothing else between them are one
chunk. A failure that ends a session keeps its place among the bytes.

As long as the server does not stop, sessions that differ only in what `condense` does not show
take the same lines, and so they come to the same end.
-/

namespace BoundedLog

/-- The operation may be tried again: it was interrupted, or nothing arrived in time. -/
def IoError.isPassing (e : IoError) : Bool := e.kind == .interrupted || e.isTimeout

namespace Arrival

/-- Bytes in front of arrivals, in one chunk with the bytes that come next. -/
def prepend (chunk : Bytes) : List Arrival → List Arrival
  | .bytes others :: rest => .bytes (chunk ++ others) :: rest
  | rest => if chunk.isEmpty then rest else .bytes chunk :: rest

/-- The arrivals without empty chunks and without failures that pass, and with the bytes between
two others in one chunk. -/
def condense : List Arrival → List Arrival
  | [] => []
  | .bytes chunk :: rest => prepend chunk (condense rest)
  | .failure cause :: rest =>
    if cause.isPassing then condense rest else .failure cause :: condense rest
  | .stop :: rest => .stop :: condense rest

/-! ### Condensed arrivals -/

/-- A chunk is joined to the bytes that come next, or vanishes because it is empty, or stands
alone. -/
theorem prepend_cases (chunk : Bytes) (arrivals : List Arrival) :
  (∃ others rest, arrivals = .bytes others :: rest
      ∧ prepend chunk arrivals = .bytes (chunk ++ others) :: rest)
    ∨ (chunk = [] ∧ prepend chunk arrivals = arrivals)
    ∨ (chunk ≠ [] ∧ prepend chunk arrivals = .bytes chunk :: arrivals)
  := by
  unfold prepend
  split
  · left
    exact ⟨_, _, rfl, rfl⟩
  · right
    cases chunk with
    | nil =>
      left
      exact ⟨rfl, rfl⟩
    | cons b chunk =>
      right
      exact ⟨List.cons_ne_nil b chunk, rfl⟩

theorem prepend_append (front back : Bytes) (arrivals : List Arrival) :
  prepend front (prepend back arrivals) = prepend (front ++ back) arrivals
  := by
  rcases prepend_cases back arrivals with ⟨others, rest, rfl, h⟩ | ⟨rfl, h⟩ | ⟨hback, h⟩
  · rw [h, prepend, prepend, List.append_assoc]
  · rw [h, List.append_nil]
  · rcases prepend_cases (front ++ back) arrivals with ⟨others, rest, rfl, h'⟩ | ⟨hnil, -⟩ | ⟨-, h'⟩
    · rw [prepend, prepend, prepend, List.append_assoc]
    · exact absurd (List.append_eq_nil_iff.mp hnil).2 hback
    · rw [h, h', prepend]

theorem condense_prepend (chunk : Bytes) (arrivals : List Arrival) :
  condense (prepend chunk arrivals) = prepend chunk (condense arrivals)
  := by
  rcases prepend_cases chunk arrivals with ⟨others, rest, rfl, h⟩ | ⟨rfl, h⟩ | ⟨-, h⟩
  · rw [h, condense, condense, prepend_append]
  · rw [h]
    rcases prepend_cases [] (condense arrivals) with ⟨others, rest, h₁, h₂⟩ | ⟨-, h₂⟩ | ⟨hnil, -⟩
    · rw [h₂, h₁, List.nil_append]
    · exact h₂.symm
    · contradiction
  · rw [h, condense]

/-- Nothing is left to condense. -/
theorem condense_condense (arrivals : List Arrival) :
  condense (condense arrivals) = condense arrivals
  := by
  induction arrivals with
  | nil => rfl
  | cons arrival rest ih =>
    cases arrival with
    | bytes chunk => rw [condense, condense_prepend, ih]
    | failure cause =>
      rw [condense]
      split
      · exact ih
      · next hpassing => rw [condense, if_neg hpassing, ih]
    | stop => rw [condense, condense, ih]

theorem unread_prepend (chunk : Bytes) (arrivals : List Arrival) :
  unread (prepend chunk arrivals) = chunk.length + unread arrivals
  := by
  rcases prepend_cases chunk arrivals with ⟨others, rest, rfl, h⟩ | ⟨rfl, h⟩ | ⟨-, h⟩
  · rw [h, unread, unread, List.length_append, Nat.add_assoc]
  · rw [h, List.length_nil, Nat.zero_add]
  · rw [h, unread]

/-- No byte is lost. -/
theorem unread_condense (arrivals : List Arrival) :
  unread (condense arrivals) = unread arrivals
  := by
  induction arrivals with
  | nil => rfl
  | cons arrival rest ih =>
    cases arrival with
    | bytes chunk => rw [condense, unread_prepend, ih, unread]
    | failure cause =>
      rw [condense]
      split
      · exact ih
      · exact ih
    | stop => exact ih

theorem stop_mem_prepend_iff (chunk : Bytes) (arrivals : List Arrival) :
  .stop ∈ prepend chunk arrivals ↔ .stop ∈ arrivals
  := by
  rcases prepend_cases chunk arrivals with ⟨others, rest, rfl, h⟩ | ⟨-, h⟩ | ⟨-, h⟩
  · simp [h]
  · rw [h]
  · simp [h]

theorem stop_mem_condense_iff (arrivals : List Arrival) :
  .stop ∈ condense arrivals ↔ .stop ∈ arrivals
  := by
  induction arrivals with
  | nil => rfl
  | cons arrival rest ih =>
    cases arrival with
    | bytes chunk => simp [condense, stop_mem_prepend_iff, ih]
    | failure cause =>
      rw [condense]
      split
      · simp [ih]
      · simp [ih]
    | stop => simp [condense]

/-! ### Reading a line -/

/-- A chunk without a newline is read to its end, joined to others or not. -/
theorem readLineFrom_prepend_of_none {chunk : Bytes} (hchunk : chunk.cutLine? = none)
    (line : Bytes) (stopped : Bool) (arrivals : List Arrival) :
  readLineFrom line stopped (prepend chunk arrivals) = readLineFrom (line ++ chunk) stopped arrivals
  := by
  rcases prepend_cases chunk arrivals with ⟨others, rest, rfl, h⟩ | ⟨rfl, h⟩ | ⟨-, h⟩
  · rw [h, readLineFrom, readLineFrom, Bytes.cutLine?_append_of_none hchunk]
    cases others.cutLine? with
    | none => simp only [Option.map_none, List.append_assoc]
    | some cut => simp only [Option.map_some, List.append_assoc]
  · rw [h, List.append_nil]
  · rw [h, readLineFrom, hchunk]

/-- A chunk with a newline ends the line, joined to others or not. -/
theorem readLineFrom_prepend_of_some {chunk front others : Bytes}
    (hchunk : chunk.cutLine? = some (front, others)) (line : Bytes) (stopped : Bool)
    (arrivals : List Arrival) :
  ∃ left, readLineFrom line stopped (prepend chunk arrivals) = ⟨.ok (line ++ front), stopped, left⟩
    ∧ condense left = prepend others (condense arrivals)
  := by
  rcases prepend_cases chunk arrivals with ⟨more, rest, rfl, h⟩ | ⟨rfl, -⟩ | ⟨-, h⟩
  · use .bytes (others ++ more) :: rest
    rw [h, readLineFrom, Bytes.cutLine?_append_of_some hchunk, condense, condense, prepend_append]
    exact ⟨rfl, rfl⟩
  · cases hchunk
  · use .bytes others :: arrivals
    rw [h, readLineFrom, hchunk, condense]
    exact ⟨rfl, rfl⟩

/-- Reading takes the same line from condensed arrivals, and leaves the same up to condensing. -/
theorem readLineFrom_condense {arrivals : List Arrival} (h : .stop ∉ arrivals) (line : Bytes) :
  ∃ result left left', readLineFrom line false arrivals = ⟨result, false, left⟩
    ∧ readLineFrom line false (condense arrivals) = ⟨result, false, left'⟩
    ∧ condense left = condense left' ∧ .stop ∉ left
  := by
  induction arrivals generalizing line with
  | nil => exact ⟨.ok line, [], [], rfl, rfl, rfl, h⟩
  | cons arrival rest ih =>
    rw [List.mem_cons, not_or] at h
    obtain ⟨harrival, hrest⟩ := h
    cases arrival with
    | bytes chunk =>
      rw [readLineFrom, condense]
      cases hchunk : chunk.cutLine? with
      | some cut =>
        obtain ⟨left, hread, hleft⟩ :=
          readLineFrom_prepend_of_some hchunk line false (condense rest)
        use .ok (line ++ cut.1), .bytes cut.2 :: rest, left, rfl, hread
        rw [hleft, condense, condense_condense]
        simpa using hrest
      | none =>
        rw [readLineFrom_prepend_of_none hchunk]
        apply ih hrest
    | failure cause =>
      rw [readLineFrom, condense, IoError.isPassing]
      by_cases hinterrupted : cause.kind = .interrupted
      · simp only [hinterrupted, if_true, beq_self_eq_true, Bool.true_or]
        apply ih hrest
      · by_cases htimeout : cause.isTimeout = true
        · simp only [hinterrupted, htimeout, if_true, if_false, Bool.or_true]
          apply ih hrest
        · use .error cause, rest, condense rest
          simp [hinterrupted, htimeout, readLineFrom, condense_condense, hrest]
    | stop => contradiction

/-- Where condensed arrivals are the same, the same line is read, and what is left is the same when
it is condensed. -/
theorem readLine_of_condense_eq {arrivals others : List Arrival}
    (hcondense : condense arrivals = condense others) (hstop : .stop ∉ arrivals) :
  ∃ result left left', readLine false arrivals = ⟨result, false, left⟩
    ∧ readLine false others = ⟨result, false, left'⟩
    ∧ condense left = condense left' ∧ .stop ∉ left
  := by
  have hstop' : .stop ∉ others := by
    rwa [← stop_mem_condense_iff, ← hcondense, stop_mem_condense_iff]
  obtain ⟨result, left, between, hread, hbetween, hleft, hrest⟩ := readLineFrom_condense hstop []
  obtain ⟨result', left', between', hread', hbetween', hleft', -⟩ :=
    readLineFrom_condense hstop' []
  rw [hcondense, hbetween', Reading.mk.injEq] at hbetween
  obtain ⟨rfl, -, rfl⟩ := hbetween
  exact ⟨result', left, left', hread, hread', hleft.trans hleft'.symm, hrest⟩

end Arrival

namespace Session

/-! ### Sessions that are alike -/

/-- Scenes that differ only in the arrivals, and there only in what condensing does not show, while
the server does not stop. -/
inductive Alike : Scene → Scene → Prop
  | intro (s : Session) (log : SharedLog) {arrivals others : List Arrival}
    (hcondense : Arrival.condense arrivals = Arrival.condense others)
    (hstop : .stop ∉ arrivals) :
    Alike ⟨{ s with arrivals }, log, false⟩ ⟨{ s with arrivals := others }, log, false⟩

/-- The same has come of two scenes, and they are alike. -/
def Agree {α : Type} (result other : (α × Scene) × Disk) : Prop :=
  ∃ outcome after after' d, result = ((outcome, after), d) ∧ other = ((outcome, after'), d)
    ∧ Alike after after'

variable {scene other : Scene}

theorem Alike.unread_eq (h : Alike scene other) :
  Arrival.unread scene.session.arrivals = Arrival.unread other.session.arrivals
  := by
  obtain ⟨s, log, hcondense, -⟩ := h
  rw [← Arrival.unread_condense]
  show Arrival.unread (Arrival.condense _) = Arrival.unread _
  rw [hcondense, Arrival.unread_condense]

/-- There is no difference but in the arrivals. -/
theorem Alike.eq_with (h : Alike scene other) :
  scene = { other with session := { other.session with arrivals := scene.session.arrivals } }
  := by
  obtain ⟨s, log, -, -⟩ := h
  rfl

/-- Acting on a line has nothing to do with what is to arrive. -/
theorem take_arrivals (s : Session) (arrivals : List Arrival) (log : SharedLog) (line : Bytes)
    (d : Disk) :
  (({ s with arrivals } : Session).take log line).run d
    = let ((outcome, s, log), d) := (s.take log line).run d
      ((outcome, { s with arrivals }, log), d)
  := by
  unfold take
  split
  · split <;> rfl
  · simp only
    cases Request.ofLine line with
    | error cause => rfl
    | ok request =>
      cases request with
      | record record => rfl
      | seek index offset =>
        simp only
        cases log.seek index offset <;> rfl

/-- Sessions that are alike take the same line and stay alike. -/
theorem Alike.receive (h : Alike scene other) (d : Disk) :
  Agree ((receive scene).run d) ((receive other).run d)
  := by
  obtain ⟨s, log, hcondense, hstop⟩ := h
  obtain ⟨result, left, left', hread, hread', hleft, hstop'⟩ :=
    Arrival.readLine_of_condense_eq hcondense hstop
  cases result with
  | error cause =>
    rw [Session.receive, Session.receive, hread, hread']
    exact ⟨_, _, _, d, rfl, rfl, .intro s log hleft hstop'⟩
  | ok line =>
    have htake := take_arrivals s left log line d
    have htake' := take_arrivals s left' log line d
    generalize (s.take log line).run d = taken at htake htake'
    obtain ⟨⟨outcome, s', log'⟩, d'⟩ := taken
    rw [receive_run hread htake, receive_run hread' htake']
    exact ⟨outcome, _, _, d', rfl, rfl, .intro s' log' hleft hstop'⟩

/-- So they take the same lines. -/
theorem Alike.receiveWithin (h : Alike scene other) (fuel : Nat) (d : Disk) :
  Agree ((receiveWithin fuel scene).run d) ((receiveWithin fuel other).run d)
  := by
  induction fuel generalizing scene other d with
  | zero => exact ⟨_, _, _, d, rfl, rfl, h⟩
  | succ fuel ih =>
    by_cases hphase : scene.session.phase = .receiving
    · have hphase' : other.session.phase = .receiving := by rwa [h.eq_with] at hphase
      obtain ⟨outcome, after, after', d', hreceive, hreceive', halike⟩ := h.receive d
      cases outcome with
      | error cause =>
        rw [receiveWithin_of_error hphase hreceive, receiveWithin_of_error hphase' hreceive']
        exact ⟨_, after, after', d', rfl, rfl, halike⟩
      | ok _ =>
        rw [receiveWithin_of_ok hphase hreceive, receiveWithin_of_ok hphase' hreceive']
        apply ih halike
    · have hphase' : other.session.phase ≠ .receiving := by rwa [h.eq_with] at hphase
      rw [receiveWithin_of_not_receiving hphase, receiveWithin_of_not_receiving hphase']
      exact ⟨_, scene, other, d, rfl, rfl, h⟩

/-- The reply has nothing to do with what is to arrive. -/
theorem reply_arrivals (s : Session) (arrivals : List Arrival) (log : SharedLog) (stopped : Bool) :
  reply ⟨{ s with arrivals }, log, stopped⟩
    = let (outcome, s) := s.send (s.content log)
      (outcome, ⟨{ s with arrivals }, log, stopped⟩)
  := by
  show (let (outcome, s) := ({ s with arrivals } : Session).send (s.content log)
    (outcome, (⟨s, log, stopped⟩ : Scene))) = _
  unfold send
  simp only
  cases (s.outlet.write (s.content log)).1 with
  | error cause => rfl
  | ok _ =>
    simp only
    cases (s.outlet.write (s.content log)).2.flush.1 with
    | error cause => rfl
    | ok _ => rfl

/-- The same reply goes out. -/
theorem Alike.reply (h : Alike scene other) :
  ∃ outcome after after', reply scene = (outcome, after) ∧ reply other = (outcome, after')
    ∧ Alike after after'
  := by
  obtain ⟨s, log, hcondense, hstop⟩ := h
  rw [reply_arrivals, reply_arrivals]
  exact ⟨_, _, _, rfl, rfl, .intro _ log hcondense hstop⟩

theorem Alike.finish (h : Alike scene other) :
  Alike { scene with session := scene.session.finish }
    { other with session := other.session.finish }
  := by
  obtain ⟨s, log, hcondense, hstop⟩ := h
  apply Alike.intro s.finish log hcondense hstop

/-- Sessions that are alike come to the same end. -/
theorem Alike.run (h : Alike scene other) (d : Disk) :
  Agree ((run scene).run d) ((run other).run d)
  := by
  have hreceiveAll : Agree ((receiveAll scene).run d) ((receiveAll other).run d) := by
    rw [receiveAll, receiveAll, h.unread_eq]
    apply h.receiveWithin
  obtain ⟨outcome, after, after', d', hreceive, hreceive', halike⟩ := hreceiveAll
  cases outcome with
  | error cause =>
    rw [run_of_error hreceive, run_of_error hreceive']
    exact ⟨_, _, _, d', rfl, rfl, halike.finish⟩
  | ok _ =>
    obtain ⟨outcome, replied, replied', hreply, hreply', hreplied⟩ := halike.reply
    have hsummary : replied.session.finish.summary = replied'.session.finish.summary :=
      congrArg (·.session.summary) hreplied.eq_with
    rw [run_of_received hreceive, run_of_received hreceive', hreply, hreply', hsummary]
    exact ⟨_, _, _, d', rfl, rfl, hreplied.finish⟩

/-- It makes no difference to a session how the bytes that arrive are cut into chunks, nor which
failures that pass are between them: if the arrivals are the same when they are condensed, and the
server does not stop, then the outcome is the same, the same bytes are sent, the log and its
replica become the same, and as many bytes are still to be read. -/
theorem run_of_condense_eq (s : Session) (log : SharedLog) {arrivals others : List Arrival}
    (hcondense : Arrival.condense arrivals = Arrival.condense others)
    (hstop : .stop ∉ arrivals) (d : Disk) :
  let result := (run ⟨{ s with arrivals }, log, false⟩).run d
  let other := (run ⟨{ s with arrivals := others }, log, false⟩).run d
  result.1.1 = other.1.1
    ∧ result.1.2.session.outlet = other.1.2.session.outlet
    ∧ result.1.2.log = other.1.2.log
    ∧ result.2 = other.2
    ∧ Arrival.unread result.1.2.session.arrivals = Arrival.unread other.1.2.session.arrivals
  := by
  intro result other
  obtain ⟨outcome, after, after', d', hresult, hother, halike⟩ :=
    (Alike.intro s log hcondense hstop).run d
  have hsame := halike.eq_with
  replace hresult : result = ((outcome, after), d') := hresult
  replace hother : other = ((outcome, after'), d') := hother
  rw [hresult, hother]
  exact ⟨rfl, congrArg (·.session.outlet) hsame, congrArg (·.log) hsame, rfl, halike.unread_eq⟩

/-- A client asks for the second byte of the record in the log and appends a record, first in
pieces with failures between them and then in one piece, and the same is answered. The failure
behind the record is never met. -/
theorem run_in_pieces :
  let log : SharedLog := { window := ((Window.ofCapacity 2).append [97, newline]).1 }
  let pieces : List Arrival :=
    [.bytes Request.seekWord, .failure (.plain .timedOut), .bytes [48, 44, 49], .bytes [],
      .failure (.system 4), .bytes [newline, 98], .failure (.plain .wouldBlock),
      .bytes [newline, 99], .failure (.plain .connectionReset)]
  let whole : List Arrival :=
    [.bytes (Request.seekWord ++ [48, 44, 49, newline, 98, newline, 99]),
      .failure (.plain .connectionReset), .failure (.plain .interrupted)]
  let result := (run ⟨{ arrivals := pieces }, log, false⟩).run ⟨⟨[]⟩, [], []⟩
  let other := (run ⟨{ arrivals := whole }, log, false⟩).run ⟨⟨[]⟩, [], []⟩
  (Arrival.condense pieces = Arrival.condense whole ∧ .stop ∉ pieces)
    ∧ (result.1.1 = .ok ⟨1, 1, 3⟩ ∧ other.1.1 = .ok ⟨1, 1, 3⟩)
    ∧ result.1.2.session.outlet.accepted = [newline, 98, newline]
    ∧ result.1.2.log = log.committing (some [98, newline])
    ∧ Arrival.unread result.1.2.session.arrivals = 1
  := by
  intro log pieces whole result other
  have hcondense : Arrival.condense pieces = Arrival.condense whole := by
    simp only [pieces, whole]
    decide
  have hstop : .stop ∉ pieces := by
    simp only [pieces]
    decide
  have hreceive : ∃ s : Session,
      (receiveAll ⟨{ arrivals := whole }, log, false⟩).run ⟨⟨[]⟩, [], []⟩
        = ((.ok (), ⟨s, log.committing (some [98, newline]), false⟩), ⟨⟨[]⟩, [], []⟩)
      ∧ s.outlet = {} ∧ s.place = some 1 ∧ s.summary = ⟨1, 1, 0⟩ ∧ Arrival.unread s.arrivals = 1
    := by
    simp only [whole, log]
    exact ⟨_, rfl, rfl, rfl, rfl, rfl⟩
  obtain ⟨s, hreceive, houtlet, hplace, hsummary, hunread⟩ := hreceive
  have hcontent : (log.committing (some [98, newline])).readFrom 1 = [newline, 98, newline] := by
    simp only [log]
    rfl
  have hother := run_of_ok hreceive (reply_of_willing (houtlet ▸ Outlet.willing_default))
  simp only [content, hplace, hcontent, hsummary, houtlet] at hother
  replace hother : other = _ := hother
  obtain ⟨houtcome, hsent, hlog, -, hleft⟩ :=
    run_of_condense_eq { arrivals := pieces } log hcondense hstop ⟨⟨[]⟩, [], []⟩
  replace houtcome : result.1.1 = other.1.1 := houtcome
  replace hsent : result.1.2.session.outlet = other.1.2.session.outlet := hsent
  replace hlog : result.1.2.log = other.1.2.log := hlog
  replace hleft : Arrival.unread result.1.2.session.arrivals
      = Arrival.unread other.1.2.session.arrivals := hleft
  rw [houtcome, hsent, hlog, hleft, hother]
  exact ⟨⟨hcondense, hstop⟩, ⟨rfl, rfl⟩, rfl, rfl, hunread⟩

end Session

end BoundedLog
