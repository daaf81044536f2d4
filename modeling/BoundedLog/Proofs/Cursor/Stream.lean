import BoundedLog.Proofs.Cursor.Reading
import BoundedLog.Proofs.Writers

/-!
# A reader among writers

All bytes that were ever committed to a log make up a stream. The log holds the end of it; the
beginning is what was evicted. A cursor counts from the first byte that the log holds, so it stands
in the stream at its position behind all that was evicted. Its own reads move it over what they hand
out, and every eviction moves it over what is evicted, while records that are committed go to the end
of the stream and move nothing. As long as nothing is evicted, what a reader reads is therefore one
piece of the stream, however many writers are at work meanwhile.
-/

namespace BoundedLog

variable {Writer : Type}

/-- A desk, and the cursor of a reader of its log. -/
structure ReadingDesk (Writer : Type) extends Desk Writer where
  cursor : Cursor := {}

/-- What is done at a desk with a reader. -/
inductive Act (Writer : Type)
  /-- A writer passes bytes. -/
  | call (call : Call Writer)
  /-- The reader passes bytes, which are added to the draft of its cursor. -/
  | write (bytes : Bytes)
  /-- The reader reads. -/
  | read (limit : Nat)

/-- What an act came to: the record that the log then shows to be committed, the record that it shows
to be evicted, and what was read. -/
structure Trace where
  committed? : Option Record := none
  evicted? : Option Record := none
  read : Bytes := []
  deriving DecidableEq, Repr

/-! ### The stream -/

namespace Trace

/-- The bytes committed by acts, in order. -/
def committed (traces : List Trace) : Bytes := traces.flatMap (·.committed?.getD [])

/-- The bytes evicted by acts, in order. -/
def evicted (traces : List Trace) : Bytes := traces.flatMap (·.evicted?.getD [])

/-- The bytes read by acts, in order. -/
def gathered (traces : List Trace) : Bytes := traces.flatMap (·.read)

theorem committed_append (traces others : List Trace) :
  committed (traces ++ others) = committed traces ++ committed others
  := List.flatMap_append

theorem evicted_append (traces others : List Trace) :
  evicted (traces ++ others) = evicted traces ++ evicted others
  := List.flatMap_append

theorem gathered_append (traces others : List Trace) :
  gathered (traces ++ others) = gathered traces ++ gathered others
  := List.flatMap_append

end Trace

/-- Two pieces that follow one another are one piece. -/
theorem append_prefix_of_prefix_drop {front piece whole : Bytes} (hfront : front <+: whole)
    (hpiece : piece <+: whole.drop front.length) :
  front ++ piece <+: whole
  := by
  rw [← List.prefix_iff_eq_append.mp hfront, List.prefix_append_right_inj]
  exact hpiece

namespace ReadingDesk

variable {r r' r'' : ReadingDesk Writer} {traces others : List Trace}

/-- How a desk becomes another one: no byte is lost between the stream and the log, the cursor moves
by what was read, and what was read is one piece if nothing was evicted. -/
structure Leads (r : ReadingDesk Writer) (traces : List Trace) (r' : ReadingDesk Writer) : Prop where
  reachable : r'.log.window.Reachable
  stream_eq : Trace.evicted traces ++ r'.log.snapshot = r.log.snapshot ++ Trace.committed traces
  position_eq : r'.cursor.position = r.cursor.position + (Trace.gathered traces).length
  piece : Trace.evicted traces = [] →
    Trace.gathered traces <+: (r.log.snapshot ++ Trace.committed traces).drop r.cursor.position

theorem Leads.refl (h : r.log.window.Reachable) :
  r.Leads [] r
  where
  reachable := h
  stream_eq := (List.append_nil _).symm
  position_eq := rfl
  piece _ := List.nil_prefix

theorem Leads.trans (h : r.Leads traces r') (h' : r'.Leads others r'') :
  r.Leads (traces ++ others) r''
  := by
  have hstream : (r.log.snapshot ++ Trace.committed traces) ++ Trace.committed others
      = Trace.evicted traces ++ (r'.log.snapshot ++ Trace.committed others) := by
    rw [← h.stream_eq, List.append_assoc]
  constructor
  · apply h'.reachable
  · rw [Trace.evicted_append, Trace.committed_append, List.append_assoc, h'.stream_eq,
      ← List.append_assoc r.log.snapshot, hstream]
  · rw [h'.position_eq, h.position_eq, Trace.gathered_append, List.length_append, Nat.add_assoc]
  · intro hevicted
    rw [Trace.evicted_append, List.append_eq_nil_iff] at hevicted
    rw [Trace.gathered_append, Trace.committed_append, ← List.append_assoc]
    apply append_prefix_of_prefix_drop
    · apply (h.piece hevicted.1).trans
      apply List.IsPrefix.drop
      apply List.prefix_append
    · have hpiece := h'.piece hevicted.2
      rw [h.position_eq] at hpiece
      rw [List.drop_drop, hstream, hevicted.1, List.nil_append]
      exact hpiece

/-- From an empty log on, all that was committed was evicted or is still there. -/
theorem Leads.committed_eq (h : r.Leads traces r') (hempty : r.log.snapshot = []) :
  Trace.committed traces = Trace.evicted traces ++ r'.log.snapshot
  := by
  rw [h.stream_eq, hempty, List.nil_append]

/-- What a position leaves of the log is what its place leaves of the stream. -/
theorem Leads.drop_committed (h : r.Leads traces r') (hempty : r.log.snapshot = [])
    (position : Nat) :
  (Trace.committed traces).drop ((Trace.evicted traces).length + position)
    = r'.log.readFrom position
  := by
  rw [h.committed_eq hempty, ← List.drop_drop, List.drop_left, SharedLog.readFrom]

theorem Leads.length_committed (h : r.Leads traces r') (hempty : r.log.snapshot = []) :
  (Trace.committed traces).length = (Trace.evicted traces).length + r'.log.window.size
  := by
  have hsize : r'.log.snapshot.length = r'.log.window.size :=
    SharedLog.length_readFrom h.reachable 0
  rw [h.committed_eq hempty, List.length_append, hsize]

/-- What is read while nothing is evicted is one piece of the stream, from the place of the cursor
on. -/
theorem Leads.piece_of_stream (h : r.Leads traces r') (hempty : r.log.snapshot = [])
    (h' : r'.Leads others r'') (hevicted : Trace.evicted others = []) :
  Trace.gathered others <+: (Trace.committed traces ++ Trace.committed others).drop
    ((Trace.evicted traces).length + r'.cursor.position)
  := by
  rw [h.committed_eq hempty, List.append_assoc, ← List.drop_drop, List.drop_left]
  apply h'.piece hevicted

/-! ### One act -/

variable [DecidableEq Writer]

/-- One act. -/
def act (r : ReadingDesk Writer) : Act Writer → StateM Disk (Trace × ReadingDesk Writer)
  | .call c => do
    let (receipt, desk) ← r.toDesk.call c
    return ({ committed? := receipt.record?, evicted? := r.log.evicted? desk.log },
      { r with toDesk := desk })
  | .write bytes => do
    let (log, cursor) ← r.cursor.write r.log bytes
    return ({ committed? := r.log.committed? log, evicted? := r.log.evicted? log },
      { r with log, cursor })
  | .read limit => do
    let (read, cursor) := r.cursor.read r.log limit
    return ({ read }, { r with cursor })

/-- An act commits a record to the log, or none, while the cursor stays where it is; or it is a read,
which leaves the log as it is. -/
theorem act_cases (h : r.log.window.Reachable) (a : Act Writer) (d : Disk) :
  let after := ((r.act a).run d).1
  (∃ record?, after.2.log = r.log.committing record?
    ∧ after.2.cursor.position = r.cursor.position
    ∧ after.1 = { committed? := record?, evicted? := r.log.evicted? (r.log.committing record?) })
  ∨ ∃ limit, after.2.log = r.log
    ∧ after.2.cursor = (r.cursor.read r.log limit).2
    ∧ after.1 = { read := (r.cursor.read r.log limit).1 }
  := by
  intro after
  cases a with
  | call c =>
    have hcall : ∀ result, ((r.toDesk.call c).run d).1 = result → after
        = ({ committed? := result.1.record?, evicted? := r.log.evicted? result.2.log },
          { r with toDesk := result.2 }) := by
      rintro _ rfl
      rfl
    left
    rw [hcall _ (Desk.call_fst h.holds c d)]
    exact ⟨_, rfl, rfl, rfl⟩
  | write bytes =>
    have hwrite : ∀ result, ((r.log.write r.cursor.draft bytes).run d).1 = result → after
        = ({ committed? := r.log.committed? result.1, evicted? := r.log.evicted? result.1 },
          { r with log := result.1, cursor := { r.cursor with draft := result.2 } }) := by
      rintro _ rfl
      rfl
    left
    rw [hwrite _ (r.log.write_fst _ bytes d), SharedLog.committed?_committing h.holds]
    exact ⟨_, rfl, rfl, rfl⟩
  | read limit =>
    right
    exact ⟨limit, rfl, rfl, rfl⟩

theorem leads_act (h : r.log.window.Reachable) (a : Act Writer) (d : Disk) :
  r.Leads [((r.act a).run d).1.1] ((r.act a).run d).1.2
  := by
  rcases act_cases h a d with ⟨record?, hlog, hposition, htrace⟩ | ⟨limit, hlog, hcursor, htrace⟩
  · rw [htrace]
    constructor
    · rw [hlog]
      apply SharedLog.reachable_committing h
    · rw [hlog, Trace.evicted, List.flatMap_singleton, Trace.committed, List.flatMap_singleton]
      apply SharedLog.evicted?_append_snapshot h.holds
    · apply hposition
    · intro _
      apply List.nil_prefix
  · rw [htrace]
    constructor
    · rw [hlog]
      exact h
    · rw [hlog]
      exact (List.append_nil _).symm
    · rw [hcursor, Trace.gathered, List.flatMap_singleton]
      rfl
    · intro _
      rw [Trace.gathered, List.flatMap_singleton, Trace.committed, List.flatMap_singleton,
        Option.getD_none, List.append_nil]
      apply SharedLog.read_prefix_readFrom h

/-! ### Any number of acts -/

/-- Acts in the order in which they take place. -/
def run (r : ReadingDesk Writer) :
    List (Act Writer) → StateM Disk (List Trace × ReadingDesk Writer)
  | [] => return ([], r)
  | a :: acts => do
    let (trace, r) ← r.act a
    let (traces, r) ← r.run acts
    return (trace :: traces, r)

theorem leads_run (h : r.log.window.Reachable) (acts : List (Act Writer)) (d : Disk) :
  r.Leads ((r.run acts).run d).1.1 ((r.run acts).run d).1.2
  := by
  induction acts generalizing r d with
  | nil => exact .refl h
  | cons a acts ih =>
    have hfirst := leads_act h a d
    exact hfirst.trans (ih hfirst.reachable ((r.act a).run d).2)

theorem run_cons (r : ReadingDesk Writer) (a : Act Writer) (acts : List (Act Writer)) (d : Disk) :
  let first := (r.act a).run d
  let others := (first.1.2.run acts).run first.2
  (r.run (a :: acts)).run d = ((first.1.1 :: others.1.1, others.1.2), others.2)
  := rfl

theorem run_take (r : ReadingDesk Writer) (acts : List (Act Writer)) (n : Nat) (d : Disk) :
  ((r.run (acts.take n)).run d).1.1 = ((r.run acts).run d).1.1.take n
  := by
  induction acts generalizing r n d with
  | nil =>
    rw [List.take_nil]
    exact List.take_nil.symm
  | cons a acts ih =>
    cases n with
    | zero => rfl
    | succ n => rw [List.take_succ_cons, run_cons, run_cons, List.take_succ_cons, ih]

/-- What one of the acts comes to is what it comes to at the desk behind the earlier ones. -/
theorem getElem?_run (r : ReadingDesk Writer) (acts : List (Act Writer)) (n : Nat) (d : Disk) :
  let before := (r.run (acts.take n)).run d
  ((r.run acts).run d).1.1[n]? = acts[n]?.map fun a => ((before.1.2.act a).run before.2).1.1
  := by
  induction acts generalizing r n d with
  | nil => rfl
  | cons a acts ih =>
    cases n with
    | zero => rfl
    | succ n =>
      rw [run_cons, List.getElem?_cons_succ, ih, List.getElem?_cons_succ, List.take_succ_cons,
        run_cons]

/-- From one point of a run to a later one. -/
theorem leads_between (h : r.log.window.Reachable) (acts : List (Act Writer)) {m n : Nat}
    (hle : m ≤ n) (d : Disk) :
  ((r.run (acts.take m)).run d).1.2.Leads ((((r.run acts).run d).1.1.take n).drop m)
    ((r.run (acts.take n)).run d).1.2
  := by
  induction acts generalizing r m n d with
  | nil =>
    rw [List.take_nil, List.take_nil, ← run_take, List.take_nil]
    show r.Leads (List.drop m []) r
    rw [List.drop_nil]
    exact .refl h
  | cons a acts ih =>
    cases m with
    | zero =>
      rw [List.drop_zero, ← run_take]
      apply leads_run h
    | succ m =>
      obtain ⟨n, rfl⟩ := Nat.exists_eq_add_one_of_ne_zero (Nat.ne_zero_of_lt hle)
      rw [List.take_succ_cons, run_cons, List.take_succ_cons, run_cons, run_cons]
      apply ih (leads_act h a d).reachable (Nat.le_of_succ_le_succ hle)

/-- A log shows its stream without what was evicted, and its readers read from the stream. At every
point the log shows the bytes committed so far without as many as were evicted, and a read hands out
the stream from the place of the cursor on, which is its position behind all that was evicted; it
hands out nothing exactly if the stream ends there, or if it is not allowed a byte. From one point to
a later one the cursor moves by what was read and by what was evicted. If nothing was evicted
meanwhile, all that was read meanwhile is one piece of the stream. -/
theorem run_follows_stream (capacity : Nat) (replica : Option Replica) (drafts : Writer → Draft)
    (cursor : Cursor) (acts : List (Act Writer)) (d : Disk) :
  let start : ReadingDesk Writer :=
    { log := { window := .ofCapacity capacity, replica }, drafts, cursor }
  let traces := ((start.run acts).run d).1.1
  let desk (n : Nat) := ((start.run (acts.take n)).run d).1.2
  let stream (n : Nat) := Trace.committed (traces.take n)
  let gone (n : Nat) := (Trace.evicted (traces.take n)).length
  let place (n : Nat) := gone n + (desk n).cursor.position
  (∀ n, (desk n).log.snapshot = (stream n).drop (gone n))
  ∧ (∀ n limit, acts[n]? = some (.read limit) →
      ∃ bytes, traces[n]? = some { read := bytes }
        ∧ bytes <+: (stream n).drop (place n)
        ∧ bytes.length ≤ limit
        ∧ (bytes = [] ↔ limit = 0 ∨ (stream n).length ≤ place n))
  ∧ (∀ m n, m ≤ n →
      let between := (traces.take n).drop m
      stream n = stream m ++ Trace.committed between
        ∧ place n = place m + (Trace.gathered between).length + (Trace.evicted between).length
        ∧ (Trace.evicted between = [] → Trace.gathered between <+: (stream n).drop (place m)))
  := by
  intro start traces desk stream gone place
  have hstart : start.log.window.Reachable := .ofCapacity capacity
  have hempty : start.log.snapshot = [] := (Window.holds_ofCapacity capacity).content_eq
  have hpast : ∀ n, start.Leads (traces.take n) (desk n) := by
    intro n
    rw [← run_take]
    apply leads_run hstart
  refine ⟨?_, ?_, ?_⟩
  · intro n
    apply ((hpast n).drop_committed hempty 0).symm
  · intro n limit hact
    have hreachable := (hpast n).reachable
    use ((desk n).cursor.read (desk n).log limit).1
    refine ⟨?_, ?_, SharedLog.length_read_le _ _ _, ?_⟩
    · show ((start.run acts).run d).1.1[n]? = _
      rw [getElem?_run, hact]
      rfl
    · rw [(hpast n).drop_committed hempty]
      apply SharedLog.read_prefix_readFrom hreachable
    · rw [(hpast n).length_committed hempty, Nat.add_le_add_iff_left]
      apply SharedLog.read_eq_nil_iff hreachable
  · intro m n hle between
    have hleads : (desk m).Leads between (desk n) := leads_between hstart acts hle d
    have hsplit : traces.take n = traces.take m ++ between := by
      have htake := List.take_append_drop m (traces.take n)
      rw [List.take_take, Nat.min_eq_left hle] at htake
      exact htake.symm
    have hgrown : stream n = stream m ++ Trace.committed between := by
      show Trace.committed (traces.take n) = _
      rw [hsplit, Trace.committed_append]
    refine ⟨hgrown, ?_, ?_⟩
    · have hgone : gone n = gone m + (Trace.evicted between).length := by
        show (Trace.evicted (traces.take n)).length = _
        rw [hsplit, Trace.evicted_append, List.length_append]
      have hposition := hleads.position_eq
      show gone n + (desk n).cursor.position = gone m + (desk m).cursor.position + _ + _
      omega
    · intro hevicted
      rw [hgrown]
      apply (hpast m).piece_of_stream hempty hleads hevicted

/-- The two reads before the eviction make up one piece. The eviction of three bytes takes the cursor
from the fourth byte of the stream to the seventh. -/
theorem run_follows_stream_over_eviction :
  let acts : List (Act Unit) :=
    [.call ⟨(), [97, 98, newline]⟩, .read 2, .call ⟨(), [99, newline]⟩, .read 5,
      .call ⟨(), [100, newline]⟩, .read 5]
  let traces := ((run { log := .ofCapacity 2 } acts).run { tree := .empty }).1.1
  let stream := Trace.committed traces
  stream = [97, 98, newline, 99, newline, 100, newline]
    ∧ traces.map (·.read) = [[], [97, 98], [], [newline], [], [newline]]
    ∧ Trace.gathered ((traces.take 4).drop 1) <+: Trace.committed (traces.take 4)
    ∧ [newline] <+: stream.drop 6
  := by
  intro acts traces stream
  obtain ⟨-, hread, hbetween⟩ :=
    run_follows_stream 2 none (fun _ => {}) {} acts { tree := .empty }
  obtain ⟨-, -, hpiece⟩ := hbetween 1 4 (by decide)
  obtain ⟨bytes, htrace, hlast, -⟩ := hread 5 5 rfl
  have hstream : stream = [97, 98, newline, 99, newline, 100, newline] := by
    decide
  have hreads : traces.map (·.read) = [[], [97, 98], [], [newline], [], [newline]] := by
    decide
  have hlastTrace : traces[5]? = some { read := [newline] } := by
    decide
  obtain ⟨-, -, rfl⟩ := Trace.mk.inj (Option.some.inj (htrace.symm.trans hlastTrace))
  refine ⟨hstream, hreads, hpiece (by decide), ?_⟩
  exact hlast

end ReadingDesk

end BoundedLog
