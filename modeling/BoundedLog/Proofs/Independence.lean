import BoundedLog.Proofs.Replica

/-!
# The log does not depend on its replica

Two logs, one with a replica and one without, are asked for the same, in the same order. Whatever
luck the disk has and whatever others do to it meanwhile, both give the same answers and hold the
same records, and their writers keep the same drafts. A record is committed and its draft is empty
before the replica is brought up to date, and nobody is told how that went.
-/

namespace BoundedLog

/-- What a reader asks for. -/
inductive Question
  | read (position limit : Nat)
  | seek (index offset : Nat)
  | snapshot
  | readFrom (position : Nat)
  | count
  | size

/-- What a reader or a writer is told. -/
inductive Answer
  | number (n : Nat)
  | bytes (bytes : Bytes)
  | place (place : Except RangeFault Nat)

/-- What is asked for, and what others do to the disk before it. -/
structure Demand (Writer : Type) where
  meanwhile : Disk → Disk := id
  /-- A writer passes bytes, or a reader asks. -/
  operation : Call Writer ⊕ Question

namespace SharedLog

variable {log other : SharedLog}

/-- What the log tells a reader. -/
def answer (log : SharedLog) : Question → Answer
  | .read position limit => .bytes (log.read position limit)
  | .seek index offset => .place (log.seek index offset)
  | .snapshot => .bytes log.snapshot
  | .readFrom position => .bytes (log.readFrom position)
  | .count => .number log.stats.count
  | .size => .number log.stats.size

/-- What a reader is told has to do with the records alone. -/
theorem answer_congr (h : log.window = other.window) (question : Question) :
  log.answer question = other.answer question
  := by
  cases question with
  | read position limit => rw [answer, read, h, answer, read]
  | seek index offset => rw [answer, seek, h, answer, seek]
  | snapshot => rw [answer, snapshot, h, answer, snapshot]
  | readFrom position => rw [answer, readFrom, snapshot, h, answer, readFrom, snapshot]
  | count | size => rw [answer, stats, h, answer, stats]

/-- Logs with the same records hold the same records behind another one. -/
theorem window_committing (h : log.window = other.window) (record? : Option Record) :
  (log.committing record?).window = (other.committing record?).window
  := by
  cases record? with
  | none => exact h
  | some record => rw [committing, h, committing]

/-- A record leaves the replica where it is. -/
theorem replica_committing (log : SharedLog) (record? : Option Record) :
  (log.committing record?).replica = log.replica
  := by
  cases record? with
  | none => rfl
  | some record => rfl

end SharedLog

namespace Desk

variable {Writer : Type} [DecidableEq Writer] {w v : Desk Writer}

/-- One operation. A writer is told how many of its bytes are accepted. -/
def perform (w : Desk Writer) : Call Writer ⊕ Question → StateM Disk (Answer × Desk Writer)
  | .inl call => do
    let (receipt, w) ← w.call call
    return (.number receipt.accepted, w)
  | .inr question => return (w.log.answer question, w)

/-- Operations in the order in which they take place. -/
def performAll (w : Desk Writer) : List (Demand Writer) → StateM Disk (List Answer × Desk Writer)
  | [] => return ([], w)
  | demand :: demands => do
    modify demand.meanwhile
    let (answer, w) ← w.perform demand.operation
    let (answers, w) ← w.performAll demands
    return (answer :: answers, w)

/-- The same records and the same drafts, with or without a replica. -/
structure Alike (w v : Desk Writer) : Prop where
  window_eq : w.log.window = v.log.window
  drafts_eq : w.drafts = v.drafts

/-! ### One operation -/

/-- What a writer is told, and what its bytes do to the log and to its draft, has nothing to do with
the disk. -/
theorem perform_call_fst (w : Desk Writer) (c : Call Writer) (d : Disk) :
  ((w.perform (.inl c)).run d).1
    = (.number c.bytes.length,
        { log := w.log.committing ((w.drafts c.writer).add c.bytes).1
          drafts := Function.update w.drafts c.writer ((w.drafts c.writer).add c.bytes).2 })
  := by
  have hperform : ∀ result, ((w.log.accept (w.drafts c.writer) c.bytes).run d).1 = result →
      ((w.perform (.inl c)).run d).1 = (.number result.1,
        { log := result.2.1, drafts := Function.update w.drafts c.writer result.2.2 }) := by
    rintro _ rfl
    rfl
  rw [hperform _ (w.log.accept_fst _ _ d)]

/-- An operation leaves the replica where it is. -/
theorem replica_perform (w : Desk Writer) (operation : Call Writer ⊕ Question) (d : Disk) :
  ((w.perform operation).run d).1.2.log.replica = w.log.replica
  := by
  cases operation with
  | inl c =>
    rw [perform_call_fst]
    apply SharedLog.replica_committing
  | inr question => rfl

/-- Desks that are alike answer an operation alike, and stay alike. -/
theorem Alike.perform (h : Alike w v) (operation : Call Writer ⊕ Question) (d e : Disk) :
  ((w.perform operation).run d).1.1 = ((v.perform operation).run e).1.1
    ∧ Alike ((w.perform operation).run d).1.2 ((v.perform operation).run e).1.2
  := by
  cases operation with
  | inl c =>
    rw [perform_call_fst, perform_call_fst, h.drafts_eq]
    exact ⟨rfl, SharedLog.window_committing h.window_eq _, rfl⟩
  | inr question => exact ⟨SharedLog.answer_congr h.window_eq question, h⟩

/-- If the replica could not be brought up to date, the writer is told all the same that all its
bytes are accepted, the record is committed, and the draft is empty. -/
theorem perform_call_of_failure {replica : Replica} (hreplica : w.log.replica = some replica)
    {c : Call Writer} (hbytes : c.bytes ≠ [])
    (hend : Bytes.endsLine ((w.drafts c.writer).bytes ++ c.bytes) = true) {cause : ResourceFault}
    {d d' : Disk}
    (hupdate : (replica.update
        (w.log.committing (some ((w.drafts c.writer).bytes ++ c.bytes))).snapshot).run d
      = (.error cause, d')) :
  (w.perform (.inl c)).run d
    = ((.number c.bytes.length,
        { log := w.log.committing (some ((w.drafts c.writer).bytes ++ c.bytes))
          drafts := Function.update w.drafts c.writer {} }), d')
  := by
  have hadd : (w.drafts c.writer).add c.bytes
      = (some ((w.drafts c.writer).bytes ++ c.bytes), {}) := by
    rw [Draft.add, List.isEmpty_eq_false_iff.mpr hbytes, hend]
    rfl
  have hfst := w.perform_call_fst c d
  have hsnd : ((w.perform (.inl c)).run d).2 = _ :=
    SharedLog.accept_snd hreplica (w.drafts c.writer) c.bytes d
  rw [hadd] at hfst hsnd
  dsimp only at hsnd
  rw [hupdate] at hsnd
  exact Prod.ext hfst hsnd

/-! ### Any operations -/

theorem performAll_cons (w : Desk Writer) (demand : Demand Writer) (demands : List (Demand Writer))
    (d : Disk) :
  let first := (w.perform demand.operation).run (demand.meanwhile d)
  let others := (first.1.2.performAll demands).run first.2
  (w.performAll (demand :: demands)).run d = ((first.1.1 :: others.1.1, others.1.2), others.2)
  := rfl

theorem replica_performAll (w : Desk Writer) (demands : List (Demand Writer)) (d : Disk) :
  ((w.performAll demands).run d).1.2.log.replica = w.log.replica
  := by
  induction demands generalizing w d with
  | nil => rfl
  | cons demand demands ih => rw [performAll_cons, ih, replica_perform]

/-- Desks that are alike answer alike: by induction on the operations, while the disks go ways of
their own. -/
theorem Alike.performAll (h : Alike w v) (demands : List (Demand Writer)) (d e : Disk) :
  ((w.performAll demands).run d).1.1 = ((v.performAll demands).run e).1.1
    ∧ Alike ((w.performAll demands).run d).1.2 ((v.performAll demands).run e).1.2
  := by
  induction demands generalizing w v d e with
  | nil => exact ⟨rfl, h⟩
  | cons demand demands ih =>
    obtain ⟨hanswer, hafter⟩ :=
      h.perform demand.operation (demand.meanwhile d) (demand.meanwhile e)
    obtain ⟨hanswers, hlast⟩ := ih hafter
      ((w.perform demand.operation).run (demand.meanwhile d)).2
      ((v.perform demand.operation).run (demand.meanwhile e)).2
    rw [performAll_cons, performAll_cons]
    exact ⟨List.cons_eq_cons.mpr ⟨hanswer, hanswers⟩, hlast⟩

/-- A replica makes no difference to a log, whatever luck the disks have and whatever others do to
them: readers and writers are given the same answers, the drafts are the same, and the log holds the
same records and has counted the same. In particular, when a record is complete and the replica
cannot be brought up to date, the writer is told that all its bytes are accepted, the record is
committed, and the draft is empty. -/
theorem performAll_with_replica (capacity : Nat) (replica : Replica)
    (demands : List (Demand Writer)) (d e : Disk) :
  let replicated := (performAll { log := .withReplica capacity replica } demands).run d
  let plain := (performAll { log := .ofCapacity capacity } demands).run e
  let w := replicated.1.2
  let v := plain.1.2
  replicated.1.1 = plain.1.1
  ∧ w.drafts = v.drafts
  ∧ w.log.window = v.log.window
  ∧ w.log.stats = { v.log.stats with replicated := true }
  ∧ (w.log.replica = some replica ∧ v.log.replica = none)
  ∧ ∀ (c : Call Writer) (cause : ResourceFault) (before after : Disk),
      let record := (w.drafts c.writer).bytes ++ c.bytes
      let behind := w.log.committing (some record)
      c.bytes ≠ [] → record.endsLine →
      (replica.update behind.snapshot).run before = (.error cause, after) →
      (w.perform (.inl c)).run before
        = ((.number c.bytes.length,
            { log := behind, drafts := Function.update w.drafts c.writer {} }), after)
  := by
  intro replicated plain w v
  have hstart : @Alike Writer { log := .withReplica capacity replica }
      { log := .ofCapacity capacity } := ⟨rfl, rfl⟩
  obtain ⟨hanswers, hwindow, hdrafts⟩ := hstart.performAll demands d e
  have hreplica : w.log.replica = some replica :=
    replica_performAll { log := .withReplica capacity replica } demands d
  have hnone : v.log.replica = none :=
    replica_performAll { log := .ofCapacity capacity } demands e
  replace hwindow : w.log.window = v.log.window := hwindow
  refine ⟨hanswers, hdrafts, hwindow, ?_, ⟨hreplica, hnone⟩, ?_⟩
  · rw [SharedLog.stats, SharedLog.stats, hwindow, hreplica]
    rfl
  · intro c cause before after record behind hbytes hend hupdate
    exact perform_call_of_failure hreplica hbytes hend hupdate

/-- The disk is full when a record is complete. The update of the replica fails, but the writer is
not told, and readers see the record. -/
theorem performAll_on_full_disk :
  let replica : Replica := ⟨⟨"log"⟩⟩
  let full : Disk := { tree := .empty, luck := [.failing (.system 28)] }
  let demands : List (Demand Unit) :=
    [{ operation := .inl ⟨(), [97]⟩ }, { operation := .inr .snapshot }]
  let before := (performAll { log := .withReplica 1 replica } demands).run full
  let result := (before.1.2.perform (.inl ⟨(), [98, newline]⟩)).run full
  before.1.1 = [.number 1, .bytes []]
    ∧ ∃ cause, (replica.update [97, 98, newline]).run full = (.error cause, result.2)
    ∧ result.1.1 = .number 2
    ∧ result.1.2.drafts () = {}
    ∧ result.1.2.log.window.toList = [[97, 98, newline]]
  := by
  intro replica full demands before result
  obtain ⟨cause, after, hupdate⟩ : ∃ cause after,
      (replica.update [97, 98, newline]).run full = (.error cause, after) := by
    simp only [replica, full]
    exact ⟨_, _, rfl⟩
  obtain ⟨hanswers, hdrafts, hwindow, -, -, hfails⟩ :=
    performAll_with_replica 1 replica demands full full
  have hpending : (before.1.2.drafts ()).bytes = [97] :=
    congrArg Draft.bytes (congrFun hdrafts ())
  have hcommitted : (before.1.2.log.committing (some [97, 98, newline])).window
      = ((Window.ofCapacity 1).append [97, 98, newline]).1 :=
    SharedLog.window_committing hwindow (some [97, 98, newline])
  have hsnapshot : (before.1.2.log.committing (some [97, 98, newline])).snapshot
      = [97, 98, newline] :=
    congrArg Window.content hcommitted
  specialize hfails ⟨(), [98, newline]⟩ cause full after
  dsimp only at hfails
  rw [hpending, List.singleton_append, hsnapshot] at hfails
  have hresult : result = _ := hfails (List.cons_ne_nil _ _) rfl hupdate
  rw [hresult]
  exact ⟨hanswers, cause, hupdate, rfl, rfl, congrArg Window.toList hcommitted⟩

end Desk

end BoundedLog
