import BoundedLog.Proofs.SharedLog
import BoundedLog.Proofs.Window.History
import Mathlib.Logic.Function.Basic

/-!
# Writers side by side

Any number of writers, each with a draft of its own, write to one log, and their calls take place
one after the other in some order. Whatever the order, each writer commits the records and keeps
the draft that it would if it were alone; the log shows the last of all records committed, in the
order of the calls.
-/

namespace BoundedLog

/-- A call of a writer. -/
structure Call (Writer : Type) where
  writer : Writer
  bytes : Bytes

/-- What a call came to: how many bytes were accepted, and the record that the log then shows to
be committed, if there is one. -/
structure Receipt (Writer : Type) where
  writer : Writer
  accepted : Nat
  record? : Option Record

/-- A log and the drafts of its writers. -/
structure Desk (Writer : Type) where
  log : SharedLog
  drafts : Writer → Draft := fun _ => {}

variable {Writer : Type}

/-- The records committed by calls, in the order of the calls. -/
def Receipt.records (receipts : List (Receipt Writer)) : List Record :=
  receipts.filterMap (·.record?)

theorem Receipt.records_cons (receipt : Receipt Writer) (receipts : List (Receipt Writer)) :
  records (receipt :: receipts) = receipt.record?.toList ++ records receipts
  := by
  rw [records, List.filterMap_cons]
  split
  · next h =>
    rw [h]
    rfl
  · next h =>
    rw [h]
    rfl

namespace Desk

variable [DecidableEq Writer]

/-- A call of a writer, with its own draft. -/
def call (w : Desk Writer) (c : Call Writer) : StateM Disk (Receipt Writer × Desk Writer) := do
  let (accepted, log, draft) ← w.log.accept (w.drafts c.writer) c.bytes
  return (⟨c.writer, accepted, w.log.committed? log⟩,
    { log, drafts := Function.update w.drafts c.writer draft })

/-- Calls in the order in which they take place. -/
def run (w : Desk Writer) : List (Call Writer) → StateM Disk (List (Receipt Writer) × Desk Writer)
  | [] => return ([], w)
  | c :: calls => do
    let (receipt, w) ← w.call c
    let (receipts, w) ← w.run calls
    return (receipt :: receipts, w)

/-! ### The drafts alone -/

/-- The receipts of calls and the drafts behind them, by the drafts alone. -/
def tally (drafts : Writer → Draft) :
    List (Call Writer) → List (Receipt Writer) × (Writer → Draft)
  | [] => ([], drafts)
  | c :: calls =>
    let added := (drafts c.writer).add c.bytes
    let rest := tally (Function.update drafts c.writer added.2) calls
    (⟨c.writer, c.bytes.length, added.1⟩ :: rest.1, rest.2)

theorem map_writer_tally (drafts : Writer → Draft) (calls : List (Call Writer)) :
  (tally drafts calls).1.map (·.writer) = calls.map (·.writer)
  := by
  induction calls generalizing drafts with
  | nil => rfl
  | cons c calls ih => rw [tally, List.map_cons, ih, List.map_cons]

theorem map_accepted_tally (drafts : Writer → Draft) (calls : List (Call Writer)) :
  (tally drafts calls).1.map (·.accepted) = calls.map (·.bytes.length)
  := by
  induction calls generalizing drafts with
  | nil => rfl
  | cons c calls ih => rw [tally, List.map_cons, ih, List.map_cons]

theorem tally_take (drafts : Writer → Draft) (calls : List (Call Writer)) (n : Nat) :
  (tally drafts (calls.take n)).1 = (tally drafts calls).1.take n
  := by
  induction calls generalizing drafts n with
  | nil => simp [tally]
  | cons c calls ih =>
    cases n with
    | zero => rfl
    | succ n => rw [List.take_succ_cons, tally, ih, tally, List.take_succ_cons]

/-- The calls of other writers make no difference to a writer: neither to what its own calls come
to nor to its draft. -/
theorem tally_filter (i : Writer) (calls : List (Call Writer)) (drafts others : Writer → Draft)
    (h : drafts i = others i) :
  (tally others (calls.filter (·.writer = i))).1
      = (tally drafts calls).1.filter (·.writer = i)
    ∧ (tally others (calls.filter (·.writer = i))).2 i = (tally drafts calls).2 i
  := by
  induction calls generalizing drafts others with
  | nil => exact ⟨rfl, h.symm⟩
  | cons c calls ih =>
    by_cases hc : c.writer = i
    · subst hc
      obtain ⟨hreceipts, hdraft⟩ :=
        ih (Function.update drafts c.writer ((drafts c.writer).add c.bytes).2)
          (Function.update others c.writer ((others c.writer).add c.bytes).2)
          (by rw [Function.update_self, Function.update_self, h])
      rw [List.filter_cons_of_pos (by simp)]
      constructor
      · rw [tally, hreceipts, tally, List.filter_cons_of_pos (by simp), h]
      · rw [tally, hdraft, tally]
    · obtain ⟨hreceipts, hdraft⟩ :=
        ih (Function.update drafts c.writer ((drafts c.writer).add c.bytes).2) others
          (by rw [Function.update_of_ne (Ne.symm hc), h])
      rw [List.filter_cons_of_neg (by simpa using hc)]
      constructor
      · rw [hreceipts, tally, List.filter_cons_of_neg (by simpa using hc)]
      · rw [hdraft, tally]

/-- The records of a writer and its draft are those that its own chunks come to. -/
theorem records_tally (i : Writer) (calls : List (Call Writer)) (drafts : Writer → Draft) :
  Receipt.records ((tally drafts calls).1.filter (·.writer = i))
      = ((drafts i).addAll ((calls.filter (·.writer = i)).map (·.bytes))).1
    ∧ (tally drafts calls).2 i
      = ((drafts i).addAll ((calls.filter (·.writer = i)).map (·.bytes))).2
  := by
  induction calls generalizing drafts with
  | nil => exact ⟨rfl, rfl⟩
  | cons c calls ih =>
    obtain ⟨hrecords, hdraft⟩ :=
      ih (Function.update drafts c.writer ((drafts c.writer).add c.bytes).2)
    rw [tally]
    by_cases hc : c.writer = i
    · subst hc
      rw [Function.update_self] at hrecords hdraft
      rw [List.filter_cons_of_pos (by simp), List.filter_cons_of_pos (by simp), List.map_cons,
        Receipt.records_cons, hrecords, Draft.addAll]
      exact ⟨rfl, hdraft⟩
    · rw [Function.update_of_ne (Ne.symm hc)] at hrecords hdraft
      rw [List.filter_cons_of_neg (by simpa using hc), List.filter_cons_of_neg (by simpa using hc)]
      exact ⟨hrecords, hdraft⟩

/-- The records of a writer and its draft are what it passed in. -/
theorem flatten_tally (i : Writer) (calls : List (Call Writer)) (drafts : Writer → Draft) :
  (Receipt.records ((tally drafts calls).1.filter (·.writer = i))).flatten
      ++ ((tally drafts calls).2 i).bytes
    = (drafts i).bytes ++ ((calls.filter (·.writer = i)).map (·.bytes)).flatten
  := by
  obtain ⟨hrecords, hdraft⟩ := records_tally i calls drafts
  rw [hrecords, hdraft, Draft.flatten_addAll]

/-! ### The log -/

theorem call_fst {w : Desk Writer} {records : List Record} (h : w.log.window.Holds records)
    (c : Call Writer) (d : Disk) :
  ((w.call c).run d).1
    = (⟨c.writer, c.bytes.length, ((w.drafts c.writer).add c.bytes).1⟩,
        { log := w.log.committing ((w.drafts c.writer).add c.bytes).1
          drafts := Function.update w.drafts c.writer ((w.drafts c.writer).add c.bytes).2 })
  := by
  have hcall : ∀ result, ((w.log.accept (w.drafts c.writer) c.bytes).run d).1 = result →
      ((w.call c).run d).1 = (⟨c.writer, result.1, w.log.committed? result.2.1⟩,
        { log := result.2.1, drafts := Function.update w.drafts c.writer result.2.2 }) := by
    rintro _ rfl
    rfl
  rw [hcall _ (w.log.accept_fst _ _ d), SharedLog.committed?_committing h]

theorem run_cons_fst (w : Desk Writer) (c : Call Writer) (calls : List (Call Writer)) (d : Disk) :
  ((w.run (c :: calls)).run d).1
    = (((w.call c).run d).1.1
          :: ((((w.call c).run d).1.2.run calls).run ((w.call c).run d).2).1.1,
        ((((w.call c).run d).1.2.run calls).run ((w.call c).run d).2).1.2)
  := rfl

/-- What calls come to is told by the drafts alone, and the log counts the records committed and holds
the last of them, behind those that it has held before. -/
theorem run_holds (calls : List (Call Writer)) {w : Desk Writer} {all : List Record}
    (h : w.log.window.Holds (all.rtake w.log.window.capacity)) (d : Disk) :
  let after := ((w.run calls).run d).1
  let records := Receipt.records (tally w.drafts calls).1
  after.1 = (tally w.drafts calls).1
    ∧ after.2.drafts = (tally w.drafts calls).2
    ∧ after.2.log.window.capacity = w.log.window.capacity
    ∧ after.2.log.window.appended = w.log.window.appended + records.length
    ∧ after.2.log.window.Holds ((all ++ records).rtake w.log.window.capacity)
  := by
  induction calls generalizing w all d with
  | nil =>
    simp only [tally, Receipt.records, List.filterMap_nil, List.append_nil]
    exact ⟨rfl, rfl, rfl, rfl, h⟩
  | cons c calls ih =>
    have hnext := w.log.holds_committing h ((w.drafts c.writer).add c.bytes).1
    rw [← w.log.capacity_committing ((w.drafts c.writer).add c.bytes).1] at hnext
    obtain ⟨hreceipts, hdrafts, hcapacity, happended, hholds⟩ :=
      ih (w := { log := w.log.committing ((w.drafts c.writer).add c.bytes).1
                 drafts := Function.update w.drafts c.writer ((w.drafts c.writer).add c.bytes).2 })
        hnext ((w.call c).run d).2
    rw [SharedLog.capacity_committing] at hcapacity hholds
    simp only [run_cons_fst, call_fst h, tally]
    refine ⟨?_, hdrafts, hcapacity, ?_, ?_⟩
    · rw [hreceipts]
    · rw [happended, SharedLog.appended_committing, Receipt.records_cons, List.length_append,
        Nat.add_assoc]
    · rw [Receipt.records_cons, ← List.append_assoc]
      exact hholds

/-- A log that has shown all its records goes on to do so. -/
theorem run_fst (calls : List (Call Writer)) {w : Desk Writer} {all : List Record}
    (h : w.log.Shows all) (d : Disk) :
  ((w.run calls).run d).1.1 = (tally w.drafts calls).1
    ∧ ((w.run calls).run d).1.2.drafts = (tally w.drafts calls).2
    ∧ ((w.run calls).run d).1.2.log.window.capacity = w.log.window.capacity
    ∧ ((w.run calls).run d).1.2.log.Shows (all ++ Receipt.records (tally w.drafts calls).1)
  := by
  obtain ⟨hholds, hcount⟩ := h
  obtain ⟨hreceipts, hdrafts, hcapacity, happended, hlast⟩ := run_holds calls hholds d
  refine ⟨hreceipts, hdrafts, hcapacity, ?_, ?_⟩
  · rw [hcapacity]
    exact hlast
  · rw [happended, hcount, List.length_append]

/-- Writers do not lose, double or tear each other's bytes. Every call is answered by the number
of its bytes. What a writer committed and its draft make up what it passed in, and its calls come
to what they come to if it is alone, so the records of all writers are merged in the order of the
calls that committed them. At every point the log shows the last of them. -/
theorem run_merges (capacity : Nat) (replica : Option Replica) (calls : List (Call Writer))
    (d : Disk) :
  let start : Desk Writer := { log := { window := .ofCapacity capacity, replica } }
  let receipts := ((start.run calls).run d).1.1
  let drafts := ((start.run calls).run d).1.2.drafts
  (receipts.map (·.writer) = calls.map (·.writer)
    ∧ receipts.map (·.accepted) = calls.map (·.bytes.length))
  ∧ (∀ i,
      let own := calls.filter (·.writer = i)
      (Receipt.records (receipts.filter (·.writer = i))).flatten ++ (drafts i).bytes
          = (own.map (·.bytes)).flatten
        ∧ ∀ e : Disk,
            ((start.run own).run e).1.1 = receipts.filter (·.writer = i)
              ∧ ((start.run own).run e).1.2.drafts i = drafts i)
  ∧ (∀ n,
      let past := ((start.run (calls.take n)).run d).1
      let records := Receipt.records (receipts.take n)
      past.1 = receipts.take n
        ∧ past.2.log.stats.appended = records.length
        ∧ past.2.log.window.toList = records.rtake (max capacity 1)
        ∧ past.2.log.snapshot = (records.rtake (max capacity 1)).flatten)
  := by
  intro start receipts drafts
  have hstart : start.log.Shows [] := SharedLog.shows_nil capacity replica
  have hreceipts : receipts = (tally start.drafts calls).1 := (run_fst calls hstart d).1
  have hdrafts : drafts = (tally start.drafts calls).2 := (run_fst calls hstart d).2.1
  refine ⟨⟨?_, ?_⟩, ?_, ?_⟩
  · rw [hreceipts, map_writer_tally]
  · rw [hreceipts, map_accepted_tally]
  · intro i own
    rw [hreceipts, hdrafts]
    constructor
    · apply flatten_tally
    · intro e
      obtain ⟨hown, hdraft⟩ := tally_filter i calls start.drafts start.drafts rfl
      rw [(run_fst own hstart e).1, (run_fst own hstart e).2.1]
      exact ⟨hown, hdraft⟩
  · intro n past records
    obtain ⟨hpast, -, hcapacity, hholds, happended⟩ := run_fst (calls.take n) hstart d
    rw [tally_take, ← hreceipts] at hpast hholds happended
    rw [hcapacity, List.nil_append] at hholds
    have hlist : past.2.log.window.toList = records.rtake (max capacity 1) := by
      rw [← Window.capacity_ofCapacity]
      apply hholds.toList_eq
    refine ⟨hpast, happended, hlist, ?_⟩
    rw [← hlist]
    rfl

end Desk

end BoundedLog
