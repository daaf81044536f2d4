import BoundedLog.Proofs.Window

/-!
# Windows as lists of the last records

A window that records were appended to, and that was cleared now and then, shows the records that
were appended behind the latest clear, or the last of them if there are more than slots. So all
that is observed of it can be told from the list of changes alone, and the circle of slots with
its counters is invisible.
-/

namespace BoundedLog.Window

/-- A change of a window. -/
inductive Change
  | append (record : Record)
  | clear
  deriving DecidableEq, Repr

namespace Change

/-- Whether the change appends a record. -/
def isAppend : Change → Bool
  | append _ => true
  | clear => false

/-- The records after a change. -/
def apply (records : List Record) : Change → List Record
  | append record => records ++ [record]
  | clear => []

/-- The records appended behind the latest clear, oldest first. -/
def sinceClear (changes : List Change) : List Record := changes.foldl apply []

/-- The last of the records appended behind the latest clear: as many as there are slots. -/
def retained (capacity : Nat) (changes : List Change) : List Record :=
  (sinceClear changes).rtake (max capacity 1)

/-- The record that a change evicts behind other changes: an append takes the place of the oldest
record if every slot is taken. -/
def eviction (capacity : Nat) (before : List Change) : Change → Option Record
  | append _ =>
    if (retained capacity before).length = max capacity 1 then (retained capacity before).head?
    else none
  | clear => none

theorem sinceClear_concat (changes : List Change) (change : Change) :
  sinceClear (changes ++ [change]) = apply (sinceClear changes) change
  := by
  rw [sinceClear, List.foldl_concat, sinceClear]

end Change

/-- Changes a window, and says which record was evicted, if one was. -/
def change (w : Window) : Change → Option Record × Window
  | .append record => ((w.append record).2, (w.append record).1)
  | .clear => (none, w.clear)

/-- Changes a window again and again: the evictions in order, and the last window. -/
def run (w : Window) : List Change → List (Option Record) × Window
  | [] => ([], w)
  | c :: changes =>
    ((w.change c).1 :: ((w.change c).2.run changes).1, ((w.change c).2.run changes).2)

theorem run_append (w : Window) (changes others : List Change) :
  w.run (changes ++ others)
    = ((w.run changes).1 ++ ((w.run changes).2.run others).1, ((w.run changes).2.run others).2)
  := by
  induction changes generalizing w with
  | nil => rfl
  | cons c changes ih => rw [List.cons_append, run, ih, run, List.cons_append]

theorem run_concat (w : Window) (changes : List Change) (c : Change) :
  w.run (changes ++ [c])
    = ((w.run changes).1 ++ [((w.run changes).2.change c).1], ((w.run changes).2.change c).2)
  := run_append w changes [c]

theorem length_run (w : Window) (changes : List Change) :
  (w.run changes).1.length = changes.length
  := by
  induction changes generalizing w with
  | nil => rfl
  | cons c changes ih => rw [run, List.length_cons, ih, List.length_cons]

theorem capacity_change (w : Window) (c : Change) :
  (w.change c).2.capacity = w.capacity
  := by
  cases c with
  | append record => apply capacity_append
  | clear => apply capacity_clear

theorem capacity_run (w : Window) (changes : List Change) :
  (w.run changes).2.capacity = w.capacity
  := by
  induction changes generalizing w with
  | nil => rfl
  | cons c changes ih => rw [run, ih, capacity_change]

theorem reachable_run (capacity : Nat) (changes : List Change) :
  ((ofCapacity capacity).run changes).2.Reachable
  := by
  induction changes using List.reverseRecOn with
  | nil => exact .ofCapacity capacity
  | append_singleton changes c ih =>
    rw [run_concat]
    cases c with
    | append record => apply ih.append record
    | clear => apply ih.clear

/-- A window holds the last of the records that were appended behind the latest clear. -/
theorem holds_run (capacity : Nat) (changes : List Change) :
  ((ofCapacity capacity).run changes).2.Holds (Change.retained capacity changes)
  := by
  induction changes using List.reverseRecOn with
  | nil =>
    show (ofCapacity capacity).Holds (List.rtake [] _)
    rw [List.rtake_nil]
    apply holds_ofCapacity
  | append_singleton changes c ih =>
    rw [run_concat, Change.retained, Change.sinceClear_concat]
    cases c with
    | append record =>
      have h := ih.append record
      rw [capacity_run, capacity_ofCapacity, Change.retained, rtake_rtake_concat] at h
      exact h
    | clear =>
      rw [Change.apply, List.rtake_nil]
      apply ih.clear

theorem appended_run (capacity : Nat) (changes : List Change) :
  ((ofCapacity capacity).run changes).2.appended = changes.countP Change.isAppend
  := by
  induction changes using List.reverseRecOn with
  | nil => rfl
  | append_singleton changes c ih =>
    rw [run_concat, List.countP_append, ← ih]
    cases c with
    | append record => apply appended_append
    | clear => rfl

theorem evicted_run (capacity : Nat) (changes : List Change) :
  ((ofCapacity capacity).run changes).2.evicted
    = ((ofCapacity capacity).run changes).1.countP Option.isSome
  := by
  induction changes using List.reverseRecOn with
  | nil => rfl
  | append_singleton changes c ih =>
    rw [run_concat, List.countP_append, ← ih]
    cases c with
    | append record =>
      rw [List.countP_singleton]
      apply evicted_append
    | clear => rfl

/-- Every change evicts what is evicted from the list of the last records. -/
theorem getElem?_run (capacity : Nat) (changes : List Change) (i : Nat) :
  ((ofCapacity capacity).run changes).1[i]?
    = changes[i]?.map (Change.eviction capacity (changes.take i))
  := by
  by_cases hi : i < changes.length
  · have hsplit : changes = changes.take i ++ changes[i] :: changes.drop (i + 1) := by
      rw [← List.drop_eq_getElem_cons hi, List.take_append_drop]
    have hlength : ((ofCapacity capacity).run (changes.take i)).1.length = i := by
      rw [length_run, List.length_take, min_eq_left hi.le]
    rw [List.getElem?_eq_getElem hi, Option.map_some]
    conv =>
      lhs
      rw [hsplit, run_append, List.getElem?_append_right hlength.le, hlength, Nat.sub_self, run,
        List.getElem?_cons_zero]
    generalize changes[i] = c
    cases c with
    | append record =>
      rw [change, (holds_run capacity _).append_snd, capacity_run, capacity_ofCapacity]
      rfl
    | clear => rfl
  · rw [List.getElem?_eq_none (by rw [length_run]; omega), List.getElem?_eq_none (by omega),
      Option.map_none]

/-- A window is the list of the last records appended behind the latest clear. It shows this list,
its append evicts the first record of a list as long as the circle, and its counters count the
appends and the evictions since it was made. -/
theorem run_shows_retained (capacity : Nat) (changes : List Change) :
  let w := ((ofCapacity capacity).run changes).2
  let evictions := ((ofCapacity capacity).run changes).1
  let records := Change.retained capacity changes
  (w.toList = records ∧ (∀ index, w.get? index = records[index]?) ∧ w.count = records.length
    ∧ (w.isEmpty = true ↔ records.length = 0)
    ∧ (w.full = true ↔ records.length = max capacity 1)
    ∧ w.content = records.flatten ∧ w.size = records.flatten.length)
  ∧ (∀ i, evictions[i]? = changes[i]?.map (Change.eviction capacity (changes.take i)))
  ∧ (w.appended = changes.countP Change.isAppend ∧ w.evicted = evictions.countP Option.isSome)
  ∧ (w.clear.appended = w.appended ∧ w.clear.evicted = w.evicted)
  := by
  intro w evictions records
  have h : w.Holds records := holds_run capacity changes
  have hcapacity : w.capacity = max capacity 1 := by
    rw [← capacity_ofCapacity]
    apply capacity_run
  refine ⟨⟨h.toList_eq, h.get?_eq, h.count_eq, ?_, ?_, h.content_eq, h.size_eq⟩, ?_, ?_, rfl, rfl⟩
  · rw [isEmpty, h.count_eq, beq_iff_eq]
  · rw [← hcapacity]
    apply h.full_iff
  · apply getElem?_run
  · constructor
    · apply appended_run
    · apply evicted_run

example :
  (ofCapacity 2).run [.append [1], .append [], .append [2, 3], .clear, .append [4]]
    = ([none, none, some [1], none, none],
      { slots := #[some [4], none], head := 1, tail := 0, full := false, size := 1, appended := 4,
        evicted := 1 })
  := by
  decide

end BoundedLog.Window
