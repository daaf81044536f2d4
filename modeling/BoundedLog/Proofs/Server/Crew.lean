import BoundedLog.Server.Crew
import Mathlib.Data.List.Basic

/-!
# How a crew goes on

What matters of a worker, apart from its job, is how far it has come. `Progress.Next` lists the
steps that take it further, each with the number of permits for the collector that it adds. A crew
`Advances` when workers take such steps while the roster stays as it is and nobody is started. A
worker that is started gets a number that was not in use before.
-/

namespace BoundedLog

/-- The steps of a worker towards its end, and how many permits for the collector each of them
adds. -/
inductive Progress.Next : Progress → Nat → Progress → Prop
  | mark (ok : Bool) : Next working 0 (marked ok)
  | announce (ok : Bool) : Next (marked ok) 1 (announced ok)
  | leave (ok : Bool) : Next (announced ok) 0 (ended ok)

namespace Crew

variable {Job : Type} {c c' : Crew Job} {id : Nat}

/-! ### One worker -/

/-- The number of a worker is at most the number of workers. -/
theorem mem_range'_of_worker? {worker : Worker Job} (h : c.worker? id = some worker) :
  id ∈ List.range' 1 c.workers.length
  := by
  cases id with
  | zero => cases h
  | succ place =>
    obtain ⟨hlt, -⟩ := List.getElem?_eq_some_iff.mp h
    apply List.mem_range'_1.mpr
    omega

theorem worker?_setWorker {worker : Worker Job} (h : c.worker? id = some worker)
    (after : Worker Job) (other : Nat) :
  (c.setWorker id after).worker? other = if other = id then some after else c.worker? other
  := by
  obtain ⟨place, rfl⟩ : ∃ place, id = place + 1 := by
    cases id with
    | zero => cases h
    | succ place => exact ⟨place, rfl⟩
  have hlt : place < c.workers.length := (List.getElem?_eq_some_iff.mp h).1
  cases other with
  | zero => simp [worker?]
  | succ other =>
    show (c.workers.set (place + 1 - 1) after)[other]? = _
    rw [Nat.add_sub_cancel, List.getElem?_set]
    simp only [Nat.add_right_cancel_iff, hlt, if_true, eq_comm (a := place)]
    rfl

theorem progress?_setWorker {worker : Worker Job} (h : c.worker? id = some worker)
    (after : Worker Job) (other : Nat) :
  (c.setWorker id after).progress? other
    = if other = id then some after.progress else c.progress? other
  := by
  rw [progress?, worker?_setWorker h]
  split
  · rfl
  · rfl

theorem outcome?_congr (h : c'.workers = c.workers) :
  c'.outcome? id = c.outcome? id
  := by
  cases id with
  | zero => rfl
  | succ place => rw [outcome?, progress?, worker?, h, outcome?, progress?, worker?]

/-! ### Going on -/

/-- Workers go on while the roster stays as it is and nobody is started. -/
structure Advances (c c' : Crew Job) : Prop where
  roster_eq : c'.roster = c.roster
  length_eq : c'.workers.length = c.workers.length
  wakes_le : c.wakes ≤ c'.wakes
  progress?_next (id : Nat) : c'.progress? id = c.progress? id
    ∨ ∃ p permits q, Progress.Next p permits q ∧ c.progress? id = some p
      ∧ c'.progress? id = some q ∧ c'.wakes = c.wakes + permits

theorem Advances.refl (c : Crew Job) :
  c.Advances c
  := ⟨rfl, rfl, Nat.le_refl _, fun _ => .inl rfl⟩

theorem advances_wake (c : Crew Job) :
  c.Advances c.wake
  := ⟨rfl, rfl, Nat.le_succ _, fun _ => .inl rfl⟩

/-- A worker that works on has come no further. -/
theorem advances_setWorker {worker after : Worker Job} (h : c.worker? id = some worker)
    (hsame : after.progress = worker.progress) :
  c.Advances (c.setWorker id after)
  := by
  constructor
  · rfl
  · apply List.length_set
  · apply Nat.le_refl
  · intro other
    left
    rw [progress?_setWorker h]
    split
    · next heq => rw [heq, progress?, h, hsame, Option.map_some]
    · rfl

/-- The worker with a number takes a step towards its end. -/
structure Moves (c : Crew Job) (id : Nat) (p : Progress) (permits : Nat) (q : Progress)
    (c' : Crew Job) : Prop where
  next : p.Next permits q
  progress?_before : c.progress? id = some p
  progress?_after (other : Nat) : c'.progress? other
    = if other = id then some q else c.progress? other
  roster_eq : c'.roster = c.roster
  length_eq : c'.workers.length = c.workers.length
  wakes_eq : c'.wakes = c.wakes + permits

theorem moves_of_next {worker : Worker Job} (after : Worker Job) {p : Progress} {permits : Nat}
    (h : c.worker? id = some worker) (hbefore : worker.progress = p)
    (hnext : p.Next permits after.progress)
    (hafter : c'.workers = (c.setWorker id after).workers) (hroster : c'.roster = c.roster)
    (hwakes : c'.wakes = c.wakes + permits) :
  c.Moves id p permits after.progress c'
  := by
  constructor
  · exact hnext
  · rw [progress?, h, ← hbefore, Option.map_some]
  · intro other
    rw [← progress?_setWorker h]
    cases other with
    | zero => rfl
    | succ place => rw [progress?, worker?, hafter, progress?, worker?]
  · exact hroster
  · rw [hafter]
    apply List.length_set
  · exact hwakes

theorem moves_of_mark? {ok : Bool} (h : c.mark? id ok = some c') :
  c.Moves id .working 0 (.marked ok) c'
  := by
  obtain ⟨worker, hworker, h⟩ := Option.bind_eq_some_iff.mp h
  split at h
  · next hworking =>
    obtain rfl := Option.some.inj h
    apply moves_of_next { worker with progress := .marked ok } hworker hworking (.mark ok)
    all_goals rfl
  · cases h

theorem moves_of_announce? (h : c.announce? id = some c') :
  ∃ ok, c.Moves id (.marked ok) 1 (.announced ok) c'
  := by
  obtain ⟨worker, hworker, h⟩ := Option.bind_eq_some_iff.mp h
  split at h
  · next ok hmarked =>
    obtain rfl := Option.some.inj h
    use ok
    apply moves_of_next { worker with progress := .announced ok } hworker hmarked (.announce ok)
    all_goals rfl
  · cases h

theorem moves_of_leave? (h : c.leave? id = some c') :
  ∃ ok, c.Moves id (.announced ok) 0 (.ended ok) c'
  := by
  obtain ⟨worker, hworker, h⟩ := Option.bind_eq_some_iff.mp h
  split at h
  · next ok hannounced =>
    obtain rfl := Option.some.inj h
    use ok
    apply moves_of_next { worker with progress := .ended ok } hworker hannounced (.leave ok)
    all_goals rfl
  · cases h

theorem Moves.advances {p q : Progress} {permits : Nat} (h : c.Moves id p permits q c') :
  c.Advances c'
  := by
  constructor
  · exact h.roster_eq
  · exact h.length_eq
  · rw [h.wakes_eq]
    apply Nat.le_add_right
  · intro other
    rcases eq_or_ne other id with rfl | hne
    · right
      refine ⟨p, permits, q, h.next, h.progress?_before, ?_, h.wakes_eq⟩
      rw [h.progress?_after, if_pos rfl]
    · left
      rw [h.progress?_after, if_neg hne]

/-- Who has marked its end does not take the mark back. -/
theorem Moves.isMarked {p q : Progress} {permits other : Nat} (h : c.Moves id p permits q c')
    (hmarked : c.isMarked other) :
  c'.isMarked other
  := by
  rw [Crew.isMarked, h.progress?_after]
  split
  · obtain hnext := h.next
    cases hnext with
    | mark ok | announce ok | leave ok => rfl
  · exact hmarked

theorem advances_of_mark? {ok : Bool} (h : c.mark? id ok = some c') :
  c.Advances c'
  := (moves_of_mark? h).advances

theorem advances_of_announce? (h : c.announce? id = some c') :
  c.Advances c'
  := by
  obtain ⟨ok, hmoves⟩ := moves_of_announce? h
  exact hmoves.advances

theorem advances_of_leave? (h : c.leave? id = some c') :
  c.Advances c'
  := by
  obtain ⟨ok, hmoves⟩ := moves_of_leave? h
  exact hmoves.advances

/-- A thread that has ended stays so. -/
theorem Advances.outcome?_isSome (h : c.Advances c') (hended : (c.outcome? id).isSome) :
  (c'.outcome? id).isSome
  := by
  rw [outcome?] at hended ⊢
  rcases h.progress?_next id with hsame | ⟨p, permits, q, hnext, hbefore, hafter, -⟩
  · rw [hsame]
    exact hended
  · rw [hbefore] at hended
    rw [hafter]
    cases hnext with
    | mark ok => cases hended
    | announce ok => cases hended
    | leave ok => rfl

/-! ### The roster -/

/-- Whoever takes members off the roster leaves the others on it. -/
theorem takeOff_eq (c : Crew Job) (ids : List Nat) :
  c.takeOff ids
    = (c.roster.filter (ids.contains ·.id),
      { c with roster := c.roster.filter (!ids.contains ·.id) })
  := by
  rw [takeOff, List.partition_eq_filter_filter]
  rfl

theorem perm_takeOff (c : Crew Job) (ids : List Nat) :
  ((c.takeOff ids).1 ++ (c.takeOff ids).2.roster).Perm c.roster
  := by
  rw [takeOff_eq]
  apply List.filter_append_perm

theorem mem_roster_takeOff (c : Crew Job) (ids : List Nat) (member : Member) :
  member ∈ (c.takeOff ids).2.roster ↔ member ∈ c.roster ∧ member.id ∉ ids
  := by
  rw [takeOff_eq, List.mem_filter, Bool.not_eq_true', List.contains_eq_mem, decide_eq_false_iff_not]

/-- Those whose end is marked are taken off, and the others stay. -/
theorem takeFinished_eq (c : Crew Job) :
  c.takeFinished
    = (c.roster.filter (c.isMarked ·.id), { c with roster := c.roster.filter (!c.isMarked ·.id) })
  := by
  have hcontains : ∀ member ∈ c.roster,
      ((c.roster.map (·.id)).filter c.isMarked).contains member.id = c.isMarked member.id := by
    intro member hmember
    rw [Bool.eq_iff_iff, List.contains_iff_mem, List.mem_filter]
    exact and_iff_right (List.mem_map_of_mem hmember)
  rw [takeFinished, takeOff_eq, List.filter_congr hcontains]
  rw [List.filter_congr fun member hmember => congrArg not (hcontains member hmember)]

/-! ### New workers -/

variable (peer : Endpoint) (job : Job)

/-- Numbers above the number of workers are not in use. -/
theorem progress?_eq_none (h : c.workers.length < id) :
  c.progress? id = none
  := by
  obtain ⟨place, rfl⟩ : ∃ place, id = place + 1 := Nat.exists_eq_add_one.mpr (Nat.zero_lt_of_lt h)
  rw [progress?, worker?, List.getElem?_eq_none (Nat.le_of_lt_succ h)]
  rfl

theorem progress?_start (c : Crew Job) (id : Nat) :
  (c.start peer job).2.progress? id
    = if id = c.workers.length + 1 then some .working else c.progress? id
  := by
  cases id with
  | zero => rfl
  | succ place =>
    show ((c.workers ++ [Worker.mk job .working])[place]?).map Worker.progress = _
    simp only [Nat.add_right_cancel_iff]
    split
    · next heq =>
      rw [heq, List.getElem?_concat_length]
      rfl
    · next hne =>
      rcases Nat.lt_or_gt_of_ne hne with hlt | hgt
      · rw [List.getElem?_append_left hlt]
        rfl
      · rw [progress?_eq_none (Nat.lt_succ_of_lt hgt), List.getElem?_eq_none]
        · rfl
        · rw [List.length_append]
          exact hgt

theorem outcome?_start_isSome (hended : (c.outcome? id).isSome) :
  ((c.start peer job).2.outcome? id).isSome
  := by
  rw [outcome?, progress?_start]
  split
  · next heq =>
    rw [outcome?, progress?_eq_none (by omega)] at hended
    cases hended
  · exact hended

theorem isMarked_start (hmarked : c.isMarked id) :
  (c.start peer job).2.isMarked id
  := by
  rw [isMarked, progress?_start]
  split
  · next heq =>
    rw [isMarked, progress?_eq_none (by omega)] at hmarked
    cases hmarked
  · exact hmarked

end Crew

end BoundedLog
