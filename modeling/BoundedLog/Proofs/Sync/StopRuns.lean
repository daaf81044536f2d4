import BoundedLog.Proofs.Sync.StopFlag
import Mathlib.Algebra.GroupWithZero.Nat

/-!
# No stop is missed

What the calls on a stop flag come to, in whatever order they take their steps. What a call returns
that raises the flag is settled when it does so: it is told whether it was the first (`Ranked`). Left
alone, the calls come to rest, since the steps that they can take of their own accord get fewer with
every one that is taken (`ahead`). At rest, whoever raised the flag has returned.
-/

namespace BoundedLog

namespace StopFlag

variable {f f' g : StopFlag} {action : Action} {actions past : List Action} {place : Nat}
  {call before after : Call}

/-! ### Who was first -/

/-- What a call that raises the flag returns, or will return. -/
def Call.told? : Call → Option Bool
  | raised first | announcing first | leaving first | stopped first => some first
  | _ => none

/-- What the call returns that an action begins, if it raises the flag, which is `up` or down. -/
def Action.told (up : Bool) : Action → List (Option Bool)
  | .stop => [some (!up)]
  | .wait => [none]
  | _ => []

theorem map_told?_set (hcall : f.calls[place]? = some before) (hsame : after.told? = before.told?) :
  (f.calls.set place after).map Call.told? = f.calls.map Call.told?
  := by
  obtain ⟨hlt, rfl⟩ := List.getElem?_eq_some_iff.mp hcall
  have hplace : place < (f.calls.map Call.told?).length := by
    rw [List.length_map]
    exact hlt
  rw [List.map_set, hsame, ← List.getElem_map Call.told? (h := hplace), List.set_getElem_self]

theorem map_told?_afterWaking (calls : List Call) :
  (calls.map Call.afterWaking).map Call.told? = calls.map Call.told?
  := by
  rw [List.map_map]
  apply List.map_congr_left
  intro call _
  cases call <;> rfl

/-- No step changes what a call returns, and only those that raise the flag are told who was
first. -/
theorem Change.map_told? (hchange : Change f action f') :
  f'.calls.map Call.told? = f.calls.map Call.told? ++ action.told f.raised
  := by
  cases hchange with
  | stop | wait => exact List.map_append
  | lock place before after hcall hfree hlocks =>
    rw [map_told?_set hcall (by cases hlocks <;> rfl)]
    exact (List.append_nil _).symm
  | look place before after hcall hlooks =>
    rw [map_told?_set hcall (by cases hlooks <;> cases f.raised <;> rfl)]
    exact (List.append_nil _).symm
  | announce place first hcall =>
    have hsame : (Call.leaving first).told? = (Call.announcing first).told? := rfl
    rw [map_told?_afterWaking, map_told?_set hcall hsame]
    exact (List.append_nil _).symm
  | unlock place before after hcall hunlocks =>
    rw [map_told?_set hcall (by cases hunlocks <;> rfl)]
    exact (List.append_nil _).symm
  | stir action place before after hcall hstirs =>
    rw [map_told?_set hcall (by cases hstirs <;> rfl)]
    cases hstirs <;> exact (List.append_nil _).symm

theorem Change.raised_eq (hchange : Change f action f') :
  f'.raised = (f.raised || action == .stop)
  := by
  cases hchange with
  | stop => exact (Bool.or_true _).symm
  | stir _ _ _ _ _ hstirs => cases hstirs <;> exact (Bool.or_false _).symm
  | _ => exact (Bool.or_false _).symm

/-- Of the calls that raise the flag, the one that does so first is told so. -/
structure Ranked (past : List Action) (f : StopFlag) : Prop where
  raised_iff : f.raised = true ↔ .stop ∈ past
  told_eq : f.calls.filterMap Call.told? = (List.range (past.count .stop)).map (· == 0)

theorem Ranked.step (h : f.Ranked past) (hchange : Change f action f') :
  f'.Ranked (past ++ [action])
  := by
  constructor
  · rw [hchange.raised_eq, Bool.or_eq_true, h.raised_iff, beq_iff_eq, List.mem_append,
      List.mem_singleton, eq_comm (a := action)]
  · have htold := congrArg (List.filterMap id) hchange.map_told?
    rw [List.filterMap_append, List.filterMap_map, List.filterMap_map, Function.id_comp,
      h.told_eq] at htold
    rw [htold, List.count_append]
    cases action with
    | stop =>
      have hfirst : (!f.raised) = (past.count .stop == 0) := by
        rw [Bool.eq_iff_iff, Bool.not_eq_true', ← Bool.not_eq_true, h.raised_iff, beq_iff_eq,
          List.count_eq_zero]
      rw [List.count_singleton_self, List.range_succ, List.map_append]
      show _ ++ [!f.raised] = _ ++ [past.count .stop == 0]
      rw [hfirst]
    | wait | advance place | rouse place | expire place => exact List.append_nil _

theorem count_true_first (n : Nat) :
  ((List.range n).map (· == 0)).count true = if n = 0 then 0 else 1
  := by
  cases n with
  | zero => rfl
  | succ n =>
    have hothers : ((List.range n).map fun i => i + 1 == 0).count true = 0 := by
      rw [List.count_eq_zero]
      intro hmem
      obtain ⟨i, -, hi⟩ := List.mem_map.mp hmem
      cases hi
    rw [List.range_succ_eq_map, List.map_cons, List.map_map, List.count_cons]
    exact congrArg (· + 1) hothers

/-! ### The calls come to rest -/

/-- The steps that a call can take of its own accord, in a crowd of `n` calls: who wakes the
sleepers makes as many as four new steps possible for each of them. -/
def Call.ahead (n : Nat) : Call → Nat
  | raised _ => 4 * n + 3
  | announcing _ => 4 * n + 2
  | entering => 5
  | checking | woken false => 4
  | rechecking | woken true => 3
  | concluding => 2
  | leaving _ | retiring | answering _ => 1
  | stopped _ | asleep | waited _ => 0

/-- The steps that the calls can take of their own accord. -/
def ahead (f : StopFlag) : Nat := (f.calls.map (Call.ahead f.calls.length)).sum

theorem Call.ahead_afterWaking (n : Nat) (call : Call) :
  call.afterWaking.ahead n ≤ call.ahead n + 4
  := by
  cases call with
  | asleep => exact Nat.le_refl 4
  | _ => exact Nat.le_add_right _ 4

theorem sum_map_afterWaking (n : Nat) (calls : List Call) :
  ((calls.map Call.afterWaking).map (Call.ahead n)).sum
    ≤ (calls.map (Call.ahead n)).sum + 4 * calls.length
  := by
  induction calls with
  | nil => exact Nat.le_refl 0
  | cons call calls ih =>
    have hcall := call.ahead_afterWaking n
    simp only [List.map_cons, List.sum_cons, List.length_cons]
    omega

theorem sum_map_set (n : Nat) {calls : List Call} (hcall : calls[place]? = some before)
    (after : Call) :
  ((calls.set place after).map (Call.ahead n)).sum + before.ahead n
    = (calls.map (Call.ahead n)).sum + after.ahead n
  := by
  induction calls generalizing place with
  | nil => cases hcall
  | cons call calls ih =>
    cases place with
    | zero =>
      cases hcall
      simp only [List.set_cons_zero, List.map_cons, List.sum_cons]
      omega
    | succ place =>
      have hrest := ih hcall
      simp only [List.set_cons_succ, List.map_cons, List.sum_cons]
      omega

theorem Call.Locks.ahead_lt (h : before.Locks after) (n : Nat) :
  after.ahead n < before.ahead n
  := by
  cases h <;> simp only [ahead] <;> omega

theorem Call.Looks.ahead_lt {up : Bool} (h : before.Looks up after) (n : Nat) :
  after.ahead n < before.ahead n
  := by
  cases h <;> cases up <;> simp [ahead]

theorem Call.Unlocks.ahead_lt (h : before.Unlocks after) (n : Nat) :
  after.ahead n < before.ahead n
  := by
  cases h <;> exact Nat.zero_lt_one

theorem ahead_set_lt (hcall : f.calls[place]? = some before)
    (hlt : after.ahead f.calls.length < before.ahead f.calls.length) (holder : Option Nat) :
  (⟨f.raised, holder, f.calls.set place after⟩ : StopFlag).ahead < f.ahead
  := by
  have hsum := sum_map_set f.calls.length hcall after
  show ((f.calls.set place after).map (Call.ahead (f.calls.set place after).length)).sum
    < (f.calls.map (Call.ahead f.calls.length)).sum
  rw [List.length_set]
  omega

/-- The calls have less ahead of them behind every step that one of them takes. -/
theorem Change.ahead_lt (hchange : Change f (.advance place) f') :
  f'.ahead < f.ahead
  := by
  cases hchange with
  | lock _ before after hcall hfree hlocks => exact ahead_set_lt hcall (hlocks.ahead_lt _) _
  | look _ before after hcall hlooks => exact ahead_set_lt hcall (hlooks.ahead_lt _) _
  | announce _ first hcall =>
    have hsum := sum_map_set f.calls.length hcall (.leaving first)
    have hwoken := sum_map_afterWaking f.calls.length (f.calls.set place (.leaving first))
    have hlength : ((f.calls.set place (.leaving first)).map Call.afterWaking).length
        = f.calls.length := by
      rw [List.length_map, List.length_set]
    rw [List.length_set] at hwoken
    rw [ahead, ahead, hlength]
    simp only [Call.ahead] at hsum hwoken ⊢
    omega
  | unlock _ before after hcall hunlocks => exact ahead_set_lt hcall (hunlocks.ahead_lt _) _
  | stir _ _ before after hcall hstirs => cases hstirs

/-- The calls cannot go on for ever on their own. -/
theorem length_add_ahead_le (hown : ∀ action ∈ actions, ∃ place, action = .advance place)
    (hrun : f.run actions = some g) :
  actions.length + g.ahead ≤ f.ahead
  := by
  induction actions generalizing f with
  | nil =>
    cases hrun
    exact Nat.le_of_eq (Nat.zero_add _)
  | cons action actions ih =>
    obtain ⟨f', hstep, hrest⟩ := run_cons hrun
    obtain ⟨place, rfl⟩ := hown action List.mem_cons_self
    have hlt := (change_of_step hstep).ahead_lt
    have hle := ih (fun action hmem => hown action (List.mem_cons_of_mem _ hmem)) hrest
    rw [List.length_cons]
    omega

/-- Whether no call can take a step of its own accord. -/
def AtRest (f : StopFlag) : Prop := ∀ place, f.step (.advance place) = none

theorem step_advance (hcall : f.calls[place]? = some call) :
  f.step (.advance place) = f.advance place call
  := by
  rw [step, hcall]
  rfl

/-- Whoever has the lock can go on. -/
theorem advance_ne_none (hlock : call.hasLock = true) :
  f.advance place call ≠ none
  := by
  cases call with
  | announcing | leaving | checking | rechecking | retiring | concluding | answering => nofun
  | _ => cases hlock

/-- If the calls are at rest, nobody has the lock, and nobody needs it. -/
theorem AtRest.holder_eq (h : f.AtRest) (hexclusive : f.Exclusive) :
  f.holder = none
  := by
  cases hholder : f.holder with
  | none => rfl
  | some place =>
    have hlt := hexclusive.holder_lt place hholder
    have hcall := List.getElem?_eq_getElem hlt
    have hlock := (hexclusive.hasLock_iff place _ hcall).mpr hholder
    exact absurd ((step_advance hcall).symm.trans (h place)) (advance_ne_none hlock)

theorem AtRest.eq_stopped (h : f.AtRest) (hexclusive : f.Exclusive) {first : Bool}
    (hmem : call ∈ f.calls) (htold : call.told? = some first) :
  call = .stopped first
  := by
  obtain ⟨place, hcall⟩ := List.getElem?_of_mem hmem
  have hfree := h.holder_eq hexclusive
  have hstuck := (step_advance hcall).symm.trans (h place)
  cases call with
  | raised told =>
    rw [advance, StopFlag.lock, hfree] at hstuck
    cases hstuck
  | announcing | leaving => cases hstuck
  | stopped told =>
    cases htold
    rfl
  | _ => cases htold

/-! ### Runs -/

/-- What is kept throughout a run. -/
structure Sound (past : List Action) (f : StopFlag) : Prop where
  exclusive : f.Exclusive
  founded : f.Founded past
  wakeful : f.Wakeful
  ranked : f.Ranked past

theorem Sound.initially :
  Sound [] {}
  where
  exclusive := ⟨nofun, nofun⟩
  founded := nofun
  wakeful := nofun
  ranked := ⟨⟨nofun, nofun⟩, rfl⟩

theorem Sound.step (h : f.Sound past) (hchange : Change f action f') :
  f'.Sound (past ++ [action])
  where
  exclusive := h.exclusive.step hchange
  founded := h.founded.step hchange
  wakeful := h.wakeful.step h.exclusive (h.founded.step hchange) hchange
  ranked := h.ranked.step hchange

theorem told_prefix_of_run (hrun : f.run actions = some g) :
  f.calls.map Call.told? <+: g.calls.map Call.told?
  := by
  induction actions generalizing f with
  | nil =>
    cases hrun
    exact List.prefix_refl _
  | cons action actions ih =>
    obtain ⟨f', hstep, hrest⟩ := run_cons hrun
    apply List.IsPrefix.trans _ (ih hrest)
    rw [(change_of_step hstep).map_told?]
    apply List.prefix_append

/-- At rest, one of the calls that have raised the flag was told that it was the first. -/
theorem Sound.count_stopped (h : f.Sound past) (hrest : f.AtRest) (hup : f.raised = true) :
  f.calls.count (.stopped true) = 1
  := by
  have hstops : past.count .stop ≠ 0 := by
    rw [Ne, List.count_eq_zero, not_not]
    apply h.ranked.raised_iff.mp hup
  have htold : (f.calls.filterMap Call.told?).count true = 1 := by
    rw [h.ranked.told_eq, count_true_first, if_neg hstops]
  rw [List.count_filterMap] at htold
  rw [← htold, List.count]
  apply List.countP_congr
  intro call hmem
  rw [beq_iff_eq, beq_iff_eq]
  constructor
  · rintro rfl
    rfl
  · intro htold
    apply hrest.eq_stopped h.exclusive hmem htold

/-- No stop is missed, whoever does what in whatever order. The flag is up from the first call on
that raises it, and of these calls the first one is told so and no other; what a call will be told
is settled when it raises the flag. Left alone, the calls come to rest after a bounded number of
steps; then every call that raises the flag has returned, and exactly one of them with the answer
that it was the first. A call that waits says that the flag is up only if it is, and that it is not
only if the time of the call is over. When a call that raises the flag has woken the sleepers, and
so when it has returned, nobody is asleep. -/
theorem run_misses_no_stop (hrun : run {} actions = some f) :
  (f.raised = true ↔ .stop ∈ actions)
    ∧ f.calls.filterMap Call.told? = (List.range (actions.count .stop)).map (· == 0)
    ∧ (∀ more g, f.run more = some g →
      (f.raised = true → g.raised = true) ∧ f.calls.map Call.told? <+: g.calls.map Call.told?)
    ∧ (∃ most, ∀ more g, (∀ action ∈ more, ∃ place, action = .advance place) →
      f.run more = some g → more.length ≤ most
        ∧ (g.AtRest →
          (∀ call ∈ g.calls, ∀ first ∈ call.told?, call = .stopped first)
          ∧ (g.raised = true → g.calls.count (.stopped true) = 1)))
    ∧ (.waited true ∈ f.calls → f.raised = true)
    ∧ (∀ place, f.calls[place]? = some (.waited false) → .expire place ∈ actions)
    ∧ ∀ first, .leaving first ∈ f.calls ∨ .stopped first ∈ f.calls → .asleep ∉ f.calls
  := by
  have hsound : f.Sound actions := run_keeps Sound.step [] .initially hrun
  refine ⟨hsound.ranked.raised_iff, hsound.ranked.told_eq, ?_, ⟨f.ahead, ?_⟩, ?_, ?_, ?_⟩
  · intro more g hmore
    have hlater : g.Sound (actions ++ more) := run_keeps Sound.step actions hsound hmore
    rw [hsound.ranked.raised_iff, hlater.ranked.raised_iff]
    exact ⟨List.mem_append_left more, told_prefix_of_run hmore⟩
  · intro more g hown hmore
    have hlater : g.Sound (actions ++ more) := run_keeps Sound.step actions hsound hmore
    refine ⟨?_, fun hrest => ⟨?_, hlater.count_stopped hrest⟩⟩
    · apply Nat.le_of_add_right_le (length_add_ahead_le hown hmore)
    · intro call hmem first htold
      apply hrest.eq_stopped hlater.exclusive hmem htold
  · intro hmem
    obtain ⟨place, hcall⟩ := List.getElem?_of_mem hmem
    apply hsound.founded place _ hcall
  · intro place hcall
    apply hsound.founded place _ hcall
  · intro first hwoken hasleep
    have hawake : Call.asleep.isDrowsy = false := by
      obtain hleaving | hstopped := hwoken
      · apply hsound.wakeful _ hleaving rfl _ hasleep
      · apply hsound.wakeful _ hstopped rfl _ hasleep
    cases hawake

/-- The flag is set twice between the look of a call and its sleep, and the call that was not the
first wakes the sleepers before the other one has taken the lock. The time of another call was over
before. -/
theorem run_misses_no_stop_between_look_and_sleep :
  let actions : List Action :=
    [.wait, .wait, .advance 1, .advance 1, .advance 1, .advance 1, .expire 1, .advance 1, .advance 1,
      .advance 1, .advance 0, .advance 0, .advance 0, .stop, .stop, .advance 0, .advance 3,
      .advance 3, .advance 3, .advance 0, .advance 0, .advance 0, .advance 0]
  ∃ f g, run {} actions = some f
    ∧ f.calls = [.waited true, .waited false, .raised true, .stopped false]
    ∧ f.raised = true ∧ .expire 1 ∈ actions ∧ .asleep ∉ f.calls
    ∧ f.calls.filterMap Call.told? = [true, false]
    ∧ f.run [.advance 2, .advance 2, .advance 2] = some g ∧ g.AtRest
    ∧ g.calls.count (.stopped true) = 1
  := by
  intro actions
  obtain ⟨f, hrun, hcalls⟩ : ∃ f, run {} actions = some f
      ∧ f.calls = [.waited true, .waited false, .raised true, .stopped false] := ⟨_, rfl, rfl⟩
  obtain ⟨-, htold, hlater, ⟨most, hrests⟩, hraised, hexpired, hawake⟩ := run_misses_no_stop hrun
  obtain ⟨g, hmore, hbehind⟩ : ∃ g, f.run [.advance 2, .advance 2, .advance 2] = some g
      ∧ g.calls = [.waited true, .waited false, .stopped true, .stopped false] := by
    cases hrun
    exact ⟨_, rfl, rfl⟩
  have hup : f.raised = true := by
    apply hraised
    rw [hcalls]
    apply List.mem_cons_self
  have hrest : g.AtRest := by
    intro place
    rw [step, hbehind]
    obtain _ | _ | _ | _ | place := place <;> rfl
  have hown : ∀ action ∈ List.replicate 3 (.advance 2), ∃ place, action = Action.advance place := by
    intro action hmem
    exact ⟨2, List.eq_of_mem_replicate hmem⟩
  have hcount := (hrests _ g hown hmore).2 hrest
  refine ⟨f, g, hrun, hcalls, hup, ?_, ?_, htold, hmore, hrest,
    hcount.2 ((hlater _ g hmore).1 hup)⟩
  · apply hexpired 1
    rw [hcalls]
    rfl
  · apply hawake false
    rw [hcalls]
    right
    decide

end StopFlag

end BoundedLog
