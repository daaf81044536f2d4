import BoundedLog.Sync.StopFlag
import Mathlib.Data.List.Basic

/-!
# Calls on the stop flag, step by step

What a step of a call may change is said once, by kinds of steps: a call takes the lock, looks at
the flag, gives the lock back, wakes up. What every kind keeps is kept throughout a run.

- One call at a time has the lock (`Exclusive`).
- Every call is where it is for a reason: the flag is up, or the time of the call is over
  (`Founded`).
- When a call that raises the flag has woken the sleepers, nobody is asleep any more, and nobody is
  about to fall asleep (`Wakeful`). A call that has looked at the flag and is about to sleep keeps
  the lock, so no call that raises the flag wakes the sleepers in between; and whoever looks later
  finds the flag up.
-/

namespace BoundedLog

namespace StopFlag

variable {f f' g : StopFlag} {action : Action} {actions past : List Action} {place : Nat}
  {call before after : Call}

/-! ### What a step changes -/

namespace Call

/-- The steps with which a call takes the lock. -/
inductive Locks : Call → Call → Prop
  | stop (first : Bool) : Locks (raised first) (announcing first)
  | enter : Locks entering checking
  | goOn : Locks (woken false) rechecking
  | runOut : Locks (woken true) concluding

/-- The looks at the flag, which is `up` or down. -/
inductive Looks (up : Bool) : Call → Call → Prop
  | check : Looks up checking (if up then concluding else rechecking)
  | recheck : Looks up rechecking (if up then concluding else retiring)
  | conclude : Looks up concluding (answering up)

/-- The steps with which a call gives back the lock. -/
inductive Unlocks : Call → Call → Prop
  | stop (first : Bool) : Unlocks (leaving first) (stopped first)
  | retire : Unlocks retiring asleep
  | answer (up : Bool) : Unlocks (answering up) (waited up)

/-- The ways to wake up without being woken by a call. -/
inductive Stirs (place : Nat) : Action → Call → Call → Prop
  | rouse : Stirs place (.rouse place) asleep (woken false)
  | expire : Stirs place (.expire place) asleep (woken true)
  | expireLate : Stirs place (.expire place) (woken false) (woken true)

end Call

/-- What a step may come to. -/
inductive Change (f : StopFlag) : Action → StopFlag → Prop
  | stop :
    Change f .stop ⟨true, f.holder, f.calls ++ [.raised (!f.raised)]⟩
  | wait :
    Change f .wait ⟨f.raised, f.holder, f.calls ++ [.entering]⟩
  | lock (place : Nat) (before after : Call) (hcall : f.calls[place]? = some before)
      (hfree : f.holder = none) (hlocks : before.Locks after) :
    Change f (.advance place) ⟨f.raised, some place, f.calls.set place after⟩
  | look (place : Nat) (before after : Call) (hcall : f.calls[place]? = some before)
      (hlooks : before.Looks f.raised after) :
    Change f (.advance place) ⟨f.raised, f.holder, f.calls.set place after⟩
  | announce (place : Nat) (first : Bool) (hcall : f.calls[place]? = some (.announcing first)) :
    Change f (.advance place)
      ⟨f.raised, f.holder, (f.calls.set place (.leaving first)).map Call.afterWaking⟩
  | unlock (place : Nat) (before after : Call) (hcall : f.calls[place]? = some before)
      (hunlocks : before.Unlocks after) :
    Change f (.advance place) ⟨f.raised, none, f.calls.set place after⟩
  | stir (action : Action) (place : Nat) (before after : Call)
      (hcall : f.calls[place]? = some before) (hstirs : Call.Stirs place action before after) :
    Change f action ⟨f.raised, f.holder, f.calls.set place after⟩

theorem change_of_lock (hcall : f.calls[place]? = some before) (hlocks : before.Locks after)
    (hlock : f.lock place after = some f') :
  Change f (.advance place) f'
  := by
  rw [StopFlag.lock] at hlock
  split at hlock
  · next hfree =>
    cases hlock
    apply Change.lock place before after hcall hfree hlocks
  · cases hlock

theorem change_of_advance (hcall : f.calls[place]? = some call)
    (hadvance : f.advance place call = some f') :
  Change f (.advance place) f'
  := by
  cases call with
  | raised first => exact change_of_lock hcall (.stop first) hadvance
  | announcing first =>
    cases hadvance
    apply Change.announce place first hcall
  | leaving first =>
    cases hadvance
    apply Change.unlock place _ _ hcall (.stop first)
  | entering => exact change_of_lock hcall .enter hadvance
  | checking =>
    cases hadvance
    apply Change.look place _ _ hcall .check
  | rechecking =>
    cases hadvance
    apply Change.look place _ _ hcall .recheck
  | retiring =>
    cases hadvance
    apply Change.unlock place _ _ hcall .retire
  | woken expired =>
    cases expired with
    | false => exact change_of_lock hcall .goOn hadvance
    | true => exact change_of_lock hcall .runOut hadvance
  | concluding =>
    cases hadvance
    apply Change.look place _ _ hcall .conclude
  | answering up =>
    cases hadvance
    apply Change.unlock place _ _ hcall (.answer up)
  | stopped first | asleep | waited up => cases hadvance

theorem change_of_step (hstep : f.step action = some f') :
  Change f action f'
  := by
  cases action with
  | stop =>
    cases hstep
    apply Change.stop
  | wait =>
    cases hstep
    apply Change.wait
  | advance place =>
    obtain ⟨call, hcall, hadvance⟩ := Option.bind_eq_some_iff.mp hstep
    apply change_of_advance hcall hadvance
  | rouse place =>
    obtain ⟨call, hcall, hrouse⟩ := Option.bind_eq_some_iff.mp hstep
    split at hrouse
    · next hasleep =>
      cases hrouse
      apply Change.stir _ place call _ hcall
      rw [hasleep]
      apply Call.Stirs.rouse
    · cases hrouse
  | expire place =>
    obtain ⟨call, hcall, hexpire⟩ := Option.bind_eq_some_iff.mp hstep
    split at hexpire
    · cases hexpire
      apply Change.stir _ place _ _ hcall .expire
    · cases hexpire
      apply Change.stir _ place _ _ hcall .expireLate
    · cases hexpire

theorem run_cons (hrun : f.run (action :: actions) = some g) :
  ∃ f', f.step action = some f' ∧ f'.run actions = some g
  := Option.bind_eq_some_iff.mp hrun

/-- What every step keeps holds throughout a run. -/
theorem run_keeps {P : List Action → StopFlag → Prop}
    (hstep : ∀ {past f action f'}, P past f → Change f action f' → P (past ++ [action]) f')
    (past : List Action) (h : P past f) (hrun : f.run actions = some g) :
  P (past ++ actions) g
  := by
  induction actions generalizing f past with
  | nil =>
    cases hrun
    rw [List.append_nil]
    exact h
  | cons action actions ih =>
    obtain ⟨f', hfirst, hrest⟩ := run_cons hrun
    rw [List.append_cons]
    apply ih (past ++ [action]) (hstep h (change_of_step hfirst)) hrest

/-! ### Calls in their places -/

theorem getElem?_set_cases {calls : List Call} {other : Nat}
    (h : (calls.set other after)[place]? = some call) :
  place = other ∧ call = after ∨ place ≠ other ∧ calls[place]? = some call
  := by
  rw [List.getElem?_set] at h
  split at h
  · next heq =>
    split at h
    · cases h
      exact .inl ⟨heq.symm, rfl⟩
    · cases h
  · next hne => exact .inr ⟨Ne.symm hne, h⟩

theorem getElem?_concat_cases {calls : List Call} (h : (calls ++ [after])[place]? = some call) :
  calls[place]? = some call ∨ place = calls.length ∧ call = after
  := by
  rw [List.getElem?_append] at h
  split at h
  · exact .inl h
  · next hle =>
    obtain ⟨hlt, rfl⟩ := List.getElem?_eq_some_iff.mp h
    rw [List.length_singleton] at hlt
    right
    constructor
    · omega
    · simp

theorem getElem?_afterWaking {calls : List Call}
    (h : (calls.map Call.afterWaking)[place]? = some call) :
  ∃ old, calls[place]? = some old ∧ call = old.afterWaking
  := by
  rw [List.getElem?_map] at h
  obtain ⟨old, hold, rfl⟩ := Option.map_eq_some_iff.mp h
  exact ⟨old, hold, rfl⟩

/-! ### The lock -/

/-- Whether the call has the lock. -/
def Call.hasLock : Call → Bool
  | announcing _ | leaving _ | checking | rechecking | retiring | concluding | answering _ => true
  | raised _ | stopped _ | entering | asleep | woken _ | waited _ => false

theorem Call.Locks.hasLock (h : before.Locks after) :
  before.hasLock = false ∧ after.hasLock = true
  := by
  cases h <;> exact ⟨rfl, rfl⟩

theorem Call.Looks.hasLock {up : Bool} (h : before.Looks up after) :
  before.hasLock = true ∧ after.hasLock = true
  := by
  cases h <;> cases up <;> exact ⟨rfl, rfl⟩

theorem Call.Unlocks.hasLock (h : before.Unlocks after) :
  before.hasLock = true ∧ after.hasLock = false
  := by
  cases h <;> exact ⟨rfl, rfl⟩

theorem Call.Stirs.hasLock (h : Call.Stirs place action before after) :
  before.hasLock = false ∧ after.hasLock = false
  := by
  cases h <;> exact ⟨rfl, rfl⟩

theorem Call.hasLock_afterWaking (call : Call) :
  call.afterWaking.hasLock = call.hasLock
  := by
  cases call <;> rfl

/-- One call at a time has the lock, and it is known which. -/
structure Exclusive (f : StopFlag) : Prop where
  holder_lt (place : Nat) (hholder : f.holder = some place) : place < f.calls.length
  hasLock_iff (place : Nat) (call : Call) (hcall : f.calls[place]? = some call) :
    call.hasLock = true ↔ f.holder = some place

namespace Exclusive

theorem concat (h : f.Exclusive) (hafter : after.hasLock = false) (up : Bool) :
  Exclusive ⟨up, f.holder, f.calls ++ [after]⟩
  := by
  constructor
  · intro place hholder
    rw [List.length_append]
    apply Nat.lt_add_right 1 (h.holder_lt place hholder)
  · intro place call hcall
    obtain hold | ⟨rfl, rfl⟩ := getElem?_concat_cases hcall
    · apply h.hasLock_iff place call hold
    · rw [hafter]
      constructor
      · intro hfalse
        cases hfalse
      · intro hholder
        exact absurd (h.holder_lt _ hholder) (Nat.lt_irrefl _)

/-- A call that has the lock, or has not, and keeps it so. -/
theorem set (h : f.Exclusive) (hcall : f.calls[place]? = some before)
    (hsame : after.hasLock = before.hasLock) :
  Exclusive ⟨f.raised, f.holder, f.calls.set place after⟩
  := by
  constructor
  · intro other hholder
    rw [List.length_set]
    apply h.holder_lt other hholder
  · intro other call hother
    obtain ⟨rfl, rfl⟩ | ⟨-, hother⟩ := getElem?_set_cases hother
    · rw [hsame]
      apply h.hasLock_iff other before hcall
    · apply h.hasLock_iff other call hother

theorem map_afterWaking (h : f.Exclusive) :
  Exclusive ⟨f.raised, f.holder, f.calls.map Call.afterWaking⟩
  := by
  constructor
  · intro place hholder
    rw [List.length_map]
    apply h.holder_lt place hholder
  · intro place call hcall
    obtain ⟨old, hold, rfl⟩ := getElem?_afterWaking hcall
    rw [Call.hasLock_afterWaking]
    apply h.hasLock_iff place old hold

theorem lock (h : f.Exclusive) (hcall : f.calls[place]? = some before) (hfree : f.holder = none)
    (hafter : after.hasLock = true) :
  Exclusive ⟨f.raised, some place, f.calls.set place after⟩
  := by
  constructor
  · rintro other ⟨⟩
    rw [List.length_set]
    apply (List.getElem?_eq_some_iff.mp hcall).1
  · intro other call hother
    obtain ⟨rfl, rfl⟩ | ⟨hne, hother⟩ := getElem?_set_cases hother
    · exact ⟨fun _ => rfl, fun _ => hafter⟩
    · rw [h.hasLock_iff other call hother, hfree, Option.some.injEq]
      exact ⟨nofun, fun heq => absurd heq.symm hne⟩

theorem unlock (h : f.Exclusive) (hcall : f.calls[place]? = some before)
    (hbefore : before.hasLock = true) (hafter : after.hasLock = false) :
  Exclusive ⟨f.raised, none, f.calls.set place after⟩
  := by
  constructor
  · rintro other ⟨⟩
  · intro other call hother
    obtain ⟨rfl, rfl⟩ | ⟨hne, hother⟩ := getElem?_set_cases hother
    · rw [hafter]
      exact ⟨nofun, nofun⟩
    · rw [h.hasLock_iff other call hother, (h.hasLock_iff place before hcall).mp hbefore,
        Option.some.injEq]
      exact ⟨fun heq => absurd heq.symm hne, nofun⟩

theorem step (h : f.Exclusive) (hchange : Change f action f') :
  f'.Exclusive
  := by
  cases hchange with
  | stop => exact h.concat rfl true
  | wait => exact h.concat rfl f.raised
  | lock place before after hcall hfree hlocks => exact h.lock hcall hfree hlocks.hasLock.2
  | look place before after hcall hlooks =>
    exact h.set hcall (hlooks.hasLock.2.trans hlooks.hasLock.1.symm)
  | announce place first hcall =>
    have hleaving : Exclusive ⟨f.raised, f.holder, f.calls.set place (.leaving first)⟩ :=
      h.set hcall rfl
    exact hleaving.map_afterWaking
  | unlock place before after hcall hunlocks =>
    exact h.unlock hcall hunlocks.hasLock.1 hunlocks.hasLock.2
  | stir action place before after hcall hstirs =>
    exact h.set hcall (hstirs.hasLock.2.trans hstirs.hasLock.1.symm)

/-- Two calls that have the lock are one. -/
theorem place_eq (h : f.Exclusive) {other : Nat} (hcall : f.calls[place]? = some call)
    (hlock : call.hasLock = true) (hother : f.calls[other]? = some before)
    (hlock' : before.hasLock = true) :
  place = other
  := by
  apply Option.some.inj
  rw [← (h.hasLock_iff place call hcall).mp hlock, (h.hasLock_iff other before hother).mp hlock']

end Exclusive

/-! ### Answers and why they are given -/

/-- What a call knows of the flag and of its time, where it stands. -/
def Call.Fits (past : List Action) (up : Bool) (place : Nat) : Call → Prop
  | raised _ | announcing _ | leaving _ | stopped _ | answering true | waited true => up = true
  | woken true | answering false | waited false => .expire place ∈ past
  | concluding => up = true ∨ .expire place ∈ past
  | entering | checking | rechecking | retiring | asleep | woken false => True

/-- Each call is where it is for a reason. -/
def Founded (past : List Action) (f : StopFlag) : Prop :=
  ∀ (place : Nat) (call : Call), f.calls[place]? = some call → call.Fits past f.raised place

namespace Call.Fits

variable {up : Bool}

theorem mono {past' : List Action} {up' : Bool} (h : call.Fits past up place)
    (hpast : past ⊆ past') (hup : up = true → up' = true) :
  call.Fits past' up' place
  := by
  cases call with
  | raised | announcing | leaving | stopped => exact hup h
  | woken expired =>
    cases expired with
    | false => trivial
    | true => exact hpast h
  | concluding => exact h.imp (fun h => hup h) (fun h => hpast h)
  | answering told | waited told =>
    cases told with
    | false => exact hpast h
    | true => exact hup h
  | entering | checking | rechecking | retiring | asleep => trivial

theorem locks (h : before.Fits past up place) (hlocks : before.Locks after) :
  after.Fits past up place
  := by
  cases hlocks with
  | stop first => exact h
  | enter | goOn => trivial
  | runOut => exact .inr h

theorem looks (h : before.Fits past up place) (hlooks : before.Looks up after) :
  after.Fits past up place
  := by
  cases hlooks with
  | check | recheck =>
    cases up with
    | false => trivial
    | true => exact .inl rfl
  | conclude =>
    cases up with
    | false => exact h.resolve_left nofun
    | true => rfl

theorem unlocks (h : before.Fits past up place) (hunlocks : before.Unlocks after) :
  after.Fits past up place
  := by
  cases hunlocks with
  | stop first => exact h
  | retire => trivial
  | answer told => cases told <;> exact h

theorem stirs (hstirs : Call.Stirs place action before after) :
  after.Fits (past ++ [action]) up place
  := by
  cases hstirs with
  | rouse => trivial
  | expire | expireLate => exact List.mem_append_right _ (List.mem_singleton_self _)

theorem afterWaking (h : call.Fits past up place) :
  call.afterWaking.Fits past up place
  := by
  cases call with
  | asleep => trivial
  | _ => exact h

end Call.Fits

namespace Founded

theorem later (h : f.Founded past) (action : Action) :
  f.Founded (past ++ [action])
  := by
  intro place call hcall
  apply (h place call hcall).mono (List.subset_append_left past _) id

theorem concat {up : Bool} (h : f.Founded past) (hup : f.raised = true → up = true)
    (hafter : after.Fits past up f.calls.length) :
  Founded past ⟨up, f.holder, f.calls ++ [after]⟩
  := by
  intro place call hcall
  obtain hold | ⟨rfl, rfl⟩ := getElem?_concat_cases hcall
  · apply (h place call hold).mono (List.Subset.refl past) hup
  · exact hafter

theorem set (h : f.Founded past) (hafter : after.Fits past f.raised place) (holder : Option Nat) :
  Founded past ⟨f.raised, holder, f.calls.set place after⟩
  := by
  intro other call hother
  obtain ⟨rfl, rfl⟩ | ⟨-, hother⟩ := getElem?_set_cases hother
  · exact hafter
  · apply h other call hother

theorem step (h : f.Founded past) (hchange : Change f action f') :
  f'.Founded (past ++ [action])
  := by
  have hlater := h.later action
  cases hchange with
  | stop => exact hlater.concat (fun _ => rfl) rfl
  | wait => exact hlater.concat id trivial
  | lock place before after hcall hfree hlocks =>
    exact hlater.set ((hlater place before hcall).locks hlocks) _
  | look place before after hcall hlooks =>
    exact hlater.set ((hlater place before hcall).looks hlooks) _
  | announce place first hcall =>
    intro other call hother
    obtain ⟨old, hold, rfl⟩ := getElem?_afterWaking hother
    have hleaving : (Call.leaving first).Fits (past ++ [.advance place]) f.raised place :=
      hlater place (.announcing first) hcall
    exact (hlater.set hleaving f.holder other old hold).afterWaking
  | unlock place before after hcall hunlocks =>
    exact hlater.set ((hlater place before hcall).unlocks hunlocks) _
  | stir action place before after hcall hstirs => exact hlater.set (.stirs hstirs) _

end Founded

/-! ### Nobody sleeps behind a stop -/

/-- Whether the call has woken the sleepers. -/
def Call.hasWoken : Call → Bool
  | leaving _ | stopped _ => true
  | _ => false

/-- Whether the call sleeps, or will do so next whatever happens. -/
def Call.isDrowsy : Call → Bool
  | asleep | retiring => true
  | _ => false

/-- Once a call has woken the sleepers, nobody sleeps and nobody will. -/
def Wakeful (f : StopFlag) : Prop :=
  ∀ call ∈ f.calls, call.hasWoken = true → ∀ other ∈ f.calls, other.isDrowsy = false

theorem Call.Looks.wakeful (h : before.Looks true after) :
  after.hasWoken = false ∧ after.isDrowsy = false
  := by
  cases h <;> exact ⟨rfl, rfl⟩

theorem Call.Locks.wakeful (h : before.Locks after) :
  after.hasWoken = false ∧ after.isDrowsy = false
  := by
  cases h <;> exact ⟨rfl, rfl⟩

theorem Call.Stirs.wakeful (h : Call.Stirs place action before after) :
  after.hasWoken = false ∧ after.isDrowsy = false
  := by
  cases h <;> exact ⟨rfl, rfl⟩

theorem Call.Unlocks.wakeful (h : before.Unlocks after) :
  after.hasWoken = before.hasWoken ∧ after.isDrowsy = before.isDrowsy
  := by
  cases h <;> exact ⟨rfl, rfl⟩

/-- As long as the flag is down, nobody has woken the sleepers. -/
theorem Founded.wakeful (h : f.Founded past) (hdown : f.raised = false) :
  f.Wakeful
  := by
  intro call hmem hwoken
  obtain ⟨place, hcall⟩ := List.getElem?_of_mem hmem
  have hfits := h place call hcall
  cases call with
  | leaving | stopped =>
    rw [Call.Fits, hdown] at hfits
    cases hfits
  | _ => cases hwoken

namespace Wakeful

theorem concat (h : f.Wakeful) (hafter : after.hasWoken = false ∧ after.isDrowsy = false)
    (up : Bool) :
  Wakeful ⟨up, f.holder, f.calls ++ [after]⟩
  := by
  intro call hcall hwoken other hother
  have hold : call ∈ f.calls := by
    obtain hold | hlast := List.mem_append.mp hcall
    · exact hold
    · rw [List.mem_singleton.mp hlast, hafter.1] at hwoken
      cases hwoken
  obtain hother | hlast := List.mem_append.mp hother
  · apply h call hold hwoken other hother
  · rw [List.mem_singleton.mp hlast]
    exact hafter.2

theorem set (h : f.Wakeful) (hcall : f.calls[place]? = some before)
    (hwoken : after.hasWoken = true → before.hasWoken = true)
    (hdrowsy : after.isDrowsy = true → before.isDrowsy = true) (holder : Option Nat) :
  Wakeful ⟨f.raised, holder, f.calls.set place after⟩
  := by
  have hbefore := List.mem_of_getElem? hcall
  intro call hmem hawake other hother
  obtain ⟨source, hsource, hawake⟩ : ∃ source ∈ f.calls, source.hasWoken = true := by
    obtain hold | rfl := List.mem_or_eq_of_mem_set hmem
    · exact ⟨call, hold, hawake⟩
    · exact ⟨before, hbefore, hwoken hawake⟩
  obtain hold | rfl := List.mem_or_eq_of_mem_set hother
  · apply h source hsource hawake other hold
  · rw [← Bool.not_eq_true]
    intro hsleeps
    have hrested := h source hsource hawake before hbefore
    rw [hdrowsy hsleeps] at hrested
    cases hrested

theorem set_of_wakeful (h : f.Wakeful) (hcall : f.calls[place]? = some before)
    (hafter : after.hasWoken = false ∧ after.isDrowsy = false) (holder : Option Nat) :
  Wakeful ⟨f.raised, holder, f.calls.set place after⟩
  := by
  apply h.set hcall
  · rw [hafter.1]
    nofun
  · rw [hafter.2]
    nofun

/-- Whoever has the lock and wakes the sleepers leaves nobody that is about to sleep. -/
theorem announce (hexclusive : f.Exclusive) {first : Bool}
    (hcall : f.calls[place]? = some (.announcing first)) :
  Wakeful ⟨f.raised, f.holder, (f.calls.set place (.leaving first)).map Call.afterWaking⟩
  := by
  intro _ _ _ other hother
  obtain ⟨old, hold, rfl⟩ := List.mem_map.mp hother
  cases old with
  | retiring =>
    obtain hmem | hleaving := List.mem_or_eq_of_mem_set hold
    · obtain ⟨there, hthere⟩ := List.getElem?_of_mem hmem
      obtain rfl := hexclusive.place_eq hcall rfl hthere rfl
      cases hcall.symm.trans hthere
    · cases hleaving
  | _ => rfl

theorem step (h : f.Wakeful) (hexclusive : f.Exclusive) (hfounded : f'.Founded past)
    (hchange : Change f action f') :
  f'.Wakeful
  := by
  cases hchange with
  | stop => exact h.concat ⟨rfl, rfl⟩ true
  | wait => exact h.concat ⟨rfl, rfl⟩ f.raised
  | lock place before after hcall hfree hlocks => exact h.set_of_wakeful hcall hlocks.wakeful _
  | look place before after hcall hlooks =>
    cases hup : f.raised with
    | false =>
      rw [hup] at hfounded
      exact hfounded.wakeful rfl
    | true =>
      rw [hup] at hlooks
      rw [← hup]
      exact h.set_of_wakeful hcall hlooks.wakeful _
  | announce place first hcall => exact announce hexclusive hcall
  | unlock place before after hcall hunlocks =>
    obtain ⟨hwoken, hdrowsy⟩ := hunlocks.wakeful
    exact h.set hcall hwoken.symm.trans hdrowsy.symm.trans _
  | stir action place before after hcall hstirs =>
    exact h.set_of_wakeful hcall hstirs.wakeful _

end Wakeful

end StopFlag

end BoundedLog
