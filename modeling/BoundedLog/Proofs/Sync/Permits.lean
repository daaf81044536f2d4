import BoundedLog.Sync.Permits
import Mathlib.Data.List.Perm.Basic

/-!
# Permits, step by step

What a step may come to is said once (`Change`), with what it needs to be possible. Two things are
kept by every step, whoever takes a permit away between a wake-up and the look that follows it. If
anybody sleeps, there are no more permits than waiters that were woken for one and have not resumed
(`Awake`): adding a permit wakes a sleeper, and whoever resumes takes a permit or finds none. Only those
run out of time who give up in time (`Punctual`).
-/

namespace BoundedLog

namespace Permits

variable {p p' : Permits} {action : Action} {actions : List Action} {outcome : Outcome}
  {outcomes : List Outcome} {waiter : Waiter}

/-! ### What a step changes -/

theorem take?_eq_some {p' : Permits} (h : p.take? = some p') :
  ∃ count, p.count = count + 1 ∧ p' = { p with count }
  := by
  rw [take?] at h
  split at h
  · cases h
  · next count hcount =>
    cases h
    exact ⟨count, hcount, rfl⟩

theorem take?_eq_none (h : p.take? = none) :
  p.count = 0
  := by
  rw [take?] at h
  split at h
  · next hcount => exact hcount
  · cases h

/-- What a step may come to. -/
inductive Change (p : Permits) : Action → Outcome → Permits → Prop
  | post (turn : Nat) (hnobody : p.asleep = []) :
    Change p (.post turn) .done { p with count := p.count + 1 }
  | notify (turn place : Nat) (waiter : Waiter) (hplace : p.asleep[place]? = some waiter) :
    Change p (.post turn) .done
      ⟨p.count + 1, p.asleep.eraseIdx place, p.woken ++ [(waiter, ⟨true, false⟩)]⟩
  | tryTake (count : Nat) (hcount : p.count = count + 1) :
    Change p .tryTake .took { p with count }
  | tryMiss (hcount : p.count = 0) :
    Change p .tryTake .missed p
  | waitTake (waiter : Waiter) (count : Nat) (hcount : p.count = count + 1) :
    Change p (.wait waiter) .took { p with count }
  | sleep (waiter : Waiter) (hcount : p.count = 0) (hnew : p.isWaiting waiter.thread = false) :
    Change p (.wait waiter) .waits { p with asleep := p.asleep ++ [waiter] }
  | resumeTake (waiter : Waiter) (waking : Waking) (hmem : (waiter, waking) ∈ p.woken)
      (count : Nat) (hcount : p.count = count + 1) :
    Change p (.resume waiter.thread) .took ⟨count, p.asleep, p.woken.erase (waiter, waking)⟩
  | resumeMiss (waiter : Waiter) (waking : Waking) (hmem : (waiter, waking) ∈ p.woken)
      (hcount : p.count = 0) (hexpired : waking.expired = true) :
    Change p (.resume waiter.thread) .missed { p with woken := p.woken.erase (waiter, waking) }
  | resumeSleep (waiter : Waiter) (waking : Waking) (hmem : (waiter, waking) ∈ p.woken)
      (hcount : p.count = 0) :
    Change p (.resume waiter.thread) .waits
      ⟨p.count, p.asleep ++ [waiter], p.woken.erase (waiter, waking)⟩
  | rouse (waiter : Waiter) (hmem : waiter ∈ p.asleep) :
    Change p (.rouse waiter.thread) .waits
      ⟨p.count, p.asleep.erase waiter, p.woken ++ [(waiter, ⟨false, false⟩)]⟩
  | expire (waiter : Waiter) (hmem : waiter ∈ p.asleep) (htimed : waiter.timed = true) :
    Change p (.expire waiter.thread) .waits
      ⟨p.count, p.asleep.erase waiter, p.woken ++ [(waiter, ⟨false, true⟩)]⟩
  | expireLate (waiter : Waiter) (waking : Waking) (hmem : (waiter, waking) ∈ p.woken)
      (htimed : waiter.timed = true) :
    Change p (.expire waiter.thread) .waits { p with woken := p.woken.map waiter.runOut }

theorem change_post (p : Permits) (turn : Nat) :
  Change p (.post turn) .done (p.post turn)
  := by
  rw [Permits.post]
  split
  · next hnone =>
    apply Change.post
    rw [List.getElem?_eq_none_iff] at hnone
    by_contra hsome
    have hlt := Nat.mod_lt turn (List.length_pos_iff.mpr hsome)
    omega
  · next waiter hsome => apply Change.notify turn _ waiter hsome

theorem exists_of_wakeUp {thread : Nat} {waking : Waking} {mayWake : Waiter → Bool}
    (h : p.wakeUp thread waking mayWake = some p') :
  ∃ waiter ∈ p.asleep, waiter.thread = thread ∧ mayWake waiter = true
    ∧ p' = ⟨p.count, p.asleep.erase waiter, p.woken ++ [(waiter, waking)]⟩
  := by
  obtain ⟨waiter, hfind, h⟩ := Option.bind_eq_some_iff.mp h
  split at h
  · next hmay =>
    cases h
    exact ⟨waiter, List.mem_of_find?_eq_some hfind, by simpa using List.find?_some hfind, hmay, rfl⟩
  · cases h

theorem exists_of_runLate {thread : Nat} (h : p.runLate thread = some p') :
  ∃ waiter waking, (waiter, waking) ∈ p.woken ∧ waiter.thread = thread ∧ waiter.timed = true
    ∧ p' = { p with woken := p.woken.map waiter.runOut }
  := by
  obtain ⟨⟨waiter, waking⟩, hfind, h⟩ := Option.bind_eq_some_iff.mp h
  by_cases htimed : waiter.timed = true
  · cases (if_pos htimed).symm.trans h
    exact ⟨waiter, waking, List.mem_of_find?_eq_some hfind, by simpa using List.find?_some hfind,
      htimed, rfl⟩
  · cases (if_neg htimed).symm.trans h

theorem change_of_step (hstep : p.step action = some (outcome, p')) :
  Change p action outcome p'
  := by
  cases action with
  | post turn =>
    cases hstep
    apply change_post
  | tryTake =>
    rw [step] at hstep
    split at hstep
    · next htake =>
      obtain ⟨count, hcount, rfl⟩ := take?_eq_some htake
      cases hstep
      apply Change.tryTake count hcount
    · next htake =>
      cases hstep
      apply Change.tryMiss (take?_eq_none htake)
  | wait waiter =>
    rw [step] at hstep
    split at hstep
    · cases hstep
    · next hnew =>
      split at hstep
      · next htake =>
        obtain ⟨count, hcount, rfl⟩ := take?_eq_some htake
        cases hstep
        apply Change.waitTake waiter count hcount
      · next htake =>
        cases hstep
        apply Change.sleep waiter (take?_eq_none htake) (Bool.not_eq_true _ ▸ hnew)
  | resume thread =>
    obtain ⟨⟨waiter, waking⟩, hfind, hresume⟩ := Option.bind_eq_some_iff.mp hstep
    have hmem := List.mem_of_find?_eq_some hfind
    obtain rfl : waiter.thread = thread := by simpa using List.find?_some hfind
    dsimp only at hresume
    split at hresume
    · next htake =>
      obtain ⟨count, hcount, rfl⟩ := take?_eq_some htake
      cases hresume
      apply Change.resumeTake waiter waking hmem count hcount
    · next htake =>
      have hcount := take?_eq_none htake
      split at hresume
      · next hexpired =>
        cases hresume
        apply Change.resumeMiss waiter waking hmem hcount hexpired
      · cases hresume
        apply Change.resumeSleep waiter waking hmem hcount
  | rouse thread =>
    obtain ⟨next, hwake, hstep⟩ := Option.bind_eq_some_iff.mp hstep
    obtain ⟨waiter, hmem, rfl, -, rfl⟩ := exists_of_wakeUp hwake
    cases hstep
    apply Change.rouse waiter hmem
  | expire thread =>
    obtain ⟨next, hexpire, hstep⟩ := Option.bind_eq_some_iff.mp hstep
    cases hstep
    cases hwake : p.wakeUp thread ⟨false, true⟩ (·.timed) with
    | some woken =>
      rw [hwake] at hexpire
      cases hexpire
      obtain ⟨waiter, hmem, rfl, htimed, rfl⟩ := exists_of_wakeUp hwake
      apply Change.expire waiter hmem htimed
    | none =>
      rw [hwake] at hexpire
      obtain ⟨waiter, waking, hmem, rfl, htimed, rfl⟩ := exists_of_runLate hexpire
      apply Change.expireLate waiter waking hmem htimed

/-! ### Wake-ups -/

/-- How many waiters were woken for a permit and have not resumed. -/
def notified (p : Permits) : Nat := p.woken.countP (·.2.notified)

/-- If anybody sleeps, there is no permit for which nobody was woken. -/
def Awake (p : Permits) : Prop := p.asleep ≠ [] → p.count ≤ p.notified

/-- Only those who give up in time run out of it. -/
def Punctual (p : Permits) : Prop := ∀ entry ∈ p.woken, entry.2.expired = true → entry.1.timed = true

theorem notified_append (p : Permits) (entry : Waiter × Waking) :
  (p.woken ++ [entry]).countP (·.2.notified) = p.notified + if entry.2.notified then 1 else 0
  := by
  rw [List.countP_append, List.countP_singleton]
  rfl

/-- Of those who were woken for a permit, one less is left when somebody resumes, or as many. -/
theorem notified_le_erase (p : Permits) (entry : Waiter × Waking) :
  p.notified ≤ (p.woken.erase entry).countP (·.2.notified) + 1
  := by
  by_cases hmem : entry ∈ p.woken
  · rw [notified, (List.perm_cons_erase hmem).countP_eq, List.countP_cons]
    split
    · apply Nat.le_refl
    · apply Nat.le_succ
  · rw [List.erase_of_not_mem hmem]
    apply Nat.le_succ

theorem Waiter.notified_runOut (waiter : Waiter) (entry : Waiter × Waking) :
  (waiter.runOut entry).2.notified = entry.2.notified
  := by
  rw [runOut]
  split
  · rfl
  · rfl

/-- Whoever was woken for a permit was so even if its time is over. -/
theorem notified_map_runOut (p : Permits) (waiter : Waiter) :
  (p.woken.map waiter.runOut).countP (·.2.notified) = p.notified
  := by
  rw [List.countP_map]
  apply List.countP_congr
  intro entry _
  exact Bool.eq_iff_iff.mp (waiter.notified_runOut entry)

theorem Awake.step (h : p.Awake) (hchange : Change p action outcome p') :
  p'.Awake
  := by
  intro hasleep
  cases hchange with
  | post turn hnobody => exact absurd hnobody hasleep
  | notify turn place waiter hplace =>
    have hcount := h (List.ne_nil_of_mem (List.mem_of_getElem? hplace))
    rw [notified, notified_append]
    apply Nat.add_le_add_right hcount
  | tryTake count hcount | waitTake _ count hcount =>
    have hawake := h hasleep
    rw [hcount] at hawake
    apply Nat.le_of_succ_le hawake
  | tryMiss hcount | sleep _ hcount | resumeMiss _ _ _ hcount | resumeSleep _ _ _ hcount =>
    show p.count ≤ _
    rw [hcount]
    apply Nat.zero_le
  | resumeTake waiter waking _ count hcount =>
    -- Whoever resumes may have been woken for another permit than the one that it takes.
    have hawake := h hasleep
    have hleft := p.notified_le_erase (waiter, waking)
    rw [hcount] at hawake
    apply Nat.le_of_succ_le_succ (Nat.le_trans hawake hleft)
  | rouse waiter hmem | expire waiter hmem =>
    have hcount := h (List.ne_nil_of_mem hmem)
    rw [notified, notified_append]
    apply Nat.le_add_right_of_le hcount
  | expireLate waiter waking hmem htimed =>
    rw [notified, notified_map_runOut]
    apply h hasleep

theorem Punctual.step (h : p.Punctual) (hchange : Change p action outcome p') :
  p'.Punctual
  := by
  cases hchange with
  | post | tryTake | tryMiss | waitTake | sleep => exact h
  | notify | rouse =>
    intro entry hentry hexpired
    obtain hold | hnew := List.mem_append.mp hentry
    · exact h entry hold hexpired
    · cases List.mem_singleton.mp hnew
      cases hexpired
  | expire waiter _ htimed =>
    intro entry hentry hexpired
    obtain hold | hnew := List.mem_append.mp hentry
    · exact h entry hold hexpired
    · cases List.mem_singleton.mp hnew
      exact htimed
  | resumeTake | resumeMiss | resumeSleep =>
    intro entry hentry
    apply h entry (List.mem_of_mem_erase hentry)
  | expireLate waiter waking hmem htimed =>
    intro entry hentry hexpired
    obtain ⟨old, hold, rfl⟩ := List.mem_map.mp hentry
    rw [Waiter.runOut] at hexpired ⊢
    split at hexpired
    · next hother => rw [hother, htimed]
    · exact h old hold hexpired

/-! ### Who waits -/

/-- Everybody who waits, asleep or not. -/
def waiting (p : Permits) : List Waiter := p.asleep ++ p.woken.map Prod.fst

theorem isWaiting_iff (p : Permits) (thread : Nat) :
  p.isWaiting thread = true ↔ thread ∈ p.waiting.map Waiter.thread
  := by
  simp [isWaiting, waiting, Bool.or_eq_true, List.any_eq_true]

theorem perm_waiting_wake {asleep : List Waiter} (hperm : p.asleep.Perm (waiter :: asleep))
    (count : Nat) (waking : Waking) :
  (⟨count, asleep, p.woken ++ [(waiter, waking)]⟩ : Permits).waiting.Perm p.waiting
  := by
  rw [waiting, waiting, List.map_append, ← List.append_assoc]
  apply List.perm_append_comm.trans
  apply (hperm.append_right _).symm

theorem perm_waiting_resume {waking : Waking} (hmem : (waiter, waking) ∈ p.woken) (count : Nat) :
  p.waiting.Perm
    (waiter :: (⟨count, p.asleep, p.woken.erase (waiter, waking)⟩ : Permits).waiting)
  := by
  have hwoken := ((List.perm_cons_erase hmem).map Prod.fst).append_left p.asleep
  apply hwoken.trans List.perm_middle

end Permits

end BoundedLog
