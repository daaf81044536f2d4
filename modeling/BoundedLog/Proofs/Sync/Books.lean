import BoundedLog.Proofs.Sync.Permits
import Mathlib.Data.List.Nodup

/-!
# No permit and no wake-up is lost

The calls that are after a permit are entered in books beside the permits: who waits, how many permits
the steps of the call have taken away, what it has returned. What a step has taken is seen by the
count, and what it has returned by its outcome, so that the two agree is something to prove. With a
step a call begins, goes on or returns, or no call is concerned, and each keeps the books in order
(`Books`).
-/

namespace BoundedLog

namespace Permits

variable {p p' : Permits} {action : Action} {actions : List Action} {outcome : Outcome}
  {outcomes : List Outcome} {waiter : Waiter}

/-! ### The books -/

/-- A call that is after a permit. -/
structure Visit where
  /-- Who waits if there is no permit; nobody if the call does not wait. -/
  waiter? : Option Waiter
  /-- How many permits its steps have taken away. -/
  taken : Nat
  /-- What it has returned, if it has: whether it got a permit. -/
  answer? : Option Bool
  deriving DecidableEq, Repr

namespace Visit

/-- Whether the call has returned and says that it got a permit. -/
def succeeded (v : Visit) : Bool := v.answer? == some true

/-- Who waits in a call that has not returned. -/
def waiting? (v : Visit) : Option Waiter := if v.answer?.isNone then v.waiter? else none

/-- One more step of the call, which takes permits and may return. -/
def goOn (v : Visit) (taken : Nat) (answer? : Option Bool) : Visit :=
  { v with taken := v.taken + taken, answer? }

/-- The call behind a step of a thread, which is one of the call if it is the thread that waits. -/
def proceed (thread taken : Nat) (answer? : Option Bool) (v : Visit) : Visit :=
  if v.waiting?.any (·.thread == thread) then v.goOn taken answer? else v

/-- The call has taken a permit if it says so and none otherwise, and it has given up only if its
time can be over. -/
structure Settled (v : Visit) : Prop where
  taken_eq : v.taken = if v.succeeded then 1 else 0
  timed : v.answer? = some false → ∀ waiter ∈ v.waiter?, waiter.timed = true

end Visit

/-- What the thread is told of a step, if its call returns with it. -/
def Outcome.answer? : Outcome → Option Bool
  | took => some true
  | missed => some false
  | done | waits => none

/-- Whether an action adds a permit. -/
def Action.isPost : Action → Bool
  | post _ => true
  | _ => false

/-- Who begins a call that is after a permit, if the action is the beginning of one. -/
def Action.caller? : Action → Option (Option Waiter)
  | tryTake => some none
  | wait waiter => some (some waiter)
  | _ => none

/-- The calls behind one more action, which takes permits and may be the last step of its call. -/
def book (visits : List Visit) (taken : Nat) (answer? : Option Bool) : Action → List Visit
  | .post _ => visits
  | .tryTake => visits ++ [⟨none, taken, answer?⟩]
  | .wait waiter => visits ++ [⟨some waiter, taken, answer?⟩]
  | .resume thread | .rouse thread | .expire thread =>
    visits.map (Visit.proceed thread taken answer?)

/-- The calls behind a list of actions, as far as these are possible. What a step has taken is seen
by the count. -/
def visits (p : Permits) (before : List Visit) : List Action → List Visit
  | [] => before
  | action :: actions =>
    match p.step action with
    | none => before
    | some (outcome, next) =>
      next.visits (book before (p.count - next.count) outcome.answer? action) actions

theorem Visit.Settled.taken_iff {v : Visit} (h : v.Settled) :
  v.taken ≤ 1 ∧ (v.taken = 1 ↔ v.answer? = some true)
  := by
  have htold : v.succeeded = true ↔ v.answer? = some true := beq_iff_eq
  rw [h.taken_eq, ← htold]
  cases v.succeeded <;> decide

namespace Visit

variable {v : Visit}

theorem answer?_of_waiting (h : v.waiting? = some waiter) :
  v.answer? = none ∧ v.waiter? = some waiter
  := by
  rw [waiting?] at h
  split at h
  · next hnone => exact ⟨Option.isNone_iff_eq_none.mp hnone, h⟩
  · cases h

theorem succeeded_of_waiting (h : v.waiting? = some waiter) :
  v.succeeded = false
  := by
  rw [succeeded, (answer?_of_waiting h).1]
  rfl

theorem succeeded_goOn (v : Visit) (taken : Nat) (answer : Bool) :
  (v.goOn taken (some answer)).succeeded = answer
  := by
  cases answer <;> rfl

/-- A call that was waiting has taken nothing before its last step. -/
theorem Settled.finish (h : v.Settled) (hwaits : v.waiting? = some waiter) (answer : Bool)
    (htimed : answer = false → waiter.timed = true) :
  (v.goOn (if answer then 1 else 0) (some answer)).Settled
  := by
  constructor
  · rw [succeeded_goOn, goOn, h.taken_eq, succeeded_of_waiting hwaits]
    apply Nat.zero_add
  · intro hanswer other hother
    cases (answer?_of_waiting hwaits).2.symm.trans hother
    apply htimed (Option.some.inj hanswer)

end Visit

/-- The books tell how many permits there are and who waits. -/
structure Books (initial : Nat) (past : List Action) (visits : List Visit) (p : Permits) : Prop where
  callers_eq : visits.map Visit.waiter? = past.filterMap Action.caller?
  settled (v : Visit) (hmem : v ∈ visits) : v.Settled
  count_eq : p.count + visits.countP Visit.succeeded = initial + past.countP Action.isPost
  perm : (visits.filterMap Visit.waiting?).Perm p.waiting
  nodup : (p.waiting.map Waiter.thread).Nodup

theorem mem_waiting_of_asleep (hmem : waiter ∈ p.asleep) :
  waiter ∈ p.waiting
  := List.mem_append_left _ hmem

theorem mem_waiting_of_woken {waking : Waking} (hmem : (waiter, waking) ∈ p.woken) :
  waiter ∈ p.waiting
  := List.mem_append_right _ (List.mem_map_of_mem hmem)

theorem countP_isPost_singleton (hpost : action.isPost = false) :
  [action].countP Action.isPost = 0
  := by
  rw [List.countP_singleton, hpost]
  rfl

namespace Books

variable {initial : Nat} {past : List Action} {before : List Visit}

/-- A waiting thread is in one of the calls only. -/
theorem exists_visit (h : Books initial past before p) (hmem : waiter ∈ p.waiting) (taken : Nat)
    (answer? : Option Bool) :
  ∃ first v last, before = first ++ v :: last ∧ v.waiting? = some waiter
    ∧ before.map (Visit.proceed waiter.thread taken answer?)
      = first ++ v.goOn taken answer? :: last
  := by
  obtain ⟨v, hv, hwaits⟩ := List.mem_filterMap.mp (h.perm.mem_iff.mpr hmem)
  obtain ⟨first, last, rfl⟩ := List.append_of_mem hv
  refine ⟨first, v, last, rfl, hwaits, ?_⟩
  have hnodup := (h.perm.map Waiter.thread).nodup_iff.mpr h.nodup
  rw [List.filterMap_append, List.filterMap_cons_some hwaits, List.map_append, List.map_cons,
    List.nodup_middle, List.nodup_cons, ← List.map_append, ← List.filterMap_append] at hnodup
  have hothers : ∀ u ∈ first ++ last, u.proceed waiter.thread taken answer? = u := by
    intro u hu
    apply if_neg
    intro hsame
    obtain ⟨other, hother, hthread⟩ := (Option.any_eq_true _ _).mp hsame
    rw [← beq_iff_eq.mp hthread] at hnodup
    apply hnodup.1 (List.mem_map_of_mem (List.mem_filterMap.mpr ⟨u, hu, hother⟩))
  have hthis : v.proceed waiter.thread taken answer? = v.goOn taken answer? := by
    apply if_pos
    rw [hwaits]
    exact beq_self_eq_true waiter.thread
  rw [List.map_append, List.map_cons, hthis]
  congr 2
  · apply (List.map_congr_left fun u hu => hothers u (List.mem_append_left _ hu)).trans
    apply List.map_id
  · apply (List.map_congr_left fun u hu => hothers u (List.mem_append_right _ hu)).trans
    apply List.map_id

/-- No call begins or returns. -/
theorem pass (h : Books initial past before p) (hcaller : action.caller? = none)
    (hcount : p'.count = p.count + if action.isPost then 1 else 0)
    (hperm : p'.waiting.Perm p.waiting) :
  Books initial (past ++ [action]) before p'
  where
  callers_eq := by
    rw [List.filterMap_append, h.callers_eq, List.filterMap_cons_none hcaller]
    exact (List.append_nil _).symm
  settled := h.settled
  count_eq := by
    have hcounted := h.count_eq
    rw [hcount, List.countP_append, List.countP_singleton]
    omega
  perm := h.perm.trans hperm.symm
  nodup := (hperm.map _).nodup_iff.mpr h.nodup

/-- A call begins, and may return at once. -/
theorem begin (h : Books initial past before p) (v : Visit)
    (hcaller : action.caller? = some v.waiter?) (hpost : action.isPost = false)
    (hsettled : v.Settled) (hcount : p'.count + v.taken = p.count)
    (hnew : ∀ waiter ∈ v.waiting?, waiter.thread ∉ p.waiting.map Waiter.thread)
    (hperm : p'.waiting.Perm (v.waiting?.toList ++ p.waiting)) :
  Books initial (past ++ [action]) (before ++ [v]) p'
  where
  callers_eq := by
    rw [List.map_append, List.filterMap_append, h.callers_eq, List.filterMap_cons_some hcaller]
    rfl
  settled := by
    intro u hu
    obtain hold | hlast := List.mem_append.mp hu
    · apply h.settled u hold
    · rw [List.mem_singleton.mp hlast]
      exact hsettled
  count_eq := by
    have hcounted := h.count_eq
    rw [List.countP_append, List.countP_append, List.countP_singleton, ← hsettled.taken_eq,
      countP_isPost_singleton hpost]
    omega
  perm := by
    have hlast : [v].filterMap Visit.waiting? = v.waiting?.toList := by
      cases hwaits : v.waiting? <;> simp [hwaits]
    rw [List.filterMap_append, hlast]
    apply (h.perm.append_right _).trans
    apply List.perm_append_comm.trans hperm.symm
  nodup := by
    apply (hperm.map _).nodup_iff.mpr
    cases hwaits : v.waiting? with
    | none => exact h.nodup
    | some waiter => exact List.nodup_cons.mpr ⟨hnew waiter hwaits, h.nodup⟩

/-- A call begins and returns with the same step. -/
theorem beginAndFinish (h : Books initial past before p) (waiter? : Option Waiter) (answer : Bool)
    (hcaller : action.caller? = some waiter?) (hpost : action.isPost = false)
    (hcount : p'.count + (if answer then 1 else 0) = p.count) (hwaiting : p'.waiting = p.waiting)
    (htimed : answer = false → ∀ waiter ∈ waiter?, waiter.timed = true) :
  Books initial (past ++ [action]) (before ++ [⟨waiter?, p.count - p'.count, some answer⟩]) p'
  := by
  have htaken : p.count - p'.count = if answer then 1 else 0 := by omega
  apply h.begin _ hcaller hpost
  · constructor
    · rw [htaken]
      cases answer <;> rfl
    · intro hanswer
      apply htimed (Option.some.inj hanswer)
  · show p'.count + (p.count - p'.count) = p.count
    omega
  · rintro waiter ⟨⟩
  · exact .of_eq hwaiting

/-- A waiting call goes on waiting, which is not seen in the books. -/
theorem goOn (h : Books initial past before p) (hmem : waiter ∈ p.waiting)
    (hcaller : action.caller? = none) (hpost : action.isPost = false) (hcount : p'.count = p.count)
    (hperm : p'.waiting.Perm p.waiting) :
  Books initial (past ++ [action])
    (before.map (Visit.proceed waiter.thread (p.count - p'.count) none)) p'
  := by
  obtain ⟨first, v, last, hbefore, hwaits, hbook⟩ := h.exists_visit hmem (p.count - p'.count) none
  have hsame : v.goOn (p.count - p'.count) none = v := by
    rw [hcount, Nat.sub_self, ← (Visit.answer?_of_waiting hwaits).1]
    rfl
  rw [hbook, hsame, ← hbefore]
  apply h.pass hcaller _ hperm
  rw [hcount, hpost]
  rfl

/-- A waiting call returns. -/
theorem finish (h : Books initial past before p) (hmem : waiter ∈ p.waiting) (answer : Bool)
    (hcaller : action.caller? = none) (hpost : action.isPost = false)
    (htimed : answer = false → waiter.timed = true)
    (hcount : p'.count + (if answer then 1 else 0) = p.count)
    (hperm : p.waiting.Perm (waiter :: p'.waiting)) :
  Books initial (past ++ [action])
    (before.map (Visit.proceed waiter.thread (p.count - p'.count) (some answer))) p'
  := by
  have htaken : p.count - p'.count = if answer then 1 else 0 := by omega
  obtain ⟨first, v, last, rfl, hwaits, hbook⟩ :=
    h.exists_visit hmem (p.count - p'.count) (some answer)
  rw [hbook, htaken]
  constructor
  case callers_eq =>
    rw [List.filterMap_append, ← h.callers_eq, List.filterMap_cons_none hcaller, List.map_append,
      List.map_append]
    exact (List.append_nil _).symm
  case settled =>
    intro u hu
    obtain hfirst | hu := List.mem_append.mp hu
    · apply h.settled u (List.mem_append_left _ hfirst)
    obtain rfl | hlast := List.mem_cons.mp hu
    · apply (h.settled v List.mem_append_cons_self).finish hwaits answer htimed
    · apply h.settled u (List.mem_append_right _ (List.mem_cons_of_mem _ hlast))
  case count_eq =>
    have hcounted := h.count_eq
    have hopen : ¬v.succeeded = true := by
      rw [Visit.succeeded_of_waiting hwaits]
      nofun
    rw [List.countP_append, List.countP_cons_of_neg hopen] at hcounted
    rw [List.countP_append, List.countP_cons, List.countP_append, Visit.succeeded_goOn,
      countP_isPost_singleton hpost]
    omega
  case perm =>
    have hwaiting := h.perm.trans hperm
    rw [List.filterMap_append, List.filterMap_cons_some hwaits] at hwaiting
    rw [List.filterMap_append, List.filterMap_cons_none rfl]
    apply (List.perm_middle.symm.trans hwaiting).cons_inv
  case nodup =>
    exact (List.nodup_cons.mp ((hperm.map _).nodup_iff.mp h.nodup)).2

/-- Every step keeps the books in order. -/
theorem step (h : Books initial past before p) (hpunctual : p.Punctual)
    (hchange : Change p action outcome p') :
  Books initial (past ++ [action]) (book before (p.count - p'.count) outcome.answer? action) p'
  := by
  cases hchange with
  | post turn hnobody => exact h.pass rfl rfl (.refl _)
  | notify turn place waiter hplace =>
    obtain ⟨hlt, rfl⟩ := List.getElem?_eq_some_iff.mp hplace
    apply h.pass rfl rfl
    apply perm_waiting_wake (List.getElem_cons_eraseIdx_perm hlt).symm
  | tryTake count hcount => exact h.beginAndFinish none true rfl rfl hcount.symm rfl nofun
  | tryMiss hcount => exact h.beginAndFinish none false rfl rfl rfl rfl nofun
  | waitTake waiter count hcount =>
    exact h.beginAndFinish (some waiter) true rfl rfl hcount.symm rfl nofun
  | sleep waiter hcount hnew =>
    rw [← Bool.not_eq_true, isWaiting_iff] at hnew
    apply h.begin ⟨some waiter, _, none⟩ rfl rfl ⟨Nat.sub_self _, nofun⟩
    · show p.count + (p.count - p.count) = p.count
      omega
    · rintro other ⟨⟩
      apply hnew
    · show (p.asleep ++ [waiter] ++ p.woken.map Prod.fst).Perm (waiter :: p.waiting)
      rw [List.append_assoc]
      apply List.perm_middle
  | resumeTake waiter waking hmem count hcount =>
    refine h.finish (mem_waiting_of_woken hmem) true rfl rfl nofun hcount.symm ?_
    apply perm_waiting_resume hmem count
  | resumeMiss waiter waking hmem hcount hexpired =>
    have htimed := hpunctual _ hmem hexpired
    refine h.finish (mem_waiting_of_woken hmem) false rfl rfl (fun _ => htimed) rfl ?_
    apply perm_waiting_resume hmem p.count
  | resumeSleep waiter waking hmem hcount =>
    refine h.goOn (mem_waiting_of_woken hmem) rfl rfl rfl ?_
    apply List.Perm.trans _ (perm_waiting_resume hmem p.count).symm
    rw [waiting, List.append_assoc]
    apply List.perm_middle
  | rouse waiter hmem | expire waiter hmem =>
    refine h.goOn (mem_waiting_of_asleep hmem) rfl rfl rfl ?_
    apply perm_waiting_wake (List.perm_cons_erase hmem)
  | expireLate waiter waking hmem htimed =>
    refine h.goOn (mem_waiting_of_woken hmem) rfl rfl rfl ?_
    rw [waiting, List.map_map]
    rfl

end Books

/-! ### Runs -/

theorem run_cons (hrun : p.run (action :: actions) = some (outcomes, p')) :
  ∃ outcome next rest, p.step action = some (outcome, next) ∧ next.run actions = some (rest, p')
    ∧ outcomes = outcome :: rest
  := by
  obtain ⟨⟨outcome, next⟩, hstep, hrun⟩ := Option.bind_eq_some_iff.mp hrun
  obtain ⟨⟨rest, last⟩, hrest, hrun⟩ := Option.bind_eq_some_iff.mp hrun
  cases hrun
  exact ⟨outcome, next, rest, hstep, hrest, rfl⟩

/-- What is kept throughout a run. -/
structure Kept (initial : Nat) (past : List Action) (visits : List Visit) (p : Permits) : Prop where
  books : Books initial past visits p
  awake : p.Awake
  punctual : p.Punctual

theorem Kept.initially (initial : Nat) :
  Kept initial [] [] { count := initial }
  where
  books := ⟨rfl, nofun, rfl, .nil, .nil⟩
  awake := nofun
  punctual := nofun

theorem Kept.run {initial : Nat} {past : List Action} {before : List Visit}
    (h : Kept initial past before p) (hrun : p.run actions = some (outcomes, p')) :
  Kept initial (past ++ actions) (p.visits before actions) p'
  := by
  induction actions generalizing p past before outcomes with
  | nil =>
    cases hrun
    rw [List.append_nil]
    exact h
  | cons action actions ih =>
    obtain ⟨outcome, next, rest, hstep, hrest, -⟩ := run_cons hrun
    have hchange := change_of_step hstep
    have hbooks := h.books.step h.punctual hchange
    rw [visits, hstep, List.append_cons]
    exact ih ⟨hbooks, h.awake.step hchange, h.punctual.step hchange⟩ hrest

/-- Neither a permit nor a wake-up is lost, whoever does what in whatever order. The permits that are
there and those that were taken are as many as there were at first and were added. A call takes a
permit exactly if it says so when it returns, and never more than one; who gives up has run out of
time or did not wait. Whoever has not returned is asleep or was woken. As long as anybody sleeps,
there are no more permits than threads that were woken for one and are about to look, so none is
there if everybody who waits is asleep. -/
theorem run_loses_nothing (initial : Nat)
    (hrun : ({ count := initial } : Permits).run actions = some (outcomes, p)) :
  let calls := ({ count := initial } : Permits).visits [] actions
  calls.map Visit.waiter? = actions.filterMap Action.caller?
    ∧ p.count + calls.countP (·.answer? == some true) = initial + actions.countP Action.isPost
    ∧ (∀ v ∈ calls, v.taken ≤ 1 ∧ (v.taken = 1 ↔ v.answer? = some true))
    ∧ (∀ v ∈ calls, v.answer? = some false → ∀ waiter ∈ v.waiter?, waiter.timed = true)
    ∧ (calls.filterMap Visit.waiting?).Perm (p.asleep ++ p.woken.map Prod.fst)
    ∧ (p.asleep ≠ [] → p.count ≤ p.woken.countP (·.2.notified))
    ∧ (p.asleep ≠ [] → p.woken = [] → p.count = 0)
  := by
  intro calls
  have hkept : Kept initial actions calls p := (Kept.initially initial).run hrun
  have hbooks := hkept.books
  refine ⟨hbooks.callers_eq, hbooks.count_eq, ?_, fun v hv => (hbooks.settled v hv).timed,
    hbooks.perm, hkept.awake, ?_⟩
  · intro v hv
    apply (hbooks.settled v hv).taken_iff
  · intro hasleep hwoken
    have hcount := hkept.awake hasleep
    rw [notified, hwoken] at hcount
    apply Nat.eq_zero_of_le_zero hcount

/-- The first permit is taken away from the thread that was woken for it, whose time is over before
it resumes. The second one is for a thread that is about to look, while another one sleeps. -/
theorem run_loses_nothing_to_thief :
  let actions : List Action :=
    [.wait ⟨0, true⟩, .wait ⟨1, true⟩, .post 0, .tryTake, .wait ⟨2, false⟩, .expire 0, .resume 0,
      .rouse 2, .resume 2, .post 0]
  ∃ outcomes p, ({} : Permits).run actions = some (outcomes, p)
    ∧ ({} : Permits).visits [] actions
      = [⟨some ⟨0, true⟩, 0, some false⟩, ⟨some ⟨1, true⟩, 0, none⟩, ⟨none, 1, some true⟩,
        ⟨some ⟨2, false⟩, 0, none⟩]
    ∧ p.asleep = [⟨2, false⟩] ∧ p.woken = [(⟨1, true⟩, ⟨true, false⟩)]
    ∧ p.count = 1 ∧ p.count ≤ p.woken.countP (·.2.notified)
  := by
  intro actions
  obtain ⟨outcomes, p, hrun, hasleep, hwoken⟩ : ∃ outcomes p,
      ({} : Permits).run actions = some (outcomes, p) ∧ p.asleep = [⟨2, false⟩]
        ∧ p.woken = [(⟨1, true⟩, ⟨true, false⟩)] := ⟨_, _, rfl, rfl, rfl⟩
  have hcalls : ({} : Permits).visits [] actions
      = [⟨some ⟨0, true⟩, 0, some false⟩, ⟨some ⟨1, true⟩, 0, none⟩, ⟨none, 1, some true⟩,
        ⟨some ⟨2, false⟩, 0, none⟩] := rfl
  obtain ⟨-, hcount, -, -, -, hawake, -⟩ := run_loses_nothing 0 hrun
  rw [hcalls] at hcount
  refine ⟨outcomes, p, hrun, hcalls, hasleep, hwoken, Nat.add_right_cancel hcount, hawake ?_⟩
  rw [hasleep]
  nofun

end Permits

end BoundedLog
