import BoundedLog.Proofs.SharedLog
import BoundedLog.Server

/-!
# What has happened in a run

A run is a list of steps, each from one state of the server to the next, and a longer run only adds
steps behind those of a shorter one. So what holds of a run and of the state it leads to is proved
by looking at the last step. The records that were committed are told from the log alone: from
what it shows before each step and behind it.
-/

namespace BoundedLog.Server

variable {s t t' : Server} {before actions : List Action} {action : Action}

/-- A step of a run, with the states between which it leads. -/
structure Step where
  before : Server
  action : Action
  after : Server

/-- The steps of a run, as far as it is possible. -/
def steps (s : Server) : List Action → List Step
  | [] => []
  | action :: actions =>
    match s.step action with
    | none => []
    | some next => ⟨s, action, next⟩ :: next.steps actions

/-- The record that the log shows to be committed in a step, and the action that commits it. -/
def Step.commit? (step : Step) : Option (Action × Record) :=
  (step.before.hub.log.committed? step.after.hub.log).map (step.action, ·)

/-- The records that are committed in a run, in order. -/
def commits (s : Server) (actions : List Action) : List (Action × Record) :=
  (s.steps actions).filterMap Step.commit?

/-- The action that a commit is by is that of the step. -/
theorem Step.fst_of_mem_commit? {step : Step} {commit : Action × Record}
    (h : commit ∈ step.commit?) :
  commit.1 = step.action
  := by
  obtain ⟨record, -, rfl⟩ := Option.map_eq_some_iff.mp h
  rfl

theorem action_mem_of_mem_steps {step : Step} (h : step ∈ s.steps actions) :
  step.action ∈ actions
  := by
  induction actions generalizing s with
  | nil => cases h
  | cons action actions ih =>
    rw [steps] at h
    split at h
    · cases h
    · rcases List.mem_cons.mp h with rfl | hmem
      · apply List.mem_cons_self
      · apply List.mem_cons_of_mem action (ih hmem)

theorem fst_mem_of_mem_commits {commit : Action × Record} (h : commit ∈ s.commits actions) :
  commit.1 ∈ actions
  := by
  obtain ⟨step, hstep, hcommit⟩ := List.mem_filterMap.mp h
  rw [Step.fst_of_mem_commit? hcommit]
  apply action_mem_of_mem_steps hstep

/-! ### Longer runs -/

theorem run_append (s : Server) (before actions : List Action) :
  s.run (before ++ actions) = (s.run before).bind (·.run actions)
  := by
  induction before generalizing s with
  | nil => rfl
  | cons action before ih =>
    rw [List.cons_append, run, run]
    cases s.step action with
    | none => rfl
    | some next => apply ih

theorem steps_append (h : s.run before = some t) (actions : List Action) :
  s.steps (before ++ actions) = s.steps before ++ t.steps actions
  := by
  induction before generalizing s with
  | nil =>
    obtain rfl := Option.some.inj h
    rfl
  | cons action before ih =>
    obtain ⟨next, hstep, h⟩ := Option.bind_eq_some_iff.mp h
    rw [List.cons_append, steps, steps, hstep]
    dsimp only
    rw [ih h, List.cons_append]

theorem steps_concat (h : s.run before = some t) (hstep : t.step action = some t') :
  s.steps (before ++ [action]) = s.steps before ++ [⟨t, action, t'⟩]
  := by
  rw [steps_append h, steps, hstep]
  rfl

theorem countP_steps_concat (p : Step → Bool) (h : s.run before = some t)
    (hstep : t.step action = some t') :
  (s.steps (before ++ [action])).countP p
    = (s.steps before).countP p + if p ⟨t, action, t'⟩ then 1 else 0
  := by
  rw [steps_concat h hstep, List.countP_append, List.countP_singleton]

theorem commits_concat (h : s.run before = some t) (hstep : t.step action = some t') :
  s.commits (before ++ [action]) = s.commits before ++ (Step.mk t action t').commit?.toList
  := by
  rw [commits, steps_concat h hstep, List.filterMap_append, List.filterMap_cons]
  cases (Step.mk t action t').commit? with
  | none => rfl
  | some commit => rfl

/-- Each step of a run begins where a shorter run ends. -/
theorem exists_run_of_mem_steps {step : Step} (h : step ∈ s.steps actions) :
  ∃ before, s.run before = some step.before ∧ step.before.step step.action = some step.after
  := by
  induction actions generalizing s with
  | nil => cases h
  | cons action actions ih =>
    rw [steps] at h
    cases hnext : s.step action with
    | none =>
      rw [hnext] at h
      cases h
    | some next =>
      rw [hnext] at h
      rcases List.mem_cons.mp h with rfl | hmem
      · use [], rfl
      · obtain ⟨before, hrun, hstep⟩ := ih hmem
        use action :: before
        rw [run, hnext]
        use hrun

/-- What holds at the start of a run and is kept by each next step holds at its end. -/
theorem run_induction {P : List Action → Server → Prop} (hstart : P [] s)
    (hnext : ∀ before t action t', s.run before = some t → P before t →
      t.step action = some t' → P (before ++ [action]) t')
    (hrun : s.run actions = some t) :
  P actions t
  := by
  induction actions using List.reverseRecOn generalizing t with
  | nil =>
    obtain rfl := Option.some.inj hrun
    exact hstart
  | append_singleton before action ih =>
    rw [run_append] at hrun
    obtain ⟨last, hlast, hrun⟩ := Option.bind_eq_some_iff.mp hrun
    obtain ⟨next, hstep, hrun⟩ := Option.bind_eq_some_iff.mp hrun
    obtain rfl := Option.some.inj hrun
    exact hnext before last action next hlast (ih hlast) hstep

end BoundedLog.Server
