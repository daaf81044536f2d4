import BoundedLog.Proofs.Server.Crew

/-!
# Crews in small steps

Whoever changes the roster holds it meanwhile, but workers do not wait for that: a worker can come
to its end before it is on the roster, and members mark their ends while somebody looks at one
mark after the other. A `Muster` is a crew whose roster may be held, and its steps are these smaller
ones.

`Muster.Change` lists what a small step may come to, and `Muster.run_keeps` carries what each of them
keeps through a run. What a crew does in whole steps it does in small ones as well
(`Muster.run_of_crew_run`).
-/

namespace BoundedLog

/-- Who holds the roster. -/
inductive Holder
  | nobody
  /-- Somebody who has started a worker and is about to put it on the roster. -/
  | enrolling (member : Member)
  /-- Somebody who takes the members off the roster whose end is marked. The marks of some are still
  to be looked at; the others that were found are marked. -/
  | checking (unread found : List Nat)
  deriving DecidableEq, Repr

/-- The member that is about to be put on the roster. -/
def Holder.recruit? : Holder → Option Member
  | enrolling member => some member
  | _ => none

/-- A crew whose roster may be held. -/
structure Muster (Job : Type) where
  crew : Crew Job := {}
  holder : Holder := .nobody
  deriving Repr

namespace Muster

/-! ### Small steps -/

/-- What the threads of a server do with a crew and its roster. -/
inductive Action (Job : Type)
  /-- Somebody takes hold of the roster and starts a worker. -/
  | launch (peer : Endpoint) (job : Job)
  /-- The worker that was started is put on the roster, which is let go. -/
  | enroll
  /-- Somebody takes hold of the roster to look at the marks of its members. -/
  | scan
  /-- The mark of one of them is looked at, whichever comes next. -/
  | look (id : Nat)
  /-- Those that were found marked are taken off the roster, which is let go. -/
  | takeOff
  | takeAll
  | mark (id : Nat) (ok : Bool)
  | announce (id : Nat)
  | leave (id : Nat)
  | takeWake
  /-- Somebody who is no worker adds a permit for the collector. -/
  | wake

/-- What is to be told of a step afterwards. -/
inductive Event
  | quiet
  /-- A worker was started and is on the roster. -/
  | started (member : Member)
  /-- These were taken off the roster. -/
  | taken (members : List Member)
  /-- A worker has told the collector. -/
  | told (id : Nat)
  /-- A permit was taken. -/
  | woken
  /-- A permit was added by somebody who is no worker. -/
  | nudged
  deriving DecidableEq, Repr

namespace Event

/-- Who came onto the roster. -/
def newcomers : Event → List Member
  | started member => [member]
  | _ => []

/-- Who was taken off the roster. -/
def leavers : Event → List Member
  | taken members => members
  | _ => []

/-- The worker that has told the collector. -/
def tellers : Event → List Nat
  | told id => [id]
  | _ => []

/-- What the step gives back to whoever took it. -/
def outcome? : Event → Option Crew.Outcome
  | started member => some (.started member.id)
  | taken members => some (.taken members)
  | _ => none

end Event

variable {Job : Type}

/-- What an action comes to; `none` if it is not possible. -/
def step (m : Muster Job) (action : Action Job) : Option (Event × Muster Job) :=
  match action, m.holder with
  | .launch peer job, .nobody =>
    let crew := { m.crew with workers := m.crew.workers ++ [{ job }] }
    some (.quiet, ⟨crew, .enrolling ⟨m.crew.workers.length + 1, peer⟩⟩)
  | .enroll, .enrolling member =>
    some (.started member, ⟨{ m.crew with roster := m.crew.roster ++ [member] }, .nobody⟩)
  | .scan, .nobody => some (.quiet, { m with holder := .checking (m.crew.roster.map (·.id)) [] })
  | .look id, .checking unread found =>
    if id ∈ unread then
      let found := if m.crew.isMarked id then found ++ [id] else found
      some (.quiet, { m with holder := .checking (unread.erase id) found })
    else none
  | .takeOff, .checking [] found =>
    let (members, crew) := m.crew.takeOff found
    some (.taken members, ⟨crew, .nobody⟩)
  | .takeAll, .nobody =>
    let (members, crew) := m.crew.takeAll
    some (.taken members, ⟨crew, .nobody⟩)
  | .mark id ok, _ => return (.quiet, { m with crew := ← m.crew.mark? id ok })
  | .announce id, _ => return (.told id, { m with crew := ← m.crew.announce? id })
  | .leave id, _ => return (.quiet, { m with crew := ← m.crew.leave? id })
  | .takeWake, _ => return (.woken, { m with crew := ← m.crew.takeWake? })
  | .wake, _ => some (.nudged, { m with crew := m.crew.wake })
  | _, _ => none

/-- The events of a list of actions, in order, and the muster behind the last one. -/
def run (m : Muster Job) : List (Action Job) → Option (List Event × Muster Job)
  | [] => some ([], m)
  | action :: actions => do
    let (event, m) ← m.step action
    let (events, m) ← m.run actions
    return (event :: events, m)

variable {m m' n : Muster Job} {action : Action Job} {actions : List (Action Job)} {event : Event}
  {events : List Event}

/-! ### What a step changes -/

/-- What a step may come to. -/
inductive Change (m : Muster Job) : Action Job → Event → Muster Job → Prop
  | launch (peer : Endpoint) (job : Job) (hholder : m.holder = .nobody) :
    Change m (.launch peer job) .quiet
      ⟨{ m.crew with workers := m.crew.workers ++ [{ job }] },
        .enrolling ⟨m.crew.workers.length + 1, peer⟩⟩
  | enroll (member : Member) (hholder : m.holder = .enrolling member) :
    Change m .enroll (.started member)
      ⟨{ m.crew with roster := m.crew.roster ++ [member] }, .nobody⟩
  | scan (hholder : m.holder = .nobody) :
    Change m .scan .quiet ⟨m.crew, .checking (m.crew.roster.map (·.id)) []⟩
  | look (id : Nat) (unread found : List Nat) (hholder : m.holder = .checking unread found)
      (hmem : id ∈ unread) :
    Change m (.look id) .quiet
      ⟨m.crew, .checking (unread.erase id) (if m.crew.isMarked id then found ++ [id] else found)⟩
  | takeOff (found : List Nat) (hholder : m.holder = .checking [] found) :
    Change m .takeOff (.taken (m.crew.takeOff found).1) ⟨(m.crew.takeOff found).2, .nobody⟩
  | takeAll (hholder : m.holder = .nobody) :
    Change m .takeAll (.taken m.crew.roster) ⟨{ m.crew with roster := [] }, .nobody⟩
  | mark (id : Nat) (ok : Bool) (crew : Crew Job)
      (hmoves : m.crew.Moves id .working 0 (.marked ok) crew) :
    Change m (.mark id ok) .quiet ⟨crew, m.holder⟩
  | announce (id : Nat) (ok : Bool) (crew : Crew Job)
      (hmoves : m.crew.Moves id (.marked ok) 1 (.announced ok) crew) :
    Change m (.announce id) (.told id) ⟨crew, m.holder⟩
  | leave (id : Nat) (ok : Bool) (crew : Crew Job)
      (hmoves : m.crew.Moves id (.announced ok) 0 (.ended ok) crew) :
    Change m (.leave id) .quiet ⟨crew, m.holder⟩
  | takeWake (wakes : Nat) (hwakes : m.crew.wakes = wakes + 1) :
    Change m .takeWake .woken ⟨{ m.crew with wakes }, m.holder⟩
  | wake :
    Change m .wake .nudged ⟨m.crew.wake, m.holder⟩

theorem change_of_step (hstep : m.step action = some (event, m')) :
  Change m action event m'
  := by
  revert hstep
  -- One case for each line of `step`, and two for a look at a mark.
  fun_cases step m action with
  | case1 peer job hholder =>
    rintro ⟨⟩
    apply Change.launch peer job hholder
  | case2 member hholder =>
    rintro ⟨⟩
    apply Change.enroll member hholder
  | case3 hholder =>
    rintro ⟨⟩
    apply Change.scan hholder
  | case4 id unread found hholder hmem =>
    rintro ⟨⟩
    apply Change.look id unread found hholder hmem
  | case6 found hholder members crew htake =>
    rintro ⟨⟩
    have hchange := Change.takeOff found hholder
    rw [htake] at hchange
    apply hchange
  | case7 hholder members crew htake =>
    rintro ⟨⟩
    cases htake
    apply Change.takeAll hholder
  | case8 id ok =>
    intro hstep
    obtain ⟨crew, hmark, hstep⟩ := Option.bind_eq_some_iff.mp hstep
    cases hstep
    apply Change.mark id ok crew (Crew.moves_of_mark? hmark)
  | case9 id =>
    intro hstep
    obtain ⟨crew, hannounce, hstep⟩ := Option.bind_eq_some_iff.mp hstep
    obtain ⟨ok, hmoves⟩ := Crew.moves_of_announce? hannounce
    cases hstep
    apply Change.announce id ok crew hmoves
  | case10 id =>
    intro hstep
    obtain ⟨crew, hleave, hstep⟩ := Option.bind_eq_some_iff.mp hstep
    obtain ⟨ok, hmoves⟩ := Crew.moves_of_leave? hleave
    cases hstep
    apply Change.leave id ok crew hmoves
  | case11 =>
    intro hstep
    obtain ⟨crew, htake, hstep⟩ := Option.bind_eq_some_iff.mp hstep
    rw [Crew.takeWake?] at htake
    split at htake
    · cases htake
    · next wakes hwakes =>
      cases htake
      cases hstep
      apply Change.takeWake wakes hwakes
  | case12 =>
    rintro ⟨⟩
    apply Change.wake
  | case5 | case13 => rintro ⟨⟩

theorem run_cons (hrun : m.run (action :: actions) = some (events, m')) :
  ∃ event n rest, Change m action event n ∧ m.step action = some (event, n)
    ∧ n.run actions = some (rest, m') ∧ events = event :: rest
  := by
  obtain ⟨⟨event, n⟩, hstep, hrun⟩ := Option.bind_eq_some_iff.mp hrun
  obtain ⟨⟨rest, n'⟩, hrest, hrun⟩ := Option.bind_eq_some_iff.mp hrun
  cases hrun
  exact ⟨event, n, rest, change_of_step hstep, hstep, hrest, rfl⟩

theorem run_cons_eq (hstep : m.step action = some (event, n))
    (hrun : n.run actions = some (events, m')) :
  m.run (action :: actions) = some (event :: events, m')
  := by
  rw [run, hstep]
  show (do let (events, m) ← n.run actions; return (event :: events, m)) = _
  rw [hrun]
  rfl

theorem run_append {first second : List (Action Job)} :
  m.run (first ++ second) = some (events, m')
    ↔ ∃ before now after, m.run first = some (before, now) ∧ now.run second = some (after, m')
      ∧ events = before ++ after
  := by
  constructor
  · intro hrun
    induction first generalizing m events with
    | nil => exact ⟨[], m, events, rfl, hrun, rfl⟩
    | cons action first ih =>
      obtain ⟨event, n, rest, -, hstep, hrest, rfl⟩ := run_cons hrun
      obtain ⟨before, now, after, hbefore, hafter, rfl⟩ := ih hrest
      exact ⟨event :: before, now, after, run_cons_eq hstep hbefore, hafter, rfl⟩
  · rintro ⟨before, now, after, hbefore, hafter, rfl⟩
    induction first generalizing m before with
    | nil =>
      cases hbefore
      apply hafter
    | cons action first ih =>
      obtain ⟨event, n, rest, -, hstep, hrest, rfl⟩ := run_cons hbefore
      apply run_cons_eq hstep (ih rest hrest)

/-- What every step keeps holds throughout a run. What it says of the past grows with the events. -/
theorem run_keeps {P : List Event → Muster Job → Prop}
    (hstep : ∀ {past m action event m'}, P past m → Change m action event m' →
      P (past ++ [event]) m')
    (past : List Event) (h : P past m) (hrun : m.run actions = some (events, m')) :
  P (past ++ events) m'
  := by
  induction actions generalizing m past events with
  | nil =>
    cases hrun
    rw [List.append_nil]
    apply h
  | cons action actions ih =>
    obtain ⟨event, n, rest, hchange, -, hrest, rfl⟩ := run_cons hrun
    rw [List.append_cons]
    apply ih (past ++ [event]) (hstep h hchange) hrest

/-! ### Marks -/

theorem Change.isMarked {id : Nat} (hchange : Change m action event m')
    (hmarked : m.crew.isMarked id) :
  m'.crew.isMarked id
  := by
  cases hchange with
  | launch peer job => exact Crew.isMarked_start peer job hmarked
  | mark _ _ _ hmoves | announce _ _ _ hmoves | leave _ _ _ hmoves => exact hmoves.isMarked hmarked
  | _ => exact hmarked

/-- Who has marked its end does not take the mark back. -/
theorem isMarked_of_run {id : Nat} (hrun : m.run actions = some (events, m'))
    (hmarked : m.crew.isMarked id) :
  m'.crew.isMarked id
  := run_keeps (P := fun _ m => m.crew.isMarked id) (fun h hchange => hchange.isMarked h) []
    hmarked hrun

/-! ### Whole steps -/

theorem step_look (crew : Crew Job) {id : Nat} {unread : List Nat} (found : List Nat)
    (hmem : id ∈ unread) :
  (⟨crew, .checking unread found⟩ : Muster Job).step (.look id)
    = some (.quiet, ⟨crew, .checking (unread.erase id)
        (if crew.isMarked id then found ++ [id] else found)⟩)
  := if_pos hmem

/-- A round in which one mark is looked at after the other and nothing else happens. -/
theorem run_looks (crew : Crew Job) (ids found : List Nat) :
  let (members, crew') := crew.takeOff (found ++ ids.filter crew.isMarked)
  (⟨crew, .checking ids found⟩ : Muster Job).run (ids.map .look ++ [.takeOff])
    = some (ids.map (fun _ => .quiet) ++ [.taken members], ⟨crew', .nobody⟩)
  := by
  induction ids generalizing found with
  | nil =>
    rw [List.filter_nil, List.append_nil]
    rfl
  | cons id ids ih =>
    have hlook := step_look crew found (List.mem_cons_self (a := id) (l := ids))
    rw [List.erase_cons_head] at hlook
    have hrest := ih (if crew.isMarked id then found ++ [id] else found)
    have hfound : (if crew.isMarked id then found ++ [id] else found) ++ ids.filter crew.isMarked
        = found ++ (id :: ids).filter crew.isMarked := by
      cases hmarked : crew.isMarked id with
      | true => simp [hmarked]
      | false => simp [hmarked]
    rw [hfound] at hrest
    apply run_cons_eq hlook hrest

theorem run_takeFinished (c : Crew Job) :
  let (members, c') := c.takeFinished
  (⟨c, .nobody⟩ : Muster Job).run (.scan :: c.roster.map (.look ·.id) ++ [.takeOff])
    = some (.quiet :: c.roster.map (fun _ => .quiet) ++ [.taken members], ⟨c', .nobody⟩)
  := by
  have hround := run_looks c (c.roster.map (·.id)) []
  rw [List.map_map, List.map_map] at hround
  apply run_cons_eq rfl hround

/-- A step that leaves the roster alone is a small step already. -/
theorem run_of_aside {c c' : Crew Job} {after? : Option (Crew Job)} {outcome : Crew.Outcome}
    (action : Action Job) (event : Event)
    (hafter : (do return (.done, ← after?)) = some (outcome, c'))
    (hstep : ∀ crew, after? = some crew →
      (⟨c, .nobody⟩ : Muster Job).step action = some (event, ⟨crew, .nobody⟩))
    (hquiet : event.outcome? = none) :
  ∃ actions events, (⟨c, .nobody⟩ : Muster Job).run actions = some (events, ⟨c', .nobody⟩)
    ∧ events.filterMap Event.outcome? = [outcome].filter (· ≠ .done)
  := by
  obtain ⟨crew, hcrew, hafter⟩ := Option.bind_eq_some_iff.mp hafter
  cases hafter
  refine ⟨[action], [event], run_cons_eq (hstep c' hcrew) rfl, ?_⟩
  rw [List.filterMap_cons_none hquiet]
  rfl

/-- What a crew does in a whole step it does in small ones, in which the roster is let go again. -/
theorem run_of_crew_step {c c' : Crew Job} {action : Crew.Action Job} {outcome : Crew.Outcome}
    (hstep : c.step action = some (outcome, c')) :
  ∃ actions events, (⟨c, .nobody⟩ : Muster Job).run actions = some (events, ⟨c', .nobody⟩)
    ∧ events.filterMap Event.outcome? = [outcome].filter (· ≠ .done)
  := by
  cases action with
  | start peer job =>
    cases hstep
    exact ⟨[.launch peer job, .enroll], _, rfl, rfl⟩
  | mark id ok =>
    refine run_of_aside (.mark id ok) .quiet hstep (fun crew hmark => ?_) rfl
    rw [step, hmark]
    rfl
  | announce id =>
    refine run_of_aside (.announce id) (.told id) hstep (fun crew hannounce => ?_) rfl
    rw [step, hannounce]
    rfl
  | leave id =>
    refine run_of_aside (.leave id) .quiet hstep (fun crew hleave => ?_) rfl
    rw [step, hleave]
    rfl
  | takeFinished =>
    cases hstep
    refine ⟨_, _, run_takeFinished c, ?_⟩
    rw [List.filterMap_append, List.filterMap_eq_nil_iff.mpr]
    · rfl
    · intro event hevent
      obtain rfl | hevent := List.mem_cons.mp hevent
      · rfl
      · obtain ⟨member, -, rfl⟩ := List.mem_map.mp hevent
        rfl
  | takeAll =>
    cases hstep
    exact ⟨[.takeAll], _, rfl, rfl⟩
  | takeWake =>
    refine run_of_aside .takeWake .woken hstep (fun crew htake => ?_) rfl
    rw [step, htake]
    rfl
  | wake =>
    cases hstep
    exact ⟨[.wake], _, rfl, rfl⟩

/-- What a crew does in whole steps it does in small ones, and everybody is given the same. -/
theorem run_of_crew_run {c c' : Crew Job} {whole : List (Crew.Action Job)}
    {outcomes : List Crew.Outcome} (hrun : c.run whole = some (outcomes, c')) :
  ∃ actions events, (⟨c, .nobody⟩ : Muster Job).run actions = some (events, ⟨c', .nobody⟩)
    ∧ events.filterMap Event.outcome? = outcomes.filter (· ≠ .done)
  := by
  induction whole generalizing c outcomes with
  | nil =>
    cases hrun
    exact ⟨[], [], rfl, rfl⟩
  | cons action whole ih =>
    obtain ⟨⟨outcome, d⟩, hstep, hrun⟩ := Option.bind_eq_some_iff.mp hrun
    obtain ⟨⟨rest, d'⟩, hrest, hrun⟩ := Option.bind_eq_some_iff.mp hrun
    cases hrun
    obtain ⟨first, events, hfirst, houtcome⟩ := run_of_crew_step hstep
    obtain ⟨others, events', hothers, houtcomes⟩ := ih hrest
    refine ⟨first ++ others, events ++ events', ?_, ?_⟩
    · exact run_append.mpr ⟨events, _, events', hfirst, hothers, rfl⟩
    · rw [List.filterMap_append, houtcome, houtcomes, ← List.filter_append]
      rfl

end Muster

end BoundedLog
