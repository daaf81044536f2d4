import BoundedLog.Proofs.Server.Change
import Mathlib.Data.List.Perm.Basic

/-!
# The collector ends when everybody is collected

Every worker that was ever started is accounted for in one place: on the roster, among those that
the collector has taken off the roster, or among those whose threads it has waited for. The
collector asks whether clients are let in before it asks whether the roster is empty, and nobody is
let in after the answer to the first question was no; so if the answer to the second one is yes,
then everybody is collected.

The supervisor adds its last permit when nobody is let in any more, and the collector asks both
questions behind every permit. So it cannot find the roster empty and then wait without a permit,
for good.
-/

namespace BoundedLog

/-- The members whose threads the collector has still to wait for in this round. -/
def Collector.Place.taken : Collector.Place → List Nat
  | joining ids => ids
  | _ => []

/-- Whether the collector is between its permit and the first of its questions. -/
def Collector.Place.isBusy : Collector.Place → Bool
  | scanning | checking _ _ | joining _ | askingAccepting => true
  | _ => false

namespace Collector

variable {Job : Type} {c c' : Collector} {crew crew' : Crew Job} {accepting : Bool} {id : Nat}

/-- The workers that are collected, taken off the roster, or on the roster. -/
def accounted (c : Collector) (crew : Crew Job) : List Nat :=
  c.joined ++ c.place.taken ++ crew.roster.map (·.id)

/-- A new worker comes onto the roster. -/
theorem accounted_start (c : Collector) (crew : Crew Job) (peer : Endpoint) (job : Job) :
  c.accounted (crew.start peer job).2 = c.accounted crew ++ [crew.workers.length + 1]
  := by
  rw [accounted, Crew.start, List.map_append, ← List.append_assoc]
  rfl

/-- The members that are taken off the roster remain accounted for. -/
theorem perm_accounted_takeOff (joined found : List Nat) (crew : Crew Job) :
  (accounted ⟨.joining ((crew.takeOff found).1.map (·.id)), joined⟩ (crew.takeOff found).2).Perm
    (accounted ⟨.checking [] found, joined⟩ crew)
  := by
  have hsplit := ((crew.perm_takeOff found).map (·.id)).append_left joined
  rw [List.map_append, ← List.append_assoc] at hsplit
  apply hsplit.trans
  show (joined ++ _).Perm (joined ++ [] ++ _)
  rw [List.append_nil]

/-- What a step of the collector may come to. -/
inductive Change (c : Collector) (accepting : Bool) (crew : Crew Job) (c' : Collector)
    (crew' : Crew Job) : Prop
  /-- It goes on with its round. -/
  | goOn (hbefore : c.place ≠ .ended) (hbusy : c'.place.isBusy)
      (hworkers : crew'.workers = crew.workers)
      (haccounted : (c'.accounted crew').Perm (c.accounted crew))
      (hjoined : ∀ id ∈ c'.joined, id ∈ c.joined ∨ (crew.outcome? id).isSome)
  /-- It finds that nobody is let in. -/
  | shut (hbefore : c.place = .askingAccepting) (haccepting : accepting = false)
      (hafter : c' = { c with place := .askingEmpty }) (hcrew : crew' = crew)
  /-- It finds that clients are let in. -/
  | resume (hbefore : c.place = .askingAccepting) (haccepting : accepting = true)
      (hafter : c' = { c with place := .waiting }) (hcrew : crew' = crew)
  /-- It finds somebody on the roster. -/
  | wait (hbefore : c.place = .askingEmpty) (hroster : crew.roster ≠ [])
      (hafter : c' = { c with place := .waiting }) (hcrew : crew' = crew)
  /-- It finds nobody on the roster. -/
  | finish (hbefore : c.place = .askingEmpty) (hroster : crew.roster = [])
      (hafter : c' = { c with place := .ended }) (hcrew : crew' = crew)

theorem change_of_step (h : c.step accepting crew = some (c', crew')) :
  c.Change accepting crew c' crew'
  := by
  obtain ⟨place, joined⟩ := c
  cases place with
  | waiting =>
    obtain ⟨woken, hwoken, h⟩ := Option.bind_eq_some_iff.mp h
    cases h
    rw [Crew.takeWake?] at hwoken
    split at hwoken
    · cases hwoken
    · cases hwoken
      exact .goOn nofun rfl rfl (List.Perm.refl _) fun id hid => .inl hid
  | scanning =>
    cases h
    exact .goOn nofun rfl rfl (List.Perm.refl _) fun id hid => .inl hid
  | checking unread found =>
    cases unread with
    | cons id unread =>
      cases h
      exact .goOn nofun rfl rfl (List.Perm.refl _) fun id hid => .inl hid
    | nil =>
      cases h
      refine .goOn nofun rfl rfl ?_ fun id hid => .inl hid
      apply perm_accounted_takeOff
  | joining ids =>
    cases ids with
    | nil =>
      cases h
      exact .goOn nofun rfl rfl (List.Perm.refl _) fun id hid => .inl hid
    | cons id ids =>
      obtain ⟨ok, hok, h⟩ := Option.bind_eq_some_iff.mp h
      cases h
      refine .goOn nofun rfl rfl ?_ ?_
      · rw [accounted, accounted, Place.taken, Place.taken, List.append_assoc joined [id] ids]
        apply List.Perm.refl
      · intro other hother
        rcases List.mem_append.mp hother with hold | hnew
        · exact .inl hold
        · right
          rw [List.mem_singleton.mp hnew, hok]
          rfl
  | askingAccepting =>
    cases h
    cases accepting with
    | true => exact .resume rfl rfl rfl rfl
    | false => exact .shut rfl rfl rfl rfl
  | askingEmpty =>
    cases h
    split
    · next hempty => exact .finish rfl (List.isEmpty_iff.mp hempty) rfl rfl
    · next hsomebody => exact .wait rfl (mt List.isEmpty_iff.mpr hsomebody) rfl rfl
  | ended => cases h

theorem workers_eq_of_step (h : c.step accepting crew = some (c', crew')) :
  crew'.workers = crew.workers
  := by
  cases change_of_step h with
  | goOn _ _ hworkers => exact hworkers
  | shut _ _ _ hcrew | resume _ _ _ hcrew | wait _ _ _ hcrew | finish _ _ _ hcrew => rw [hcrew]

end Collector

/-! ### On the way to the end -/

/-- What holds of the collector and the crew on the way to the end, at a stage of the supervisor. -/
structure Draining {Job : Type} (accepting : Bool) (stage : Supervisor.Stage) (c : Collector)
    (crew : Crew Job) : Prop where
  accepting_iff : accepting = true ↔ stage = .admitting
  /-- Once the collector has found that nobody is let in, nobody is. -/
  shut : c.place = .askingEmpty ∨ c.place = .ended → accepting = false
  cleared : c.place = .ended → crew.roster = []
  /-- Everybody is accounted for, once. -/
  accounted : (c.accounted crew).Perm (List.range' 1 crew.workers.length)
  /-- Who is collected has ended. -/
  gone : ∀ id ∈ c.joined, (crew.outcome? id).isSome
  /-- After the last permit of the supervisor the collector asks once more. -/
  woken : stage = .told → c.place = .waiting → crew.roster = [] → 0 < crew.wakes
  /-- The supervisor goes on only when the collector has ended. -/
  alone : stage = .alone → c.place = .ended

namespace Draining

variable {Job : Type} {accepting : Bool} {stage : Supervisor.Stage} {c c' : Collector}
  {crew crew' : Crew Job}

/-- Workers go on. -/
theorem advance (h : Draining accepting stage c crew) (hcrew : crew.Advances crew') :
  Draining accepting stage c crew'
  := by
  constructor
  · exact h.accepting_iff
  · exact h.shut
  · rw [hcrew.roster_eq]
    exact h.cleared
  · rw [Collector.accounted, hcrew.roster_eq, hcrew.length_eq]
    exact h.accounted
  · intro id hid
    apply hcrew.outcome?_isSome (h.gone id hid)
  · rw [hcrew.roster_eq]
    intro htold hwaiting hroster
    apply Nat.lt_of_lt_of_le (h.woken htold hwaiting hroster) hcrew.wakes_le
  · exact h.alone

/-- A client is let in. The collector cannot have found that nobody is. -/
theorem start (h : Draining accepting .admitting c crew) (peer : Endpoint) (job : Job) :
  Draining accepting .admitting c (crew.start peer job).2
  := by
  constructor
  · exact h.accepting_iff
  · exact h.shut
  · intro hended
    have hopen := h.accepting_iff.mpr rfl
    rw [h.shut (.inr hended)] at hopen
    cases hopen
  · have hlength : (crew.start peer job).2.workers.length = crew.workers.length + 1 :=
      List.length_append
    rw [Collector.accounted_start, hlength, List.range'_1_concat, Nat.add_comm 1]
    apply h.accounted.append_right
  · intro id hid
    apply Crew.outcome?_start_isSome peer job (h.gone id hid)
  · nofun
  · nofun

/-- The collector moves on with one of its questions. -/
theorem moveTo {place : Collector.Place} (h : Draining accepting stage c crew)
    (hended : c.place ≠ .ended) (hbefore : c.place.taken = []) (hafter : place.taken = [])
    (hshut : place = .askingEmpty ∨ place = .ended → accepting = false)
    (hcleared : place = .ended → crew.roster = [])
    (hwoken : stage = .told → place = .waiting → crew.roster = [] → 0 < crew.wakes) :
  Draining accepting stage { c with place } crew
  := by
  constructor
  · exact h.accepting_iff
  · exact hshut
  · exact hcleared
  · have haccounted := h.accounted
    rw [Collector.accounted, hbefore] at haccounted
    rw [Collector.accounted, hafter]
    exact haccounted
  · exact h.gone
  · exact hwoken
  · intro halone
    exact absurd (h.alone halone) hended

/-- The collector takes a step. -/
theorem collect (h : Draining accepting stage c crew)
    (hstep : c.step accepting crew = some (c', crew')) :
  Draining accepting stage c' crew'
  := by
  cases Collector.change_of_step hstep with
  | goOn hbefore hbusy hworkers haccounted hjoined =>
    constructor
    · exact h.accepting_iff
    · rintro (hplace | hplace)
      · rw [hplace] at hbusy
        cases hbusy
      · rw [hplace] at hbusy
        cases hbusy
    · intro hplace
      rw [hplace] at hbusy
      cases hbusy
    · rw [hworkers]
      apply haccounted.trans h.accounted
    · intro id hid
      rw [Crew.outcome?_congr hworkers]
      rcases hjoined id hid with hold | hnew
      · apply h.gone id hold
      · exact hnew
    · intro htold hplace
      rw [hplace] at hbusy
      cases hbusy
    · intro halone
      exact absurd (h.alone halone) hbefore
  | shut hbefore haccepting hafter hcrew =>
    subst hafter hcrew
    apply h.moveTo
    · simp [hbefore]
    · rw [hbefore]
      rfl
    · rfl
    · intro hplace
      exact haccepting
    · nofun
    · nofun
  | resume hbefore haccepting hafter hcrew =>
    subst hafter hcrew
    apply h.moveTo
    · simp [hbefore]
    · rw [hbefore]
      rfl
    · rfl
    · nofun
    · nofun
    · intro htold
      rw [h.accepting_iff.mp haccepting] at htold
      cases htold
  | wait hbefore hroster hafter hcrew =>
    subst hafter hcrew
    apply h.moveTo
    · simp [hbefore]
    · rw [hbefore]
      rfl
    · rfl
    · nofun
    · nofun
    · intro htold hwaiting hempty
      exact absurd hempty hroster
  | finish hbefore hroster hafter hcrew =>
    subst hafter hcrew
    apply h.moveTo
    · simp [hbefore]
    · rw [hbefore]
      rfl
    · rfl
    · intro hplace
      exact h.shut (.inl hbefore)
    · intro hplace
      exact hroster
    · nofun

/-- The supervisor lets nobody in any more. -/
theorem shutDown (h : Draining accepting .admitting c crew) :
  Draining false .shut c crew
  where
  accepting_iff := by simp
  shut _ := rfl
  cleared := h.cleared
  accounted := h.accounted
  gone := h.gone
  woken := nofun
  alone := nofun

/-- The supervisor wakes the collector for the last time. -/
theorem tell (h : Draining accepting .shut c crew) :
  Draining accepting .told c crew.wake
  where
  accepting_iff := by simpa using h.accepting_iff
  shut := h.shut
  cleared := h.cleared
  accounted := h.accounted
  gone := h.gone
  woken _ _ _ := Nat.succ_pos _
  alone := nofun

/-- The supervisor finds that the collector has ended. -/
theorem find (h : Draining accepting .told c crew) (hended : c.place = .ended) :
  Draining accepting .alone c crew
  where
  accepting_iff := by simpa using h.accepting_iff
  shut := h.shut
  cleared := h.cleared
  accounted := h.accounted
  gone := h.gone
  woken := nofun
  alone _ := hended

/-- The supervisor finds nobody on the roster whom it could take off. -/
theorem clear (h : Draining accepting .alone c crew) :
  Draining accepting .alone c crew.takeAll.2
  := by
  have hroster := h.cleared (h.alone rfl)
  obtain ⟨workers, roster, wakes⟩ := crew
  obtain rfl : roster = [] := hroster
  exact h

end Draining

namespace Server

variable {s s' : Server} {action : Action} {actions : List Action} {log : SharedLog} {disk : Disk}

/-- A server is draining at the stage of its supervisor. -/
def IsDraining (s : Server) : Prop :=
  Draining s.hub.accepting s.supervisor.stage s.collector s.crew

theorem isDraining_ofLog (log : SharedLog) (disk : Disk) :
  (ofLog log disk).IsDraining
  where
  accepting_iff := ⟨fun _ => rfl, fun _ => rfl⟩
  shut := nofun
  cleared := nofun
  accounted := .refl _
  gone := nofun
  woken := nofun
  alone := nofun

/-- Every step keeps a server draining. -/
theorem Change.isDraining (h : Change s action s') (hdraining : s.IsDraining) :
  s'.IsDraining
  := by
  rw [IsDraining] at *
  cases h with
  | advance _ hcrew hcollector haccepting hstage =>
    rw [hcollector, haccepting, hstage]
    apply hdraining.advance hcrew
  | welcome _ peer service hcrew _ hcollector haccepting hbefore hafter =>
    rw [hbefore] at hdraining
    rw [hcrew, hcollector, haccepting, hafter]
    apply hdraining.start
  | collect _ hstep haccepting hstage =>
    rw [haccepting, hstage]
    apply hdraining.collect hstep
  | shut _ hcrew hcollector haccepting hbefore hafter =>
    rw [hbefore] at hdraining
    rw [hcrew, hcollector, haccepting, hafter]
    apply hdraining.shutDown
  | tell _ hcrew hcollector haccepting hbefore hafter =>
    rw [hbefore] at hdraining
    rw [hcrew, hcollector, haccepting, hafter]
    apply hdraining.tell
  | find _ hcrew hcollector haccepting hended hbefore hafter =>
    rw [hbefore] at hdraining
    rw [hcrew, hcollector, haccepting, hafter]
    apply hdraining.find hended
  | clear _ hcrew hcollector haccepting hbefore hafter =>
    rw [hbefore] at hdraining
    rw [hcrew, hcollector, haccepting, hafter]
    apply hdraining.clear

/-- A server that runs is draining. -/
theorem isDraining_of_run (hrun : (ofLog log disk).run actions = some s) :
  s.IsDraining
  := run_keeps (fun hdraining h => Change.isDraining h hdraining) (isDraining_ofLog log disk) hrun

/-- The supervisor stays alone. -/
theorem Change.alone (h : Change s action s') (halone : s.supervisor.stage = .alone) :
  s'.supervisor.stage = .alone
  := by
  cases h with
  | advance _ _ _ _ hstage | collect _ _ _ hstage => rw [hstage, halone]
  | welcome _ _ _ _ _ _ _ hbefore | shut _ _ _ _ hbefore | tell _ _ _ _ hbefore
  | find _ _ _ _ _ hbefore =>
    rw [halone] at hbefore
    cases hbefore
  | clear _ _ _ _ _ hafter => exact hafter

/-- A supervisor that is alone finds that everybody is collected. -/
theorem IsDraining.collected (h : s.IsDraining) (halone : s.supervisor.stage = .alone) :
  s.crew.roster = []
    ∧ s.collector.joined.Perm (List.range' 1 s.crew.workers.length)
    ∧ ∀ id ∈ List.range' 1 s.crew.workers.length, (s.crew.outcome? id).isSome
  := by
  have hended := h.alone halone
  have hroster := h.cleared hended
  have hjoined := h.accounted
  have htaken : s.collector.place.taken = [] := by
    rw [hended]
    rfl
  rw [Collector.accounted, htaken, hroster, List.map_nil, List.append_nil, List.append_nil]
    at hjoined
  use hroster, hjoined
  intro id hid
  apply h.gone id (hjoined.mem_iff.mpr hid)

/-- Only clients that are let in get a worker. -/
theorem Change.length_workers (h : Change s action s') :
  s'.crew.workers.length = s.crew.workers.length + if action.isWelcome then 1 else 0
  := by
  cases h with
  | advance haction hcrew =>
    rw [haction]
    exact hcrew.length_eq
  | welcome haction peer service hcrew =>
    rw [haction, hcrew]
    apply List.length_append
  | collect haction hstep =>
    rw [haction, Collector.workers_eq_of_step hstep]
    rfl
  | shut haction hcrew | tell haction hcrew | find haction hcrew | clear haction hcrew =>
    rw [haction, hcrew]
    rfl

/-- A run starts one worker for each client that is let in. -/
theorem length_workers_of_run (hrun : s.run actions = some s') :
  s'.crew.workers.length = s.crew.workers.length + actions.countP Action.isWelcome
  := by
  induction actions generalizing s with
  | nil =>
    obtain rfl := Option.some.inj hrun
    rfl
  | cons action actions ih =>
    obtain ⟨next, hstep, hrun⟩ := Option.bind_eq_some_iff.mp hrun
    rw [ih hrun, (change_of_step hstep).length_workers, List.countP_cons]
    omega

/-- If the collector has ended, then nobody is let in any more, nobody is on the roster, there is
one worker for each client that was let in, and the collector has waited for the thread of each
worker once, and all these threads have ended. It cannot miss the end either: when nobody is let in
any more, the supervisor has added its last permit, and nobody is on the roster, then the collector
does not wait without a permit. -/
theorem run_drains (hrun : (ofLog log disk).run actions = some s) :
  (s.collector.place = .ended →
    s.hub.accepting = false
      ∧ s.crew.roster = []
      ∧ s.crew.workers.length = actions.countP Action.isWelcome
      ∧ s.collector.total = s.crew.workers.length
      ∧ s.collector.joined.Perm (List.range' 1 s.crew.workers.length)
      ∧ ∀ id ∈ s.collector.joined, (s.crew.outcome? id).isSome)
    ∧ ¬ (s.hub.accepting = false ∧ (s.supervisor.stage = .told ∨ s.supervisor.stage = .alone)
      ∧ s.crew.roster = [] ∧ s.collector.place = .waiting ∧ s.crew.wakes = 0)
  := by
  have h : s.IsDraining :=
    run_keeps (fun hdraining h => Change.isDraining h hdraining) (isDraining_ofLog log disk) hrun
  constructor
  · intro hended
    have hroster := h.cleared hended
    have hlength : s.crew.workers.length = actions.countP Action.isWelcome := by
      rw [length_workers_of_run hrun]
      apply Nat.zero_add
    have htaken : s.collector.place.taken = [] := by
      rw [hended]
      rfl
    have hjoined := h.accounted
    rw [Collector.accounted, htaken, hroster, List.map_nil, List.append_nil, List.append_nil]
      at hjoined
    have htotal : s.collector.total = s.crew.workers.length := by
      rw [Collector.total, hjoined.length_eq, List.length_range']
    exact ⟨h.shut (.inr hended), hroster, hlength, htotal, hjoined, h.gone⟩
  · rintro ⟨-, htold | halone, hroster, hwaiting, hwakes⟩
    · have hpermit := h.woken htold hwaiting hroster
      rw [hwakes] at hpermit
      cases hpermit
    · rw [h.alone halone] at hwaiting
      cases hwaiting

/-- One worker breaks down before the server stops and one while it stops. The collector finds that
nobody is let in but somebody is on the roster; it is the next permit that makes it end. -/
theorem run_drains_late_worker :
  let peer : Endpoint := ⟨.short [127, 0, 0, 1], 4000⟩
  let actions : List Action :=
    [.supervise, .welcome peer {}, .supervise, .welcome peer {}, .breakDown 1, .work 1]
      ++ [.requestStop] ++ List.replicate 5 .supervise ++ [.work 1] ++ List.replicate 9 .collect
      ++ [.supervise, .breakDown 2, .work 2, .work 2] ++ List.replicate 8 .collect
  ∃ s, (ofLog { window := .ofCapacity 1 } { tree := .empty }).run actions = some s
    ∧ s.collector.place = .ended
    ∧ s.hub.accepting = false
    ∧ s.crew.roster = []
    ∧ s.collector.total = 2
    ∧ s.collector.joined.Perm [1, 2]
    ∧ (s.crew.outcome? 2).isSome
  := by
  intro peer actions
  obtain ⟨s, hrun, hplace, hjoined⟩ :
      ∃ s, (ofLog { window := .ofCapacity 1 } { tree := .empty }).run actions = some s
        ∧ s.collector.place = .ended ∧ s.collector.joined = [1, 2] :=
    ⟨_, rfl, rfl, rfl⟩
  have hwelcomes : actions.countP Action.isWelcome = 2 := rfl
  obtain ⟨haccepting, hroster, hlength, htotal, hperm, hover⟩ := (run_drains hrun).1 hplace
  rw [hwelcomes] at hlength
  rw [hlength] at htotal hperm
  have htwo : 2 ∈ s.collector.joined := by
    rw [hjoined]
    decide
  exact ⟨s, hrun, hplace, haccepting, hroster, htotal, hperm, hover 2 htwo⟩

end Server

end BoundedLog
