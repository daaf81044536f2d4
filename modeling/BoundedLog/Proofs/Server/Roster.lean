import BoundedLog.Proofs.Server.Muster
import Mathlib.Data.List.Nodup

/-!
# Who is on the roster

`Enrolled` accounts for the members and `Balanced` for the permits of the collector; each small step
keeps both. `run_checking` follows somebody who goes through the roster while other things happen,
and `run_round` says who is taken off it then. The main statement puts them together: whatever
happens in whatever order, the roster neither loses nor doubles anybody (`run_loses_nobody`).
-/

namespace BoundedLog

namespace Muster

variable {Job : Type} {m m' n : Muster Job} {action : Action Job} {actions : List (Action Job)}
  {event : Event} {events : List Event}

/-! ### Members -/

/-- Everybody who was put on the roster is still there or was taken off, once. -/
structure Enrolled (past : List Event) (m : Muster Job) : Prop where
  ids_eq : (past.flatMap Event.newcomers).map (·.id)
    = List.range' 1 (past.flatMap Event.newcomers).length
  length_eq : m.crew.workers.length
    = (past.flatMap Event.newcomers ++ m.holder.recruit?.toList).length
  recruit_id (member : Member) (h : m.holder.recruit? = some member) :
    member.id = (past.flatMap Event.newcomers).length + 1
  perm : (past.flatMap Event.leavers ++ m.crew.roster).Perm (past.flatMap Event.newcomers)
  sublist : m.crew.roster.Sublist (past.flatMap Event.newcomers)

namespace Enrolled

variable {past : List Event}

theorem nil :
  Enrolled [] ({} : Muster Job)
  := ⟨rfl, rfl, nofun, .refl _, .refl _⟩

/-- Nobody is started and nobody comes onto the roster; who leaves it was on it. -/
theorem concat (h : Enrolled past m) (hnew : event.newcomers = [])
    (hlength : m'.crew.workers.length = m.crew.workers.length)
    (hrecruit : m'.holder.recruit? = m.holder.recruit?)
    (hperm : (event.leavers ++ m'.crew.roster).Perm m.crew.roster)
    (hsublist : m'.crew.roster.Sublist m.crew.roster) :
  Enrolled (past ++ [event]) m'
  := by
  constructor <;>
    simp only [List.flatMap_append, List.flatMap_singleton, hnew, List.append_nil, hlength,
      hrecruit]
  · apply h.ids_eq
  · apply h.length_eq
  · apply h.recruit_id
  · rw [List.append_assoc]
    exact (hperm.append_left _).trans h.perm
  · apply hsublist.trans h.sublist

/-- The roster stays as it is. -/
theorem keep (h : Enrolled past m) (hnew : event.newcomers = []) (hleave : event.leavers = [])
    (hlength : m'.crew.workers.length = m.crew.workers.length)
    (hrecruit : m'.holder.recruit? = m.holder.recruit?) (hroster : m'.crew.roster = m.crew.roster) :
  Enrolled (past ++ [event]) m'
  := by
  apply h.concat hnew hlength hrecruit
  · rw [hleave, hroster]
    rfl
  · rw [hroster]

theorem launch (h : Enrolled past m) (hholder : m.holder = .nobody) (peer : Endpoint) (job : Job) :
  Enrolled (past ++ [.quiet])
    ⟨{ m.crew with workers := m.crew.workers ++ [{ job }] },
      .enrolling ⟨m.crew.workers.length + 1, peer⟩⟩
  := by
  have hlength : m.crew.workers.length = (past.flatMap Event.newcomers).length := by
    rw [h.length_eq, hholder]
    exact congrArg List.length (List.append_nil _)
  constructor <;>
    simp only [List.flatMap_append, List.flatMap_singleton, Event.newcomers, Event.leavers,
      List.append_nil]
  · apply h.ids_eq
  · rw [List.length_append, List.length_append, hlength]
    rfl
  · rintro member ⟨⟩
    rw [hlength]
  · apply h.perm
  · apply h.sublist

theorem enroll (h : Enrolled past m) {member : Member} (hholder : m.holder = .enrolling member) :
  Enrolled (past ++ [.started member])
    ⟨{ m.crew with roster := m.crew.roster ++ [member] }, .nobody⟩
  := by
  have hid : member.id = (past.flatMap Event.newcomers).length + 1 := by
    apply h.recruit_id
    rw [hholder]
    rfl
  constructor <;>
    simp only [List.flatMap_append, List.flatMap_singleton, Event.newcomers, Event.leavers,
      List.append_nil]
  · rw [List.map_append, h.ids_eq, List.length_append, List.map_singleton, hid, Nat.add_comm _ 1]
    apply List.range'_1_concat.symm
  · rw [h.length_eq, hholder]
    exact congrArg List.length (List.append_nil _).symm
  · rintro member ⟨⟩
  · rw [← List.append_assoc]
    apply h.perm.append_right [member]
  · apply h.sublist.append (.refl [member])

theorem step (h : Enrolled past m) (hchange : Change m action event m') :
  Enrolled (past ++ [event]) m'
  := by
  cases hchange with
  | launch peer job hholder => exact h.launch hholder peer job
  | enroll member hholder => exact h.enroll hholder
  | scan hholder | look id unread found hholder =>
    refine h.keep rfl rfl rfl ?_ rfl
    rw [hholder]
    rfl
  | takeOff found hholder =>
    refine h.concat rfl rfl ?_ ?_ ?_
    · rw [hholder]
      rfl
    · apply Crew.perm_takeOff
    · rw [Crew.takeOff_eq]
      apply List.filter_sublist
  | takeAll hholder =>
    refine h.concat rfl rfl ?_ ?_ ?_
    · rw [hholder]
    · exact .of_eq (List.append_nil _)
    · apply List.nil_sublist
  | mark _ _ _ hmoves | announce _ _ _ hmoves | leave _ _ _ hmoves =>
    exact h.keep rfl rfl hmoves.length_eq rfl hmoves.roster_eq
  | takeWake | wake => exact h.keep rfl rfl rfl rfl rfl

theorem ids_pairwise (h : Enrolled past m) :
  (past.flatMap Event.newcomers).Pairwise (·.id < ·.id)
  := by
  rw [← List.pairwise_map (f := Member.id) (R := (· < ·)), h.ids_eq]
  apply List.pairwise_lt_range' 1

theorem nodup (h : Enrolled past m) :
  (past.flatMap Event.leavers ++ m.crew.roster).Nodup
  := by
  apply h.perm.nodup_iff.mpr
  apply h.ids_pairwise.imp
  rintro member other hlt rfl
  exact Nat.lt_irrefl _ hlt

/-- Of those who came onto the roster, the ones who were not taken off are there, oldest first. -/
theorem roster_eq (h : Enrolled past m) :
  m.crew.roster
    = (past.flatMap Event.newcomers).filter (· ∉ past.flatMap Event.leavers)
  := by
  have hnodup := List.nodup_append'.mp h.nodup
  have hthere := h.ids_pairwise.sublist h.sublist
  have hleft := h.ids_pairwise.filter (· ∉ past.flatMap Event.leavers)
  refine List.Perm.eq_of_pairwise ?_ hthere hleft ?_
  · intro member other _ _ hlt hgt
    exact absurd hlt (Nat.lt_asymm hgt)
  · apply (List.perm_ext_iff_of_nodup hnodup.2.1 ((h.perm.nodup_iff.mp h.nodup).filter _)).mpr
    intro member
    rw [List.mem_filter, ← h.perm.mem_iff, List.mem_append, decide_eq_true_eq]
    constructor
    · intro hmem
      exact ⟨.inr hmem, fun hleft => hnodup.2.2 hleft hmem⟩
    · rintro ⟨hleft | hmem, hstays⟩
      · exact absurd hleft hstays
      · apply hmem

theorem roster_ids_nodup (h : Enrolled past m) :
  (m.crew.roster.map (·.id)).Nodup
  := by
  apply List.Nodup.sublist (h.sublist.map _)
  rw [h.ids_eq]
  apply List.nodup_range' 1

end Enrolled

/-! ### Permits -/

/-- Every worker that has told the collector added one permit; the others were added by somebody
else, and each permit is there or was taken. -/
structure Balanced (past : List Event) (m : Muster Job) : Prop where
  nodup : (past.flatMap Event.tellers).Nodup
  mem_iff (id : Nat) :
    id ∈ past.flatMap Event.tellers ↔ (m.crew.progress? id).any Progress.isAnnounced
  wakes_eq : m.crew.wakes + past.count .woken
    = (past.flatMap Event.tellers).length + past.count .nudged

namespace Balanced

variable {past : List Event}

theorem nil :
  Balanced [] ({} : Muster Job)
  := by
  constructor
  · exact .nil
  · rintro (_ | id)
    · exact ⟨nofun, nofun⟩
    · exact ⟨nofun, nofun⟩
  · rfl

/-- No worker tells the collector. -/
theorem concat (h : Balanced past m) (htell : event.tellers = [])
    (hprogress : ∀ id, (m'.crew.progress? id).any Progress.isAnnounced
      = (m.crew.progress? id).any Progress.isAnnounced)
    (hwakes : m'.crew.wakes + [event].count .woken = m.crew.wakes + [event].count .nudged) :
  Balanced (past ++ [event]) m'
  := by
  constructor <;>
    simp only [List.flatMap_append, List.flatMap_singleton, htell, List.append_nil]
  · apply h.nodup
  · intro id
    rw [hprogress]
    apply h.mem_iff id
  · have hbefore := h.wakes_eq
    rw [List.count_append, List.count_append]
    omega

theorem announce (h : Balanced past m) {id : Nat} {ok : Bool} {crew : Crew Job}
    (hmoves : m.crew.Moves id (.marked ok) 1 (.announced ok) crew) :
  Balanced (past ++ [.told id]) ⟨crew, m.holder⟩
  := by
  have hnew : id ∉ past.flatMap Event.tellers := by
    rw [h.mem_iff, hmoves.progress?_before]
    nofun
  constructor <;>
    simp only [List.flatMap_append, List.flatMap_singleton, Event.tellers]
  · rw [← List.concat_eq_append]
    apply h.nodup.concat hnew
  · intro other
    rw [List.mem_append, List.mem_singleton, h.mem_iff, hmoves.progress?_after]
    split
    · next heq => exact ⟨fun _ => rfl, fun _ => .inr heq⟩
    · next hne => exact or_iff_left hne
  · have hbefore := h.wakes_eq
    have hwoken : [Event.told id].count .woken = 0 := rfl
    have hnudged : [Event.told id].count .nudged = 0 := rfl
    rw [hmoves.wakes_eq, List.count_append, List.count_append, List.length_append, hwoken, hnudged,
      List.length_singleton]
    omega

/-- A worker goes on without telling the collector. -/
theorem goOn (h : Balanced past m) {id : Nat} {p q : Progress} {crew : Crew Job}
    (hmoves : m.crew.Moves id p 0 q crew) (hsame : q.isAnnounced = p.isAnnounced) :
  Balanced (past ++ [.quiet]) ⟨crew, m.holder⟩
  := by
  refine h.concat rfl ?_ hmoves.wakes_eq
  intro other
  rw [hmoves.progress?_after]
  split
  · next heq =>
    rw [heq, hmoves.progress?_before]
    apply hsame
  · rfl

theorem step (h : Balanced past m) (hchange : Change m action event m') :
  Balanced (past ++ [event]) m'
  := by
  cases hchange with
  | launch peer job =>
    refine h.concat rfl ?_ rfl
    intro id
    show ((m.crew.start peer job).2.progress? id).any _ = _
    rw [Crew.progress?_start]
    split
    · next heq =>
      rw [Crew.progress?_eq_none (by omega)]
      rfl
    · rfl
  | announce _ _ _ hmoves => exact h.announce hmoves
  | mark _ _ _ hmoves | leave _ _ _ hmoves => exact h.goOn hmoves rfl
  | takeWake _ hwakes => exact h.concat rfl (fun _ => rfl) hwakes.symm
  | _ => exact h.concat rfl (fun _ => rfl) rfl

end Balanced

/-! ### Rounds -/

/-- Among the actions from `m` on, somebody looks whether the end of the worker `id` is marked, and
it is exactly if `seen` holds. -/
def Sees (m : Muster Job) (actions : List (Action Job)) (id : Nat) (seen : Prop) : Prop :=
  ∃ before after events now, actions = before ++ .look id :: after
    ∧ m.run before = some (events, now) ∧ (now.crew.isMarked id ↔ seen)

theorem Sees.cons {id : Nat} {seen : Prop} (hstep : m.step action = some (event, n))
    (h : n.Sees actions id seen) :
  m.Sees (action :: actions) id seen
  := by
  obtain ⟨before, after, events, now, rfl, hrun, hseen⟩ := h
  exact ⟨action :: before, after, event :: events, now, rfl, run_cons_eq hstep hrun, hseen⟩

/-- A mark that is there already is seen. -/
theorem Sees.of_isMarked {id : Nat} {seen : Prop} (h : m.Sees actions id seen)
    (hmarked : m.crew.isMarked id) :
  seen
  := by
  obtain ⟨before, after, events, now, -, hrun, hseen⟩ := h
  apply hseen.mp
  apply isMarked_of_run hrun hmarked

/-- A mark that is seen is there to the end. -/
theorem Sees.isMarked {id : Nat} {seen : Prop} (h : m.Sees actions id seen) (hseen : seen)
    {others : List (Action Job)} (hrun : m.run (actions ++ others) = some (events, m')) :
  m'.crew.isMarked id
  := by
  obtain ⟨before, after, events', now, rfl, hbefore, hmarked⟩ := h
  rw [List.append_assoc] at hrun
  obtain ⟨_, now', _, hbefore', hafter, -⟩ := run_append.mp hrun
  cases hbefore.symm.trans hbefore'
  apply isMarked_of_run hafter (hmarked.mpr hseen)

/-- While somebody looks at the marks, one of them is looked at, or the roster stays as it is. -/
theorem Change.of_checking {unread found : List Nat} (hchange : Change m action event m')
    (hholder : m.holder = .checking unread found) (haction : action ≠ .takeOff) :
  (∃ id ∈ unread, action = .look id ∧ m' = ⟨m.crew, .checking (unread.erase id)
      (if m.crew.isMarked id then found ++ [id] else found)⟩)
    ∨ m'.holder = .checking unread found ∧ m'.crew.roster = m.crew.roster
  := by
  cases hchange with
  | launch _ _ hother | enroll _ hother | scan hother | takeAll hother =>
    rw [hother] at hholder
    cases hholder
  | look id unread' found' hother hmem =>
    rw [hother] at hholder
    cases hholder
    exact .inl ⟨id, hmem, rfl, rfl⟩
  | takeOff => exact absurd rfl haction
  | mark _ _ _ hmoves | announce _ _ _ hmoves | leave _ _ _ hmoves =>
    exact .inr ⟨hholder, hmoves.roster_eq⟩
  | takeWake | wake => exact .inr ⟨hholder, rfl⟩

theorem mem_ite_concat (found : List Nat) (id other : Nat) (marked : Bool) :
  other ∈ (if marked then found ++ [id] else found) ↔ other ∈ found ∨ marked ∧ other = id
  := by
  cases marked with
  | true => simp
  | false => simp

/-- Whoever goes through the roster takes off it those whose mark was there when it was looked
at. -/
theorem run_checking {unread found : List Nat} (hends : .takeOff ∉ actions)
    (hholder : m.holder = .checking unread found) (hnodup : unread.Nodup)
    (hfound : ∀ id ∈ unread, id ∉ found)
    (hrun : m.run (actions ++ [.takeOff]) = some (events, m')) :
  ∃ (quiets : List Event) (marked : List Nat),
    events = quiets ++ [.taken (m.crew.roster.filter (marked.contains ·.id))]
    ∧ m'.crew.roster = m.crew.roster.filter (!marked.contains ·.id)
    ∧ (∀ id ∉ unread, id ∈ marked ↔ id ∈ found)
    ∧ ∀ id ∈ unread, m.Sees actions id (id ∈ marked)
  := by
  induction actions generalizing m unread found events with
  | nil =>
    obtain ⟨event, n, rest, hchange, -, hrest, rfl⟩ := run_cons hrun
    cases hrest
    cases hchange with
    | takeOff found' hother =>
      rw [hother] at hholder
      cases hholder
      rw [Crew.takeOff_eq]
      exact ⟨[], found, rfl, rfl, fun _ _ => .rfl, nofun⟩
  | cons action actions ih =>
    obtain ⟨event, n, rest, hchange, hstep, hrest, rfl⟩ := run_cons hrun
    have haction : action ≠ .takeOff := fun heq => hends (heq ▸ List.mem_cons_self)
    replace hends := fun hmem => hends (List.mem_cons_of_mem action hmem)
    rcases hchange.of_checking hholder haction with ⟨id, hmem, rfl, rfl⟩ | ⟨hsame, hroster⟩
    · have hothers : ∀ other, other ≠ id →
          (other ∈ (if m.crew.isMarked id then found ++ [id] else found) ↔ other ∈ found) := by
        intro other hne
        rw [mem_ite_concat]
        apply or_iff_left
        exact fun h => hne h.2
      have hleft : ∀ other, other ∈ unread.erase id ↔ other ≠ id ∧ other ∈ unread :=
        fun _ => hnodup.mem_erase_iff
      have hfound' : ∀ other ∈ unread.erase id,
          other ∉ (if m.crew.isMarked id then found ++ [id] else found) := by
        intro other hother
        rw [hleft] at hother
        rw [hothers other hother.1]
        apply hfound other hother.2
      obtain ⟨quiets, marked, rfl, hstays, hread, hsees⟩ :=
        ih hends rfl (hnodup.erase id) hfound' hrest
      refine ⟨event :: quiets, marked, rfl, hstays, ?_, ?_⟩
      · intro other hother
        rw [hread other (fun h => hother (List.mem_of_mem_erase h))]
        apply hothers other
        rintro rfl
        apply hother hmem
      · intro other hother
        rcases eq_or_ne other id with rfl | hne
        · -- The mark is looked at in this step and in no later one.
          have hseen := hread other hnodup.not_mem_erase
          rw [mem_ite_concat, or_iff_right (hfound other hmem), and_iff_left rfl] at hseen
          exact ⟨[], actions, [], m, rfl, rfl, hseen.symm⟩
        · exact (hsees other ((hleft other).mpr ⟨hne, hother⟩)).cons hstep
    · obtain ⟨quiets, marked, rfl, hstays, hread, hsees⟩ := ih hends hsame hnodup hfound hrest
      rw [hroster] at hstays ⊢
      refine ⟨event :: quiets, marked, rfl, hstays, hread, ?_⟩
      intro id hmem
      exact (hsees id hmem).cons hstep

/-- Who is taken off the roster in a round: the members whose mark was there when it was looked at.
That is everybody whose mark was there before the round and nobody whose mark is not there behind
it. -/
theorem run_round {between : List (Action Job)} (hnodup : (m.crew.roster.map (·.id)).Nodup)
    (hends : .takeOff ∉ between)
    (hrun : m.run (.scan :: between ++ [.takeOff]) = some (events, m')) :
  ∃ quiets members, events = quiets ++ [.taken members]
    ∧ (members ++ m'.crew.roster).Perm m.crew.roster
    ∧ ∀ member ∈ m.crew.roster,
      m.Sees (.scan :: between) member.id (member ∈ members)
      ∧ (m.crew.isMarked member.id → member ∈ members)
      ∧ (member ∈ members → m'.crew.isMarked member.id)
  := by
  obtain ⟨event, n, rest, hchange, hstep, hrest, rfl⟩ := run_cons hrun
  cases hchange with
  | scan =>
    obtain ⟨quiets, marked, rfl, hstays, -, hsees⟩ :=
      run_checking hends rfl hnodup (fun _ _ => List.not_mem_nil) hrest
    refine ⟨.quiet :: quiets, _, rfl, ?_, ?_⟩
    · rw [hstays]
      apply List.filter_append_perm
    · intro member hmember
      have hround : m.Sees (.scan :: between) member.id
          (member ∈ m.crew.roster.filter (marked.contains ·.id)) := by
        rw [List.mem_filter, and_iff_right hmember, List.contains_iff_mem]
        exact (hsees member.id (List.mem_map_of_mem hmember)).cons hstep
      exact ⟨hround, hround.of_isMarked, fun hmem => hround.isMarked hmem hrun⟩

/-! ### Runs -/

/-- The roster neither loses nor doubles anybody, in whatever order workers are started, come to
their end and are taken off. Every worker that was started came onto it, unless it is about to, and
they are numbered in that order. Each of those who came was taken off, by one taker and once, or is
there still; who is there is who came and was not taken off, oldest first. Each worker that has told
the collector has done so once, and the permits that are there and those that were taken are as many
as these workers and whatever else was added.

Whoever goes through the roster next takes off it those whose end is marked and leaves the others.
If other things happen meanwhile, it is those whose mark was there when it was looked at: everybody
who was marked before the round, and nobody who is not marked behind it. -/
theorem run_loses_nobody (hrun : run {} actions = some (events, m)) :
  let came := events.flatMap Event.newcomers
  let left := events.flatMap Event.leavers
  let told := events.flatMap Event.tellers
  came.map (·.id) = List.range' 1 came.length
    ∧ m.crew.workers.length = (came ++ m.holder.recruit?.toList).length
    ∧ (left ++ m.crew.roster).Perm came
    ∧ m.crew.roster = came.filter (· ∉ left)
    ∧ m.crew.roster.length + left.length = came.length
    ∧ m.crew.roster.map (·.peer) = (came.filter (· ∉ left)).map (·.peer)
    ∧ told.Nodup
    ∧ (∀ id, id ∈ told ↔ (m.crew.progress? id).any Progress.isAnnounced)
    ∧ m.crew.wakes + events.count .woken = told.length + events.count .nudged
    ∧ (m.holder = .nobody →
      m.run (.scan :: m.crew.roster.map (.look ·.id) ++ [.takeOff])
        = some (.quiet :: m.crew.roster.map (fun _ => .quiet)
            ++ [.taken (m.crew.roster.filter (m.crew.isMarked ·.id))],
          ⟨{ m.crew with roster := m.crew.roster.filter (!m.crew.isMarked ·.id) }, .nobody⟩))
    ∧ ∀ between report after, .takeOff ∉ between →
      m.run (.scan :: between ++ [.takeOff]) = some (report, after) →
      ∃ quiets members, report = quiets ++ [.taken members]
        ∧ (members ++ after.crew.roster).Perm m.crew.roster
        ∧ ∀ member ∈ m.crew.roster,
          m.Sees (.scan :: between) member.id (member ∈ members)
          ∧ (m.crew.isMarked member.id → member ∈ members)
          ∧ (member ∈ members → after.crew.isMarked member.id)
  := by
  intro came left told
  have henrolled : Enrolled events m := run_keeps Enrolled.step [] .nil hrun
  have hpermits : Balanced events m := run_keeps Balanced.step [] .nil hrun
  refine ⟨henrolled.ids_eq, henrolled.length_eq, henrolled.perm, henrolled.roster_eq, ?_,
    congrArg _ henrolled.roster_eq, hpermits.nodup, hpermits.mem_iff, hpermits.wakes_eq, ?_, ?_⟩
  · rw [Nat.add_comm, ← List.length_append]
    apply henrolled.perm.length_eq
  · intro hholder
    have hround := run_takeFinished m.crew
    rw [Crew.takeFinished_eq, ← hholder] at hround
    rw [hround, hholder]
  · intro between report after hends hround
    apply run_round henrolled.roster_ids_nodup hends hround

/-- The first worker comes to its end before it is on the roster. The second marks its end while
somebody goes through the roster, but behind the look at its mark, and stays. -/
theorem run_loses_nobody_late_mark :
  let peer : Endpoint := ⟨.short [127, 0, 0, 1], 4000⟩
  let actions : List (Action Unit) :=
    [.launch peer (), .mark 1 true, .announce 1, .enroll, .launch peer (), .enroll, .takeWake]
  let between : List (Action Unit) := [.look 2, .mark 2 false, .look 1]
  ∃ events m report after, run {} actions = some (events, m)
    ∧ events.flatMap Event.tellers = [1]
    ∧ m.crew.roster = [⟨1, peer⟩, ⟨2, peer⟩]
    ∧ m.crew.wakes = 0
    ∧ .takeOff ∉ between
    ∧ m.run (.scan :: between ++ [.takeOff]) = some (report, after)
    ∧ report.getLast? = some (.taken [⟨1, peer⟩])
    ∧ after.crew.roster = [⟨2, peer⟩]
    ∧ after.crew.isMarked 2
  := by
  intro peer actions between
  obtain ⟨events, m, report, after, hrun, hcame, hleft, htold, hwoken, hnudged, hagain, hreport,
      hlate⟩ :
      ∃ events m report after, run {} actions = some (events, m)
        ∧ events.flatMap Event.newcomers = [⟨1, peer⟩, ⟨2, peer⟩]
        ∧ events.flatMap Event.leavers = []
        ∧ events.flatMap Event.tellers = [1]
        ∧ events.count .woken = 1
        ∧ events.count .nudged = 0
        ∧ m.run (.scan :: between ++ [.takeOff]) = some (report, after)
        ∧ report = List.replicate 4 .quiet ++ [.taken [⟨1, peer⟩]]
        ∧ after.crew.isMarked 2 :=
    ⟨_, _, _, _, rfl, rfl, rfl, rfl, rfl, rfl, rfl, rfl, rfl⟩
  have hends : .takeOff ∉ between := by simp [between]
  obtain ⟨-, -, -, hroster, -, -, -, -, hwakes, -, hround⟩ := run_loses_nobody hrun
  rw [hcame, hleft] at hroster
  rw [htold, hwoken, hnudged] at hwakes
  obtain ⟨quiets, members, htaken, hperm, -⟩ := hround between report after hends hagain
  obtain rfl : members = [⟨1, peer⟩] := by
    rw [hreport] at htaken
    cases (List.append_inj' htaken rfl).2
    rfl
  have hstays : after.crew.roster = [⟨2, peer⟩] := by
    rw [hroster] at hperm
    apply List.perm_singleton.mp ((List.perm_cons _).mp hperm)
  refine ⟨events, m, report, after, hrun, htold, hroster, Nat.succ.inj hwakes, hends, hagain, ?_,
    hstays, hlate⟩
  rw [hreport]
  rfl

end Muster

end BoundedLog
