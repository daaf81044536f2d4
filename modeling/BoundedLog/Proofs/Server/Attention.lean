import BoundedLog.Proofs.Server.Change

/-!
# Marked members are attended to

A member of the roster whose end is marked is not forgotten: there is a permit for the collector, or
the worker has still to add one, or the collector is already on its way to the member. A permit says
nothing about whom it was added for, so this is not a matter of counting. It holds because whoever
takes a permit goes on to look at every mark, and a worker adds its permit behind its mark: a mark
that comes too late for a round has its permit still ahead of it, or there.
-/

namespace BoundedLog

/-- Whether the collector needs no further permit to take the member with a number off the roster:
it has not begun to look at marks, or has still to look at this one, or has found it. -/
def Collector.Place.Reaches (id : Nat) : Collector.Place → Prop
  | scanning => True
  | checking unread found => id ∈ unread ∨ id ∈ found
  | _ => False

namespace Crew

variable {Job : Type} {c c' : Crew Job} {place : Collector.Place} {member : Member}

/-- A member of the roster is attended to as soon as its end is marked. -/
def Attends (c : Crew Job) (place : Collector.Place) (member : Member) : Prop :=
  member ∈ c.roster → c.isMarked member.id →
    0 < c.wakes ∨ (∃ ok, c.progress? member.id = some (.marked ok)) ∨ place.Reaches member.id

/-- The permit of a worker comes behind its mark. -/
theorem Advances.attends (h : c.Advances c') (hattends : c.Attends place member) :
  c'.Attends place member
  := by
  intro hmember hmarked
  rw [h.roster_eq] at hmember
  rcases h.progress?_next member.id with hsame | ⟨p, permits, q, hnext, hbefore, hafter, hwakes⟩
  · rw [isMarked, hsame] at hmarked
    rcases hattends hmember hmarked with hpermit | hannouncing | hreaches
    · exact .inl (Nat.lt_of_lt_of_le hpermit h.wakes_le)
    · exact .inr (.inl (hsame ▸ hannouncing))
    · exact .inr (.inr hreaches)
  · cases hnext with
    | mark ok => exact .inr (.inl ⟨ok, hafter⟩)
    | announce ok =>
      left
      rw [hwakes]
      apply Nat.succ_pos
    | leave ok =>
      have hannounced : c.isMarked member.id := by
        rw [isMarked, hbefore]
        rfl
      rcases hattends hmember hannounced with hpermit | ⟨ok', hannouncing⟩ | hreaches
      · exact .inl (Nat.lt_of_lt_of_le hpermit h.wakes_le)
      · rw [hbefore] at hannouncing
        cases hannouncing
      · exact .inr (.inr hreaches)

/-- The end of a new worker is not marked. -/
theorem attends_start (peer : Endpoint) (job : Job) (hattends : c.Attends place member) :
  (c.start peer job).2.Attends place member
  := by
  intro hmember hmarked
  rw [isMarked, progress?_start] at hmarked
  split at hmarked
  · cases hmarked
  · next hne =>
    rcases List.mem_append.mp hmember with hold | hnew
    · rw [progress?_start, if_neg hne]
      apply hattends hold hmarked
    · obtain rfl := List.mem_singleton.mp hnew
      exact absurd rfl hne

/-- The collector takes a permit only in order to look at every mark, and leaves on the roster only
those whose end it has found not to be marked. -/
theorem attends_of_step {collector collector' : Collector} {accepting : Bool}
    (hstep : collector.step accepting c = some (collector', c'))
    (hattends : c.Attends collector.place member) :
  c'.Attends collector'.place member
  := by
  obtain ⟨place, joined⟩ := collector
  cases place with
  | waiting =>
    obtain ⟨woken, hwoken, hstep⟩ := Option.bind_eq_some_iff.mp hstep
    cases hstep
    intro hmember hmarked
    right
    right
    trivial
  | scanning =>
    cases hstep
    intro hmember hmarked
    right
    right
    left
    apply List.mem_map_of_mem hmember
  | checking unread found =>
    cases unread with
    | cons id unread =>
      cases hstep
      intro hmember hmarked
      rcases hattends hmember hmarked with hpermit | hannouncing | hunread | hfound
      · exact .inl hpermit
      · exact .inr (.inl hannouncing)
      · right
        right
        rcases List.mem_cons.mp hunread with heq | hunread
        · right
          rw [← heq, if_pos hmarked]
          apply List.mem_append_right found (List.mem_singleton.mpr rfl)
        · left
          exact hunread
      · right
        right
        right
        split
        · apply List.mem_append_left [id] hfound
        · exact hfound
    | nil =>
      cases hstep
      intro hmember hmarked
      obtain ⟨hmember, hleft⟩ := (mem_roster_takeOff c found member).mp hmember
      rcases hattends hmember hmarked with hpermit | hannouncing | hunread | hfound
      · exact .inl hpermit
      · exact .inr (.inl hannouncing)
      · cases hunread
      · exact absurd hfound hleft
  | joining ids =>
    cases ids with
    | nil =>
      cases hstep
      exact hattends
    | cons id ids =>
      obtain ⟨ok, -, hstep⟩ := Option.bind_eq_some_iff.mp hstep
      cases hstep
      exact hattends
  | askingAccepting | askingEmpty =>
    cases hstep
    intro hmember hmarked
    rcases hattends hmember hmarked with hpermit | hannouncing | hreaches
    · exact .inl hpermit
    · exact .inr (.inl hannouncing)
    · cases hreaches
  | ended => cases hstep

end Crew

namespace Server

variable {s s' : Server} {action : Action} {member : Member}

/-- Every step keeps the members attended to. -/
theorem Change.attends (h : Change s action s')
    (hattends : s.crew.Attends s.collector.place member) :
  s'.crew.Attends s'.collector.place member
  := by
  cases h with
  | advance _ hcrew hcollector =>
    rw [hcollector]
    apply hcrew.attends hattends
  | welcome _ peer service hcrew _ hcollector =>
    rw [hcrew, hcollector]
    apply Crew.attends_start peer service hattends
  | collect _ hstep => apply Crew.attends_of_step hstep hattends
  | shut _ hcrew hcollector | find _ hcrew hcollector =>
    rw [hcrew, hcollector]
    exact hattends
  | tell _ hcrew hcollector =>
    rw [hcrew, hcollector]
    apply (Crew.advances_wake s.crew).attends hattends
  | clear _ hcrew =>
    rw [hcrew]
    intro hmember
    cases hmember

/-- Whatever happens, a member of the roster whose end is marked has a permit for the collector, or
its worker is about to add one, or the collector reaches it without one. So a collector that waits
without a permit waits only for workers that are about to add theirs. -/
theorem run_attends {log : SharedLog} {disk : Disk} {actions : List Action}
    (hrun : (ofLog log disk).run actions = some s) (hmember : member ∈ s.crew.roster)
    (hmarked : s.crew.isMarked member.id) :
  (0 < s.crew.wakes
      ∨ (∃ ok, s.crew.progress? member.id = some (.marked ok))
      ∨ s.collector.place.Reaches member.id)
    ∧ (s.collector.place = .waiting → s.crew.wakes = 0 →
      ∃ ok, s.crew.progress? member.id = some (.marked ok))
  := by
  have hstart : (ofLog log disk).crew.Attends (ofLog log disk).collector.place member := by
    intro hmember
    cases hmember
  have hattends :=
    run_keeps (fun hattends h => Change.attends h hattends) hstart hrun hmember hmarked
  use hattends
  intro hwaiting hwakes
  rcases hattends with hpermit | hannouncing | hreaches
  · rw [hwakes] at hpermit
    cases hpermit
  · exact hannouncing
  · rw [hwaiting] at hreaches
    cases hreaches

/-- The collector has looked at both marks and found one when the other worker breaks down. There is
no permit, and this round does not reach the worker any more, but it is about to add a permit. -/
theorem run_attends_late_mark :
  let peer : Endpoint := ⟨.short [127, 0, 0, 1], 4000⟩
  let actions : List Action :=
    [.supervise, .welcome peer {}, .supervise, .welcome peer {}, .breakDown 1, .work 1, .collect,
      .collect, .collect, .collect, .breakDown 2]
  ∃ s, (ofLog { window := .ofCapacity 1 } { tree := .empty }).run actions = some s
    ∧ s.crew.wakes = 0
    ∧ s.collector.place = .checking [] [1]
    ∧ (⟨2, peer⟩ ∈ s.crew.roster ∧ s.crew.isMarked 2)
    ∧ ∃ ok, s.crew.progress? 2 = some (.marked ok)
  := by
  intro peer actions
  obtain ⟨s, hrun, hwakes, hplace, hroster, hmarked⟩ :
      ∃ s, (ofLog { window := .ofCapacity 1 } { tree := .empty }).run actions = some s
        ∧ s.crew.wakes = 0 ∧ s.collector.place = .checking [] [1]
        ∧ s.crew.roster = [⟨1, peer⟩, ⟨2, peer⟩] ∧ s.crew.isMarked 2 :=
    ⟨_, rfl, rfl, rfl, rfl, rfl⟩
  have hmember : ⟨2, peer⟩ ∈ s.crew.roster := by
    rw [hroster]
    apply List.mem_cons_of_mem _ (List.mem_singleton.mpr rfl)
  use s, hrun, hwakes, hplace, ⟨hmember, hmarked⟩
  rcases (run_attends hrun hmember hmarked).1 with hpermit | hannouncing | hreaches
  · rw [hwakes] at hpermit
    cases hpermit
  · exact hannouncing
  · rw [hplace] at hreaches
    simp [Collector.Place.Reaches] at hreaches

end Server

end BoundedLog
