import BoundedLog.Proofs.Files.Replace
import BoundedLog.SharedLog

/-!
# What a removal leaves behind

A removal tries the file first and its staging file afterwards. If the file cannot be removed, the
staging file is not tried at all: it is no obstacle that nothing is at the path, but a directory at
the path is one. So a staging file is left behind by a removal that meets an obstacle. A replica
makes one attempt when it is removed and one when it is given up; a log that is closed makes both.
-/

namespace BoundedLog

/-- What keeps the file at a path from being removed, as far as what the path leads to tells. -/
def Tree.obstacle? (t : Tree) (p : Path) : Option IoError :=
  match t.find p with
  | .ok (.file _) => none
  | .ok .directory => some .isDirectory
  | .error cause => if cause.kind = .notFound then none else some cause

/-- What a path leads to tells whether the file there is removed. -/
theorem Tree.unlink_eq (t : Tree) (p : Path) :
  t.unlink p =
    match t.find p with
    | .ok (.file _) => .ok (t.erase p.place)
    | .ok .directory => .error .isDirectory
    | .error cause => .error cause
  := by
  rw [unlink, find]
  cases hresolve : t.resolve p with
  | error cause => rfl
  | ok ending =>
    rw [place_of_resolve hresolve]
    cases ending with
    | unnamed directory => rfl
    | named directory name slash =>
      dsimp only [Bind.bind, Except.bind]
      cases t.child directory name with
      | error cause => rfl
      | ok held =>
        rcases held with _ | _ | _
        · rfl
        · cases slash <;> rfl
        · rfl

/-- The later tree holds nothing that the earlier one did not. -/
def Tree.Removes (t t' : Tree) : Prop := ∀ l, t'.lookup l = t.lookup l ∨ t'.lookup l = none

instance : IsPreorder Tree Tree.Removes where
  refl _ _ := .inl rfl
  trans t t' t'' h h' := by
    intro l
    rcases h' l with hl' | hl'
    · rw [hl']
      apply h l
    · exact .inr hl'

namespace Disk

variable {p : Path} {content : Bytes} {d d' : Disk}

theorem keeps_removes_unlink (p : Path) :
  Keeps Tree.Removes (unlink p)
  := by
  apply keeps_change
  intro t t' h l
  obtain ⟨hadmits, -, rfl⟩ := Tree.unlink_eq_ok h
  rw [Tree.lookup_erase t hadmits.place_ne_nil]
  split
  · exact .inr rfl
  · exact .inl rfl

/-! ### One attempt -/

/-- What keeps the file at a path from being removed; that nothing is there does not. -/
def obstacle? (p : Path) (d : Disk) : Option IoError :=
  match ((unlink p).run.run d).1 with
  | .ok _ => none
  | .error cause => if cause.kind = .notFound then none else some cause

/-- The disk behind an attempt to remove a file. -/
def behindUnlink (p : Path) (d : Disk) : Disk := ((unlink p).run.run d).2

theorem run_removeIfPresent (p : Path) (d : Disk) :
  ∃ count, (removeIfPresent p).run.run d
    = ((obstacle? p d).elim (.ok count) .error, behindUnlink p d)
  := by
  rw [removeIfPresent, run_tryCatch, run_bind, obstacle?, behindUnlink]
  rcases (unlink p).run.run d with ⟨cause | _, after⟩
  · dsimp only
    by_cases hcause : cause.kind = .notFound
    · rw [if_pos hcause, if_pos hcause]
      exact ⟨0, rfl⟩
    · rw [if_neg hcause, if_neg hcause]
      exact ⟨0, rfl⟩
  · exact ⟨1, rfl⟩

/-- A removal tries the staging file only if the file meets no obstacle. -/
theorem run_removeWithStaging_snd (p : Path) (d : Disk) :
  ((removeWithStaging p).run.run d).2
    = if (obstacle? p d).isSome then behindUnlink p d
      else behindUnlink p.staging (behindUnlink p d)
  := by
  obtain ⟨count, hfile⟩ := run_removeIfPresent p d
  obtain ⟨count', hstaging⟩ := run_removeIfPresent p.staging (behindUnlink p d)
  rw [removeWithStaging, run_bind, hfile]
  cases obstacle? p d with
  | some cause => rfl
  | none =>
    dsimp only [Option.elim_none]
    rw [run_bind, hstaging]
    cases obstacle? p.staging (behindUnlink p d) with
    | some cause => rfl
    | none => rfl

/-- A removal leaves the staging file if the file meets an obstacle, and if the staging file itself
cannot be removed. -/
def LeavesStaging (p : Path) (d : Disk) : Prop :=
  (obstacle? p d).isSome ∨ ((unlink p.staging).run.run (behindUnlink p d)).1.isOk = false

instance : Decidable (LeavesStaging p d) := inferInstanceAs (Decidable (_ ∨ _))

theorem isOk_of_obstacle (h : (obstacle? p d).isSome) :
  ((unlink p).run.run d).1.isOk = false
  := by
  rw [obstacle?] at h
  cases hremoved : ((unlink p).run.run d).1 with
  | error cause => rfl
  | ok _ =>
    rw [hremoved] at h
    cases h

theorem tree_behindUnlink_of_error (h : ((unlink p).run.run d).1.isOk = false) :
  (behindUnlink p d).tree = d.tree
  := by
  rw [behindUnlink]
  rcases hrun : (unlink p).run.run d with ⟨cause | _, d'⟩
  · apply (operate_eq_error hrun).1
  · rw [hrun] at h
    cases h

/-- The file is no staging file of itself, so the staging file is still there when it is tried. -/
theorem find_staging_behindUnlink (h : d.tree.find p.staging = .ok (.file content)) :
  (behindUnlink p d).tree.find p.staging = .ok (.file content)
  := by
  have hkeeps : Keeps (Tree.Spares (fun _ => False) (· = p.place)) (unlink p) := keeps_unlink rfl
  apply (hkeeps d).tree.find_file p.place_staging_ne h

/-- An attempt leaves the staging file as it is, or it leaves none. -/
theorem removeWithStaging_cases (h : d.tree.find p.staging = .ok (.file content)) :
  let after := ((removeWithStaging p).run.run d).2
  (LeavesStaging p d ∧ after.tree.find p.staging = .ok (.file content))
    ∨ (¬ LeavesStaging p d ∧ after.tree.lookup p.staging.place = none)
  := by
  have hbetween := find_staging_behindUnlink h
  dsimp only
  rw [run_removeWithStaging_snd, LeavesStaging]
  by_cases hobstacle : (obstacle? p d).isSome
  · left
    rw [if_pos hobstacle]
    exact ⟨.inl hobstacle, hbetween⟩
  · rw [if_neg hobstacle]
    cases hremoved : ((unlink p.staging).run.run (behindUnlink p d)).1.isOk with
    | false =>
      left
      rw [tree_behindUnlink_of_error hremoved]
      exact ⟨.inr rfl, hbetween⟩
    | true =>
      right
      refine ⟨by simp [hobstacle], ?_⟩
      rcases hrun : (unlink p.staging).run.run (behindUnlink p d) with ⟨_ | _, after⟩
      · rw [hrun] at hremoved
        cases hremoved
      · obtain ⟨hadmits, -, htree⟩ := Tree.unlink_eq_ok (change_eq_ok hrun).1
        rw [behindUnlink, hrun]
        dsimp only
        rw [htree, Tree.lookup_erase _ hadmits.place_ne_nil, if_pos rfl]

theorem removes_removeWithStaging (p : Path) (d : Disk) :
  d.tree.Removes ((removeWithStaging p).run.run d).2.tree
  := by
  have hunlink : ∀ (q : Path) (d : Disk), Passes Tree.Removes d (behindUnlink q d) :=
    keeps_removes_unlink
  rw [run_removeWithStaging_snd]
  split
  · apply (hunlink p d).tree
  · apply ((hunlink p d).trans (hunlink p.staging _)).tree

/-! ### Any number of attempts -/

/-- The disk behind so many attempts to remove the file at a path and its staging file. -/
def behindAttempts (p : Path) (d : Disk) : Nat → Disk
  | 0 => d
  | n + 1 => ((removeWithStaging p).run.run (behindAttempts p d n)).2

/-- The staging file is left exactly if every attempt leaves it: once it is gone, no further attempt
brings it back. -/
theorem behindAttempts_cases (h : d.tree.find p.staging = .ok (.file content)) (n : Nat) :
  ((∀ i < n, LeavesStaging p (behindAttempts p d i))
      ∧ (behindAttempts p d n).tree.find p.staging = .ok (.file content))
    ∨ ((∃ i < n, ¬ LeavesStaging p (behindAttempts p d i))
      ∧ (behindAttempts p d n).tree.lookup p.staging.place = none)
  := by
  induction n with
  | zero => exact .inl ⟨nofun, h⟩
  | succ n ih =>
    rcases ih with ⟨hall, hfile⟩ | ⟨⟨i, hi, hnot⟩, hnone⟩
    · rcases removeWithStaging_cases hfile with ⟨hleaves, hfile'⟩ | ⟨hnot, hnone⟩
      · left
        refine ⟨fun i hi => ?_, hfile'⟩
        rcases Nat.lt_succ_iff_lt_or_eq.mp hi with hlt | rfl
        · apply hall i hlt
        · apply hleaves
      · right
        exact ⟨⟨n, Nat.lt_succ_self n, hnot⟩, hnone⟩
    · right
      refine ⟨⟨i, Nat.lt_succ_of_lt hi, hnot⟩, ?_⟩
      rcases removes_removeWithStaging p (behindAttempts p d n) p.staging.place with hsame | hgone
      · exact hsame.trans hnone
      · apply hgone

/-! ### Fair disks -/

/-- On a fair disk only what is at a path keeps the file there from being removed. -/
theorem run_unlink_of_fair (hluck : d.luck = []) (p : Path) :
  ((unlink p).run.run d).1.isOk = (d.tree.unlink p).isOk ∧ obstacle? p d = d.tree.obstacle? p
    ∧ (behindUnlink p d).luck = []
  := by
  rw [obstacle?, behindUnlink, unlink, run_operate, hluck, Tree.unlink_eq, Tree.obstacle?]
  dsimp only
  rcases d.tree.find p with cause | ⟨_ | _⟩
  · exact ⟨rfl, rfl, rfl⟩
  · exact ⟨rfl, rfl, rfl⟩
  · exact ⟨rfl, rfl, rfl⟩

theorem leavesStaging_iff_of_fair (hluck : d.luck = [])
    (h : d.tree.find p.staging = .ok (.file content)) :
  LeavesStaging p d ↔ (d.tree.obstacle? p).isSome
  := by
  obtain ⟨-, hobstacle, hluck'⟩ := run_unlink_of_fair hluck p
  have hremoved := (run_unlink_of_fair hluck' p.staging).1
  rw [Tree.unlink_eq, find_staging_behindUnlink h] at hremoved
  rw [LeavesStaging, hobstacle, hremoved]
  simp [Except.isOk, Except.toBool]

/-- On a fair disk an obstacle stays, and so does the staging file. -/
theorem behindAttempts_of_obstacle (hluck : d.luck = []) (h : (d.tree.obstacle? p).isSome)
    (n : Nat) :
  (behindAttempts p d n).tree = d.tree ∧ (behindAttempts p d n).luck = []
  := by
  induction n with
  | zero => exact ⟨rfl, hluck⟩
  | succ n ih =>
    obtain ⟨htree, hluck'⟩ := ih
    obtain ⟨hremoved, hobstacle, hluck''⟩ := run_unlink_of_fair hluck' p
    rw [← htree, ← hobstacle] at h
    rw [behindAttempts, run_removeWithStaging_snd, if_pos h]
    refine ⟨?_, hluck''⟩
    rw [tree_behindUnlink_of_error (isOk_of_obstacle h), htree]

end Disk

/-! ### Replicas and logs -/

theorem Replica.run_remove_snd (r : Replica) (d : Disk) :
  (r.remove.run d).2 = ((Disk.removeWithStaging r.path).run.run d).2
  := by
  rw [remove, StateT.run_bind]
  rcases (Disk.removeWithStaging r.path).run.run d with ⟨_ | _, d'⟩
  · rfl
  · rfl

theorem Replica.run_release_snd (r : Replica) (d : Disk) :
  (r.release.run d).2 = (r.remove.run d).2
  := rfl

/-- A log that is closed removes its replica and then gives it up. -/
theorem SharedLog.run_close_snd {log : SharedLog} {replica : Replica}
    (h : log.replica = some replica) (d : Disk) :
  (log.close.run d).2 = (replica.release.run (replica.remove.run d).2).2
  := by
  rw [close, h]
  rfl

/-- How many attempts it takes to remove and to release a replica, and to release and to close its
log. -/
theorem SharedLog.behindAttempts_of_replica {log : SharedLog} {p : Path}
    (h : log.replica = some ⟨p⟩) (d : Disk) :
  let behind := Disk.behindAttempts p d
  (((⟨p⟩ : Replica).remove.run d).2 = behind 1 ∧ ((⟨p⟩ : Replica).release.run d).2 = behind 1)
    ∧ (log.release.run d).2 = behind 1 ∧ (log.close.run d).2 = behind 2
  := by
  rw [run_close_snd h, release, h]
  simp only [Replica.run_release_snd, Replica.run_remove_snd]
  exact ⟨⟨rfl, rfl⟩, rfl, rfl⟩

/-- However often the replica of a log is removed, its staging file is left exactly if every attempt
leaves it, which an attempt does if the file meets an obstacle or the staging file itself cannot be
removed. On a fair disk it is left exactly if a directory is at the path, or something else keeps the
file from being looked up than that it is missing; then closing the log, which makes two attempts,
leaves it as well. -/
theorem SharedLog.close_leftover {log : SharedLog} {p : Path} {content : Bytes} {d : Disk}
    (hreplica : log.replica = some ⟨p⟩) (h : d.tree.find p.staging = .ok (.file content)) :
  let behind := Disk.behindAttempts p d
  (((Disk.removeWithStaging p).run.run d).2 = behind 1
      ∧ ((⟨p⟩ : Replica).remove.run d).2 = behind 1
      ∧ ((⟨p⟩ : Replica).release.run d).2 = behind 1
      ∧ (log.release.run d).2 = behind 1
      ∧ (log.close.run d).2 = behind 2)
    ∧ (∀ n, ((∀ i < n, Disk.LeavesStaging p (behind i))
          ∧ (behind n).tree.find p.staging = .ok (.file content))
        ∨ ((∃ i < n, ¬ Disk.LeavesStaging p (behind i))
          ∧ (behind n).tree.lookup p.staging.place = none))
    ∧ (d.luck = [] → ∀ n,
        let obstructed := d.tree.find p = .ok .directory
          ∨ ∃ cause, d.tree.find p = .error cause ∧ cause.kind ≠ .notFound
        (obstructed → (behind (n + 1)).tree.find p.staging = .ok (.file content))
          ∧ (¬ obstructed → (behind (n + 1)).tree.lookup p.staging.place = none))
  := by
  intro behind
  obtain ⟨⟨hremove, hrelease⟩, hlog, hclose⟩ := behindAttempts_of_replica hreplica d
  refine ⟨⟨rfl, hremove, hrelease, hlog, hclose⟩, Disk.behindAttempts_cases h, ?_⟩
  intro hluck n obstructed
  have hobstacle : (d.tree.obstacle? p).isSome ↔ obstructed := by
    simp only [obstructed, Tree.obstacle?]
    rcases d.tree.find p with cause | ⟨_ | _⟩
    · by_cases hcause : cause.kind = .notFound
      · simp [hcause]
      · simp [hcause]
    · simp
    · simp
  rw [← hobstacle]
  constructor
  · intro hsome
    rw [(Disk.behindAttempts_of_obstacle hluck hsome (n + 1)).1]
    apply h
  · intro hnone
    have hfirst : ¬ Disk.LeavesStaging p d := by
      rw [Disk.leavesStaging_iff_of_fair hluck h]
      apply hnone
    rcases Disk.behindAttempts_cases h (n + 1) with ⟨hall, -⟩ | ⟨-, hgone⟩
    · exact absurd (hall 0 (Nat.succ_pos n)) hfirst
    · apply hgone

/-- The file may not be removed at first. An attempt leaves the staging file, but closing the log does
not, for it makes another one. -/
theorem SharedLog.close_leftover_of_two_attempts :
  let p : Path := ⟨"a"⟩
  let log : SharedLog := { window := .ofCapacity 1, replica := some ⟨p⟩ }
  let d : Disk :=
    { tree := ⟨[(["a"], .file [111]), (["a.tmp"], .file [115])]⟩, luck := [.failing (.system 13)] }
  log.replica = some ⟨p⟩ ∧ d.tree.find p.staging = .ok (.file [115])
    ∧ ((⟨p⟩ : Replica).remove.run d).2.tree.find p.staging = .ok (.file [115])
    ∧ (log.close.run d).2.tree.lookup p.staging.place = none
  := by
  intro p log d
  have hfound : (d.tree.find p.staging).toOption = some (.file [115]) := by
    decide +kernel +zetaReduce
  have hfile : d.tree.find p.staging = .ok (.file [115]) := by
    cases hfind : d.tree.find p.staging with
    | error cause =>
      rw [hfind] at hfound
      cases hfound
    | ok entry =>
      rw [hfind] at hfound
      cases hfound
      rfl
  have hfirst : Disk.LeavesStaging p d := by decide +kernel +zetaReduce
  have hsecond : ¬ Disk.LeavesStaging p (Disk.behindAttempts p d 1) := by
    decide +kernel +zetaReduce
  have hreplica : log.replica = some ⟨p⟩ := rfl
  obtain ⟨⟨-, hremove, -, -, hclose⟩, hleft, -⟩ := close_leftover hreplica hfile
  refine ⟨hreplica, hfile, ?_, ?_⟩
  · rw [hremove]
    rcases hleft 1 with ⟨-, hfile'⟩ | ⟨⟨i, hi, hnot⟩, -⟩
    · apply hfile'
    · obtain rfl : i = 0 := Nat.lt_one_iff.mp hi
      exact absurd hfirst hnot
  · rw [hclose]
    rcases hleft 2 with ⟨hall, -⟩ | ⟨-, hgone⟩
    · exact absurd (hall 1 Nat.one_lt_two) hsecond
    · apply hgone

/-- A directory is at the path. The staging file could be removed, but it is left by a removal, and
when the replica or the log is given up or the log is closed. -/
theorem removal_behind_directory :
  let p : Path := ⟨"d"⟩
  let log : SharedLog := { window := .ofCapacity 1, replica := some ⟨p⟩ }
  let d : Disk := { tree := ⟨[(["d"], .directory), (["d.tmp"], .file [120])]⟩ }
  ((Disk.unlink p.staging).run.run d).2.tree.lookup p.staging.place = none
    ∧ ∀ after ∈ [((Disk.removeWithStaging p).run.run d).2, ((⟨p⟩ : Replica).remove.run d).2,
        ((⟨p⟩ : Replica).release.run d).2, (log.release.run d).2, (log.close.run d).2],
      after.tree.lookup p.staging.place = some (.file [120])
  := by
  decide +kernel

end BoundedLog
