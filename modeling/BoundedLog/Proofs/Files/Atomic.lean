import BoundedLog.Proofs.Files.Replace

/-!
# Replacements are atomic

Whatever operation of a replacement fails, another process finds the file as it was until the
staging file is moved to its place, and the next content as a whole from then on. `Tree.Pending`
tells what the trees before the move have kept, and `Tree.Replaced` what the one behind it holds.

Where nothing was at the place of the path, a path that goes back and leads through its own place
may find a directory there: it is one of those that were made for it. Then the move fails.
-/

namespace BoundedLog

namespace Tree

variable {p : Path} {t t' : Tree}

/-- The location holds what it did, or a directory that was made for the path where nothing was. -/
def Grown (p : Path) (l : Location) (t t' : Tree) : Prop :=
  t'.lookup l = t.lookup l
    ∨ (p.LeadsThrough l ∧ t.lookup l = none ∧ t'.lookup l = some .directory)

/-- What a tree before the move has kept. -/
structure Pending (p : Path) (t t' : Tree) : Prop where
  place : t'.lookup p.place = t.lookup p.place
    ∨ (".." ∈ p.segments ∧ p.LeadsThrough p.place ∧ t.lookup p.place = none
      ∧ t'.lookup p.place = some .directory)
  file : ∀ old, t.find p = .ok (.file old) → t'.find p = .ok (.file old)
  elsewhere : ∀ l, l ≠ p.staging.place → Grown p l t t'

/-- What the tree behind the move holds. -/
structure Replaced (p : Path) (content : Bytes) (t t' : Tree) : Prop where
  place : t'.lookup p.place = some (.file content)
  file : t'.find p = .ok (.file content)
  staging : t'.lookup p.staging.place = none
  missing : t'.find p.staging = .error .noSuchEntry
  elsewhere : ∀ l, l ≠ p.place → l ≠ p.staging.place → Grown p l t t'

theorem Spares.grown {loose : Location → Prop} (h : Spares p.LeadsThrough loose t t')
    {l : Location} (hl : ¬ loose l) :
  Grown p l t t'
  := (h l).imp_right fun hl' => hl'.resolve_right fun hloose => hl hloose.1

theorem Spares.pending (h : Spares p.LeadsThrough (· = p.staging.place) t t') {name : String}
    (hname : p.name? = some name) :
  Pending p t t'
  := by
  constructor
  · apply (h.grown p.place_staging_ne.symm).imp_right
    rintro ⟨hthrough, hnone, hdirectory⟩
    refine ⟨?_, hthrough, hnone, hdirectory⟩
    by_contra hback
    apply (Path.not_leadsThrough hname hback).1 hthrough
  · intro old hfind
    apply h.find_file p.place_staging_ne.symm hfind
  · intro l hl
    apply h.grown hl

/-- Moving the staging file to its place replaces the file. -/
theorem replaced_of_rename {between : Tree} {content : Bytes}
    (h : Spares p.LeadsThrough (· = p.staging.place) t between)
    (hcontent : between.lookup p.staging.place = some (.file content))
    (hrename : between.rename p.staging p = .ok t') :
  Replaced p content t t'
  := by
  obtain ⟨moved, hmoved, hfile, hgone, hmissing, helsewhere⟩ :=
    find_rename hrename p.place_staging_ne
  rw [hcontent] at hmoved
  cases hmoved
  refine ⟨((find_eq_file_iff t' p content).mp hfile).2, hfile, hgone, hmissing, ?_⟩
  intro l hplace hstaging
  rw [Grown, helsewhere l hstaging hplace]
  apply h.grown hstaging

end Tree

namespace Disk

variable {p : Path} {name : String} {content : Bytes} {d d' : Disk} {outcome : Except IoError Unit}

/-- If a file could not be opened behind the directories that were made for a path, nothing has
changed but in front of the path. -/
theorem grown_of_open {q : Path} {cause : IoError}
    (h : (do makeParents p; create q : DiskM Location).run.run d = (.error cause, d'))
    (l : Location) :
  d.tree.Grown p l d'.tree
  := by
  have hkeeps : Keeps (Tree.Spares p.LeadsThrough fun _ => False) (makeParents p) :=
    keeps_makeParents fun _ => id
  have hspares : d.tree.Spares p.LeadsThrough (fun _ => False) d'.tree := by
    rcases bind_eq_error h with h | ⟨_, above, habove, hcreate⟩
    · apply (hkeeps.passes h).tree
    · rw [(operate_eq_error hcreate).1]
      apply (hkeeps.passes habove).tree
  exact hspares.grown id

/-- However a replacement goes, the trees up to the move have kept the file, and only a replacement
that succeeds has a tree behind the move, in which the file has the next content as a whole. A
replacement that finds a directory at the place of its own path does not succeed. -/
theorem replace_atomic (hname : p.name? = some name)
    (h : (replace p content).run.run d = (outcome, d')) :
  ∃ earlier : List Tree, (∀ t ∈ earlier, d.tree.Pending p t) ∧
    match outcome with
    | .ok () => d'.history = d'.tree :: (earlier ++ d.history) ∧ d.tree.Replaced p content d'.tree
      ∧ ∀ t ∈ earlier, t.lookup p.place = d.tree.lookup p.place
    | .error _ => d'.history = earlier ++ d.history ∧ d.tree.Pending p d'.tree
  := by
  have hkeeps := keeps_stage p fun l => writesOnly_fill l { content }
  cases outcome with
  | ok _ =>
    obtain ⟨staged, hstage, hrename, hhistory⟩ := replaceBy_eq_ok h
    have hpasses := hkeeps.passes hstage
    obtain ⟨earlier, hearlier, hpast⟩ := hpasses.history
    use earlier
    refine ⟨fun t ht => (hpast t ht).1.pending hname, ?_, ?_, ?_⟩
    · rw [hhistory, hearlier]
    · apply Tree.replaced_of_rename hpasses.tree (lookup_stage hstage) hrename
    · intro t ht
      obtain ⟨hfirst, hlast⟩ := hpast t ht
      obtain ⟨-, -, hfree, -⟩ := Tree.rename_eq_ok hrename
      rcases (hfirst.pending hname).place with hsame | ⟨-, -, -, hdirectory⟩
      · exact hsame
      · -- A directory would still be there, and the move would fail.
        exact absurd (hlast.lookup_directory hdirectory) hfree
  | error cause =>
    obtain ⟨_, staged, hstage, htree, hhistory⟩ := replaceBy_eq_error h
    have hpasses := hkeeps.passes hstage
    obtain ⟨earlier, hearlier, hpast⟩ := hpasses.history
    use earlier
    refine ⟨fun t ht => (hpast t ht).1.pending hname, ?_, ?_⟩
    · rw [hhistory, hearlier]
    · rw [htree]
      apply hpasses.tree.pending hname

/-- A file is replaced while a staging file is left from earlier, and the next content is written in
two pieces. -/
theorem replace_atomic_behind_leftover :
  let p : Path := ⟨"a"⟩
  let d : Disk :=
    { tree := ⟨[(["a"], .file [111]), (["a.tmp"], .file [108])]⟩, luck := [.fair, .short 1] }
  let after := (replace p [110, 101]).run.run d
  p.name? = some "a" ∧ after.1.toOption = some () ∧
    ∃ earlier : List Tree, earlier.length = 4 ∧ (∀ t ∈ earlier, d.tree.Pending p t)
      ∧ (∀ t ∈ earlier, t.lookup p.place = d.tree.lookup p.place)
      ∧ after.2.history = after.2.tree :: earlier ∧ d.tree.Replaced p [110, 101] after.2.tree
  := by
  intro p d after
  have hname : p.name? = some "a" := by decide +kernel
  have hok : after.1.toOption = some () := by decide +kernel +zetaReduce
  have hlength : after.2.history.length = 5 := by decide +kernel +zetaReduce
  use hname, hok
  rcases hrun : after with ⟨_ | _, d'⟩
  · rw [hrun] at hok
    cases hok
  · rw [hrun] at hlength
    obtain ⟨earlier, hpending, hhistory, hreplaced, hkept⟩ := replace_atomic hname hrun
    rw [show d.history = [] from rfl, List.append_nil] at hhistory
    rw [hhistory, List.length_cons] at hlength
    exact ⟨earlier, Nat.succ.inj hlength, hpending, hkept, hhistory, hreplaced⟩

/-- What is made for a path that leads through its own place stands there: a directory. -/
theorem replace_makes_own_place :
  let p : Path := ⟨"x/../x"⟩
  let d' := ((replace p [110]).run.run { tree := .empty }).2
  p.name? = some "x" ∧ ¬ ∀ t ∈ d'.history, t.lookup p.place = Tree.empty.lookup p.place
    ∨ t.lookup p.place = some (.file [110])
  := by
  decide +kernel

end Disk

end BoundedLog
