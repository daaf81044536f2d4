import BoundedLog.Proofs.Files.Atomic

/-!
# What a failed replacement leaves behind

A replacement can fail before its staging file is there, while that is written, and at the move. In
any case the file that is to be replaced stays as it was. A writing that fails has the staging file
removed, but a move that fails does not: then the staging file stays, and so it does if it cannot be
removed.
-/

namespace BoundedLog

/-- A file that is rewritten stays a file. -/
theorem Tree.Rewrites.exists_file {l : Location} {t t' : Tree} (h : Rewrites l t t')
    (hl : ∃ content, t.lookup l = some (.file content)) :
  ∃ content, t'.lookup l = some (.file content)
  := by
  rcases h l with hsame | ⟨-, -, hl'⟩
  · rw [hsame]
    apply hl
  · apply hl'

namespace Disk

variable {p : Path} {name : String} {writer : Location → DiskM Unit} {d d' : Disk}

/-- What failed last in a replacement. -/
inductive Setback
  /-- A directory in front of the path could not be made, or the staging file not be opened. -/
  | opening
  /-- The staging file could not be written or not be made permanent; it was removed. -/
  | writing
  /-- The same, and then the staging file could not be removed. -/
  | removal
  /-- The staging file could not be moved to its place. -/
  | move
  deriving DecidableEq, Repr

/-- A replacement fails with a cause and leaves the disk behind. -/
inductive Fails (p : Path) (writer : Location → DiskM Unit) (d : Disk) (cause : IoError) :
    Setback → Disk → Prop
  | opening {d' : Disk} (h : (openStaging p).run.run d = (.error cause, d')) :
    Fails p writer d cause .opening d'
  | writing {file : Location} {opened written d' : Disk}
    (hopen : (openStaging p).run.run d = (.ok file, opened))
    (hwrite : (fillAndSync writer file).run.run opened = (.error cause, written))
    (hremove : (unlink p.staging).run.run written = (.ok (), d')) :
    Fails p writer d cause .writing d'
  | removal {file : Location} {opened written d' : Disk} {reason : IoError}
    (hopen : (openStaging p).run.run d = (.ok file, opened))
    (hwrite : (fillAndSync writer file).run.run opened = (.error cause, written))
    (hremove : (unlink p.staging).run.run written = (.error reason, d')) :
    Fails p writer d cause .removal d'
  | move {file : Location} {opened staged d' : Disk}
    (hopen : (openStaging p).run.run d = (.ok file, opened))
    (hwrite : (fillAndSync writer file).run.run opened = (.ok (), staged))
    (hmove : (rename p.staging p).run.run staged = (.error cause, d')) :
    Fails p writer d cause .move d'

/-- A replacement fails in one of these ways, and in no other. -/
theorem replaceBy_fails_iff {cause : IoError} :
  (replaceBy p writer).run.run d = (.error cause, d') ↔ ∃ setback, Fails p writer d cause setback d'
  := by
  constructor
  · intro h
    rw [replaceBy_eq] at h
    rcases bind_eq_error h with h | ⟨_, staged, hstage, hmove⟩
    · rcases bind_eq_error h with hopen | ⟨file, opened, hopen, h⟩
      · exact ⟨.opening, .opening hopen⟩
      · obtain ⟨reason, written, hwrite, h⟩ := tryCatch_eq_error h
        rw [run_giveUp] at h
        rcases hremove : (unlink p.staging).run.run written with ⟨_ | _, removed⟩
        · rw [hremove] at h
          cases h
          exact ⟨.removal, .removal hopen hwrite hremove⟩
        · rw [hremove] at h
          cases h
          exact ⟨.writing, .writing hopen hwrite hremove⟩
    · obtain ⟨opened, hopen, hwrite⟩ := stage_eq_ok hstage
      exact ⟨.move, .move hopen hwrite hmove⟩
  · rintro ⟨setback, hfails⟩
    rw [replaceBy_eq, run_bind, stage, run_bind]
    cases hfails with
    | opening hopen => rw [hopen]
    | writing hopen hwrite hremove | removal hopen hwrite hremove =>
      rw [hopen]
      simp only [run_tryCatch, hwrite, run_giveUp, hremove]
    | move hopen hwrite hmove =>
      rw [hopen]
      simp only [run_tryCatch, hwrite, hmove]

/-- If the staging file could not be opened, nothing has changed but in front of the path. -/
theorem grown_of_openStaging {cause : IoError}
    (h : (openStaging p).run.run d = (.error cause, d')) (l : Location) :
  d.tree.Grown p l d'.tree
  := grown_of_open h l

/-- What was open and was written to is still a file. -/
theorem exists_file_of_fillAndSync (hwriter : ∀ l, WritesOnly l (writer l)) {file : Location}
    {opened : Disk} {outcome : Except IoError Unit}
    (hopen : (openStaging p).run.run d = (.ok file, opened))
    (hwrite : (fillAndSync writer file).run.run opened = (outcome, d')) :
  ∃ content, d'.tree.lookup p.staging.place = some (.file content)
  := by
  obtain ⟨rfl, hempty⟩ := openStaging_eq_ok hopen
  apply ((hwriter _).fillAndSync.passes hwrite).tree.exists_file
  exact ⟨[], hempty⟩

/-- A replacement that fails leaves the file as it was. Where there was no staging file, none is
left if it could not be opened or not be written. One is left if it could not be removed or not be
moved. -/
theorem replaceBy_leftover {cause : IoError} (hname : p.name? = some name)
    (hwriter : ∀ l, WritesOnly l (writer l)) (hvacant : d.tree.lookup p.staging.place = none)
    (h : (replaceBy p writer).run.run d = (.error cause, d')) :
  d.tree.Pending p d'.tree ∧ (∃ setback, Fails p writer d cause setback d') ∧
    ∀ setback, Fails p writer d cause setback d' →
      match setback with
      | .opening => d'.tree.lookup p.staging.place = none
        ∨ (".." ∈ p.segments ∧ p.LeadsThrough p.staging.place
          ∧ d'.tree.lookup p.staging.place = some .directory)
      | .writing => d'.tree.lookup p.staging.place = none
      | .removal | .move => ∃ content, d'.tree.lookup p.staging.place = some (.file content)
  := by
  refine ⟨?_, replaceBy_fails_iff.mp h, ?_⟩
  · obtain ⟨_, staged, hstage, htree, -⟩ := replaceBy_eq_error h
    rw [htree]
    apply ((keeps_stage p hwriter).passes hstage).tree.pending hname
  · intro setback hfails
    cases hfails with
    | opening hopen =>
      apply (grown_of_openStaging hopen p.staging.place).imp
      · intro hsame
        rw [hsame, hvacant]
      · rintro ⟨hthrough, -, hdirectory⟩
        refine ⟨?_, hthrough, hdirectory⟩
        by_contra hback
        apply (Path.not_leadsThrough hname hback).2 hthrough
    | writing hopen hwrite hremove =>
      obtain ⟨hadmits, -, htree⟩ := Tree.unlink_eq_ok (change_eq_ok hremove).1
      show d'.tree.lookup p.staging.place = none
      rw [htree, Tree.lookup_erase _ hadmits.place_ne_nil, if_pos rfl]
    | removal hopen hwrite hremove =>
      show ∃ content, _
      rw [(operate_eq_error hremove).1]
      apply exists_file_of_fillAndSync hwriter hopen hwrite
    | move hopen hwrite hmove =>
      show ∃ content, _
      rw [(operate_eq_error hmove).1]
      apply exists_file_of_fillAndSync hwriter hopen hwrite

/-- A writer gives up behind the first byte. The former content stays, and no staging file is left.
-/
theorem replaceBy_leftover_of_writer :
  let p : Path := ⟨"a"⟩
  let writer : Location → DiskM Unit := (fill · { content := [110], failure := some (.system 28) })
  let d : Disk := { tree := ⟨[(["a"], .file [111])]⟩ }
  let after := (replaceBy p writer).run.run d
  p.name? = some "a" ∧ d.tree.lookup p.staging.place = none ∧ after.1.toOption = none
    ∧ after.2.tree.lookup p.staging.place = none ∧ d.tree.Pending p after.2.tree
    ∧ ∃ cause setback, Fails p writer d cause setback after.2
      ∧ (setback = .opening ∨ setback = .writing)
  := by
  intro p writer d after
  have hname : p.name? = some "a" := by decide +kernel
  have hvacant : d.tree.lookup p.staging.place = none := by decide +kernel +zetaReduce
  have hfailed : after.1.toOption = none := by decide +kernel +zetaReduce
  have hgone : after.2.tree.lookup p.staging.place = none := by decide +kernel +zetaReduce
  use hname, hvacant, hfailed, hgone
  rcases hrun : after with ⟨cause | _, d'⟩
  · rw [hrun] at hgone
    obtain ⟨hpending, ⟨setback, hfails⟩, hleft⟩ :=
      replaceBy_leftover hname (fun l => writesOnly_fill l _) hvacant hrun
    use hpending, cause, setback, hfails
    cases setback with
    | opening => exact .inl rfl
    | writing => exact .inr rfl
    | removal | move =>
      obtain ⟨content, hfile⟩ := hleft _ hfails
      rw [hgone] at hfile
      cases hfile
  · rw [hrun] at hfailed
    cases hfailed

/-- A directory is where the file is to be: the move fails, and the staging file is left. -/
theorem replace_onto_directory :
  let p : Path := ⟨"d"⟩
  let d : Disk := { tree := ⟨[(["d"], .directory)]⟩ }
  let after := (replace p [110]).run.run d
  p.name? = some "d" ∧ d.tree.lookup p.staging.place = none ∧ after.1.toOption = none
    ∧ after.2.tree.lookup p.staging.place = some (.file [110])
  := by
  decide +kernel

end Disk

end BoundedLog
