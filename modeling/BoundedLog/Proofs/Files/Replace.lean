import BoundedLog.Files.Replace
import BoundedLog.Proofs.Files.Disk

/-!
# What a replacement leaves

All that happens before the staging file is moved happens at the staging path and in front of the
path, so it spares the file that is to be replaced; and a move that fails changes nothing. So a
replacement that fails leaves the file as it was, and one that succeeds leaves the next content at
its place and nothing at the staging path.
-/

namespace BoundedLog.Disk

variable {p : Path} {writer : Location → DiskM Unit} {writing : Writing} {d d' : Disk}

/-- Makes room for the staging file and opens it. -/
def openStaging (p : Path) : DiskM Location := do
  makeParents p
  create p.staging

/-- Has an open file filled and makes its content permanent. -/
def fillAndSync (writer : Location → DiskM Unit) (file : Location) : DiskM Unit := do
  writer file
  sync file

/-- Removes the staging file as far as possible and hands a failure on. -/
def giveUp (p : Path) (cause : IoError) : DiskM Unit := do
  tryCatch (unlink p.staging) fun _ => pure ()
  throw cause

/-- All of a replacement but the move. -/
def stage (p : Path) (writer : Location → DiskM Unit) : DiskM Unit := do
  let file ← openStaging p
  tryCatch (fillAndSync writer file) (giveUp p)

theorem replaceBy_eq (p : Path) (writer : Location → DiskM Unit) :
  replaceBy p writer = stage p writer >>= fun _ => rename p.staging p
  := by
  simp only [replaceBy, stage, openStaging, bind_assoc]
  rfl

/-! ### Staging -/

/-- The staging file is empty when it is open. -/
theorem openStaging_eq_ok {file : Location} (h : (openStaging p).run.run d = (.ok file, d')) :
  file = p.staging.place ∧ d'.tree.lookup p.staging.place = some (.file [])
  := by
  obtain ⟨_, above, -, hcreate⟩ := bind_eq_ok h
  obtain ⟨hadmits, hfile, -, htree⟩ := Tree.create_eq_ok (operate_eq_ok hcreate).1
  use hfile
  rw [htree, Tree.lookup_insert _ hadmits.place_ne_nil, if_pos rfl]

theorem writesOnly_fill (l : Location) (writing : Writing) :
  WritesOnly l (fill l writing)
  := by
  apply (writesOnly_write l writing.content).bind
  intro _ _
  cases writing.failure with
  | none => apply keeps_pure
  | some cause => apply keeps_throw

theorem WritesOnly.fillAndSync {l : Location} (h : WritesOnly l (writer l)) :
  WritesOnly l (fillAndSync writer l)
  := by
  apply Keeps.bind h
  intro _ _
  apply keeps_sync

/-- Staging touches nothing but the place of the staging file and those in front of the path. -/
theorem keeps_stage (p : Path) (hwriter : ∀ l, WritesOnly l (writer l)) :
  Keeps (Tree.Spares p.LeadsThrough (· = p.staging.place)) (stage p writer)
  := by
  apply Keeps.bind
  · apply (keeps_makeParents fun _ => id).bind
    intro _ _
    exact keeps_create rfl
  · rintro l ⟨d, d', hopen⟩
    obtain ⟨rfl, -⟩ := openStaging_eq_ok hopen
    apply Keeps.tryCatch
    · exact (hwriter _).fillAndSync.spares rfl
    · intro cause
      apply Keeps.bind
      · apply Keeps.tryCatch
        · exact keeps_unlink rfl
        · intro _
          apply keeps_pure
      · intro _ _
        apply keeps_throw

theorem run_giveUp (p : Path) (cause : IoError) (d : Disk) :
  (giveUp p cause).run.run d = (.error cause, ((unlink p.staging).run.run d).2)
  := by
  rw [giveUp, run_bind, run_tryCatch]
  rcases (unlink p.staging).run.run d with ⟨_ | _, removed⟩
  · rfl
  · rfl

/-- What is staged was put into the staging file when it was open. -/
theorem stage_eq_ok (h : (stage p writer).run.run d = (.ok (), d')) :
  ∃ opened, (openStaging p).run.run d = (.ok p.staging.place, opened)
    ∧ (fillAndSync writer p.staging.place).run.run opened = (.ok (), d')
  := by
  obtain ⟨file, opened, hopen, h⟩ := bind_eq_ok h
  obtain ⟨rfl, -⟩ := openStaging_eq_ok hopen
  use opened, hopen
  rcases tryCatch_eq_ok h with h | ⟨cause, between, -, h⟩
  · apply h
  · rw [run_giveUp] at h
    cases h

theorem fillAndSync_eq_ok {l : Location} {content : Bytes}
    (h : (fillAndSync (fill · writing) l).run.run d = (.ok (), d'))
    (hl : d.tree.lookup l = some (.file content)) :
  d'.tree.lookup l = some (.file (content ++ writing.content))
  := by
  obtain ⟨_, filled, hfill, hsync⟩ := bind_eq_ok h
  obtain ⟨_, written, hwrite, hend⟩ := bind_eq_ok hfill
  have hfilled : filled = written := by
    cases hfailure : writing.failure with
    | none =>
      rw [hfailure] at hend
      cases hend
      rfl
    | some cause =>
      rw [hfailure] at hend
      cases hend
  have hsynced : d'.tree = filled.tree := by
    have hok := (operate_eq_ok hsync).1
    apply (congrArg Prod.snd (Except.ok.inj hok)).symm
  rw [hsynced, hfilled]
  apply writeWith_eq_ok hwrite hl

/-- What is written is staged as a whole. -/
theorem lookup_stage (h : (stage p (fill · writing)).run.run d = (.ok (), d')) :
  d'.tree.lookup p.staging.place = some (.file writing.content)
  := by
  obtain ⟨opened, hopen, hfill⟩ := stage_eq_ok h
  rw [fillAndSync_eq_ok hfill (openStaging_eq_ok hopen).2, List.nil_append]

/-! ### Replacing -/

/-- A replacement that fails ends with the staging, or with a move that changes nothing. -/
theorem replaceBy_eq_error {cause : IoError}
    (h : (replaceBy p writer).run.run d = (.error cause, d')) :
  ∃ outcome staged, (stage p writer).run.run d = (outcome, staged)
    ∧ d'.tree = staged.tree ∧ d'.history = staged.history
  := by
  rw [replaceBy_eq] at h
  rcases bind_eq_error h with h | ⟨_, staged, hstage, hrename⟩
  · exact ⟨_, d', h, rfl, rfl⟩
  · exact ⟨_, staged, hstage, operate_eq_error hrename⟩

/-- A replacement that succeeds ends with a move. -/
theorem replaceBy_eq_ok (h : (replaceBy p writer).run.run d = (.ok (), d')) :
  ∃ staged, (stage p writer).run.run d = (.ok (), staged)
    ∧ staged.tree.rename p.staging p = .ok d'.tree ∧ d'.history = d'.tree :: staged.history
  := by
  rw [replaceBy_eq] at h
  obtain ⟨_, staged, hstage, hrename⟩ := bind_eq_ok h
  exact ⟨staged, hstage, change_eq_ok hrename⟩

/-- A replacement that succeeds leaves the whole next content and no staging file. -/
theorem replaceWith_eq_ok (h : (replaceWith p writing).run.run d = (.ok (), d')) :
  d'.tree.find p = .ok (.file writing.content) ∧ d'.tree.find p.staging = .error .noSuchEntry
  := by
  obtain ⟨staged, hstage, hmoved, -⟩ := replaceBy_eq_ok h
  obtain ⟨content, hstaged, hfind, -, hmissing, -⟩ := Tree.find_rename hmoved p.place_staging_ne
  rw [lookup_stage hstage] at hstaged
  cases hstaged
  exact ⟨hfind, hmissing⟩

/-- A replacement that fails leaves the file as it was. -/
theorem replaceWith_eq_error {old : Bytes} {cause : IoError}
    (h : (replaceWith p writing).run.run d = (.error cause, d'))
    (hfind : d.tree.find p = .ok (.file old)) :
  d'.tree.find p = .ok (.file old)
  := by
  obtain ⟨outcome, staged, hstage, htree, -⟩ := replaceBy_eq_error h
  have hkeeps := keeps_stage p fun l => writesOnly_fill l writing
  rw [htree]
  apply (hkeeps.passes hstage).tree.find_file p.place_staging_ne.symm hfind

end BoundedLog.Disk
