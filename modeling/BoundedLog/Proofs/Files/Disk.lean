import BoundedLog.Files.Disk
import BoundedLog.Proofs.Files.Tree

/-!
# Activities on a disk

An activity that succeeds has each of its parts succeed, and an operation that succeeds did to the
tree of the disk what it does to a tree alone. An activity keeps a relation between trees if it
takes a disk only through trees to which the first one is related, whatever luck is ahead and
whether it fails or not. So the activities that make directories and those that write to a file
are told by what they spare.
-/

namespace BoundedLog.Disk

variable {α β : Type}

/-! ### Runs -/

theorem run_bind (m : DiskM α) (k : α → DiskM β) (d : Disk) :
  (m >>= k).run.run d =
    match m.run.run d with
    | (.ok a, d') => (k a).run.run d'
    | (.error cause, d') => (.error cause, d')
  := by
  rw [ExceptT.run_bind, StateT.run_bind]
  rcases m.run.run d with ⟨_ | _, _⟩
  · rfl
  · rfl

theorem run_tryCatch (m : DiskM α) (handler : IoError → DiskM α) (d : Disk) :
  (tryCatch m handler).run.run d =
    match m.run.run d with
    | (.ok a, d') => (.ok a, d')
    | (.error cause, d') => (handler cause).run.run d'
  := by
  rw [ExceptT.run_tryCatch, StateT.run_bind]
  rcases m.run.run d with ⟨_ | _, _⟩
  · rfl
  · rfl

theorem run_operate (operation : Tree → Except IoError (α × Tree)) (d : Disk) :
  (operate operation).run.run d =
    match d.luck with
    | .failing cause :: _ => (.error cause, { d with luck := d.luck.tail })
    | _ =>
      match operation d.tree with
      | .error cause => (.error cause, { d with luck := d.luck.tail })
      | .ok (a, tree) => (.ok a, { d with luck := d.luck.tail }.moveTo tree)
  := rfl

theorem bind_eq_ok {m : DiskM α} {k : α → DiskM β} {d d' : Disk} {b : β}
    (h : (m >>= k).run.run d = (.ok b, d')) :
  ∃ a between, m.run.run d = (.ok a, between) ∧ (k a).run.run between = (.ok b, d')
  := by
  rw [run_bind] at h
  rcases hm : m.run.run d with ⟨_ | a, between⟩
  · rw [hm] at h
    cases h
  · rw [hm] at h
    exact ⟨a, between, rfl, h⟩

theorem bind_eq_error {m : DiskM α} {k : α → DiskM β} {d d' : Disk} {cause : IoError}
    (h : (m >>= k).run.run d = (.error cause, d')) :
  m.run.run d = (.error cause, d')
    ∨ ∃ a between, m.run.run d = (.ok a, between) ∧ (k a).run.run between = (.error cause, d')
  := by
  rw [run_bind] at h
  rcases hm : m.run.run d with ⟨_ | a, between⟩
  · rw [hm] at h
    cases h
    exact .inl rfl
  · rw [hm] at h
    exact .inr ⟨a, between, rfl, h⟩

theorem tryCatch_eq_ok {m : DiskM α} {handler : IoError → DiskM α} {d d' : Disk} {a : α}
    (h : (tryCatch m handler).run.run d = (.ok a, d')) :
  m.run.run d = (.ok a, d')
    ∨ ∃ cause between, m.run.run d = (.error cause, between)
      ∧ (handler cause).run.run between = (.ok a, d')
  := by
  rw [run_tryCatch] at h
  rcases hm : m.run.run d with ⟨cause | _, between⟩
  · rw [hm] at h
    exact .inr ⟨cause, between, rfl, h⟩
  · rw [hm] at h
    exact .inl h

theorem tryCatch_eq_error {m : DiskM α} {handler : IoError → DiskM α} {d d' : Disk}
    {cause : IoError} (h : (tryCatch m handler).run.run d = (.error cause, d')) :
  ∃ reason between, m.run.run d = (.error reason, between)
    ∧ (handler reason).run.run between = (.error cause, d')
  := by
  rw [run_tryCatch] at h
  rcases hm : m.run.run d with ⟨reason | _, between⟩
  · rw [hm] at h
    exact ⟨reason, between, rfl, h⟩
  · rw [hm] at h
    cases h

/-- An operation that succeeds does to the disk what it does to the tree alone. -/
theorem operate_eq_ok {operation : Tree → Except IoError (α × Tree)} {d d' : Disk} {a : α}
    (h : (operate operation).run.run d = (.ok a, d')) :
  operation d.tree = .ok (a, d'.tree) ∧ d'.history = d'.tree :: d.history
  := by
  rw [run_operate] at h
  split at h
  · cases h
  · split at h
    · cases h
    · next hoperation =>
      cases h
      exact ⟨hoperation, rfl⟩

/-- The same for an operation that has nothing to tell. -/
theorem change_eq_ok {change : Tree → Except IoError Tree} {d d' : Disk}
    (h : (operate fun t => return ((), ← change t)).run.run d = (.ok (), d')) :
  change d.tree = .ok d'.tree ∧ d'.history = d'.tree :: d.history
  := by
  obtain ⟨hok, hhistory⟩ := operate_eq_ok h
  obtain ⟨_, hchange, hok⟩ := exists_of_bind_eq_ok hok
  cases hok
  exact ⟨hchange, hhistory⟩

theorem operate_eq_error {operation : Tree → Except IoError (α × Tree)} {d d' : Disk}
    {cause : IoError} (h : (operate operation).run.run d = (.error cause, d')) :
  d'.tree = d.tree ∧ d'.history = d.history
  := by
  rw [run_operate] at h
  split at h
  · cases h
    exact ⟨rfl, rfl⟩
  · split at h
    · cases h
      exact ⟨rfl, rfl⟩
    · cases h

/-- What is written stands behind what the file held. -/
theorem writeWith_eq_ok {l : Location} {luck : List Luck} {bytes content : Bytes} {d d' : Disk}
    (h : writeWith l luck bytes d = (.ok (), d'))
    (hl : d.tree.lookup l = some (.file content)) :
  d'.tree.lookup l = some (.file (content ++ bytes))
  := by
  fun_induction writeWith l luck bytes d generalizing content with
  | case1 luck d =>
    cases h
    rw [List.append_nil]
    apply hl
  | case2 bytes d | case3 luck bytes d =>
    cases h
    apply Tree.lookup_append_self hl
  | case4 luck b rest d => cases h
  | case5 limit luck bytes d hne ih =>
    -- The induction hypothesis is about the file behind the bytes that were taken.
    have hrest := ih h (Tree.lookup_append_self hl _)
    rw [List.append_assoc, List.take_append_drop] at hrest
    apply hrest
  | case6 cause luck bytes d hne hinterrupted ih => apply ih h hl
  | case7 cause luck bytes d => cases h

/-! ### Relations that are kept -/

/-- The disk went only through trees that are related to the one it had and to the one it has. -/
structure Passes (R : Tree → Tree → Prop) (d d' : Disk) : Prop where
  tree : R d.tree d'.tree
  history : ∃ past, d'.history = past ++ d.history ∧ ∀ t ∈ past, R d.tree t ∧ R t d'.tree

/-- However it goes, the activity takes a disk only through trees that are related to the one it had
and to the one it leaves. -/
def Keeps (R : Tree → Tree → Prop) (m : DiskM α) : Prop :=
  ∀ d, Passes R d (m.run.run d).2

variable {R S : Tree → Tree → Prop} {d d' d'' : Disk}

theorem Passes.mono (h : Passes R d d') (hR : ∀ t t', R t t' → S t t') :
  Passes S d d'
  := by
  obtain ⟨past, hhistory, hpast⟩ := h.history
  use hR _ _ h.tree, past, hhistory
  intro t ht
  exact ⟨hR _ _ (hpast t ht).1, hR _ _ (hpast t ht).2⟩

theorem Keeps.passes {m : DiskM α} (h : Keeps R m) {outcome : Except IoError α}
    (hrun : m.run.run d = (outcome, d')) :
  Passes R d d'
  := by
  have hpasses := h d
  rw [hrun] at hpasses
  apply hpasses

theorem Keeps.mono {m : DiskM α} (h : Keeps R m) (hR : ∀ t t', R t t' → S t t') :
  Keeps S m
  := fun d => (h d).mono hR

section Preorder

variable [IsPreorder Tree R]

theorem Passes.of_eq (htree : d'.tree = d.tree) (hhistory : d'.history = d.history) :
  Passes R d d'
  := by
  constructor
  · rw [htree]
    apply refl_of
  · exact ⟨[], hhistory, List.forall_mem_nil _⟩

/-- An operation takes a disk through the tree it leaves, and through no other. -/
theorem Passes.of_step (htree : R d.tree d'.tree) (hhistory : d'.history = d'.tree :: d.history) :
  Passes R d d'
  := by
  use htree, [d'.tree], hhistory
  intro t ht
  rw [List.mem_singleton.mp ht]
  exact ⟨htree, refl_of R _⟩

theorem Passes.trans (h : Passes R d d') (h' : Passes R d' d'') :
  Passes R d d''
  := by
  obtain ⟨past, hhistory, hpast⟩ := h.history
  obtain ⟨past', hhistory', hpast'⟩ := h'.history
  constructor
  · apply trans_of R h.tree h'.tree
  · use past' ++ past
    rw [hhistory', hhistory, List.append_assoc]
    refine ⟨rfl, fun t ht => ?_⟩
    rcases List.mem_append.mp ht with ht | ht
    · obtain ⟨hfirst, hlast⟩ := hpast' t ht
      exact ⟨trans_of R h.tree hfirst, hlast⟩
    · obtain ⟨hfirst, hlast⟩ := hpast t ht
      exact ⟨hfirst, trans_of R hlast h'.tree⟩

theorem keeps_pure (a : α) :
  Keeps R (pure a)
  := fun _ => .of_eq rfl rfl

theorem keeps_throw (cause : IoError) :
  Keeps R (throw cause : DiskM α)
  := fun _ => .of_eq rfl rfl

theorem Keeps.bind {m : DiskM α} {k : α → DiskM β} (hm : Keeps R m)
    (hk : ∀ a, (∃ d d', m.run.run d = (.ok a, d')) → Keeps R (k a)) :
  Keeps R (m >>= k)
  := by
  intro d
  rw [run_bind]
  rcases hrun : m.run.run d with ⟨_ | a, between⟩
  · apply hm.passes hrun
  · apply (hm.passes hrun).trans
    apply hk a ⟨d, between, hrun⟩

theorem Keeps.tryCatch {m : DiskM α} {handler : IoError → DiskM α} (hm : Keeps R m)
    (hhandler : ∀ cause, Keeps R (handler cause)) :
  Keeps R (tryCatch m handler)
  := by
  intro d
  rw [run_tryCatch]
  rcases hrun : m.run.run d with ⟨cause | _, between⟩
  · apply (hm.passes hrun).trans
    apply hhandler
  · apply hm.passes hrun

theorem keeps_operate {operation : Tree → Except IoError (α × Tree)}
    (h : ∀ t a t', operation t = .ok (a, t') → R t t') :
  Keeps R (operate operation)
  := by
  intro d
  rcases hrun : (operate operation).run.run d with ⟨_ | a, d'⟩
  · obtain ⟨htree, hhistory⟩ := operate_eq_error hrun
    apply Passes.of_eq htree hhistory
  · obtain ⟨hoperation, hhistory⟩ := operate_eq_ok hrun
    apply Passes.of_step (h _ _ _ hoperation) hhistory

theorem keeps_change {change : Tree → Except IoError Tree}
    (h : ∀ t t', change t = .ok t' → R t t') :
  Keeps R (operate fun t => return ((), ← change t))
  := by
  apply keeps_operate
  intro t _ t' hok
  obtain ⟨_, hchange, hok⟩ := exists_of_bind_eq_ok hok
  cases hok
  apply h t t' hchange

theorem keeps_isDirectory (p : Path) :
  Keeps R (isDirectory p)
  := fun _ => .of_eq rfl rfl

theorem keeps_sync (l : Location) :
  Keeps R (sync l)
  := by
  apply keeps_operate
  intro t a t' h
  cases h
  apply refl_of

end Preorder

/-! ### What activities spare -/

variable {made loose : Location → Prop}

theorem keeps_makeDirectory {p : Path} (hmade : made p.place) :
  Keeps (Tree.Spares made loose) (makeDirectory p)
  := keeps_change fun _ _ h => Tree.spares_makeDirectory h hmade

theorem keeps_makeChain {paths : List Path} (hmade : ∀ p ∈ paths, made p.place) :
  Keeps (Tree.Spares made loose) (makeChain paths)
  := by
  induction paths with
  | nil => apply keeps_throw
  | cons p paths ih =>
    have hfirst : Keeps (Tree.Spares made loose) (makeDirectory p) :=
      keeps_makeDirectory (hmade p List.mem_cons_self)
    rw [makeChain]
    split
    · apply keeps_pure
    · apply hfirst.tryCatch
      intro cause
      have hrest : ∀ cause : IoError, Keeps (Tree.Spares made loose)
          (do unless ← isDirectory p do throw cause : DiskM Unit) := by
        intro cause
        apply (keeps_isDirectory p).bind
        intro isDirectory _
        cases isDirectory with
        | true => apply keeps_pure
        | false => apply keeps_throw
      split
      · apply (ih fun q hq => hmade q (List.mem_cons_of_mem p hq)).bind
        intro _ _
        apply hfirst.tryCatch hrest
      · apply hrest

/-- Only the paths in front of a path are made for it. -/
theorem keeps_makeParents {p : Path} (hmade : ∀ l, p.LeadsThrough l → made l) :
  Keeps (Tree.Spares made loose) (makeParents p)
  := by
  rw [makeParents]
  split
  · apply keeps_pure
  · next parent hparent =>
    split
    · apply keeps_pure
    · apply keeps_makeChain
      intro q hq
      apply hmade
      refine ⟨q, ?_, rfl⟩
      rw [Path.parents, hparent]
      apply hq

theorem keeps_create {p : Path} (hloose : loose p.place) :
  Keeps (Tree.Spares made loose) (create p)
  := keeps_operate fun _ _ _ h => Tree.spares_create h hloose

theorem keeps_unlink {p : Path} (hloose : loose p.place) :
  Keeps (Tree.Spares made loose) (unlink p)
  := keeps_change fun _ _ h => Tree.spares_unlink h hloose

theorem passes_writeWith (l : Location) (luck : List Luck) (bytes : Bytes) (d : Disk) :
  Passes (Tree.Rewrites l) d (writeWith l luck bytes d).2
  := by
  have happend : ∀ (d : Disk) (part : Bytes),
      Passes (Tree.Rewrites l) d (d.moveTo (d.tree.append l part)) :=
    fun d part => .of_step (Tree.rewrites_append d.tree l part) rfl
  fun_induction writeWith l luck bytes d with
  | case1 luck d | case4 luck b rest d => exact .of_eq rfl rfl
  | case2 bytes d | case3 luck bytes d => exact ⟨(happend d bytes).tree, (happend d bytes).history⟩
  | case5 limit luck bytes d hne ih => apply (happend d _).trans ih
  | case6 cause luck bytes d hne hinterrupted ih => apply ih
  | case7 cause luck bytes d => exact .of_eq rfl rfl

/-- The activity writes to the file at a location and does nothing else to the disk. -/
def WritesOnly (l : Location) (m : DiskM α) : Prop := Keeps (Tree.Rewrites l) m

theorem writesOnly_write (l : Location) (bytes : Bytes) :
  WritesOnly l (write l bytes)
  := fun d => passes_writeWith l d.luck bytes d

theorem WritesOnly.spares {l : Location} {m : DiskM α} (h : WritesOnly l m) (hloose : loose l) :
  Keeps (Tree.Spares made loose) m
  := h.mono fun _ _ hrewrites => hrewrites.spares hloose

end BoundedLog.Disk
