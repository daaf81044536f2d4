import BoundedLog.Proofs.Files.Atomic
import BoundedLog.Proofs.Removal
import BoundedLog.Proofs.Replica
import BoundedLog.Server.Listener

/-!
# What a server that cannot be opened leaves behind

The replica of a log is made before the address is taken hold of. If it cannot be made, directories
may have been made in front of its path, and nothing else has changed. If the address cannot be had,
or the listener not be made ready, the replica is given up, with a staging file that was there
before it: the file was empty and open a moment ago, so nothing but the luck of the disk keeps it
from being removed. Then there are the new directories again, and the two files are missing.
-/

namespace BoundedLog

namespace Disk

variable {α β : Type} {p : Path} {d : Disk}

/-! ### Luck -/

/-- The activity uses up the luck that is ahead and brings no other. -/
def Spends (m : DiskM α) : Prop := ∀ d, (m.run.run d).2.luck <:+ d.luck

theorem spends_pure (a : α) :
  Spends (pure a)
  := fun _ => List.suffix_refl _

theorem spends_throw (cause : IoError) :
  Spends (throw cause : DiskM α)
  := fun _ => List.suffix_refl _

theorem Spends.bind {m : DiskM α} {k : α → DiskM β} (hm : Spends m) (hk : ∀ a, Spends (k a)) :
  Spends (m >>= k)
  := by
  intro d
  have hfirst := hm d
  rw [run_bind]
  rcases hrun : m.run.run d with ⟨_ | a, between⟩
  · rw [hrun] at hfirst
    apply hfirst
  · rw [hrun] at hfirst
    apply (hk a between).trans hfirst

theorem Spends.tryCatch {m : DiskM α} {handler : IoError → DiskM α} (hm : Spends m)
    (hhandler : ∀ cause, Spends (handler cause)) :
  Spends (tryCatch m handler)
  := by
  intro d
  have hfirst := hm d
  rw [run_tryCatch]
  rcases hrun : m.run.run d with ⟨cause | _, between⟩
  · rw [hrun] at hfirst
    apply (hhandler cause between).trans hfirst
  · rw [hrun] at hfirst
    apply hfirst

theorem spends_operate (operation : Tree → Except IoError (α × Tree)) :
  Spends (operate operation)
  := by
  intro d
  have htail := List.tail_suffix d.luck
  rw [run_operate]
  split
  · apply htail
  · split
    · apply htail
    · apply htail

theorem spends_makeChain (paths : List Path) :
  Spends (makeChain paths)
  := by
  have hmake : ∀ p : Path, Spends (makeDirectory p) := fun _ => spends_operate _
  have hrest : ∀ (p : Path) (cause : IoError),
      Spends (do unless ← isDirectory p do throw cause : DiskM Unit) := by
    intro p cause
    have hlook : Spends (isDirectory p) := fun _ => List.suffix_refl _
    apply hlook.bind
    intro isDirectory
    cases isDirectory with
    | true => apply spends_pure
    | false => apply spends_throw
  induction paths with
  | nil => apply spends_throw
  | cons p paths ih =>
    rw [makeChain]
    split
    · apply spends_pure
    · apply (hmake p).tryCatch
      intro cause
      split
      · apply ih.bind
        intro _
        apply (hmake p).tryCatch (hrest p)
      · apply hrest

theorem spends_makeParents (p : Path) :
  Spends (makeParents p)
  := by
  rw [makeParents]
  split
  · apply spends_pure
  · split
    · apply spends_pure
    · apply spends_makeChain

/-! ### Removing a file that can be removed -/

theorem tree_behindUnlink_of_file {content : Bytes} (hluck : d.luck = [])
    (hfile : d.tree.find p = .ok (.file content)) :
  (behindUnlink p d).tree = d.tree.erase p.place
  := by
  rw [behindUnlink, unlink, run_operate, hluck, Tree.unlink_eq, hfile]
  rfl

/-- On a fair disk no file is left where one was to be removed. -/
theorem find_behindUnlink_ne (hluck : d.luck = []) (p : Path) (content : Bytes) :
  (behindUnlink p d).tree.find p ≠ .ok (.file content)
  := by
  intro hleft
  cases hremoved : ((unlink p).run.run d).1.isOk with
  | false =>
    rw [tree_behindUnlink_of_error hremoved] at hleft
    rw [(run_unlink_of_fair hluck p).1, Tree.unlink_eq, hleft] at hremoved
    cases hremoved
  | true =>
    rcases hrun : (unlink p).run.run d with ⟨_ | _, after⟩
    · rw [hrun] at hremoved
      cases hremoved
    · obtain ⟨hadmits, -, htree⟩ := Tree.unlink_eq_ok (change_eq_ok hrun).1
      rw [behindUnlink, hrun, Tree.find_eq_file_iff] at hleft
      rw [htree, Tree.lookup_erase _ hadmits.place_ne_nil, if_pos rfl] at hleft
      cases hleft.2

theorem keeps_removeWithStaging {made loose : Location → Prop} (hfile : loose p.place)
    (hstaging : loose p.staging.place) :
  Keeps (Tree.Spares made loose) (removeWithStaging p)
  := by
  intro d
  rw [run_removeWithStaging_snd]
  split
  · apply keeps_unlink hfile
  · exact ((keeps_unlink hfile).passes rfl).trans ((keeps_unlink hstaging).passes rfl)

/-- On a fair disk a file that a path leads to is gone when it was removed, and no staging file is
left next to it. -/
theorem lookup_removeWithStaging {content : Bytes} (hluck : d.luck = [])
    (hfile : d.tree.find p = .ok (.file content)) :
  let after := ((removeWithStaging p).run.run d).2
  after.tree.lookup p.place = none ∧ ∀ content, after.tree.find p.staging ≠ .ok (.file content)
  := by
  obtain ⟨-, hobstacle, hluck'⟩ := run_unlink_of_fair hluck p
  rw [Tree.obstacle?, hfile] at hobstacle
  have hafter :
      ((removeWithStaging p).run.run d).2 = behindUnlink p.staging (behindUnlink p d) := by
    rw [run_removeWithStaging_snd, hobstacle]
    rfl
  have hgone : (behindUnlink p d).tree.lookup p.place = none := by
    have hadmits := ((Tree.find_eq_file_iff _ _ _).mp hfile).1
    rw [tree_behindUnlink_of_file hluck hfile, Tree.lookup_erase _ hadmits.place_ne_nil, if_pos rfl]
  dsimp only
  rw [hafter]
  constructor
  · rcases (keeps_removes_unlink p.staging (behindUnlink p d)).tree p.place with hsame | hnone
    · exact hsame.trans hgone
    · exact hnone
  · apply find_behindUnlink_ne hluck'

end Disk

/-! ### Replicas that are given up -/

/-- The later tree has neither the file nor its staging file, and else it holds what the earlier one
did, or directories that were made for the path where nothing was. -/
structure Tree.GivenUp (p : Path) (t t' : Tree) : Prop where
  file : t'.find p = .error .noSuchEntry
  staging : ∀ content, t'.find p.staging ≠ .ok (.file content)
  others : ∀ l, t.Grown p l t'
    ∨ ((l = p.place ∨ l = p.staging.place) ∧ (∃ content, t.lookup l = some (.file content))
      ∧ t'.lookup l = none)

/-- What was there before a file was made and is missing behind its removal was one of the two
files. -/
theorem Tree.Spares.grown_or_gone {p : Path} {t made t' : Tree}
    (hmade : t.Spares p.LeadsThrough (· = p.place) made)
    (hremoved : made.Spares (fun _ => False) (fun l => l = p.place ∨ l = p.staging.place) t')
    (hless : made.Removes t') (hgone : t'.lookup p.place = none) (l : Location) :
  t.Grown p l t'
    ∨ ((l = p.place ∨ l = p.staging.place) ∧ (∃ content, t.lookup l = some (.file content))
      ∧ t'.lookup l = none)
  := by
  rcases hmade l with hsame | ⟨hthrough, hnone, hdirectory⟩ | ⟨rfl, hne⟩
  · rcases hless l with hkept | hmissing
    · exact .inl (.inl (hkept.trans hsame))
    · cases hheld : t.lookup l with
      | none => exact .inl (.inl (hmissing.trans hheld.symm))
      | some e =>
        rw [hheld] at hsame
        cases e with
        | directory =>
          have hkept := hremoved.lookup_directory hsame
          rw [hmissing] at hkept
          cases hkept
        | file content =>
          have hloose : l = p.place ∨ l = p.staging.place := by
            by_contra hloose
            have hkept := hremoved.lookup_file hloose hsame
            rw [hmissing] at hkept
            cases hkept
          exact .inr ⟨hloose, ⟨content, rfl⟩, hmissing⟩
  · exact .inl (.inr ⟨hthrough, hnone, hremoved.lookup_directory hdirectory⟩)
  · cases hheld : t.lookup p.place with
    | none => exact .inl (.inl (hgone.trans hheld.symm))
    | some e =>
      cases e with
      | directory => exact absurd hheld hne
      | file content => exact .inr ⟨.inl rfl, ⟨content, rfl⟩, hgone⟩

namespace Replica

variable {p : Path} {d d' : Disk}

theorem keeps_create {made loose : Location → Prop} (hmade : ∀ l, p.LeadsThrough l → made l)
    (hloose : loose p.place) :
  Disk.Keeps (Tree.Spares made loose) (create p)
  := by
  apply (Disk.keeps_makeParents hmade).bind
  intro _ _
  apply (Disk.keeps_create hloose).bind
  intro _ _
  apply Disk.keeps_pure

theorem spends_create (p : Path) :
  Disk.Spends (create p)
  := by
  apply (Disk.spends_makeParents p).bind
  intro _
  apply (Disk.spends_operate _).bind
  intro _
  apply Disk.spends_pure

/-- If the replica could not be made, nothing has changed but in front of its path. -/
theorem grown_of_create {cause : IoError} (h : (create p).run.run d = (.error cause, d'))
    (l : Location) :
  d.tree.Grown p l d'.tree
  := by
  have hcreate : create p
      = (do Disk.makeParents p; Disk.create p : DiskM Location) >>= fun _ => pure ⟨p⟩ :=
    (bind_assoc _ _ _).symm
  rw [hcreate] at h
  rcases Disk.bind_eq_error h with hopen | ⟨_, _, -, hdone⟩
  · apply Disk.grown_of_open hopen
  · cases hdone

/-- To make a replica and give it up touches nothing but the two files and the front of the path. -/
theorem spares_release {replica : Replica} (h : (create p).run.run d = (.ok replica, d')) :
  d.tree.Spares p.LeadsThrough (fun l => l = p.place ∨ l = p.staging.place)
    (replica.release.run d').2.tree
  := by
  obtain ⟨rfl, -⟩ := create_eq_ok h
  have hmake : Disk.Keeps (Tree.Spares p.LeadsThrough fun l => l = p.place ∨ l = p.staging.place)
      (create p) := keeps_create (fun _ => id) (.inl rfl)
  rw [run_release_snd, run_remove_snd]
  apply ((hmake.passes h).trans (Disk.keeps_removeWithStaging (.inl rfl) (.inr rfl) d')).tree

/-- A replica that was made and is given up on a fair disk leaves nothing behind. -/
theorem givenUp_release {replica : Replica} (h : (create p).run.run d = (.ok replica, d'))
    (hluck : d.luck = []) :
  d.tree.GivenUp p (replica.release.run d').2.tree
  := by
  obtain ⟨rfl, hfile⟩ := create_eq_ok h
  have hmake : Disk.Keeps (Tree.Spares p.LeadsThrough (· = p.place)) (create p) :=
    keeps_create (fun _ => id) rfl
  have hluck' : d'.luck = [] := by
    have hspends := spends_create p d
    rw [h, hluck] at hspends
    apply List.suffix_nil.mp hspends
  obtain ⟨hgone, hstaging⟩ := Disk.lookup_removeWithStaging hluck' hfile
  have hremoved : d'.tree.Spares (fun _ => False) (fun l => l = p.place ∨ l = p.staging.place) _ :=
    (Disk.keeps_removeWithStaging (.inl rfl) (.inr rfl) d').tree
  have hadmits := hremoved.admits ((Tree.find_eq_file_iff _ _ _).mp hfile).1
  rw [run_release_snd, run_remove_snd]
  constructor
  · rw [hadmits.find, hgone]
    rfl
  · exact hstaging
  · intro l
    apply (hmake.passes h).tree.grown_or_gone hremoved (Disk.removes_removeWithStaging p d') hgone

end Replica

namespace Network

variable {network : Network} {text : String}

theorem establish_of_error {cause : IoError} (h : network.listenAt text = .error cause) :
  network.establish text = .error (.setup (.address text cause))
  := by rw [establish, h]

theorem establish_of_ok {endpoint : Endpoint} (h : network.listenAt text = .ok endpoint) :
  network.establish text = (network.prepare endpoint).map fun _ => endpoint
  := by rw [establish, h]

/-- A listener that is not made ready is a fault of the setup, unless it cannot say where it is. -/
theorem prepare_eq_error {endpoint : Endpoint} {fault : Fault}
    (h : network.prepare endpoint = .error fault) :
  fault.label = "setup"
    ∨ ∃ cause, network.announce endpoint = .error cause ∧ fault = .resource (.io cause)
  := by
  rw [prepare] at h
  split at h
  · cases h
    exact .inl rfl
  · split at h
    · next cause hannounce =>
      cases h
      exact .inr ⟨cause, hannounce, rfl⟩
    · cases h

/-- What fails behind the replica is of the setup, unless the listener cannot say where it is. -/
theorem establish_eq_error {fault : Fault} (h : network.establish text = .error fault) :
  fault.label = "setup"
    ∨ ∃ endpoint cause, network.listenAt text = .ok endpoint
      ∧ network.announce endpoint = .error cause ∧ fault = .resource (.io cause)
  := by
  cases hlisten : network.listenAt text with
  | error cause =>
    rw [establish_of_error hlisten] at h
    cases h
    exact .inl rfl
  | ok endpoint =>
    rw [establish_of_ok hlisten] at h
    cases hprepare : network.prepare endpoint with
    | error _ =>
      rw [hprepare] at h
      cases h
      apply (prepare_eq_error hprepare).imp_right
      rintro ⟨cause, hannounce, hfault⟩
      exact ⟨endpoint, cause, rfl, hannounce, hfault⟩
    | ok _ =>
      rw [hprepare] at h
      cases h

end Network

namespace Listener

variable {settings : Settings} {network : Network} {d d' : Disk} {text : String}

theorem run_bind_of_none (h : settings.replica = none) (network : Network) (d : Disk) :
  (bind settings network).run d
    = ((network.establish settings.address).map fun endpoint =>
        { endpoint, log := .ofCapacity Window.standardCapacity }, d)
  := by
  rw [bind, StateT.run_bind, openLog, h]
  simp only [StateT.run_pure, pure_bind]
  cases network.establish settings.address with
  | error fault => rfl
  | ok endpoint => rfl

theorem run_bind_of_error (h : settings.replica = some text) {cause : IoError}
    (hcreate : (Replica.create ⟨text⟩).run.run d = (.error cause, d')) (network : Network) :
  (bind settings network).run d = (.error (.setup (.replica text (.io cause))), d')
  := by
  rw [bind, StateT.run_bind, openLog, h]
  simp only [StateT.run_bind, hcreate]
  rfl

theorem run_bind_of_refused (h : settings.replica = some text) {replica : Replica}
    (hcreate : (Replica.create ⟨text⟩).run.run d = (.ok replica, d')) {fault : Fault}
    (hestablish : network.establish settings.address = .error fault) :
  (bind settings network).run d = (.error fault, (replica.release.run d').2)
  := by
  rw [bind, StateT.run_bind, openLog, h]
  simp only [StateT.run_bind, hcreate, hestablish]
  rfl

theorem run_bind_of_opened (h : settings.replica = some text) {replica : Replica}
    (hcreate : (Replica.create ⟨text⟩).run.run d = (.ok replica, d')) {endpoint : Endpoint}
    (hestablish : network.establish settings.address = .ok endpoint) :
  (bind settings network).run d
    = (.ok { endpoint, log := .withReplica Window.standardCapacity replica }, d')
  := by
  rw [bind, StateT.run_bind, openLog, h]
  simp only [StateT.run_bind, hcreate, hestablish]
  rfl

theorem label_of_bind_eq_error {fault : Fault}
    (h : ((bind settings network).run d).1 = .error fault) :
  fault.label = "setup"
    ∨ ∃ endpoint cause, network.listenAt settings.address = .ok endpoint
      ∧ network.announce endpoint = .error cause ∧ fault = .resource (.io cause)
  := by
  cases hreplica : settings.replica with
  | none =>
    rw [run_bind_of_none hreplica] at h
    cases hestablish : network.establish settings.address with
    | error fault =>
      rw [hestablish] at h
      cases h
      apply Network.establish_eq_error hestablish
    | ok endpoint =>
      rw [hestablish] at h
      cases h
  | some text =>
    rcases hcreate : (Replica.create ⟨text⟩).run.run d with ⟨cause | replica, d'⟩
    · rw [run_bind_of_error hreplica hcreate] at h
      cases h
      exact .inl rfl
    · cases hestablish : network.establish settings.address with
      | error fault =>
        rw [run_bind_of_refused hreplica hcreate hestablish] at h
        cases h
        apply Network.establish_eq_error hestablish
      | ok endpoint =>
        rw [run_bind_of_opened hreplica hcreate hestablish] at h
        cases h

/-- Whatever is on the disk and whatever the settings ask for, a server that cannot be opened leaves
no replica behind. If the replica cannot be made, only directories in front of it may be new. If it
is made but the address cannot be had, nothing else is touched than the two files, and on a disk
that does what its tree allows both are missing afterwards; likewise if the listener is not made
ready. All these are faults of the setup, but for a listener that cannot say where it is. If the
server is opened, its replica is there and shows the empty log. -/
theorem bind_leaves_no_replica (settings : Settings) (network : Network) (d : Disk) :
  let opening := (bind settings network).run d
  (∀ fault, opening.1 = .error fault → fault.label = "setup"
      ∨ ∃ endpoint cause, network.listenAt settings.address = .ok endpoint
        ∧ network.announce endpoint = .error cause ∧ fault = .resource (.io cause))
    ∧ (settings.replica = none → opening.2 = d)
    ∧ ∀ text, settings.replica = some text →
      let p : Path := ⟨text⟩
      let creation := (Replica.create p).run.run d
      (∀ cause, creation.1 = .error cause →
        opening.1 = .error (.setup (.replica text (.io cause)))
        ∧ ∀ l, d.tree.Grown p l opening.2.tree)
      ∧ (∀ replica cause, creation.1 = .ok replica →
        network.listenAt settings.address = .error cause →
          opening.1 = .error (.setup (.address settings.address cause))
          ∧ d.tree.Spares p.LeadsThrough (fun l => l = p.place ∨ l = p.staging.place) opening.2.tree
          ∧ (d.luck = [] → d.tree.GivenUp p opening.2.tree))
      ∧ (∀ replica endpoint fault, creation.1 = .ok replica →
        network.listenAt settings.address = .ok endpoint →
        network.prepare endpoint = .error fault →
          opening.1 = .error fault
          ∧ d.tree.Spares p.LeadsThrough (fun l => l = p.place ∨ l = p.staging.place) opening.2.tree
          ∧ (d.luck = [] → d.tree.GivenUp p opening.2.tree))
      ∧ (∀ replica endpoint, creation.1 = .ok replica →
        network.listenAt settings.address = .ok endpoint →
        network.prepare endpoint = .ok () →
          ∃ log, opening.1 = .ok { endpoint, log } ∧ log.replica = some ⟨p⟩
            ∧ log.snapshot = [] ∧ opening.2.tree.read p = .ok log.snapshot
            ∧ ∀ l, l ≠ p.place → d.tree.Grown p l opening.2.tree)
  := by
  intro opening
  refine ⟨fun _ => label_of_bind_eq_error, ?plain, ?replicated⟩
  case plain =>
    intro hnone
    show ((bind settings network).run d).2 = d
    rw [run_bind_of_none hnone]
  case replicated =>
    intro text hsome p creation
    rcases hcreate : creation with ⟨cause | replica, d'⟩
    · have hopening : opening = _ := run_bind_of_error hsome hcreate network
      refine ⟨?unmade, ?_, ?_, ?_⟩
      case unmade =>
        rintro _ ⟨⟩
        rw [hopening]
        exact ⟨rfl, Replica.grown_of_create hcreate⟩
      · rintro _ _ ⟨⟩
      · rintro _ _ _ ⟨⟩
      · rintro _ _ ⟨⟩
    · have hgivenUp : ∀ fault, network.establish settings.address = .error fault →
          opening.1 = .error fault
          ∧ d.tree.Spares p.LeadsThrough (fun l => l = p.place ∨ l = p.staging.place) opening.2.tree
          ∧ (d.luck = [] → d.tree.GivenUp p opening.2.tree) := by
        intro fault hestablish
        have hopening : opening = _ := run_bind_of_refused hsome hcreate hestablish
        rw [hopening]
        exact ⟨rfl, Replica.spares_release hcreate, Replica.givenUp_release hcreate⟩
      refine ⟨nofun, ?refused, ?unready, ?opened⟩
      case refused =>
        rintro _ cause ⟨⟩ hlisten
        apply hgivenUp _ (Network.establish_of_error hlisten)
      case unready =>
        rintro _ endpoint fault ⟨⟩ hlisten hprepare
        apply hgivenUp
        rw [Network.establish_of_ok hlisten, hprepare]
        rfl
      case opened =>
        obtain ⟨rfl, hfile⟩ := Replica.create_eq_ok hcreate
        rintro _ endpoint ⟨⟩ hlisten hprepare
        have hestablish : network.establish settings.address = .ok endpoint := by
          rw [Network.establish_of_ok hlisten, hprepare]
          rfl
        have hopening : opening = _ := run_bind_of_opened hsome hcreate hestablish
        rw [hopening]
        have hempty : (SharedLog.withReplica Window.standardCapacity ⟨p⟩).snapshot = [] :=
          congrArg List.flatten (Window.holds_ofCapacity Window.standardCapacity).toList_eq
        have hmake : Disk.Keeps (Tree.Spares p.LeadsThrough (· = p.place)) (Replica.create p) :=
          Replica.keeps_create (fun _ => id) rfl
        refine ⟨_, rfl, rfl, hempty, ?_, fun l hl => (hmake.passes hcreate).tree.grown hl⟩
        dsimp only
        rw [hempty, Tree.read, hfile]
        rfl

/-- The address is none. The file of a former run and its staging file were there; both are gone. -/
theorem bind_removes_former_replica :
  let settings : Settings := { address := "nowhere", replica := some "a" }
  let network : Network := { resolve := fun _ => .ok [], listen := .ok }
  let d : Disk := { tree := ⟨[(["a"], .file [111]), (["a.tmp"], .file [115])]⟩ }
  let opening := (bind settings network).run d
  (∃ cause, opening.1 = .error (.setup (.address "nowhere" cause)))
    ∧ d.tree.GivenUp ⟨"a"⟩ opening.2.tree
    ∧ opening.2.tree.lookup ["a"] = none ∧ opening.2.tree.lookup ["a.tmp"] = none
  := by
  intro settings network d opening
  have hmade : ((Replica.create ⟨"a"⟩).run.run d).1.isOk = true := by decide +kernel +zetaReduce
  have hrefused : (network.listenAt "nowhere").isOk = false := by decide +kernel +zetaReduce
  have hgone : opening.2.tree.lookup ["a"] = none ∧ opening.2.tree.lookup ["a.tmp"] = none := by
    decide +kernel +zetaReduce
  cases hcreate : ((Replica.create ⟨"a"⟩).run.run d).1 with
  | error cause =>
    rw [hcreate] at hmade
    cases hmade
  | ok replica =>
    cases hlisten : network.listenAt "nowhere" with
    | ok endpoint =>
      rw [hlisten] at hrefused
      cases hrefused
    | error cause =>
      obtain ⟨-, -, hreplicated⟩ := bind_leaves_no_replica settings network d
      obtain ⟨-, hunaddressed, -, -⟩ := hreplicated "a" rfl
      obtain ⟨hfault, -, hgivenUp⟩ := hunaddressed replica cause hcreate hlisten
      exact ⟨⟨cause, hfault⟩, hgivenUp rfl, hgone⟩

end Listener

end BoundedLog
