import BoundedLog.Proofs.Files.Replace
import BoundedLog.Proofs.Writers

/-!
# The replica follows the log

Every record that is committed to a log with a replica makes one attempt to bring the replica up to
date, a publication, with what the log shows behind the record. Whatever luck the disk has, a
publication that fails leaves the file as it was, and nothing else touches it. So the file always
shows what the last publication that succeeded was about, and it shows the log again as soon as one
succeeds.
-/

namespace BoundedLog

variable {Writer : Type}

/-! ### Updates -/

namespace Replica

theorem create_eq_ok {path : Path} {replica : Replica} {d d' : Disk}
    (h : (create path).run.run d = (.ok replica, d')) :
  replica = ⟨path⟩ ∧ d'.tree.find path = .ok (.file [])
  := by
  obtain ⟨_, above, -, h⟩ := Disk.bind_eq_ok h
  obtain ⟨l, created, hcreate, h⟩ := Disk.bind_eq_ok h
  cases h
  exact ⟨rfl, Tree.find_create (Disk.operate_eq_ok hcreate).1⟩

theorem run_update (r : Replica) (content : Bytes) (d : Disk) :
  (r.update content).run d =
    match (Disk.replace r.path content).run.run d with
    | (.ok _, d') => (.ok (), d')
    | (.error cause, d') => (.error (.replica s!"{r.path.text}: {cause.message}"), d')
  := by
  rw [update, StateT.run_bind]
  rcases (Disk.replace r.path content).run.run d with ⟨_ | _, d'⟩
  · rfl
  · rfl

/-- An update that succeeds leaves the whole content and no staging file. -/
theorem update_eq_ok {r : Replica} {content : Bytes} {d d' : Disk}
    (h : (r.update content).run d = (.ok (), d')) :
  d'.tree.find r.path = .ok (.file content)
    ∧ d'.tree.find r.path.staging = .error .noSuchEntry
  := by
  rw [run_update] at h
  rcases hreplace : (Disk.replace r.path content).run.run d with ⟨_ | _, after⟩
  · rw [hreplace] at h
    cases h
  · rw [hreplace] at h
    cases h
    apply Disk.replaceWith_eq_ok hreplace

/-- An update that fails leaves the file as it was. -/
theorem update_eq_error {r : Replica} {content old : Bytes} {d d' : Disk} {fault : ResourceFault}
    (h : (r.update content).run d = (.error fault, d'))
    (hfind : d.tree.find r.path = .ok (.file old)) :
  d'.tree.find r.path = .ok (.file old)
  := by
  rw [run_update] at h
  rcases hreplace : (Disk.replace r.path content).run.run d with ⟨_ | _, after⟩
  · rw [hreplace] at h
    cases h
    apply Disk.replaceWith_eq_error hreplace hfind
  · rw [hreplace] at h
    cases h

end Replica

/-! ### Publications -/

/-- An attempt to bring a replica up to date: what the file was to show, and what came of it. -/
structure Publication where
  snapshot : Bytes
  outcome : Except ResourceFault Unit

namespace Publication

/-- Whether the replica was brought up to date. -/
def succeeded (publication : Publication) : Bool := publication.outcome.isOk

/-- What the last publication that succeeded was about; before the first one, nothing. -/
def lastShown (publications : List Publication) : Bytes :=
  ((publications.filter (·.succeeded)).getLast?.map (·.snapshot)).getD []

/-- What the last publication was about, whether it succeeded or not. -/
def lastSnapshot (publications : List Publication) : Bytes :=
  (publications.getLast?.map (·.snapshot)).getD []

theorem lastShown_concat_of_succeeded (publications : List Publication) {last : Publication}
    (h : last.succeeded = true) :
  lastShown (publications ++ [last]) = last.snapshot
  := by
  rw [lastShown, List.filter_append, List.filter_cons_of_pos h, List.filter_nil,
    List.getLast?_concat]
  rfl

theorem lastShown_concat_of_failed (publications : List Publication) {last : Publication}
    (h : last.succeeded ≠ true) :
  lastShown (publications ++ [last]) = lastShown publications
  := by
  rw [lastShown, List.filter_append, List.filter_cons_of_neg h, List.filter_nil, List.append_nil]
  rfl

theorem lastSnapshot_concat (publications : List Publication) (last : Publication) :
  lastSnapshot (publications ++ [last]) = last.snapshot
  := by
  rw [lastSnapshot, List.getLast?_concat]
  rfl

/-- While no publication fails, the last one that succeeded is the last one. -/
theorem lastShown_eq_lastSnapshot {publications : List Publication}
    (h : ∀ publication ∈ publications, publication.succeeded) :
  lastShown publications = lastSnapshot publications
  := by
  rw [lastShown, List.filter_eq_self.mpr h]
  rfl

end Publication

namespace Desk

variable [DecidableEq Writer]

/-- The publication that a call makes, if it commits a record to a log with a replica. -/
def publication? (w : Desk Writer) (c : Call Writer) (d : Disk) : Option Publication :=
  let (receipt, behind) := ((w.call c).run d).1
  match w.log.replica, receipt.record? with
  | some replica, some _ =>
    some ⟨behind.log.snapshot, ((replica.update behind.log.snapshot).run d).1⟩
  | _, _ => none

/-- What becomes of a desk, a disk and the publications so far: the writers make calls, in any
order, and others do to the disk what they like, as long as they leave alone what the path leads
to and what its staging path leads to. -/
inductive Course (path : Path) (w : Desk Writer) (d : Disk) :
    List Publication → Desk Writer → Disk → Prop
  | start : Course path w d [] w d
  | call {publications : List Publication} {w' : Desk Writer} {d' : Disk} (c : Call Writer)
      (h : Course path w d publications w' d') :
    Course path w d (publications ++ (w'.publication? c d').toList) ((w'.call c).run d').1.2
      ((w'.call c).run d').2
  | other {publications : List Publication} {w' : Desk Writer} {d' after : Disk}
      (h : Course path w d publications w' d')
      (hfile : after.tree.find path = d'.tree.find path)
      (hstaging : after.tree.find path.staging = d'.tree.find path.staging) :
    Course path w d publications w' after

end Desk

/-! ### Calls -/

/-- The disk takes part only by the update of the replica, if a record is committed. -/
theorem SharedLog.accept_snd {log : SharedLog} {replica : Replica} (h : log.replica = some replica)
    (draft : Draft) (bytes : Bytes) (d : Disk) :
  ((log.accept draft bytes).run d).2 =
    match (draft.add bytes).1 with
    | none => d
    | some record => ((replica.update (log.committing (some record)).snapshot).run d).2
  := by
  rw [accept, Draft.add]
  by_cases hempty : bytes.isEmpty = true
  · rw [if_pos hempty, if_pos hempty]
    rfl
  · rw [if_neg hempty, if_neg hempty]
    by_cases hend : Bytes.endsLine (draft.bytes ++ bytes) = true
    · simp only [if_pos hend]
      obtain ⟨window, _⟩ := log
      cases h
      rfl
    · simp only [if_neg hend]
      rfl

namespace Desk

variable [DecidableEq Writer] {w : Desk Writer} {replica : Replica}

/-- A call commits nothing and changes neither the log nor the disk, or it commits a record and
makes one publication, which is all that changes the disk. -/
theorem call_cases (hreplica : w.log.replica = some replica) {all : List Record}
    (hshows : w.log.Shows all) (c : Call Writer) (d : Disk) :
  let behind := (w.call c).run d
  (w.publication? c d = none ∧ behind.1.2.log = w.log ∧ behind.2 = d)
  ∨ ∃ record outcome,
      behind.1.2.log = w.log.committing (some record)
      ∧ (replica.update behind.1.2.log.snapshot).run d = (outcome, behind.2)
      ∧ w.publication? c d = some ⟨behind.1.2.log.snapshot, outcome⟩
  := by
  intro behind
  have hfst := call_fst hshows.1 c d
  have hsnd : behind.2 = _ := SharedLog.accept_snd hreplica (w.drafts c.writer) c.bytes d
  cases hadd : ((w.drafts c.writer).add c.bytes).1 with
  | none =>
    rw [hadd] at hfst hsnd
    left
    refine ⟨?_, ?_, hsnd⟩
    · rw [publication?, hfst, hreplica]
    · show ((w.call c).run d).1.2.log = _
      rw [hfst]
      rfl
  | some record =>
    rw [hadd] at hfst hsnd
    have hlog : behind.1.2.log = w.log.committing (some record) := by
      show ((w.call c).run d).1.2.log = _
      rw [hfst]
    right
    use record, ((replica.update behind.1.2.log.snapshot).run d).1
    refine ⟨hlog, ?_, ?_⟩
    · rw [hsnd, hlog]
      rfl
    · simp only [hlog, publication?, hreplica, hfst]

/-- What holds at every point of a course. -/
structure Follows (path : Path) (d : Disk) (publications : List Publication) (w' : Desk Writer)
    (d' : Disk) : Prop where
  replica : w'.log.replica = some ⟨path⟩
  shows : ∃ all, w'.log.Shows all ∧ all.length = publications.length
  snapshot : w'.log.snapshot = Publication.lastSnapshot publications
  file : d'.tree.find path = .ok (.file (Publication.lastShown publications))
  untouched : publications = [] → d'.tree.find path.staging = d.tree.find path.staging
  gone : ∀ last ∈ publications.getLast?, last.succeeded →
    d'.tree.find path.staging = .error .noSuchEntry

variable {path : Path} {d d' : Disk} {publications : List Publication} {w' : Desk Writer}

theorem Follows.call (h : Follows path d publications w' d') (c : Call Writer) :
  Follows path d (publications ++ (w'.publication? c d').toList) ((w'.call c).run d').1.2
    ((w'.call c).run d').2
  := by
  obtain ⟨all, hshows, hlength⟩ := h.shows
  rcases call_cases h.replica hshows c d' with
    ⟨hnone, hlog, hdisk⟩ | ⟨record, outcome, hlog, hupdate, hsome⟩
  · rw [hnone, Option.toList_none, List.append_nil]
    constructor
    · rw [hlog]
      apply h.replica
    · rw [hlog]
      exact ⟨all, hshows, hlength⟩
    · rw [hlog]
      apply h.snapshot
    · rw [hdisk]
      apply h.file
    · rw [hdisk]
      apply h.untouched
    · rw [hdisk]
      apply h.gone
  · -- A record was committed; only the fields about the disk depend on how its publication went.
    rw [hsome, Option.toList_some]
    constructor
    · rw [hlog]
      apply h.replica
    · use all ++ [record]
      rw [hlog]
      constructor
      · apply hshows.committing (some record)
      · rw [List.length_append, List.length_append, hlength]
        rfl
    · rw [Publication.lastSnapshot_concat]
    · cases outcome with
      | ok =>
        rw [Publication.lastShown_concat_of_succeeded _ rfl]
        apply (Replica.update_eq_ok hupdate).1
      | error fault =>
        rw [Publication.lastShown_concat_of_failed _ (by intro h; cases h)]
        apply Replica.update_eq_error hupdate h.file
    · intro hnil
      simp at hnil
    · intro last hlast hsucceeded
      rw [List.getLast?_concat, Option.mem_some_iff] at hlast
      subst hlast
      cases outcome with
      | ok => apply (Replica.update_eq_ok hupdate).2
      | error fault => cases hsucceeded

theorem Follows.of_course {w : Desk Writer} (hstart : Follows path d [] w d)
    (h : Course path w d publications w' d') :
  Follows path d publications w' d'
  := by
  induction h with
  | start => apply hstart
  | call c h ih => apply ih.call c
  | @other publications w' d' after h hfile hstaging ih =>
    constructor
    · apply ih.replica
    · apply ih.shows
    · apply ih.snapshot
    · rw [hfile]
      apply ih.file
    · rw [hstaging]
      apply ih.untouched
    · rw [hstaging]
      apply ih.gone

/-- The file of a replica follows the log. Every record committed makes one publication, and the
file always shows what the last one that succeeded was about. While none fails, the file shows the
log, and there is no staging file unless there was one when the replica was created. However many
have failed, behind one that succeeds the file shows the log, and there is no staging file. -/
theorem replica_follows (capacity : Nat) {path : Path} {replica : Replica} {before d : Disk}
    (hcreate : (Replica.create path).run.run before = (.ok replica, d)) (drafts : Writer → Draft)
    {publications : List Publication} {w' : Desk Writer} {d' : Disk}
    (hcourse : Course path { log := .withReplica capacity replica, drafts } d publications w' d') :
  publications.length = w'.log.stats.appended
  ∧ d'.tree.read path = .ok (Publication.lastShown publications)
  ∧ ((∀ publication ∈ publications, publication.succeeded) →
      d'.tree.read path = .ok w'.log.snapshot
        ∧ ((∀ content, d.tree.find path.staging ≠ .ok (.file content)) →
            ∀ content, d'.tree.find path.staging ≠ .ok (.file content)))
  ∧ (∀ last ∈ publications.getLast?, last.succeeded →
      d'.tree.read path = .ok w'.log.snapshot
        ∧ d'.tree.find path.staging = .error .noSuchEntry)
  := by
  obtain ⟨rfl, hempty⟩ := Replica.create_eq_ok hcreate
  have hstart : Follows path d [] { log := .withReplica capacity ⟨path⟩, drafts } d := by
    constructor
    · rfl
    · exact ⟨[], SharedLog.shows_nil capacity _, rfl⟩
    · apply (Window.holds_ofCapacity capacity).content_eq
    · apply hempty
    · intro _
      rfl
    · intro last hlast
      cases hlast
  have hfollows := Follows.of_course hstart hcourse
  have hread : d'.tree.read path = .ok (Publication.lastShown publications) := by
    rw [Tree.read, hfollows.file]
    rfl
  refine ⟨?_, hread, ?_, ?_⟩
  · obtain ⟨all, ⟨-, happended⟩, hlength⟩ := hfollows.shows
    rw [← hlength, ← happended]
    rfl
  · intro hsucceeded
    constructor
    · rw [hread, Publication.lastShown_eq_lastSnapshot hsucceeded, hfollows.snapshot]
    · intro hnone content
      rcases List.eq_nil_or_concat publications with hnil | ⟨past, last, hconcat⟩
      · rw [hfollows.untouched hnil]
        apply hnone
      · rw [hfollows.gone last (by simp [hconcat]) (hsucceeded last (by simp [hconcat]))]
        nofun
  · intro last hlast hsucceeded
    obtain ⟨past, rfl⟩ := List.getLast?_eq_some_iff.mp hlast
    constructor
    · rw [hread, hfollows.snapshot, Publication.lastShown_concat_of_succeeded past hsucceeded,
        Publication.lastSnapshot_concat]
    · apply hfollows.gone last hlast hsucceeded

/-- The disk is full when the first record is to be shown, and not any more when the second one
is. -/
theorem replica_follows_behind_failure :
  let path : Path := ⟨"log"⟩
  let before : Disk := { tree := .empty, luck := [.fair, .fair, .failing (.system 28)] }
  let created := (Replica.create path).run.run before
  let start : Desk Unit := { log := .withReplica 1 ⟨path⟩ }
  let first := (start.call ⟨(), [97, 10]⟩).run created.2
  let second := (first.1.2.call ⟨(), [98, 10]⟩).run first.2
  created.1.toOption = some ⟨path⟩
    ∧ first.1.2.log.snapshot = [97, 10]
    ∧ first.2.tree.read path = .ok []
    ∧ second.2.tree.read path = .ok [98, 10]
    ∧ second.2.tree.find path.staging = .error .noSuchEntry
  := by
  intro path before created start first second
  have hok : created.1.toOption = some ⟨path⟩ := by
    decide +kernel +zetaReduce
  have hcreate : created = (.ok ⟨path⟩, created.2) := by
    rcases hcreated : created with ⟨_ | replica, d⟩
    · rw [hcreated] at hok
      cases hok
    · rw [hcreated] at hok
      cases hok
      rfl
  have hfirst : Course path start created.2 _ first.1.2 first.2 := .call _ .start
  have hsecond : Course path start created.2 _ second.1.2 second.2 := .call _ hfirst
  obtain ⟨-, hread, -, -⟩ := replica_follows 1 hcreate (fun _ => {}) hfirst
  obtain ⟨-, -, -, hlast⟩ := replica_follows 1 hcreate (fun _ => {}) hsecond
  have hfailed : Publication.lastShown
      ([] ++ (start.publication? ⟨(), [97, 10]⟩ created.2).toList) = [] := by
    decide +kernel +zetaReduce
  have hsucceeded :
      (first.1.2.publication? ⟨(), [98, 10]⟩ first.2).map (·.succeeded) = some true := by
    decide +kernel +zetaReduce
  have hsnapshot : second.1.2.log.snapshot = [98, 10] := by
    decide +kernel +zetaReduce
  obtain ⟨publication, hmade, hpublication⟩ := Option.map_eq_some_iff.mp hsucceeded
  obtain ⟨hread', hgone⟩ := hlast publication (by simp [hmade]) hpublication
  refine ⟨hok, ?_, ?_, ?_, hgone⟩
  · decide +kernel +zetaReduce
  · rw [hread, hfailed]
  · rw [hread', hsnapshot]

end Desk

end BoundedLog
