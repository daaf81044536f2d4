import BoundedLog.Proofs.Server.Account

/-!
# Replies show one instant

Between the record of a client and the reply to it, any number of others may commit records and
evict older ones. The reply is taken from the log in one step all the same, so it is a suffix of
what the log holds at that instant, and all of it if the client asked for no place. While a worker
is at work nobody closes the log, so the log holds the last records that were committed; and as a
worker commits one record at most, its record is the one that is known by its number. It is among
the last ones, with all records behind it, if and only if there are fewer of these than slots.
-/

namespace BoundedLog

/-- An element is among the last ones if there are few behind it. -/
theorem rtake_append_cons {Entry : Type} (older newer : List Entry) (entry : Entry) {n : Nat}
    (h : newer.length < n) :
  (older ++ entry :: newer).rtake n
    = older.rtake (n - newer.length - 1) ++ entry :: newer
  := by
  have hlength : (older ++ entry :: newer).length - n = older.length - (n - newer.length - 1) := by
    rw [List.length_append, List.length_cons]
    omega
  rw [List.rtake, hlength, List.drop_append_of_le_length (Nat.sub_le _ _), List.rtake]

/-- An element is not among the last ones if there are as many behind it. -/
theorem rtake_append_of_le {Entry : Type} (older newer : List Entry) {n : Nat}
    (h : n ≤ newer.length) :
  (older ++ newer).rtake n = newer.rtake n
  := by
  rw [List.rtake, List.length_append, List.rtake, Nat.add_sub_assoc h, List.drop_append,
    List.drop_eq_nil_of_le (Nat.le_add_right _ _), List.nil_append, Nat.add_sub_cancel_left]

/-- An element that does not come again is among the last ones if and only if there are few behind
it. -/
theorem mem_rtake_iff {Entry : Type} {older newer : List Entry} {entry : Entry}
    (h : entry ∉ newer) (n : Nat) :
  entry ∈ (older ++ entry :: newer).rtake n ↔ newer.length < n
  := by
  constructor
  · intro hmem
    by_contra hmany
    rw [List.append_cons, rtake_append_of_le _ _ (Nat.le_of_not_lt hmany)] at hmem
    exact h (List.mem_of_mem_drop hmem)
  · intro hfew
    rw [rtake_append_cons older newer entry hfew]
    apply List.mem_append_right _ List.mem_cons_self

/-- Who is alone does not come again. -/
theorem not_mem_of_countP_le_one {Entry : Type} {p : Entry → Bool} {older newer : List Entry}
    {entry : Entry} (hentry : p entry = true) (h : (older ++ entry :: newer).countP p ≤ 1) :
  entry ∉ newer
  := by
  intro hagain
  have hsome : 0 < newer.countP p := List.countP_pos_iff.mpr ⟨entry, hagain, hentry⟩
  rw [List.countP_append, List.countP_cons_of_pos hentry] at h
  omega

/-- What is sent of what a log holds from a place on is a suffix of the whole. -/
theorem Session.content_suffix (session : Session) (log : SharedLog) :
  session.content log <:+ log.snapshot
  := by
  rw [content]
  split
  · apply List.drop_suffix
  · apply List.suffix_rfl

namespace Server

variable {s t : Server} {actions : List Action} {capacity id : Nat} {replica : Option Replica}
  {disk : Disk} {worker : Worker Service}

/-- While a worker is at work the supervisor is not alone. -/
theorem IsDraining.stage_ne_alone (h : s.IsDraining) (hworker : s.crew.worker? id = some worker)
    (hworking : worker.progress = .working) :
  s.supervisor.stage ≠ .alone
  := by
  intro halone
  obtain ⟨-, -, hover⟩ := h.collected halone
  have houtcome := hover id (Crew.mem_range'_of_worker? hworker)
  rw [Crew.outcome?, Crew.progress?, hworker, Option.map_some, hworking] at houtcome
  cases houtcome

/-- Until the supervisor is alone the log shows all that was committed. -/
theorem shows_of_run
    (hrun : (ofLog { window := .ofCapacity capacity, replica } disk).run actions = some s)
    (hstage : s.supervisor.stage ≠ .alone) :
  s.hub.log.window.capacity = max capacity 1
    ∧ s.hub.log.Shows
      (((ofLog { window := .ofCapacity capacity, replica } disk).commits actions).map (·.2))
  := by
  have hstart : (ofLog { window := .ofCapacity capacity, replica } disk).Sound :=
    sound_ofLog (.ofCapacity capacity) disk
  apply run_induction (P := fun before t => t.supervisor.stage ≠ .alone →
    t.hub.log.window.capacity = max capacity 1 ∧ t.hub.log.Shows
      (((ofLog { window := .ofCapacity capacity, replica } disk).commits before).map (·.2)))
    _ _ hrun hstage
  · intro
    use Window.capacity_ofCapacity capacity
    apply SharedLog.shows_nil
  · intro before t action t' hbefore ih hstep hstage'
    have hstage : t.supervisor.stage ≠ .alone := mt (change_of_step hstep).alone hstage'
    obtain ⟨hcapacity, hshows⟩ := ih hstage
    have hsound := hstart.run hbefore
    obtain ⟨record?, hlog | ⟨-, hclosing, -⟩⟩ := (effect_of_step hstep).exists_log_eq hsound
    · rw [commits_concat hbefore hstep, Step.commit?_of_committing hsound.reachable hlog,
        List.map_append, hlog, SharedLog.capacity_committing]
      use hcapacity
      have hafter := hshows.committing record?
      cases record? with
      | none => exact hafter
      | some record => exact hafter
    · -- The log is closed only when the supervisor is alone.
      rw [hclosing] at hstage
      exact absurd rfl hstage

/-- A worker that replies sends what its session makes of the log, as far as the transport takes
it. -/
theorem exists_step_reply (hworker : s.crew.worker? id = some worker)
    (hworking : worker.progress = .working) (hreplying : worker.job.session.phase = .replying) :
  ∃ s' worker' sent, s.step (.work id) = some s'
    ∧ s'.hub.log = s.hub.log
    ∧ s'.crew.worker? id = some worker'
    ∧ worker'.job.session.outlet.accepted = worker.job.session.outlet.accepted ++ sent
    ∧ sent <+: worker.job.session.content s.hub.log
    ∧ ∀ summary, worker'.job.outcome = some (.ok summary) →
      sent = worker.job.session.content s.hub.log
  := by
  obtain ⟨⟨job, hub⟩, hstep⟩ : ∃ result, worker.job.step s.hub = some result := by
    rw [Service.step, hreplying]
    exact ⟨_, rfl⟩
  obtain ⟨rfl, -, sent, haccepted, hprefix, hall⟩ := Service.reply_of_step hreplying hstep
  refine ⟨{ s with crew := s.crew.setWorker id { worker with job } }, { worker with job }, sent,
    ?_, rfl, ?_, haccepted, hprefix, hall⟩
  · show (s.crew.worker? id).bind _ = _
    rw [hworker, Option.bind_some, hworking]
    dsimp only
    rw [hstep]
  · rw [Crew.worker?_setWorker hworker, if_pos rfl]

/-- A worker that is about to reply sends a suffix of what the log holds at this one instant, and
all of it if its client asked for no place. The log holds then the last records that were committed.
The worker has committed one record at most; this one is among them, with all records behind it, if
and only if there are fewer behind it than slots. -/
theorem run_replies
    (hrun : (ofLog { window := .ofCapacity capacity, replica } disk).run actions = some s)
    (hworker : s.crew.worker? id = some worker) (hworking : worker.progress = .working)
    (hreplying : worker.job.session.phase = .replying) :
  let commits := (ofLog { window := .ofCapacity capacity, replica } disk).commits actions
  let retained := commits.rtake (max capacity 1)
  let session := worker.job.session
  let reply := session.content s.hub.log
  (∃ s' worker' sent, s.step (.work id) = some s'
    ∧ s'.hub.log = s.hub.log
    ∧ s'.crew.worker? id = some worker'
    ∧ worker'.job.session.outlet.accepted = session.outlet.accepted ++ sent
    ∧ sent <+: reply
    ∧ ∀ summary, worker'.job.outcome = some (.ok summary) → sent = reply)
  ∧ s.hub.log.window.toList = retained.map (·.2)
  ∧ reply <:+ s.hub.log.snapshot
  ∧ commits.countP (·.1.isWorkOf id) = session.summary.records
  ∧ session.summary.records ≤ 1
  ∧ (session.summary.seeks = 0 →
    reply = s.hub.log.snapshot
      ∧ ∀ older line newer, commits = older ++ (.work id, line) :: newer →
        ((.work id, line) ∈ retained ↔ newer.length < max capacity 1)
          ∧ ((.work id, line) ∈ retained →
            ∃ kept, kept <:+ older ∧ retained = kept ++ (.work id, line) :: newer))
  := by
  intro commits retained session reply
  have hsound := (sound_ofLog (.ofCapacity capacity) disk).run hrun
  have hstage := (isDraining_of_run hrun).stage_ne_alone hworker hworking
  obtain ⟨hcapacity, hholds, -⟩ := shows_of_run hrun hstage
  obtain ⟨place, rfl⟩ : ∃ place, id = place + 1 := by
    cases id with
    | zero => cases hworker
    | succ place => exact ⟨place, rfl⟩
  have hjob : s.crew.jobs[place]? = some worker.job := by
    rw [Crew.getElem?_jobs, hworker, Option.map_some]
  have horderly := hsound.orderly_of_getElem? hjob
  have hcount : commits.countP (·.1.isWorkOf (place + 1)) = session.summary.records := by
    show ((ofLog _ disk).commits actions).countP _ = _
    rw [countP_commits_of_run (.ofCapacity capacity) hrun, getElem?_counts hjob]
    rfl
  refine ⟨exists_step_reply hworker hworking hreplying, ?_, session.content_suffix s.hub.log,
    hcount, horderly.records_le, ?_⟩
  · rw [hholds.toList_eq, hcapacity, List.rtake, List.length_map, ← List.map_drop]
    rfl
  · intro hseeks
    have hplace : session.place = none := horderly.place_eq hseeks
    constructor
    · show session.content s.hub.log = _
      rw [Session.content, hplace]
    · intro older line newer hcommits
      have hunique : (Action.work (place + 1), line) ∉ newer := by
        have hle := horderly.records_le
        rw [← hcount, hcommits] at hle
        apply not_mem_of_countP_le_one _ hle
        apply beq_self_eq_true
      have hmem : (Action.work (place + 1), line) ∈ retained ↔ newer.length < max capacity 1 := by
        show _ ∈ commits.rtake _ ↔ _
        rw [hcommits]
        apply mem_rtake_iff hunique
      use hmem
      intro hretained
      use older.rtake (max capacity 1 - newer.length - 1), List.drop_suffix _ _
      show commits.rtake _ = _
      rw [hcommits]
      apply rtake_append_cons _ _ _ (hmem.mp hretained)

/-- Between the record of a client and the reply to it two others write, and there are two slots. The
reply is what they wrote. -/
theorem run_replies_behind_others :
  let peer : Endpoint := ⟨.short [127, 0, 0, 1], 4000⟩
  let start := ofLog { window := .ofCapacity 2 } { tree := .empty }
  let actions : List Action :=
    [.supervise, .welcome peer {}, .deliver 1 [97, newline], .work 1, .write 7 [98, newline],
      .write 8 [99, newline]]
  ∃ s worker, start.run actions = some s
    ∧ s.crew.worker? 1 = some worker
    ∧ worker.job.session.summary.records = 1
    ∧ worker.job.session.content s.hub.log = [98, newline, 99, newline]
    ∧ (.work 1, [97, newline]) ∉ (start.commits actions).rtake 2
  := by
  intro peer start actions
  have hstate : (start.run actions).map (fun s => (s.hub.log.snapshot,
        (s.crew.worker? 1).map fun worker => (worker.progress, worker.job.session.phase,
          worker.job.session.summary)))
      = some ([98, newline, 99, newline], some (.working, .replying, ⟨0, 1, 0⟩)) := by
    simp only [start, actions, peer]
    rfl
  have hcommits : start.commits actions = [] ++ (.work 1, [97, newline])
      :: [(.write 7 [98, newline], [98, newline]), (.write 8 [99, newline], [99, newline])] := by
    simp only [start, actions, peer]
    rfl
  obtain ⟨s, hrun, hstate⟩ := Option.map_eq_some_iff.mp hstate
  obtain ⟨hsnapshot, hstate⟩ := Prod.mk.inj hstate
  obtain ⟨worker, hworker, hstate⟩ := Option.map_eq_some_iff.mp hstate
  obtain ⟨hworking, hstate⟩ := Prod.mk.inj hstate
  obtain ⟨hreplying, hsummary⟩ := Prod.mk.inj hstate
  obtain ⟨-, -, -, -, -, hwhole⟩ := run_replies hrun hworker hworking hreplying
  obtain ⟨hreply, hown⟩ := hwhole (congrArg Summary.seeks hsummary)
  obtain ⟨hmem, -⟩ := hown _ _ _ hcommits
  exact ⟨s, worker, hrun, hworker, congrArg Summary.records hsummary, hreply.trans hsnapshot,
    mt hmem.mp (by decide)⟩

end Server

end BoundedLog
