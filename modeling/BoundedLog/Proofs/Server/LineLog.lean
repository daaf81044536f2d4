import BoundedLog.Proofs.Server.Account
import BoundedLog.Proofs.Server.Pulse

/-!
# A log of plain lines

A writer may complete a record of many lines, and one that looks like a request for a place. The
threads of a server do not: a worker commits a line of its client that does not ask for a place,
and the pulse commits a time mark, which is a line and does not look like such a request either. So
as long as nobody writes from outside, every record in the log is a plain line, whatever was
evicted and however the sessions ended. The snapshot is then cut into the records again, and there
are as many of them as there are newlines in it.
-/

namespace BoundedLog

/-- The record is a line that does not ask for a place. -/
def IsPlainLine (record : Record) : Prop := record.IsLine ∧ ¬ Request.seekWord <+: record

/-- A time mark does not look like a request for a place. -/
theorem Moment.isPlainLine_mark (m : Moment) :
  IsPlainLine (Bytes.ofText m.mark)
  := by
  use m.isLine_mark
  intro hseek
  -- one of the two beginnings would be the beginning of the other
  have hbegin := List.prefix_or_prefix_of_prefix hseek m.begins_mark
  rw [Bytes.ofText_eq] at hbegin
  revert hbegin
  decide

/-- A record that a session takes is a plain line. -/
theorem Session.IsRecordOf.isPlainLine {arrivals : List Arrival} {record : Record}
    (h : Session.IsRecordOf arrivals record) :
  IsPlainLine record
  := ⟨Bytes.exists_of_mem_lines h.1, h.2⟩

namespace SharedLog

/-- Every record in the log is a plain line. -/
def HoldsLines (log : SharedLog) : Prop := ∀ record ∈ log.window.toList, IsPlainLine record

theorem holdsLines_of_toList_eq_nil {log : SharedLog} (h : log.window.toList = []) :
  log.HoldsLines
  := by
  rw [HoldsLines, h]
  apply List.forall_mem_nil

/-- A log of plain lines stays one if a plain line is appended. -/
theorem HoldsLines.committing {log : SharedLog} (h : log.HoldsLines)
    (hlog : log.window.Reachable) {record? : Option Record}
    (hplain : ∀ record ∈ record?, IsPlainLine record) :
  (log.committing record?).HoldsLines
  := by
  cases record? with
  | none => exact h
  | some record =>
    have hafter : (log.committing (some record)).window.toList
        = (log.window.toList ++ [record]).rtake log.window.capacity :=
      (hlog.holds.append record).toList_eq
    rw [HoldsLines, hafter]
    intro kept hkept
    rcases List.mem_append.mp (List.mem_of_mem_drop hkept) with hold | hnew
    · apply h kept hold
    · rw [List.mem_singleton.mp hnew]
      exact hplain record rfl

end SharedLog

namespace Server

variable {s s' : Server} {action : Action} {actions : List Action} {capacity : Nat}
  {replica : Option Replica} {disk : Disk}

/-- What the threads of the server commit is a plain line. -/
theorem Source.isPlainLine {record : Record} (h : s.Source action record)
    (hwriters : action.isWrite = false) :
  IsPlainLine record
  := by
  cases h with
  | client place hjob hline => exact hline.isPlainLine
  | pulse now => exact now.isPlainLine_mark
  | outside => cases hwriters

/-- A step that nobody takes from outside leaves a log of plain lines. -/
theorem holdsLines_of_step (hsound : s.Sound) (h : s.hub.log.HoldsLines)
    (hstep : s.step action = some s') (hwriters : action.isWrite = false) :
  s'.hub.log.HoldsLines
  := by
  obtain ⟨record?, ⟨hlog, hsource⟩ | ⟨-, -, hlog⟩⟩ := (effect_of_step hstep).exists_source hsound
  · rw [hlog]
    apply h.committing hsound.reachable
    intro record hrecord
    apply (hsource record hrecord).isPlainLine hwriters
  · rw [hlog]
    exact SharedLog.holdsLines_of_toList_eq_nil hsound.reachable.holds.clear.toList_eq

theorem holdsLines_of_run
    (hrun : (ofLog { window := .ofCapacity capacity, replica } disk).run actions = some s)
    (hwriters : ∀ action ∈ actions, action.isWrite = false) :
  s.hub.log.HoldsLines
  := by
  have hstart : (ofLog { window := .ofCapacity capacity, replica } disk).Sound :=
    sound_ofLog (.ofCapacity capacity) disk
  apply run_induction (P := fun before t => (∀ action ∈ before, action.isWrite = false) →
    t.hub.log.HoldsLines) _ _ hrun hwriters
  · intro
    exact SharedLog.holdsLines_of_toList_eq_nil (Window.holds_ofCapacity capacity).toList_eq
  · intro before t action t' hbefore ih hstep hwriters
    obtain ⟨hwriters, hlast⟩ := List.forall_mem_append.mp hwriters
    apply holdsLines_of_step (hstart.run hbefore) (ih hwriters) hstep
    apply hlast action List.mem_cons_self

/-- If nobody writes from outside, every record in the log of a server has its only newline at its
end and does not begin with `SEEKTO:`, at every instant of every run. So the lines of the snapshot
are the records, in order, with nothing behind them, and the log counts as many records as the
snapshot has newlines. -/
theorem run_keeps_lines
    (hrun : (ofLog { window := .ofCapacity capacity, replica } disk).run actions = some s)
    (hwriters : ∀ action ∈ actions, action.isWrite = false) :
  let records := s.hub.log.window.toList
  let snapshot := s.hub.log.snapshot
  (∀ record ∈ records, record ≠ [] ∧ record.endsLine = true ∧ newline ∉ record.dropLast
    ∧ ¬ Request.seekWord <+: record)
  ∧ snapshot.lines = records
  ∧ snapshot.unterminated = []
  ∧ s.hub.log.stats.count = snapshot.count newline
  := by
  intro records snapshot
  have hholds := ((sound_ofLog (.ofCapacity capacity) disk).run hrun).reachable.holds
  have hplain : ∀ record ∈ records, IsPlainLine record := holdsLines_of_run hrun hwriters
  have hlines : ∀ record ∈ records, record.IsLine := fun record hmem => (hplain record hmem).1
  have hsnapshot : snapshot = records.flatten := hholds.content_eq
  obtain ⟨hcut, hrest⟩ := Bytes.splitLines_flatten hlines
  rw [hsnapshot]
  refine ⟨?_, hcut, hrest, ?_⟩
  · intro record hmem
    obtain ⟨hline, hseek⟩ := hplain record hmem
    exact ⟨hline.ne_nil, hline.endsLine, hline.newline_not_mem_dropLast, hseek⟩
  · rw [Bytes.count_newline_flatten hlines]
    exact hholds.count_eq

/-- There are two slots. Two clients send a line, one of them with the beginning of another, and the
pulse writes a mark: the snapshot is cut into the line of the second client and the mark. -/
theorem run_keeps_line_and_mark :
  let peer : Endpoint := ⟨.short [127, 0, 0, 1], 4000⟩
  let start := ofLog { window := .ofCapacity 2, replica := some ⟨⟨"log"⟩⟩ } { tree := .empty }
  let now : Moment := { seconds := 0 }
  let before : List Action :=
    [.supervise, .welcome peer {}, .deliver 1 [97, newline, 98], .work 1, .supervise,
      .welcome peer {}, .deliver 2 [99, newline], .work 2, .wakePulse, .beat now, .beat now]
  let mark := Bytes.ofText now.mark
  ∃ s, start.run (before ++ [.beat now]) = some s
    ∧ (∀ action ∈ before ++ [.beat now], action.isWrite = false)
    ∧ s.hub.log.window.toList = [[99, newline], mark]
    ∧ s.hub.log.snapshot.lines = [[99, newline], mark]
    ∧ s.hub.log.stats.count = s.hub.log.snapshot.count newline
  := by
  intro peer start now before mark
  have hstate : (start.run before).map (fun t =>
        (t.hub.log.window.toList, t.hub.log.window.capacity, t.heart))
      = some ([[97, newline], [99, newline]], 2, some (.sleeping, { place := .writing })) := by
    simp only [start, before, peer]
    rfl
  have hwriters : ∀ action ∈ before ++ [.beat now], action.isWrite = false := by
    simp [before, Action.isWrite]
  obtain ⟨t, hbefore, hstate⟩ := Option.map_eq_some_iff.mp hstate
  obtain ⟨hlist, hstate⟩ := Prod.mk.inj hstate
  obtain ⟨hcapacity, hheart⟩ := Prod.mk.inj hstate
  -- the step of the pulse is not computed, because the bytes of the mark would be
  obtain ⟨⟨pulse, hub⟩, hpulse⟩ : ∃ result,
    Pulse.step { place := .writing } t.hub now = some result := ⟨_, rfl⟩
  have hrun : start.run (before ++ [.beat now])
      = some { t with hub, heart := some (.sleeping, pulse) } := by
    rw [run_append, hbefore, Option.bind_some, run, step_beat hheart hpulse]
    rfl
  have hholds := ((sound_ofLog (.ofCapacity 2) _).run hbefore).reachable.holds
  have hrecords : hub.log.window.toList = [[99, newline], mark] := by
    cases Pulse.change_of_step rfl hpulse with
    | wake hplace | look hplace => cases hplace
    | write _ _ disk hhub =>
      have happend := (hholds.append mark).toList_eq
      rw [hlist, hcapacity] at happend
      rw [hhub]
      exact happend
  obtain ⟨-, hlines, -, hcount⟩ := run_keeps_lines hrun hwriters
  exact ⟨_, hrun, hwriters, hrecords, hlines.trans hrecords, hcount⟩

end Server

end BoundedLog
