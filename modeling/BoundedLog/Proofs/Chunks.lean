import BoundedLog.Proofs.Lines
import BoundedLog.Proofs.Writers

/-!
# Records and the chunks they came in

A writer passes a stream of bytes in chunks, and a draft becomes a record at the end of a chunk, if
it then ends with a newline. So what a chunk boundary can do is to join lines: the stream is cut
into records exactly behind the chunks at whose end it has a newline, and each record is one line or
several. If no chunk has a newline but at its end, the records are the lines of the stream, wherever
else it is cut.
-/

namespace BoundedLog

/-- Behind `front`, one of the pieces that a byte string was cut into ends. -/
def Bytes.IsCut (pieces : List Bytes) (front : Bytes) : Prop :=
  ∃ first, first <+: pieces ∧ first ≠ [] ∧ first.flatten = front

theorem Bytes.not_isCut_nil (front : Bytes) :
  ¬ IsCut [] front
  := by
  rintro ⟨first, hfirst, hne, -⟩
  apply hne (List.prefix_nil.mp hfirst)

/-- The first piece ends behind itself, and the others end as if there were no first one. -/
theorem Bytes.isCut_cons_iff {piece front : Bytes} {pieces : List Bytes} :
  IsCut (piece :: pieces) front ↔ front = piece ∨ ∃ rest, front = piece ++ rest ∧ IsCut pieces rest
  := by
  constructor
  · rintro ⟨first, hfirst, hne, rfl⟩
    obtain ⟨piece', others, rfl⟩ := List.exists_cons_of_ne_nil hne
    obtain ⟨rfl, hothers⟩ := List.cons_prefix_cons.mp hfirst
    rw [List.flatten_cons]
    cases others with
    | nil =>
      left
      apply List.append_nil
    | cons second others =>
      right
      use (second :: others).flatten
      exact ⟨rfl, second :: others, hothers, List.cons_ne_nil _ _, rfl⟩
  · rintro (rfl | ⟨rest, rfl, others, hothers, -, rfl⟩)
    · use [front]
      refine ⟨?_, List.cons_ne_nil _ _, List.flatten_singleton⟩
      apply List.cons_prefix_cons.mpr
      exact ⟨rfl, List.nil_prefix⟩
    · use piece :: others
      refine ⟨?_, List.cons_ne_nil _ _, List.flatten_cons⟩
      apply List.cons_prefix_cons.mpr
      exact ⟨rfl, hothers⟩

namespace Draft

variable {draft : Draft}

theorem endsLine_fresh :
  Bytes.endsLine (bytes {}) = false
  := rfl

theorem newline_not_mem_fresh :
  newline ∉ bytes {}
  := List.not_mem_nil

/-- A draft that does not end with a newline takes a chunk, which completes a record exactly if both
together end with one. -/
theorem add_cases (h : draft.bytes.endsLine = false) (chunk : Bytes) :
  (Bytes.endsLine (draft.bytes ++ chunk) = true
      ∧ draft.add chunk = (some (draft.bytes ++ chunk), {}))
    ∨ (Bytes.endsLine (draft.bytes ++ chunk) = false
      ∧ draft.add chunk = (none, ⟨draft.bytes ++ chunk⟩))
  := by
  rw [add]
  by_cases hempty : chunk.isEmpty = true
  · right
    rw [if_pos hempty, List.isEmpty_iff.mp hempty, List.append_nil]
    exact ⟨h, rfl⟩
  · rw [if_neg hempty]
    split
    · next hend =>
      left
      exact ⟨hend, rfl⟩
    · next hend =>
      right
      exact ⟨Bool.not_eq_true _ ▸ hend, rfl⟩

/-- All records end with a newline, and what is left does not. -/
theorem endsLine_addAll (h : draft.bytes.endsLine = false) (chunks : List Bytes) :
  (∀ record ∈ (draft.addAll chunks).1, record.endsLine = true)
    ∧ (draft.addAll chunks).2.bytes.endsLine = false
  := by
  induction chunks generalizing draft with
  | nil => exact ⟨List.forall_mem_nil _, h⟩
  | cons chunk chunks ih =>
    rcases add_cases h chunk with ⟨hend, hadd⟩ | ⟨hend, hadd⟩
    · rw [addAll, hadd, Option.toList_some, List.singleton_append, List.forall_mem_cons]
      obtain ⟨hrecords, hlast⟩ := ih endsLine_fresh
      exact ⟨⟨hend, hrecords⟩, hlast⟩
    · rw [addAll, hadd, Option.toList_none, List.nil_append]
      apply ih hend

/-- A record ends where a chunk ends and the bytes so far end with a newline, and nowhere else. -/
theorem isCut_addAll_iff (h : draft.bytes.endsLine = false) (chunks : List Bytes) (front : Bytes) :
  Bytes.IsCut (draft.addAll chunks).1 front
    ↔ front.endsLine = true ∧ ∃ behind, front = draft.bytes ++ behind ∧ Bytes.IsCut chunks behind
  := by
  induction chunks generalizing draft front with
  | nil =>
    constructor
    · intro hcut
      exact absurd hcut (Bytes.not_isCut_nil front)
    · rintro ⟨-, behind, -, hcut⟩
      exact absurd hcut (Bytes.not_isCut_nil behind)
  | cons chunk chunks ih =>
    rcases add_cases h chunk with ⟨hend, hadd⟩ | ⟨hend, hadd⟩
    · -- The chunk completes a record, and the other chunks are added to an empty draft.
      rw [addAll, hadd, Option.toList_some, List.singleton_append, Bytes.isCut_cons_iff]
      simp only [ih endsLine_fresh, Bytes.isCut_cons_iff]
      constructor
      · rintro (rfl | ⟨rest, rfl, hrest, _, rfl, hcut⟩)
        · exact ⟨hend, chunk, rfl, .inl rfl⟩
        · refine ⟨?_, chunk ++ rest, List.append_assoc _ _ _, .inr ⟨rest, rfl, hcut⟩⟩
          rw [Bytes.endsLine_append, hrest, hend, ite_self]
      · rintro ⟨hfront, behind, rfl, rfl | ⟨rest, rfl, hcut⟩⟩
        · left
          rfl
        · rw [← List.append_assoc] at hfront ⊢
          by_cases hrest : rest = []
          · left
            rw [hrest, List.append_nil]
          · right
            rw [Bytes.endsLine_append, if_neg hrest] at hfront
            exact ⟨rest, rfl, hfront, rest, rfl, hcut⟩
    · -- The chunk only makes the draft longer, and no record ends behind it.
      rw [addAll, hadd, Option.toList_none, List.nil_append, ih hend]
      simp only [Bytes.isCut_cons_iff]
      constructor
      · rintro ⟨hfront, behind, rfl, hcut⟩
        exact ⟨hfront, chunk ++ behind, List.append_assoc _ _ _, .inr ⟨behind, rfl, hcut⟩⟩
      · rintro ⟨hfront, behind, rfl, rfl | ⟨rest, rfl, hcut⟩⟩
        · rw [hend] at hfront
          cases hfront
        · exact ⟨hfront, rest, (List.append_assoc _ _ _).symm, hcut⟩

/-- A chunk that has no newline but at its end, behind bytes without one, makes a line or leaves
bytes without one. -/
theorem isLine_or_not_mem {pending chunk : Bytes} (hpending : newline ∉ pending)
    (hchunk : newline ∉ chunk.dropLast) :
  if Bytes.endsLine (pending ++ chunk) then Bytes.IsLine (pending ++ chunk)
    else newline ∉ pending ++ chunk
  := by
  cases chunk using List.reverseRecOn with
  | nil =>
    rw [List.append_nil, Bytes.endsLine_of_not_mem hpending]
    apply hpending
  | append_singleton front last =>
    rw [List.dropLast_concat] at hchunk
    have hfront : newline ∉ pending ++ front := by
      rw [List.mem_append, not_or]
      exact ⟨hpending, hchunk⟩
    rw [← List.append_assoc, Bytes.endsLine, List.getLast?_concat]
    split
    · next hlast =>
      obtain rfl : last = newline := by simpa using hlast
      use pending ++ front
    · next hlast =>
      rw [List.mem_append, List.mem_singleton, not_or]
      exact ⟨hfront, fun h => hlast (by simp [h])⟩

/-- Chunks that have no newline but at their end complete one line after the other. -/
theorem isLine_addAll (h : newline ∉ draft.bytes) {chunks : List Bytes}
    (hchunks : ∀ chunk ∈ chunks, newline ∉ chunk.dropLast) :
  (∀ record ∈ (draft.addAll chunks).1, record.IsLine)
    ∧ newline ∉ (draft.addAll chunks).2.bytes
  := by
  induction chunks generalizing draft with
  | nil => exact ⟨List.forall_mem_nil _, h⟩
  | cons chunk chunks ih =>
    rw [List.forall_mem_cons] at hchunks
    have hline := isLine_or_not_mem h hchunks.1
    rcases add_cases (Bytes.endsLine_of_not_mem h) chunk with ⟨hend, hadd⟩ | ⟨hend, hadd⟩
    · rw [hend, if_pos rfl] at hline
      rw [addAll, hadd, Option.toList_some, List.singleton_append, List.forall_mem_cons]
      obtain ⟨hrecords, hlast⟩ := ih newline_not_mem_fresh hchunks.2
      exact ⟨⟨hline, hrecords⟩, hlast⟩
    · rw [hend, if_neg Bool.false_ne_true] at hline
      rw [addAll, hadd, Option.toList_none, List.nil_append]
      apply ih hline hchunks.2

/-! ### A fresh draft -/

/-- The records of a fresh draft are groups of lines of the stream, and all that is behind the last
group is left in the draft. -/
theorem exists_groups (chunks : List Bytes) :
  ∃ (groups : List (List Bytes)) (rest : List Bytes),
    Bytes.lines chunks.flatten = groups.flatten ++ rest ∧ [] ∉ groups
    ∧ (addAll {} chunks).1 = groups.map List.flatten
    ∧ (addAll {} chunks).2.bytes = rest.flatten ++ Bytes.unterminated chunks.flatten
  := by
  obtain ⟨hrecords, -⟩ := endsLine_addAll endsLine_fresh chunks
  have hwhole := flatten_addAll {} chunks
  rw [List.nil_append] at hwhole
  obtain ⟨hlines, hlast⟩ := Bytes.splitLines_flatten_append hrecords (addAll {} chunks).2.bytes
  use (addAll {} chunks).1.map Bytes.lines, (addAll {} chunks).2.bytes.lines
  rw [← hwhole]
  refine ⟨hlines, ?_, ?_, ?_⟩
  · rw [List.mem_map]
    rintro ⟨record, hmem, hnil⟩
    have hrecord := Bytes.flatten_lines_append_unterminated record
    rw [hnil, Bytes.unterminated_of_endsLine (hrecords record hmem)] at hrecord
    subst hrecord
    cases hrecords [] hmem
  · rw [List.map_map, List.map_congr_left, List.map_id]
    intro record hmem
    have hrecord := Bytes.flatten_lines_append_unterminated record
    rw [Bytes.unterminated_of_endsLine (hrecords record hmem), List.append_nil] at hrecord
    apply hrecord
  · rw [hlast, Bytes.flatten_lines_append_unterminated]

/-- If no chunk has a newline but at its end, the records of a fresh draft are the lines of the
stream. -/
theorem addAll_eq_lines {chunks : List Bytes} (h : ∀ chunk ∈ chunks, newline ∉ chunk.dropLast) :
  (addAll {} chunks).1 = Bytes.lines chunks.flatten
    ∧ (addAll {} chunks).2.bytes = Bytes.unterminated chunks.flatten
  := by
  obtain ⟨hrecords, hlast⟩ := isLine_addAll newline_not_mem_fresh h
  have hwhole := flatten_addAll {} chunks
  rw [List.nil_append] at hwhole
  obtain ⟨hlines, hrest⟩ := Bytes.splitLines_flatten_append
    (fun record hmem => (hrecords record hmem).endsLine) (addAll {} chunks).2.bytes
  obtain ⟨hnone, hpending⟩ :=
    Bytes.splitLines_of_cutLine?_eq_none (Bytes.cutLine?_eq_none_iff.mpr hlast)
  rw [← hwhole, hlines, hrest, hnone, hpending, Bytes.flatten_map_lines hrecords, List.append_nil]
  exact ⟨rfl, rfl⟩

end Draft

namespace Desk

variable {Writer : Type} [DecidableEq Writer]

/-- A writer passes a stream in chunks, among the calls of others. Its records are groups of lines
of the stream, in order; they end exactly behind the chunks at whose end the stream has a newline,
and all bytes behind the last of them are left in the draft. If no chunk has a newline but at its
end, the records are the lines of the stream. The log appends them, with those of the other writers.
-/
theorem run_cuts_streams {log : SharedLog} (h : log.Reachable) (calls : List (Call Writer))
    (d : Disk) (i : Writer) :
  let start : Desk Writer := { log }
  let after := ((start.run calls).run d).1
  let chunks := (calls.filter (·.writer = i)).map (·.bytes)
  let stream : Bytes := chunks.flatten
  let records := Receipt.records (after.1.filter (·.writer = i))
  let pending := (after.2.drafts i).bytes
  after.2.log.window.toList
      = (log.window.toList ++ Receipt.records after.1).rtake log.window.capacity
    ∧ ((∀ chunk ∈ chunks, newline ∉ chunk.dropLast) →
        records = stream.lines ∧ pending = stream.unterminated)
    ∧ (∃ (groups : List (List Bytes)) (rest : List Bytes),
        stream.lines = groups.flatten ++ rest ∧ [] ∉ groups
          ∧ records = groups.map List.flatten
          ∧ pending = rest.flatten ++ stream.unterminated)
    ∧ ∀ front, Bytes.IsCut records front ↔ front.endsLine = true ∧ Bytes.IsCut chunks front
  := by
  intro start after chunks stream records pending
  obtain ⟨hreceipts, hdrafts, -, -, hholds⟩ := run_holds calls (w := start) h.holds_rtake d
  obtain ⟨hrecords, hpending⟩ := records_tally i calls start.drafts
  rw [← hreceipts] at hrecords
  rw [← hdrafts] at hpending
  have hrecords : records = (Draft.addAll {} chunks).1 := hrecords
  have hpending : pending = (Draft.addAll {} chunks).2.bytes := congrArg Draft.bytes hpending
  rw [hrecords, hpending]
  refine ⟨?_, Draft.addAll_eq_lines, Draft.exists_groups chunks, ?_⟩
  · rw [hholds.toList_eq, hreceipts]
  · intro front
    simp [Draft.isCut_addAll_iff Draft.endsLine_fresh]

/-- A chunk that has a newline in its midst makes a record of two lines, which ends behind the third
of the writer's chunks; what follows is left in the draft. The other writer's chunk is a line. -/
theorem run_cuts_joined_lines :
  let log : SharedLog :=
    ((SharedLog.accept (.ofCapacity 2) {} [120, newline]).run { tree := .empty }).1.2.1
  let calls : List (Call Bool) :=
    [⟨true, [97, newline, 98]⟩, ⟨true, []⟩, ⟨false, [121, newline]⟩, ⟨true, [newline]⟩,
      ⟨true, [99]⟩]
  let after := ((({ log } : Desk Bool).run calls).run { tree := .empty }).1
  let records := Receipt.records (after.1.filter (·.writer = true))
  log.Reachable
    ∧ records = [[97, newline, 98, newline]]
    ∧ Bytes.IsCut [[97, newline, 98], [], [newline], [99]] [97, newline, 98, newline]
    ∧ Receipt.records (after.1.filter (·.writer = false)) = Bytes.lines [121, newline]
    ∧ after.2.log.window.toList = [[121, newline], [97, newline, 98, newline]]
  := by
  intro log calls after records
  have hlog : log.Reachable := .accept (.ofCapacity 2 none) _ _ _
  have hrecords : records = [[97, newline, 98, newline]] := by
    decide
  have hcut : Bytes.IsCut records [97, newline, 98, newline] := by
    use records
    exact ⟨List.prefix_rfl, by decide, by decide⟩
  obtain ⟨hlist, -, -, hcuts⟩ := run_cuts_streams hlog calls { tree := .empty } true
  obtain ⟨-, hlines, -⟩ := run_cuts_streams hlog calls { tree := .empty } false
  refine ⟨hlog, hrecords, ((hcuts _).mp hcut).2, (hlines (by decide)).1, ?_⟩
  rw [hlist]
  decide

end Desk

end BoundedLog
