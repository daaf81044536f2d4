import BoundedLog.Bytes
import Mathlib.Data.List.TakeDrop

/-!
# Cutting bytes into lines

A line is a byte string with one newline, at its end. A byte string is either without a newline or
a line with the rest of the bytes behind it, and `cutLine?` tells which; `lines` and
`unterminated` cut the rest in the same way. Lines that stand one behind the other are cut apart
again.
-/

namespace BoundedLog.Bytes

/-- The byte string has one newline, at its end. -/
def IsLine (bytes : Bytes) : Prop := ∃ front, newline ∉ front ∧ bytes = front ++ [newline]

/-- The first separator cuts a byte string in two. -/
theorem span_ne_eq_cons_iff {separator b : UInt8} {bytes front behind : Bytes} :
  bytes.span (· != separator) = (front, b :: behind)
    ↔ separator ∉ front ∧ b = separator ∧ bytes = front ++ separator :: behind
  := by
  rw [List.span_eq_takeWhile_dropWhile, Prod.mk.injEq]
  constructor
  · rintro ⟨rfl, hbehind⟩
    have hhead := List.head?_dropWhile_not (· != separator) bytes
    rw [hbehind] at hhead
    obtain rfl : b = separator := by simpa using hhead
    refine ⟨?_, rfl, ?_⟩
    · intro hmem
      simpa using List.all_eq_true.mp List.all_takeWhile _ hmem
    · rw [← hbehind, List.takeWhile_append_dropWhile]
  · rintro ⟨hfront, rfl, rfl⟩
    have hne : ∀ x ∈ front, (x != b) = true := by
      intro x hx
      rw [bne_iff_ne]
      rintro rfl
      apply hfront hx
    rw [List.takeWhile_append_of_pos hne, List.dropWhile_append_of_pos hne]
    simp

/-- What is cut off is a line, and the rest is what is behind it. -/
theorem cutLine?_eq_some_iff {bytes line rest : Bytes} :
  cutLine? bytes = some (line, rest)
    ↔ ∃ front, newline ∉ front ∧ line = front ++ [newline] ∧ bytes = line ++ rest
  := by
  rw [cutLine?]
  constructor
  · intro h
    split at h
    · cases h
    · next front ending others hspan =>
      obtain ⟨hfront, rfl, rfl⟩ := span_ne_eq_cons_iff.mp hspan
      cases h
      exact ⟨front, hfront, rfl, (List.append_cons _ _ _)⟩
  · rintro ⟨front, hfront, rfl, rfl⟩
    rw [span_ne_eq_cons_iff.mpr ⟨hfront, rfl, (List.append_cons _ _ _).symm⟩]

/-- There is nothing to cut exactly if there is no newline. -/
theorem cutLine?_eq_none_iff {bytes : Bytes} :
  cutLine? bytes = none ↔ newline ∉ bytes
  := by
  constructor
  · intro h hmem
    obtain ⟨front, rest, hbytes, hfront⟩ := List.eq_append_cons_of_mem hmem
    rw [List.append_cons] at hbytes
    rw [cutLine?_eq_some_iff.mpr ⟨front, hfront, rfl, hbytes⟩] at h
    cases h
  · intro h
    rw [Option.eq_none_iff_forall_not_mem]
    rintro ⟨line, rest⟩ hcut
    obtain ⟨front, -, rfl, rfl⟩ := cutLine?_eq_some_iff.mp hcut
    apply h
    simp

theorem cutLine?_append_of_some {bytes line rest : Bytes} (h : cutLine? bytes = some (line, rest))
    (others : Bytes) :
  cutLine? (bytes ++ others) = some (line, rest ++ others)
  := by
  obtain ⟨front, hfront, hline, rfl⟩ := cutLine?_eq_some_iff.mp h
  apply cutLine?_eq_some_iff.mpr
  use front, hfront, hline
  apply List.append_assoc

theorem cutLine?_append_of_none {bytes : Bytes} (h : cutLine? bytes = none) (others : Bytes) :
  cutLine? (bytes ++ others) = (cutLine? others).map fun cut => (bytes ++ cut.1, cut.2)
  := by
  rw [cutLine?_eq_none_iff] at h
  cases hcut : cutLine? others with
  | none =>
    rw [cutLine?_eq_none_iff] at hcut
    rw [Option.map_none, cutLine?_eq_none_iff, List.mem_append, not_or]
    exact ⟨h, hcut⟩
  | some cut =>
    obtain ⟨front, hfront, hline, rfl⟩ := cutLine?_eq_some_iff.mp hcut
    rw [Option.map_some, cutLine?_eq_some_iff]
    use bytes ++ front
    rw [hline, List.mem_append, not_or]
    exact ⟨⟨h, hfront⟩, (List.append_assoc _ _ _).symm, (List.append_assoc _ _ _).symm⟩

/-- A line ends with a newline. -/
theorem endsLine_of_cutLine? {bytes line rest : Bytes} (h : cutLine? bytes = some (line, rest)) :
  line.endsLine = true
  := by
  obtain ⟨front, -, rfl, -⟩ := cutLine?_eq_some_iff.mp h
  simp [endsLine]

/-- Bytes without a newline do not end with one. -/
theorem endsLine_of_not_mem {bytes : Bytes} (h : newline ∉ bytes) :
  bytes.endsLine = false
  := by
  rw [endsLine, beq_eq_false_iff_ne]
  intro hlast
  apply h
  apply List.mem_of_getLast? hlast

theorem splitLines_of_not_mem {bytes : Bytes} (h : newline ∉ bytes) :
  splitLines bytes = ([], bytes)
  := by
  induction bytes with
  | nil => rfl
  | cons b rest ih =>
    rw [List.mem_cons, not_or] at h
    rw [splitLines, ih h.2, beq_eq_false_iff_ne.mpr (Ne.symm h.1)]

theorem splitLines_append {front : Bytes} (hfront : newline ∉ front) (rest : Bytes) :
  splitLines (front ++ newline :: rest)
    = ((front ++ [newline]) :: (splitLines rest).1, (splitLines rest).2)
  := by
  induction front with
  | nil =>
    rw [List.nil_append, splitLines, beq_self_eq_true]
    rfl
  | cons b front ih =>
    rw [List.mem_cons, not_or] at hfront
    rw [List.cons_append, splitLines, ih hfront.2, beq_eq_false_iff_ne.mpr (Ne.symm hfront.1)]
    rfl

/-- Bytes from which no line can be cut are all behind the last newline. -/
theorem splitLines_of_cutLine?_eq_none {bytes : Bytes} (h : cutLine? bytes = none) :
  bytes.lines = [] ∧ bytes.unterminated = bytes
  := by
  rw [lines, unterminated, splitLines_of_not_mem (cutLine?_eq_none_iff.mp h)]
  exact ⟨rfl, rfl⟩

/-- The line that can be cut off is the first of the lines. -/
theorem splitLines_of_cutLine?_eq_some {bytes line rest : Bytes}
    (h : cutLine? bytes = some (line, rest)) :
  bytes.lines = line :: rest.lines ∧ bytes.unterminated = rest.unterminated
  := by
  obtain ⟨front, hfront, rfl, rfl⟩ := cutLine?_eq_some_iff.mp h
  rw [lines, unterminated, List.append_assoc, List.singleton_append, splitLines_append hfront]
  exact ⟨rfl, rfl⟩

/-- The first of the lines can be cut off. -/
theorem cutLine?_of_lines_eq_cons {bytes line : Bytes} {lines : List Bytes}
    (h : bytes.lines = line :: lines) :
  ∃ rest, cutLine? bytes = some (line, rest)
  := by
  cases hcut : cutLine? bytes with
  | none =>
    rw [(splitLines_of_cutLine?_eq_none hcut).1] at h
    cases h
  | some cut =>
    obtain ⟨line', rest⟩ := cut
    rw [(splitLines_of_cutLine?_eq_some hcut).1] at h
    cases h
    exact ⟨rest, rfl⟩

/-- Where there are no lines, there is nothing to cut. -/
theorem cutLine?_of_lines_eq_nil {bytes : Bytes} (h : bytes.lines = []) :
  cutLine? bytes = none
  := by
  cases hcut : cutLine? bytes with
  | none => rfl
  | some cut =>
    rw [(splitLines_of_cutLine?_eq_some hcut).1] at h
    cases h

/-- The lines of the front are the first ones, and what is behind the last of them is in front of
the rest. -/
theorem lines_append (front rest : Bytes) :
  (front ++ rest).lines = front.lines ++ (front.unterminated ++ rest).lines
  := by
  generalize hlines : front.lines = lines
  induction lines generalizing front with
  | nil =>
    have hcut := cutLine?_of_lines_eq_nil hlines
    rw [(splitLines_of_cutLine?_eq_none hcut).2, List.nil_append]
  | cons line lines ih =>
    obtain ⟨behind, hcut⟩ := cutLine?_of_lines_eq_cons hlines
    obtain ⟨hfront, hlast⟩ := splitLines_of_cutLine?_eq_some hcut
    obtain ⟨-, hbehind⟩ := List.cons.inj (hfront.symm.trans hlines)
    rw [(splitLines_of_cutLine?_eq_some (cutLine?_append_of_some hcut rest)).1, hlast,
      ih behind hbehind, List.cons_append]

/-- Every line ends with a newline and has no other. -/
theorem exists_of_mem_lines {bytes line : Bytes} (h : line ∈ bytes.lines) :
  ∃ front, newline ∉ front ∧ line = front ++ [newline]
  := by
  rw [lines] at h
  induction bytes generalizing line with
  | nil => cases h
  | cons b rest ih =>
    rw [splitLines] at h
    split at h
    · next hb hsplit =>
      rw [hsplit] at ih
      rcases List.mem_cons.mp h with rfl | hmem
      · exact ⟨[], List.not_mem_nil, congrArg (· :: []) (beq_iff_eq.mp hb)⟩
      · apply ih hmem
    · cases h
    · next hb hsplit =>
      rw [hsplit] at ih
      rcases List.mem_cons.mp h with rfl | hmem
      · obtain ⟨front, hfront, rfl⟩ := ih List.mem_cons_self
        use b :: front
        rw [List.mem_cons, not_or]
        exact ⟨⟨Ne.symm (beq_eq_false_iff_ne.mp hb), hfront⟩, rfl⟩
      · apply ih (List.mem_cons_of_mem _ hmem)

theorem IsLine.ne_nil {line : Bytes} (h : line.IsLine) :
  line ≠ []
  := by
  obtain ⟨front, -, rfl⟩ := h
  apply List.concat_ne_nil

theorem ne_nil_of_mem_lines {bytes line : Bytes} (h : line ∈ bytes.lines) :
  line ≠ []
  := IsLine.ne_nil (exists_of_mem_lines h)

theorem IsLine.endsLine {line : Bytes} (h : line.IsLine) :
  line.endsLine = true
  := by
  obtain ⟨front, -, rfl⟩ := h
  rw [Bytes.endsLine, List.getLast?_concat, beq_self_eq_true]

theorem IsLine.newline_not_mem_dropLast {line : Bytes} (h : line.IsLine) :
  newline ∉ line.dropLast
  := by
  obtain ⟨front, hfront, rfl⟩ := h
  rw [List.dropLast_concat]
  exact hfront

theorem IsLine.count_newline {line : Bytes} (h : line.IsLine) :
  line.count newline = 1
  := by
  obtain ⟨front, hfront, rfl⟩ := h
  rw [List.count_append, List.count_eq_zero.mpr hfront, List.count_singleton_self]

/-- A line in front of other bytes is the first of the lines. -/
theorem IsLine.splitLines_append {line : Bytes} (h : line.IsLine) (rest : Bytes) :
  (line ++ rest).lines = line :: rest.lines ∧ (line ++ rest).unterminated = rest.unterminated
  := by
  obtain ⟨front, hfront, hline⟩ := h
  apply splitLines_of_cutLine?_eq_some
  apply cutLine?_eq_some_iff.mpr
  use front, hfront, hline

/-- Behind the last newline there is none. -/
theorem newline_not_mem_unterminated (bytes : Bytes) :
  newline ∉ bytes.unterminated
  := by
  rw [unterminated]
  induction bytes with
  | nil => apply List.not_mem_nil
  | cons b rest ih =>
    rw [splitLines]
    split
    · next h =>
      rw [h] at ih
      exact ih
    · next hb h =>
      rw [h] at ih
      rw [List.mem_cons, not_or]
      exact ⟨Ne.symm (beq_eq_false_iff_ne.mp hb), ih⟩
    · next h =>
      rw [h] at ih
      exact ih

theorem endsLine_append (front behind : Bytes) :
  (front ++ behind).endsLine = if behind = [] then front.endsLine else behind.endsLine
  := by
  split
  · next h => rw [h, List.append_nil]
  · next h =>
    rw [endsLine, endsLine, List.getLast?_append, List.getLast?_eq_some_getLast h]
    rfl

/-- Bytes that end with a newline are lines. -/
theorem unterminated_of_endsLine {bytes : Bytes} (h : bytes.endsLine = true) :
  bytes.unterminated = []
  := by
  by_contra hne
  apply newline_not_mem_unterminated bytes
  have hlast := endsLine_append bytes.lines.flatten bytes.unterminated
  rw [flatten_lines_append_unterminated, h, if_neg hne] at hlast
  apply List.mem_of_getLast? (beq_iff_eq.mp hlast.symm)

/-- Behind bytes that end with a newline, the lines begin anew. -/
theorem splitLines_append_of_endsLine {front : Bytes} (h : front.endsLine = true) (rest : Bytes) :
  (front ++ rest).lines = front.lines ++ rest.lines
    ∧ (front ++ rest).unterminated = rest.unterminated
  := by
  have hfront := flatten_lines_append_unterminated front
  have hlines := lines_append front rest
  rw [unterminated_of_endsLine h, List.append_nil] at hfront
  rw [unterminated_of_endsLine h, List.nil_append] at hlines
  refine ⟨hlines, ?_⟩
  have hwhole := flatten_lines_append_unterminated (front ++ rest)
  rw [hlines, List.flatten_append, hfront, List.append_assoc, List.append_right_inj] at hwhole
  rw [← List.append_right_inj rest.lines.flatten, hwhole, flatten_lines_append_unterminated]

/-- Pieces that end with a newline are cut into lines one by one. -/
theorem splitLines_flatten_append {pieces : List Bytes}
    (h : ∀ piece ∈ pieces, piece.endsLine = true) (rest : Bytes) :
  lines (pieces.flatten ++ rest) = (pieces.map lines).flatten ++ rest.lines
    ∧ unterminated (pieces.flatten ++ rest) = rest.unterminated
  := by
  induction pieces with
  | nil => exact ⟨rfl, rfl⟩
  | cons piece pieces ih =>
    rw [List.forall_mem_cons] at h
    obtain ⟨hlines, hlast⟩ := ih h.2
    obtain ⟨hfirst, hrest⟩ := splitLines_append_of_endsLine h.1 (pieces.flatten ++ rest)
    rw [List.flatten_cons, List.append_assoc, hfirst, hrest, hlines, hlast, List.map_cons,
      List.flatten_cons, List.append_assoc]
    exact ⟨rfl, rfl⟩

theorem flatten_map_lines {all : List Bytes} (h : ∀ line ∈ all, line.IsLine) :
  (all.map lines).flatten = all
  := by
  induction all with
  | nil => rfl
  | cons line others ih =>
    rw [List.forall_mem_cons] at h
    have hline := (h.1.splitLines_append []).1
    rw [List.append_nil] at hline
    rw [List.map_cons, List.flatten_cons, hline, ih h.2]
    rfl

/-- Lines that stand one behind the other are cut apart again, and nothing is behind them. -/
theorem splitLines_flatten {all : List Bytes} (h : ∀ line ∈ all, line.IsLine) :
  lines all.flatten = all ∧ unterminated all.flatten = []
  := by
  obtain ⟨hlines, hlast⟩ := splitLines_flatten_append (fun line hline => (h line hline).endsLine) []
  rw [List.append_nil] at hlines hlast
  rw [hlines, hlast, flatten_map_lines h]
  exact ⟨List.append_nil all, rfl⟩

/-- Each line has a newline of its own. -/
theorem count_newline_flatten {all : List Bytes} (h : ∀ line ∈ all, line.IsLine) :
  all.flatten.count newline = all.length
  := by
  induction all with
  | nil => rfl
  | cons line others ih =>
    rw [List.forall_mem_cons] at h
    rw [List.flatten_cons, List.count_append, h.1.count_newline, ih h.2, List.length_cons,
      Nat.add_comm]

/-- Every line takes a byte. -/
theorem length_lines_le (bytes : Bytes) :
  bytes.lines.length ≤ bytes.length
  := by
  rw [lines]
  induction bytes with
  | nil => apply Nat.le_refl 0
  | cons b rest ih =>
    rw [splitLines]
    split
    · next h =>
      rw [h] at ih
      apply Nat.succ_le_succ ih
    · next h => apply Nat.zero_le _
    · next h =>
      rw [h] at ih
      apply Nat.le_succ_of_le ih

end BoundedLog.Bytes
