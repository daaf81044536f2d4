import BoundedLog.Files.Path
import Mathlib.Data.List.Basic

/-!
# The segments of paths

A text is cut at its slashes into pieces without slashes, and pieces without slashes that are put
together with slashes between them are cut apart again. So paths can be taken apart and put together
by their segments.
-/

namespace BoundedLog.Path

/-! ### Pieces -/

theorem pieces_ne_nil (text : List Char) :
  pieces text ≠ []
  := by
  induction text using pieces.induct with
  | case1 => simp [pieces]
  | case2 rest ih => simp [pieces]
  | case3 c rest hc hrest ih => exact absurd hrest ih
  | case4 c rest hc piece others hrest ih => simp [pieces, hrest]

/-- A slash cuts a text in two. -/
theorem pieces_append_slash (front behind : List Char) :
  pieces (front ++ '/' :: behind) = pieces front ++ pieces behind
  := by
  induction front using pieces.induct with
  | case1 => simp [pieces]
  | case2 rest ih => simp [pieces, ih]
  | case3 c rest hc hrest ih => exact absurd hrest (pieces_ne_nil rest)
  | case4 c rest hc piece others hrest ih => simp [pieces, ih, hrest]

theorem pieces_of_not_mem {text : List Char} (h : '/' ∉ text) :
  pieces text = [text]
  := by
  induction text using pieces.induct with
  | case1 => rfl
  | case2 rest ih => simp at h
  | case3 c rest hc hrest ih => exact absurd hrest (pieces_ne_nil rest)
  | case4 c rest hc piece others hrest ih =>
    rw [ih (List.not_mem_of_not_mem_cons h), List.cons.injEq] at hrest
    obtain ⟨rfl, rfl⟩ := hrest
    simp [pieces, ih (List.not_mem_of_not_mem_cons h)]

theorem slash_not_mem_of_mem_pieces {text piece : List Char} (h : piece ∈ pieces text) :
  '/' ∉ piece
  := by
  induction text using pieces.induct generalizing piece with
  | case1 =>
    rw [pieces, List.mem_singleton] at h
    simp [h]
  | case2 rest ih =>
    rw [pieces, List.mem_cons] at h
    rcases h with rfl | h
    · simp
    · apply ih h
  | case3 c rest hc hrest ih => exact absurd hrest (pieces_ne_nil rest)
  | case4 c rest hc first others hrest ih =>
    rw [pieces, hrest, List.mem_cons] at h
    · rcases h with rfl | h
      · rw [List.mem_cons, not_or]
        exact ⟨fun heq => hc heq.symm, ih (hrest ▸ List.mem_cons_self)⟩
      · apply ih (hrest ▸ List.mem_cons_of_mem first h)
    · exact hc

/-! ### Segments -/

theorem exists_eq_append_slash {text : String} (h : text.endsWith "/" = true) :
  ∃ front, text = front ++ "/"
  := by
  rw [← String.endsWith_toSlice, String.Slice.endsWith_string_iff, String.copy_toSlice] at h
  obtain ⟨front, hfront⟩ := h
  use String.ofList front
  rw [← String.toList_inj, String.toList_append, String.toList_ofList, ← hfront]

theorem segments_of_not_mem {text : String} (h : '/' ∉ text.toList) :
  segments ⟨text⟩ = [text]
  := by
  rw [segments, pieces_of_not_mem h, List.map_singleton, String.ofList_toList]

theorem segments_append_slash (front behind : String) :
  segments ⟨front ++ "/" ++ behind⟩ = segments ⟨front⟩ ++ segments ⟨behind⟩
  := by
  have h : (front ++ "/" ++ behind).toList = front.toList ++ '/' :: behind.toList := by
    simp
  rw [segments, h, pieces_append_slash, List.map_append]
  rfl

theorem slash_not_mem_of_mem_segments {p : Path} {segment : String} (h : segment ∈ p.segments) :
  '/' ∉ segment.toList
  := by
  obtain ⟨piece, hpiece, rfl⟩ := List.mem_map.mp h
  rw [String.toList_ofList]
  apply slash_not_mem_of_mem_pieces hpiece

theorem telling_suffix (segments : List String) :
  telling segments <:+ segments
  := by
  induction segments using telling.induct with
  | case1 => apply List.suffix_refl
  | case2 first => apply List.suffix_refl
  | case3 last before hne hnothing ih =>
    rw [telling, if_pos hnothing]
    · apply ih.trans (List.suffix_cons last before)
    · exact hne
  | case4 last before hne hnothing =>
    use []
    rw [List.nil_append, telling, if_neg hnothing]
    exact hne

/-- Segments that are put together are the segments of the path. -/
theorem segments_intercalate {segments : List String} (hne : segments ≠ [])
    (hslash : ∀ segment ∈ segments, '/' ∉ segment.toList) :
  Path.segments ⟨"/".intercalate segments⟩ = segments
  := by
  induction segments with
  | nil => exact absurd rfl hne
  | cons first others ih =>
    have hfirst := segments_of_not_mem (hslash first List.mem_cons_self)
    cases others with
    | nil => rw [String.intercalate_singleton, hfirst]
    | cons second others =>
      rw [String.intercalate_cons_cons, segments_append_slash, hfirst,
        ih (by simp) fun segment h => hslash segment (List.mem_cons_of_mem first h)]
      rfl

/-! ### The last name -/

/-- What stands behind the last slash of a path that has something behind it. -/
def lastName? (p : Path) : Option String := (p.segments.filter (· != "")).getLast?

/-- The names that a path goes through before its last one. -/
def steps (p : Path) : List String := (p.segments.filter (· != "")).dropLast

end BoundedLog.Path
