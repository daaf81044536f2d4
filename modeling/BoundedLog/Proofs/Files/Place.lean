import BoundedLog.Files.Tree
import BoundedLog.Proofs.Files.Path

/-!
# The places of paths

A path leads from the root along its segments: a name leads one step down, `..` leads one step back,
and the other segments make no difference. The location at which this ends is the place of the path.
In a tree the path ends there and nowhere else, if it ends at all. The staging path of a file has
its place next to the place of the file.

The directories that are made for a path stand at the places of the paths in front of it. Only a
path that goes back somewhere can lead through its own place.
-/

namespace BoundedLog.Path

/-! ### Following segments -/

/-- Where a segment leads from a location. -/
def follow (here : Location) (segment : String) : Location :=
  if segment == "" || segment == "." then here
  else if segment == ".." then here.dropLast
  else here ++ [segment]

/-- The location to which a path leads. -/
def place (p : Path) : Location := p.segments.foldl follow []

theorem follow_name {name : String} (hempty : name ≠ "") (hdot : name ≠ ".") (hparent : name ≠ "..")
    (here : Location) :
  follow here name = here ++ [name]
  := by
  simp [follow, hempty, hdot, hparent]

theorem follow_staging (name : String) (here : Location) :
  follow here (name ++ ".tmp") = here ++ [name ++ ".tmp"]
  := by
  have hlength : (name ++ ".tmp").length = name.length + 4 := by
    rw [String.length_append]
    rfl
  have hne : ∀ short : String, short.length < 4 → name ++ ".tmp" ≠ short := by
    rintro short hshort rfl
    omega
  apply follow_name
  · apply hne _ (by decide)
  · apply hne _ (by decide)
  · apply hne _ (by decide)

/-- Empty segments make no difference. -/
theorem foldl_follow_filter (segments : List String) (here : Location) :
  (segments.filter (· != "")).foldl follow here = segments.foldl follow here
  := by
  induction segments generalizing here with
  | nil => rfl
  | cons segment segments ih =>
    by_cases h : segment = ""
    · rw [List.filter_cons_of_neg (by simpa using h), ih, List.foldl_cons, h]
      rfl
    · rw [List.filter_cons_of_pos (by simpa using h), List.foldl_cons, List.foldl_cons, ih]

/-- The segments behind the last telling one make no difference. -/
theorem foldl_follow_telling (segments : List String) (here : Location) :
  (telling segments).reverse.foldl follow here = segments.reverse.foldl follow here
  := by
  rw [List.foldl_reverse, List.foldl_reverse]
  induction segments using telling.induct with
  | case1 => rfl
  | case2 first => rfl
  | case3 last before hne hnothing ih =>
    rw [telling, if_pos hnothing, ih, List.foldr_cons, follow, if_pos hnothing]
    exact hne
  | case4 last before hne hnothing =>
    rw [telling, if_neg hnothing]
    exact hne

theorem place_eq_telling (p : Path) :
  p.place = p.tellingSegments.reverse.foldl follow []
  := by
  rw [tellingSegments, foldl_follow_telling, List.reverse_reverse]
  rfl

/-- A path that is put together from its segments leads along them. -/
theorem place_ofReversedSegments {segments : List String}
    (hslash : ∀ segment ∈ segments, '/' ∉ segment.toList) :
  (ofReversedSegments segments).place = segments.reverse.foldl follow []
    ∧ ∀ segment ∈ (ofReversedSegments segments).segments, segment = "" ∨ segment ∈ segments
  := by
  unfold ofReversedSegments
  split
  · exact ⟨rfl, by decide⟩
  · cases segments with
    | nil => exact ⟨rfl, by decide⟩
    | cons last before =>
      rw [place, segments_intercalate (by simp) fun segment h =>
        hslash segment (List.mem_reverse.mp h)]
      refine ⟨rfl, fun segment h => .inr ?_⟩
      apply List.mem_reverse.mp h

/-! ### Places -/

/-- The path one step down leads one step further. -/
theorem place_join (p : Path) {name : String} (h : '/' ∉ name.toList) :
  (p.join name).place = follow p.place name
  := by
  have hname := segments_of_not_mem h
  rw [join]
  split
  · next hwhole =>
    have hempty : p.text = "" := by
      rw [Bool.or_eq_true, String.isEmpty_iff, String.startsWith_string_iff] at hwhole
      rcases hwhole with hstart | hempty
      · exact absurd (hstart.subset List.mem_cons_self) h
      · apply hempty
    rw [place, hname, place, segments, hempty]
    rfl
  · split
    · next hslash =>
      obtain ⟨front, hfront⟩ := exists_eq_append_slash hslash
      have hplace : p.place = (segments ⟨front⟩).foldl follow [] := by
        have hend := segments_append_slash front ""
        rw [String.append_empty, ← hfront] at hend
        rw [place, hend, List.foldl_append]
        rfl
      rw [hplace, place, hfront, segments_append_slash, hname, List.foldl_append]
      rfl
    · rw [place, segments_append_slash, hname, List.foldl_append]
      rfl

/-- A path is a segment behind its parent. -/
theorem parent?_eq_some {p parent : Path} (h : p.parent? = some parent) :
  ∃ last ∈ p.segments, p.tellingSegments.head? = some last ∧ p.place = follow parent.place last
    ∧ ∀ segment ∈ parent.segments, segment = "" ∨ segment ∈ p.segments
  := by
  have hsuffix : p.tellingSegments <:+ p.segments.reverse := telling_suffix _
  have hmem : ∀ segment ∈ p.tellingSegments, segment ∈ p.segments := by
    intro segment hsegment
    apply List.mem_reverse.mp (hsuffix.subset hsegment)
  rw [place_eq_telling]
  rw [parent?] at h
  split at h
  · cases h
  · next first htelling =>
    split at h
    · cases h
    · cases h
      rw [htelling] at hmem ⊢
      use first, hmem first List.mem_cons_self, rfl, rfl
      have hnothing : segments ⟨""⟩ = [""] := by decide
      rw [hnothing]
      intro segment hsegment
      exact .inl (List.mem_singleton.mp hsegment)
  · next last before hne htelling =>
    cases h
    rw [htelling] at hmem ⊢
    have hbefore : ∀ segment ∈ telling before, segment ∈ p.segments := fun segment hsegment =>
      hmem segment (List.mem_cons_of_mem last ((telling_suffix before).subset hsegment))
    obtain ⟨hplace, hsegments⟩ := place_ofReversedSegments fun segment hsegment =>
      slash_not_mem_of_mem_segments (hbefore segment hsegment)
    use last, hmem last List.mem_cons_self, rfl
    constructor
    · rw [hplace, foldl_follow_telling, List.reverse_cons, List.foldl_append]
      rfl
    · intro segment hsegment
      apply (hsegments segment hsegment).imp_right (hbefore segment)

/-- The name of a path is a segment that leads one step down. -/
theorem name?_eq_some {p : Path} {name : String} (h : p.name? = some name) :
  p.tellingSegments.head? = some name ∧ ∀ here, follow here name = here ++ [name]
  := by
  rw [name?] at h
  split at h
  · cases h
  · next last before htelling =>
    split at h
    · cases h
    · next hname =>
      cases h
      simp only [Bool.or_eq_true, beq_iff_eq, not_or] at hname
      rw [htelling]
      exact ⟨rfl, follow_name hname.1.1 hname.1.2 hname.2⟩

theorem exists_parent {p : Path} {name : String} (h : p.name? = some name) :
  ∃ parent, p.parent? = some parent ∧ p.place = parent.place ++ [name] ∧ name ∈ p.segments
  := by
  obtain ⟨hhead, hfollow⟩ := name?_eq_some h
  cases hparent : p.parent? with
  | none =>
    rw [parent?] at hparent
    split at hparent
    · next htelling =>
      rw [htelling] at hhead
      cases hhead
    · next first htelling =>
      split at hparent
      · next hempty =>
        rw [htelling] at hhead
        cases hhead
        rw [beq_iff_eq.mp hempty] at hfollow
        cases hfollow []
      · cases hparent
    · cases hparent
  | some parent =>
    obtain ⟨last, hmem, hlast, hplace, -⟩ := parent?_eq_some hparent
    rw [hhead, Option.some.injEq] at hlast
    subst hlast
    use parent, rfl
    rw [hplace, hfollow]
    exact ⟨rfl, hmem⟩

/-- A path with a name has its place below the place of its parent, and its staging path has its
place there as well. -/
theorem place_staging {p : Path} {name : String} (h : p.name? = some name) :
  ∃ directory, p.place = directory ++ [name] ∧ p.staging.place = directory ++ [name ++ ".tmp"]
  := by
  obtain ⟨parent, hparent, hplace, hmem⟩ := exists_parent h
  have hslash : '/' ∉ (name ++ ".tmp").toList := by
    rw [String.toList_append, List.mem_append, not_or]
    exact ⟨slash_not_mem_of_mem_segments hmem, by decide⟩
  use parent.place, hplace
  rw [staging, withName, h, hparent, Option.getD_some]
  show (parent.join (name ++ ".tmp")).place = _
  rw [place_join parent hslash, follow_staging]

/-- The staging path has a place of its own. -/
theorem place_staging_ne (p : Path) :
  p.staging.place ≠ p.place
  := by
  cases h : p.name? with
  | none =>
    rw [staging, withName, h]
    show (p.join ".tmp").place ≠ _
    rw [place_join p (by decide)]
    intro heq
    have hlength := congrArg List.length heq
    rw [show follow p.place ".tmp" = p.place ++ [".tmp"] from rfl, List.length_append] at hlength
    simp at hlength
  | some name =>
    obtain ⟨directory, hplace, hstaging⟩ := place_staging h
    rw [hplace, hstaging]
    intro heq
    have hlength := congrArg String.length (List.append_singleton_inj.mp heq).2
    simp at hlength

/-! ### The paths in front -/

/-- The paths in front of a path: its parent, the parent's parent, and so on. -/
def parents (p : Path) : List Path := (p.parent?.map ancestors).getD []

/-- One of the paths in front leads to the location. -/
def LeadsThrough (p : Path) (l : Location) : Prop := ∃ q ∈ p.parents, q.place = l

/-- A path that goes back nowhere has its parent on the way to its place. -/
theorem isPrefix_place_parent {p parent : Path} (hback : ".." ∉ p.segments)
    (h : p.parent? = some parent) :
  parent.place <+: p.place ∧ ".." ∉ parent.segments
  := by
  obtain ⟨last, hmem, -, hplace, hsegments⟩ := parent?_eq_some h
  have hlast : ¬ (last == "..") = true := by
    rw [beq_iff_eq]
    rintro rfl
    exact hback hmem
  constructor
  · rw [hplace, follow]
    split
    · apply List.prefix_refl
    · apply List.prefix_append
  · intro hmem'
    apply hback
    apply (hsegments _ hmem').resolve_left (by decide)

theorem isPrefix_place_ancestor {depth : Nat} {p q : Path} (hback : ".." ∉ p.segments)
    (h : q ∈ ancestorsWithin depth p) :
  q.place <+: p.place
  := by
  induction depth generalizing p with
  | zero => cases h
  | succ depth ih =>
    rw [ancestorsWithin, List.mem_cons] at h
    rcases h with rfl | h
    · apply List.prefix_refl
    · cases hparent : p.parent? with
      | none =>
        rw [hparent] at h
        cases h
      | some parent =>
        rw [hparent] at h
        obtain ⟨hfront, hback'⟩ := isPrefix_place_parent hback hparent
        apply (ih hback' h).trans hfront

/-- Only a path that goes back somewhere leads through its own place or that of its staging path. -/
theorem not_leadsThrough {p : Path} {name : String} (hname : p.name? = some name)
    (hback : ".." ∉ p.segments) :
  ¬ p.LeadsThrough p.place ∧ ¬ p.LeadsThrough p.staging.place
  := by
  obtain ⟨parent, hparent, hplace, -⟩ := exists_parent hname
  obtain ⟨directory, hdirectory, hstaging⟩ := place_staging hname
  obtain ⟨rfl, -⟩ := List.append_singleton_inj.mp (hplace.symm.trans hdirectory)
  have hshort : ∀ q ∈ p.parents, q.place.length ≤ parent.place.length := by
    intro q hq
    rw [parents, hparent] at hq
    apply (isPrefix_place_ancestor (isPrefix_place_parent hback hparent).2 hq).length_le
  constructor
  · rintro ⟨q, hq, heq⟩
    have hlength := hshort q hq
    rw [heq, hplace, List.length_append, List.length_singleton] at hlength
    omega
  · rintro ⟨q, hq, heq⟩
    have hlength := hshort q hq
    rw [heq, hstaging, List.length_append, List.length_singleton] at hlength
    omega

end BoundedLog.Path
