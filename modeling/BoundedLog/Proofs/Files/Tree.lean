import BoundedLog.Proofs.Files.Place
import Mathlib.Order.Defs.Unbundled

/-!
# What operations on a tree change

Each operation that succeeds changes the tree at the place of a path, so all it can do is told by
one equation. The operations on files exchange or remove a file or put one where there was nothing,
and directories are only added. `Tree.Spares` is the relation between a tree and a later one that
this comes to: the later tree holds what the earlier one did, apart from new directories at some
locations and from some loose ones where no directory was. So a path that led to a directory or to
a file elsewhere still does.
-/

namespace BoundedLog

/-- A computation that succeeds has its first part succeed. -/
theorem exists_of_bind_eq_ok {ε α β : Type} {first : Except ε α} {rest : α → Except ε β} {b : β}
    (h : first >>= rest = .ok b) :
  ∃ a, first = .ok a ∧ rest a = .ok b
  := by
  cases first with
  | error e => cases h
  | ok a => exact ⟨a, rfl, h⟩

/-- The location of an ending. -/
def Ending.place : Ending → Location
  | .named directory name _ => directory ++ [name]
  | .unnamed directory => directory

namespace Tree

/-! ### Entries -/

theorem lookup_cons (place : Location) (e : Entry) (entries : List (Location × Entry))
    (l : Location) :
  ((place, e) :: entries).lookup l = if l = place then some e else entries.lookup l
  := by
  rw [List.lookup_cons]
  by_cases h : l = place
  · rw [if_pos h, beq_iff_eq.mpr h]
  · rw [if_neg h, beq_eq_false_iff_ne.mpr h]

theorem lookup_filter_ne (entries : List (Location × Entry)) (gone l : Location) :
  (entries.filter (·.1 != gone)).lookup l = if l = gone then none else entries.lookup l
  := by
  induction entries with
  | nil => simp
  | cons held entries ih =>
    obtain ⟨place, e⟩ := held
    by_cases hplace : place = gone
    · rw [List.filter_cons_of_neg (by simpa using hplace), ih, lookup_cons, hplace]
      split <;> rfl
    · rw [List.filter_cons_of_pos (by simpa using hplace), lookup_cons, ih, lookup_cons]
      split
      · next hl => rw [if_neg (hl ▸ hplace)]
      · rfl

theorem lookup_of_ne_nil (t : Tree) {l : Location} (hl : l ≠ []) :
  t.lookup l = t.entries.lookup l
  := by
  rw [lookup, if_neg (by simpa using hl)]

theorem lookup_erase (t : Tree) {gone : Location} (hgone : gone ≠ []) (l : Location) :
  (t.erase gone).lookup l = if l = gone then none else t.lookup l
  := by
  by_cases hl : l = []
  · rw [if_neg (hl ▸ Ne.symm hgone), hl]
    rfl
  · rw [lookup_of_ne_nil _ hl, lookup_of_ne_nil _ hl, erase, lookup_filter_ne]

theorem lookup_insert (t : Tree) {place : Location} (hplace : place ≠ []) (e : Entry)
    (l : Location) :
  (t.insert place e).lookup l = if l = place then some e else t.lookup l
  := by
  by_cases hl : l = []
  · rw [if_neg (hl ▸ Ne.symm hplace), hl]
    rfl
  · rw [lookup_of_ne_nil _ hl, insert, lookup_cons, ← lookup_of_ne_nil _ hl]
    split
    · rfl
    · next h => rw [lookup_erase t hplace, if_neg h]

theorem lookup_append_self {t : Tree} {l : Location} {content : Bytes}
    (h : t.lookup l = some (.file content)) (bytes : Bytes) :
  (t.append l bytes).lookup l = some (.file (content ++ bytes))
  := by
  have hne : l ≠ [] := by
    rintro rfl
    cases h
  rw [append, h, lookup_insert t hne, if_pos rfl]

/-! ### Where paths end -/

theorem child_eq_ok {t : Tree} {directory : Location} {name : String} {held : Option Entry}
    (h : t.child directory name = .ok held) (later : Tree) :
  t.lookup (directory ++ [name]) = held
    ∧ later.child directory name = .ok (later.lookup (directory ++ [name]))
  := by
  rw [child] at h ⊢
  split at h
  · cases h
  · cases h
    exact ⟨rfl, if_neg ‹_›⟩

/-- Names lead to the directory to which they lead whatever is there. -/
theorem descend_eq_ok {t : Tree} {names : List String} {here directory : Location}
    (hnames : "" ∉ names) (h : t.descend here names = .ok directory) :
  names.foldl Path.follow here = directory
  := by
  induction names generalizing here with
  | nil =>
    cases h
    rfl
  | cons name names ih =>
    rw [List.mem_cons, not_or] at hnames
    rw [List.foldl_cons, Path.follow]
    rw [descend] at h
    split at h
    · next hdot =>
      rw [if_pos (by simp [hdot])]
      apply ih hnames.2 h
    · next hdot =>
      rw [if_neg (by simpa [Ne.symm hnames.1] using hdot)]
      split at h
      · next hparent =>
        rw [if_pos hparent]
        apply ih hnames.2 h
      · next hparent =>
        rw [if_neg hparent]
        split at h
        · cases h
        · cases h
        · cases h
        · apply ih hnames.2 h

/-- Why a path is refused whatever a tree holds. -/
def refusal? (p : Path) : Option IoError :=
  if p.text.toList.contains '\x00' then some .nullInPath
  else if p.text.isEmpty then some .noSuchEntry
  else if pathLimit < p.text.utf8ByteSize then some .nameTooLong
  else none

/-- Where a path ends whose names but the last lead to a directory. -/
def endingIn (directory : Location) (p : Path) (last : String) : Ending :=
  if last == "." then .unnamed directory
  else if last == ".." then .unnamed directory.dropLast
  else .named directory last (p.text.endsWith "/")

/-- Where a path ends depends on the tree only by the directory that its names but the last lead
to. -/
theorem resolve_eq (t : Tree) (p : Path) :
  t.resolve p =
    match refusal? p, p.lastName? with
    | some cause, _ => .error cause
    | none, none => .ok (.unnamed [])
    | none, some last => (t.descend [] p.steps).map (endingIn · p last)
  := by
  by_cases hnull : p.text.toList.contains '\x00' = true
  · simp only [resolve, refusal?, if_pos hnull]
    rfl
  · by_cases hempty : p.text.isEmpty = true
    · simp only [resolve, refusal?, if_neg hnull, if_pos hempty]
      rfl
    · by_cases hlong : pathLimit < p.text.utf8ByteSize
      · simp only [resolve, refusal?, if_neg hnull, if_neg hempty, if_pos hlong]
        rfl
      · simp only [resolve, refusal?, if_neg hnull, if_neg hempty, if_neg hlong]
        have hlast : (p.segments.filter (· != "")).getLast? = p.lastName? := rfl
        rw [hlast]
        cases p.lastName? with
        | none => rfl
        | some last =>
          change t.descend [] p.steps >>= _ = _
          cases t.descend [] p.steps with
          | error cause => rfl
          | ok directory =>
            change (if _ then _ else if _ then _ else _) = Except.ok (endingIn directory p last)
            rw [endingIn, apply_ite Except.ok, apply_ite Except.ok]
            rfl

/-- A path that ends somewhere ends at its place. -/
theorem place_of_resolve {t : Tree} {p : Path} {ending : Ending} (h : t.resolve p = .ok ending) :
  p.place = ending.place
  := by
  have hplace : p.place = (p.segments.filter (· != "")).foldl Path.follow [] :=
    (Path.foldl_follow_filter p.segments []).symm
  rw [resolve_eq] at h
  split at h
  · cases h
  · next _ hnone =>
    cases h
    rw [hplace, List.getLast?_eq_none_iff.mp hnone]
    rfl
  · next last _ hlast =>
    obtain ⟨before, hbefore⟩ := List.getLast?_eq_some_iff.mp hlast
    have hnames : "" ∉ before ++ [last] := by
      rw [← hbefore]
      simp
    rw [List.mem_append, not_or] at hnames
    have hsteps : p.steps = before := by
      rw [Path.steps, hbefore, List.dropLast_concat]
    cases hdescend : t.descend [] p.steps with
    | error cause =>
      rw [hdescend] at h
      cases h
    | ok directory =>
      rw [hdescend] at h
      obtain rfl : endingIn directory p last = ending := Except.ok.inj h
      rw [hsteps] at hdescend
      rw [hplace, hbefore, List.foldl_append, descend_eq_ok hnames.1 hdescend, List.foldl_cons,
        List.foldl_nil, Path.follow, endingIn]
      have hlast : (last == "") = false := by
        rw [beq_eq_false_iff_ne]
        rintro rfl
        exact hnames.2 (List.mem_singleton_self _)
      rw [hlast, Bool.false_or]
      split
      · rfl
      · split
        · rfl
        · rfl

/-- The path names a place for a file in an existing directory. -/
def Admits (t : Tree) (p : Path) : Prop :=
  ∃ directory name held, t.resolve p = .ok (.named directory name false)
    ∧ t.child directory name = .ok held

theorem Admits.place_ne_nil {t : Tree} {p : Path} (h : t.Admits p) :
  p.place ≠ []
  := by
  obtain ⟨directory, name, -, hresolve, -⟩ := h
  rw [place_of_resolve hresolve]
  simp [Ending.place]

/-- Such a path leads to what is at its place. -/
theorem Admits.find {t : Tree} {p : Path} (h : t.Admits p) :
  t.find p = (t.lookup p.place).elim (.error .noSuchEntry) .ok
  := by
  obtain ⟨directory, name, held, hresolve, hchild⟩ := h
  have hplace : p.place = directory ++ [name] := place_of_resolve hresolve
  rw [Tree.find, hresolve, hplace, (child_eq_ok hchild t).1]
  show t.child directory name >>= _ = _
  rw [hchild]
  rcases held with _ | _ | _
  · rfl
  · rfl
  · rfl

theorem find_eq_file_iff (t : Tree) (p : Path) (content : Bytes) :
  t.find p = .ok (.file content)
    ↔ t.Admits p ∧ t.lookup p.place = some (.file content)
  := by
  constructor
  · intro h
    have hadmits : t.Admits p := by
      rw [Tree.find] at h
      obtain ⟨ending, hresolve, h⟩ := exists_of_bind_eq_ok h
      cases ending with
      | unnamed directory => cases h
      | named directory name slash =>
        obtain ⟨held, hchild, h⟩ := exists_of_bind_eq_ok h
        cases slash with
        | true => rcases held with _ | _ | _ <;> cases h
        | false => exact ⟨directory, name, held, hresolve, hchild⟩
    use hadmits
    rw [hadmits.find] at h
    cases hlookup : t.lookup p.place with
    | none =>
      rw [hlookup] at h
      cases h
    | some e =>
      rw [hlookup] at h
      cases h
      rfl
  · rintro ⟨hadmits, hlookup⟩
    rw [hadmits.find, hlookup]
    rfl

/-! ### What operations do -/

theorem makeDirectory_eq_ok {t t' : Tree} {p : Path} (h : t.makeDirectory p = .ok t') :
  p.place ≠ [] ∧ t.lookup p.place = none ∧ t' = t.insert p.place .directory
  := by
  rw [makeDirectory] at h
  obtain ⟨ending, hresolve, h⟩ := exists_of_bind_eq_ok h
  rw [place_of_resolve hresolve]
  cases ending with
  | unnamed directory => cases h
  | named directory name slash =>
    obtain ⟨held, hchild, h⟩ := exists_of_bind_eq_ok h
    cases held with
    | some e => cases h
    | none =>
      cases h
      exact ⟨by simp [Ending.place], (child_eq_ok hchild t).1, rfl⟩

theorem create_eq_ok {t t' : Tree} {p : Path} {l : Location} (h : t.create p = .ok (l, t')) :
  t.Admits p ∧ l = p.place ∧ t.lookup p.place ≠ some .directory
    ∧ t' = t.insert p.place (.file [])
  := by
  rw [create] at h
  obtain ⟨ending, hresolve, h⟩ := exists_of_bind_eq_ok h
  rw [place_of_resolve hresolve]
  cases ending with
  | unnamed directory => cases h
  | named directory name slash =>
    cases slash with
    | true => cases h
    | false =>
      obtain ⟨held, hchild, h⟩ := exists_of_bind_eq_ok h
      rw [Ending.place, (child_eq_ok hchild t).1]
      use ⟨directory, name, held, hresolve, hchild⟩
      rcases held with _ | content | _
      · cases h
        exact ⟨rfl, nofun, rfl⟩
      · cases h
        exact ⟨rfl, nofun, rfl⟩
      · cases h

theorem unlink_eq_ok {t t' : Tree} {p : Path} (h : t.unlink p = .ok t') :
  t.Admits p ∧ (∃ content, t.lookup p.place = some (.file content)) ∧ t' = t.erase p.place
  := by
  rw [unlink] at h
  obtain ⟨ending, hresolve, h⟩ := exists_of_bind_eq_ok h
  rw [place_of_resolve hresolve]
  cases ending with
  | unnamed directory => cases h
  | named directory name slash =>
    obtain ⟨held, hchild, h⟩ := exists_of_bind_eq_ok h
    rcases held with _ | content | _
    · cases h
    · cases slash with
      | true => cases h
      | false =>
        cases h
        exact ⟨⟨directory, name, _, hresolve, hchild⟩, ⟨content, (child_eq_ok hchild t).1⟩, rfl⟩
    · cases h

theorem rename_eq_ok {t t' : Tree} {source target : Path} (h : t.rename source target = .ok t') :
  t.Admits source ∧ t.Admits target ∧ t.lookup target.place ≠ some .directory
    ∧ ∃ content, t.lookup source.place = some (.file content)
      ∧ t' = (t.erase source.place).insert target.place (.file content)
  := by
  rw [rename] at h
  obtain ⟨ending, hsource, h⟩ := exists_of_bind_eq_ok h
  obtain ⟨ending', htarget, h⟩ := exists_of_bind_eq_ok h
  rw [place_of_resolve hsource, place_of_resolve htarget]
  rcases ending with ⟨directory, name, slash⟩ | directory
  · rcases ending' with ⟨directory', name', slash'⟩ | directory'
    · obtain ⟨held, hchild, h⟩ := exists_of_bind_eq_ok h
      rcases held with _ | content | _
      · cases h
      · obtain ⟨replaced, hreplaced, h⟩ := exists_of_bind_eq_ok h
        cases slash with
        | true => cases h
        | false =>
          cases slash' with
          | true => cases h
          | false =>
            use ⟨directory, name, _, hsource, hchild⟩, ⟨directory', name', _, htarget, hreplaced⟩
            rw [Ending.place, Ending.place, (child_eq_ok hchild t).1, (child_eq_ok hreplaced t).1]
            rcases replaced with _ | _ | _
            · cases h
              exact ⟨nofun, content, rfl, rfl⟩
            · cases h
              exact ⟨nofun, content, rfl, rfl⟩
            · cases h
      · cases h
    · cases h
  · cases h

/-! ### What operations spare -/

/-- The later tree holds what the earlier one did, apart from directories that were made where
nothing was and from loose locations: at these it may hold anything, unless there was a directory.
-/
def Spares (made loose : Location → Prop) (t t' : Tree) : Prop :=
  ∀ l, t'.lookup l = t.lookup l
    ∨ (made l ∧ t.lookup l = none ∧ t'.lookup l = some .directory)
    ∨ (loose l ∧ t.lookup l ≠ some .directory)

variable {made loose : Location → Prop} {t t' : Tree}

instance : IsPreorder Tree (Spares made loose) where
  refl _ _ := .inl rfl
  trans t t' t'' h h' := by
    intro l
    rcases h l with hl | ⟨hmade, hnone, hl⟩ | hl
    · rw [← hl]
      apply h' l
    · right
      left
      -- A new directory is not loose any more, so the second change keeps it.
      rcases h' l with hl' | ⟨-, hnone', -⟩ | ⟨-, hne⟩
      · exact ⟨hmade, hnone, hl'.trans hl⟩
      · rw [hl] at hnone'
        cases hnone'
      · exact absurd hl hne
    · exact .inr (.inr hl)

theorem Spares.lookup_directory (h : Spares made loose t t') {l : Location}
    (hl : t.lookup l = some .directory) :
  t'.lookup l = some .directory
  := by
  rcases h l with hsame | ⟨-, -, hl'⟩ | ⟨-, hne⟩
  · rw [hsame, hl]
  · apply hl'
  · exact absurd hl hne

theorem Spares.lookup_file (h : Spares made loose t t') {l : Location} (hloose : ¬ loose l)
    {content : Bytes} (hl : t.lookup l = some (.file content)) :
  t'.lookup l = some (.file content)
  := by
  rcases h l with hsame | ⟨-, hnone, -⟩ | ⟨hloose', -⟩
  · rw [hsame, hl]
  · rw [hl] at hnone
    cases hnone
  · exact absurd hloose' hloose

theorem Spares.descend (h : Spares made loose t t') {names : List String}
    {here directory : Location} (hdescend : t.descend here names = .ok directory) :
  t'.descend here names = .ok directory
  := by
  induction names generalizing here with
  | nil => apply hdescend
  | cons name names ih =>
    rw [Tree.descend] at hdescend ⊢
    split at hdescend
    · next hdot =>
      rw [if_pos hdot]
      apply ih hdescend
    · next hdot =>
      rw [if_neg hdot]
      split at hdescend
      · next hparent =>
        rw [if_pos hparent]
        apply ih hdescend
      · next hparent =>
        rw [if_neg hparent]
        cases hchild : t.child here name with
        | error cause =>
          rw [hchild] at hdescend
          cases hdescend
        | ok held =>
          rw [hchild] at hdescend
          obtain ⟨hlookup, hchild'⟩ := child_eq_ok hchild t'
          rcases held with _ | _ | _
          · cases hdescend
          · cases hdescend
          · rw [hchild', h.lookup_directory hlookup]
            apply ih hdescend

/-- A path ends where it did. -/
theorem Spares.resolve (h : Spares made loose t t') {p : Path} {ending : Ending}
    (hresolve : t.resolve p = .ok ending) :
  t'.resolve p = .ok ending
  := by
  rw [resolve_eq] at hresolve ⊢
  split at hresolve
  · cases hresolve
  · apply hresolve
  · cases hdescend : t.descend [] p.steps with
    | error cause =>
      rw [hdescend] at hresolve
      cases hresolve
    | ok directory =>
      rw [hdescend] at hresolve
      rw [h.descend hdescend]
      apply hresolve

theorem Spares.admits (h : Spares made loose t t') {p : Path} (hadmits : t.Admits p) :
  t'.Admits p
  := by
  obtain ⟨directory, name, held, hresolve, hchild⟩ := hadmits
  exact ⟨directory, name, _, h.resolve hresolve, (child_eq_ok hchild t').2⟩

/-- A path leads to the file that it led to, unless its place is loose. -/
theorem Spares.find_file (h : Spares made loose t t') {p : Path} (hloose : ¬ loose p.place)
    {content : Bytes} (hfind : t.find p = .ok (.file content)) :
  t'.find p = .ok (.file content)
  := by
  rw [find_eq_file_iff] at hfind ⊢
  use h.admits hfind.1
  apply h.lookup_file hloose hfind.2

/-- A change at one location. -/
theorem spares_of_lookup {l : Location} {held : Option Entry}
    (h : ∀ other, t'.lookup other = if other = l then held else t.lookup other)
    (hl : (made l ∧ t.lookup l = none ∧ held = some .directory)
      ∨ (loose l ∧ t.lookup l ≠ some .directory)) :
  Spares made loose t t'
  := by
  intro other
  rw [h]
  split
  · next hother =>
    rw [hother]
    exact .inr hl
  · exact .inl rfl

theorem spares_insert {l : Location} (hl : l ≠ []) (hloose : loose l)
    (hne : t.lookup l ≠ some .directory) (e : Entry) :
  Spares made loose t (t.insert l e)
  := spares_of_lookup (t.lookup_insert hl e) (.inr ⟨hloose, hne⟩)

theorem spares_erase {l : Location} (hl : l ≠ []) (hloose : loose l)
    (hne : t.lookup l ≠ some .directory) :
  Spares made loose t (t.erase l)
  := spares_of_lookup (t.lookup_erase hl) (.inr ⟨hloose, hne⟩)

theorem spares_makeDirectory {p : Path} (h : t.makeDirectory p = .ok t') (hmade : made p.place) :
  Spares made loose t t'
  := by
  obtain ⟨hne, hnone, rfl⟩ := makeDirectory_eq_ok h
  apply spares_of_lookup (t.lookup_insert hne _) (.inl ⟨hmade, hnone, rfl⟩)

theorem spares_create {p : Path} {l : Location} (h : t.create p = .ok (l, t'))
    (hloose : loose p.place) :
  Spares made loose t t'
  := by
  obtain ⟨hadmits, -, hne, rfl⟩ := create_eq_ok h
  apply spares_insert hadmits.place_ne_nil hloose hne

theorem spares_unlink {p : Path} (h : t.unlink p = .ok t') (hloose : loose p.place) :
  Spares made loose t t'
  := by
  obtain ⟨hadmits, ⟨content, hlookup⟩, rfl⟩ := unlink_eq_ok h
  apply spares_erase hadmits.place_ne_nil hloose
  rw [hlookup]
  nofun

/-! ### What writing changes -/

/-- The later tree holds what the earlier one did, apart from what is in the file at a location. -/
def Rewrites (l : Location) (t t' : Tree) : Prop :=
  ∀ other, t'.lookup other = t.lookup other
    ∨ (other = l ∧ (∃ content, t.lookup l = some (.file content))
      ∧ ∃ content, t'.lookup l = some (.file content))

instance {l : Location} : IsPreorder Tree (Rewrites l) where
  refl _ _ := .inl rfl
  trans t t' t'' h h' := by
    intro other
    rcases h other with hother | ⟨rfl, hfile, hfile'⟩
    · rcases h' other with hother' | ⟨rfl, hfile, hfile'⟩
      · exact .inl (hother'.trans hother)
      · exact .inr ⟨rfl, hother ▸ hfile, hfile'⟩
    · rcases h' other with hother' | ⟨-, -, hfile''⟩
      · exact .inr ⟨rfl, hfile, hother' ▸ hfile'⟩
      · exact .inr ⟨rfl, hfile, hfile''⟩

theorem rewrites_append (t : Tree) (l : Location) (bytes : Bytes) :
  Rewrites l t (t.append l bytes)
  := by
  rw [append]
  split
  · next content h =>
    have hne : l ≠ [] := by
      rintro rfl
      cases h
    intro other
    rw [lookup_insert t hne, lookup_insert t hne, if_pos rfl]
    split
    · next hother => exact .inr ⟨hother, ⟨content, h⟩, ⟨content ++ bytes, rfl⟩⟩
    · exact .inl rfl
  · apply refl_of

/-- Writing to a file at a loose location spares the rest. -/
theorem Rewrites.spares {l : Location} (h : Rewrites l t t') (hloose : loose l) :
  Spares made loose t t'
  := by
  intro other
  rcases h other with hother | ⟨rfl, ⟨content, hfile⟩, -⟩
  · exact .inl hother
  · right
    right
    use hloose
    rw [hfile]
    nofun

/-! ### Where files are found -/

/-- A new file is found empty at its path. -/
theorem find_create {p : Path} {l : Location} (h : t.create p = .ok (l, t')) :
  t'.find p = .ok (.file [])
  := by
  have hspares : Spares (fun _ => True) (fun _ => True) t t' := spares_create h trivial
  obtain ⟨hadmits, -, -, rfl⟩ := create_eq_ok h
  rw [find_eq_file_iff]
  use hspares.admits hadmits
  rw [lookup_insert t hadmits.place_ne_nil, if_pos rfl]

/-- A file that was moved is found at its new path and not at the former one. -/
theorem find_rename {source target : Path} (h : t.rename source target = .ok t')
    (hne : source.place ≠ target.place) :
  ∃ content, t.lookup source.place = some (.file content) ∧ t'.find target = .ok (.file content)
    ∧ t'.lookup source.place = none ∧ t'.find source = .error .noSuchEntry
    ∧ ∀ l, l ≠ source.place → l ≠ target.place → t'.lookup l = t.lookup l
  := by
  obtain ⟨hsource, htarget, hheld, content, hcontent, rfl⟩ := rename_eq_ok h
  have hlookup : ∀ l, ((t.erase source.place).insert target.place (.file content)).lookup l =
      if l = target.place then some (.file content)
      else if l = source.place then none else t.lookup l := by
    intro l
    rw [lookup_insert _ htarget.place_ne_nil, lookup_erase t hsource.place_ne_nil]
  have hspares : t.Spares (fun _ => False) (fun l => l = source.place ∨ l = target.place)
      ((t.erase source.place).insert target.place (.file content)) := by
    intro l
    rw [hlookup]
    split
    · next hl =>
      rw [hl]
      exact .inr (.inr ⟨.inr rfl, hheld⟩)
    · split
      · next hl =>
        rw [hl, hcontent]
        exact .inr (.inr ⟨.inl rfl, nofun⟩)
      · exact .inl rfl
  have hgone := hlookup source.place
  rw [if_neg hne, if_pos rfl] at hgone
  use content, hcontent
  refine ⟨?_, hgone, ?_, fun l hl hl' => ?_⟩
  · rw [find_eq_file_iff]
    use hspares.admits htarget
    rw [hlookup, if_pos rfl]
  · rw [(hspares.admits hsource).find, hgone]
    rfl
  · rw [hlookup, if_neg hl', if_neg hl]

end Tree

end BoundedLog
