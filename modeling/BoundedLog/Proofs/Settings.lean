import BoundedLog.Proofs.Files.Tree
import BoundedLog.Proofs.Text.Decimal
import BoundedLog.Settings
import Mathlib.Algebra.GroupWithZero.Nat

/-!
# The layer of the environment

An environment changes three settings, each by a variable of its own, and it is refused only for the
interval between time marks, which must be a number. Whether it is refused depends on nothing but
itself, and what a setting becomes on nothing but its variable. So one environment after another is
as good as a single one, in which the later one covers the earlier one. The interval comes last: an
environment that is refused for it has changed the other two settings.
-/

namespace BoundedLog.Settings

variable {s : Settings} {env f g : Environment} {fault : Fault}

/-! ### Variables -/

/-- The replica of an environment; an empty text asks for none. -/
def replica? (env : Environment) : Option (Option String) :=
  (env "RINGLOG_MIRROR").map fun text => if text.isEmpty then none else some text

/-- The interval of an environment, if it is a number. -/
def pulseSeconds? (env : Environment) : Option Nat :=
  (env "RINGLOG_HEARTBEAT_SECS").bind fun text =>
    Text.signedDecimal? Text.wordMax (text.toList.map Char.toNat)

/-- The fault for which an environment is refused. -/
def refusal? (env : Environment) : Option Fault :=
  match pulseSeconds? env with
  | some _ => none
  | none =>
    (env "RINGLOG_HEARTBEAT_SECS").map fun text =>
      .settings (.notANumber "RINGLOG_HEARTBEAT_SECS" text)

/-- An environment is refused for its interval alone, and each setting is that of its variable or as
it was. -/
theorem apply_eq (s : Settings) (env : Environment) :
  s.apply env =
    ((refusal? env).elim (.ok ()) .error,
      { s with
        address := (env "RINGLOG_BIND").getD s.address
        replica := (replica? env).getD s.replica
        pulseSeconds := (pulseSeconds? env).getD s.pulseSeconds })
  := by
  have haddress :
      s.applyAddress env = { s with address := (env "RINGLOG_BIND").getD s.address } := by
    rw [applyAddress]
    cases env "RINGLOG_BIND" with
    | none => rfl
    | some text => rfl
  have hreplica : ∀ s : Settings,
      s.applyReplica env = { s with replica := (replica? env).getD s.replica } := by
    intro s
    rw [applyReplica, replica?]
    cases env "RINGLOG_MIRROR" with
    | none => rfl
    | some text => rfl
  rw [apply, haddress, hreplica, applyPulse, refusal?, pulseSeconds?]
  cases env "RINGLOG_HEARTBEAT_SECS" with
  | none => rfl
  | some text =>
    simp only [Option.bind_some]
    cases Text.signedDecimal? Text.wordMax (text.toList.map Char.toNat) with
    | none => rfl
    | some n => rfl

/-- An interval is a number in digits, perhaps behind a plus sign, that fits a word. -/
theorem pulseSeconds?_eq_some_iff {n : Nat} :
  pulseSeconds? env = some n
    ↔ ∃ text, env "RINGLOG_HEARTBEAT_SECS" = some text ∧ Text.WritesSigned text n ∧ n < 2 ^ 64
  := by
  have hword : n ≤ Text.wordMax ↔ n < 2 ^ 64 := Nat.lt_succ_iff.symm
  simp only [pulseSeconds?, Option.bind_eq_some_iff, Text.signedDecimal?_eq_some_iff, hword]

theorem refusal?_eq_some_iff :
  refusal? env = some fault
    ↔ pulseSeconds? env = none ∧ ∃ text, env "RINGLOG_HEARTBEAT_SECS" = some text
      ∧ .settings (.notANumber "RINGLOG_HEARTBEAT_SECS" text) = fault
  := by
  rw [refusal?]
  cases pulseSeconds? env with
  | some n => simp
  | none => simp [Option.map_eq_some_iff]

/-- If there is no interval and nothing is refused, the variable is missing. -/
theorem eq_none_of_not_refused (h : refusal? env = none) (hnone : pulseSeconds? env = none) :
  env "RINGLOG_HEARTBEAT_SECS" = none
  := by
  rw [refusal?, hnone] at h
  apply Option.map_eq_none_iff.mp h

theorem refused_iff :
  refusal? env ≠ none
    ↔ ∃ text, env "RINGLOG_HEARTBEAT_SECS" = some text ∧ ¬ ∃ n < 2 ^ 64, Text.WritesSigned text n
  := by
  constructor
  · intro hrefused
    obtain ⟨fault, hfault⟩ := Option.ne_none_iff_exists'.mp hrefused
    obtain ⟨hnone, text, htext, -⟩ := refusal?_eq_some_iff.mp hfault
    use text, htext
    rintro ⟨n, hn, hwrites⟩
    have hseconds := pulseSeconds?_eq_some_iff.mpr ⟨text, htext, hwrites, hn⟩
    rw [hnone] at hseconds
    cases hseconds
  · rintro ⟨text, htext, hnumber⟩ hnot
    cases hseconds : pulseSeconds? env with
    | none =>
      rw [eq_none_of_not_refused hnot hseconds] at htext
      cases htext
    | some n =>
      obtain ⟨other, hother, hwrites, hn⟩ := pulseSeconds?_eq_some_iff.mp hseconds
      obtain rfl : text = other := Option.some.inj (htext.symm.trans hother)
      exact hnumber ⟨n, hn, hwrites⟩

theorem isOk_apply (s : Settings) (env : Environment) :
  (s.apply env).1.isOk = (refusal? env).isNone
  := by
  rw [apply_eq]
  cases refusal? env with
  | none => rfl
  | some fault => rfl

theorem refusal?_of_ok (h : (s.apply env).1 = .ok ()) :
  refusal? env = none
  := by
  rw [apply_eq] at h
  cases hrefusal : refusal? env with
  | none => rfl
  | some fault =>
    rw [hrefusal] at h
    cases h

theorem refusal?_of_error (h : (s.apply env).1 = .error fault) :
  refusal? env = some fault
  := by
  rw [apply_eq] at h
  cases hrefusal : refusal? env with
  | none =>
    rw [hrefusal] at h
    cases h
  | some cause =>
    rw [hrefusal] at h
    cases h
    rfl

/-- What is loaded is a document, or the defaults, with the environment applied. -/
theorem load_eq_ok {tree : Tree} {settings : Settings} (h : load tree env = .ok settings) :
  ∃ base : Settings, base.apply env = (.ok (), settings)
  := by
  rw [load] at h
  split at h
  on_goal 2 => split at h
  -- Wherever the settings come from, the environment is applied to them in the same way.
  all_goals
    obtain ⟨base, -, h⟩ := exists_of_bind_eq_ok h
    dsimp only at h
    split at h
    · next hrun =>
      cases h
      exact ⟨base, hrun⟩
    · cases h

/-! ### Environments that are refused -/

theorem getD_eq_iff {α : Type} {value : Option α} {old : α} :
  value.getD old = old ↔ ∀ new, value = some new → new = old
  := by
  cases value with
  | none => simp
  | some new => simp

/-- An environment that is refused has changed the address and the replica to its own, and nothing
else. So the settings are as they were exactly if it has no other address and no other replica. No
settings are loaded with it. -/
theorem apply_of_error (h : (s.apply env).1 = .error fault) :
  (s.apply env).2 =
      { s with
        address := (env "RINGLOG_BIND").getD s.address
        replica := (replica? env).getD s.replica }
    ∧ ((s.apply env).2 = s
      ↔ (∀ address, env "RINGLOG_BIND" = some address → address = s.address)
        ∧ ∀ replica, replica? env = some replica → replica = s.replica)
    ∧ ∀ tree settings, load tree env ≠ .ok settings
  := by
  have hrefusal := refusal?_of_error h
  have hpulse := (refusal?_eq_some_iff.mp hrefusal).1
  have hstate : (s.apply env).2 =
      { s with
        address := (env "RINGLOG_BIND").getD s.address
        replica := (replica? env).getD s.replica } := by
    rw [apply_eq, hpulse]
    rfl
  refine ⟨hstate, ?same, ?unloaded⟩
  case same =>
    rw [hstate, ← getD_eq_iff, ← getD_eq_iff]
    constructor
    · intro hsame
      exact ⟨congrArg address hsame, congrArg replica hsame⟩
    · rintro ⟨haddress, hreplica⟩
      rw [haddress, hreplica]
  case unloaded =>
    intro tree settings hload
    obtain ⟨base, hbase⟩ := load_eq_ok hload
    rw [refusal?_of_ok (congrArg Prod.fst hbase)] at hrefusal
    cases hrefusal

/-- The interval is no number, and the replica is switched off all the same. -/
theorem apply_of_error_without_replica :
  let env : Environment := fun name =>
    if name = "RINGLOG_MIRROR" then some ""
    else if name = "RINGLOG_HEARTBEAT_SECS" then some "soon" else none
  let s : Settings := { ioPollMillis := 1 }
  (s.apply env).1 = .error (.settings (.notANumber "RINGLOG_HEARTBEAT_SECS" "soon"))
    ∧ (s.apply env).2 = { s with replica := none }
  := by
  intro env s
  have hrefused : (s.apply env).1
      = .error (.settings (.notANumber "RINGLOG_HEARTBEAT_SECS" "soon")) := by rfl
  use hrefused
  rw [(apply_of_error hrefused).1]
  rfl

/-- The interval is no number, and the address is changed all the same: an environment that is
refused need not leave the settings as they were. -/
theorem apply_refused_changes_address :
  let env : Environment := fun name =>
    if name = "RINGLOG_BIND" then some "127.0.0.1:0"
    else if name = "RINGLOG_HEARTBEAT_SECS" then some "soon" else none
  let s : Settings := {}
  (s.apply env).1 = .error (.settings (.notANumber "RINGLOG_HEARTBEAT_SECS" "soon"))
    ∧ (s.apply env).2 ≠ s
  := by
  intro env s
  constructor
  · rfl
  · intro hsame
    apply absurd (congrArg address hsame)
    decide

/-! ### One environment after another -/

/-- The later environment covers the earlier one: where it has a value, that is taken. -/
def cover (later earlier : Environment) : Environment :=
  fun name => (later name).or (earlier name)

theorem replica?_cover (g f : Environment) :
  replica? (cover g f) = (replica? g).or (replica? f)
  := by
  rw [replica?, cover, Option.map_or]
  rfl

/-- An interval that covers another is taken instead of it. -/
theorem pulseSeconds?_cover (hg : refusal? g = none) (f : Environment) :
  pulseSeconds? (cover g f) = (pulseSeconds? g).or (pulseSeconds? f)
  := by
  cases hseconds : pulseSeconds? g with
  | some n =>
    obtain ⟨text, htext, hn⟩ := pulseSeconds?_eq_some_iff.mp hseconds
    rw [Option.some_or, pulseSeconds?_eq_some_iff]
    exact ⟨text, by rw [cover, htext, Option.some_or], hn⟩
  | none =>
    rw [Option.none_or, pulseSeconds?, cover, eq_none_of_not_refused hg hseconds, Option.none_or]
    rfl

theorem refusal?_cover (hg : refusal? g = none) (hf : refusal? f = none) :
  refusal? (cover g f) = none
  := by
  rw [refusal?]
  cases hseconds : pulseSeconds? (cover g f) with
  | some n => rfl
  | none =>
    rw [pulseSeconds?_cover hg, Option.or_eq_none_iff] at hseconds
    rw [cover, eq_none_of_not_refused hg hseconds.1, eq_none_of_not_refused hf hseconds.2]
    rfl

/-- Two environments that are not refused are as good as a single one. -/
theorem apply_apply (s : Settings) (hf : refusal? f = none) (hg : refusal? g = none) :
  (s.apply f).2.apply g = s.apply (cover g f)
  := by
  have haddress : cover g f "RINGLOG_BIND" = (g "RINGLOG_BIND").or (f "RINGLOG_BIND") := rfl
  rw [apply_eq, apply_eq, apply_eq]
  dsimp only
  rw [refusal?_cover hg hf, pulseSeconds?_cover hg, replica?_cover, haddress, hg, Option.getD_or,
    Option.getD_or, Option.getD_or]

theorem apply_idem (s : Settings) (env : Environment) :
  (s.apply env).2.apply env = s.apply env
  := by
  rw [apply_eq, apply_eq]
  simp only [← Option.getD_or, Option.or_self]

/-- An environment whose replica is the empty text switches the replica off, whatever was set. -/
theorem replica_apply_of_empty (s : Settings) (henv : env "RINGLOG_MIRROR" = some "") :
  (s.apply env).2.replica = none
  := by
  rw [apply_eq, replica?, henv]
  rfl

/-- An environment is refused exactly if it has an interval that is not written with digits, perhaps
behind a plus sign, or does not fit a word. What it has becomes the address, the replica and the
interval, and the other settings are left alone. Two environments that are not refused, one after
the other, do what the later one does when it covers the earlier one; the same environment once more
does nothing. An empty replica in the later environment switches the replica off, whether the
earlier one or a document has set it. -/
theorem apply_composes (s : Settings) (f g : Environment) :
  ((s.apply f).1.isOk = false
    ↔ ∃ text, f "RINGLOG_HEARTBEAT_SECS" = some text ∧ ¬ ∃ n < 2 ^ 64, Text.WritesSigned text n)
  ∧ ((∀ text, f "RINGLOG_BIND" = some text → (s.apply f).2.address = text)
    ∧ (∀ text, f "RINGLOG_MIRROR" = some text →
        (s.apply f).2.replica = if text.isEmpty then none else some text)
    ∧ ∀ text, f "RINGLOG_HEARTBEAT_SECS" = some text → ∀ n < 2 ^ 64, Text.WritesSigned text n →
        (s.apply f).2.pulseSeconds = n)
  ∧ ((s.apply f).1 = .ok () → ((s.apply f).2.apply g).1 = .ok () →
      (s.apply f).2.apply g = s.apply (cover g f))
  ∧ (s.apply f).2.apply f = s.apply f
  ∧ ((s.apply f).2.ioPollMillis = s.ioPollMillis
    ∧ (s.apply f).2.acceptPollMillis = s.acceptPollMillis
    ∧ (s.apply f).2.logLevel = s.logLevel)
  ∧ (g "RINGLOG_MIRROR" = some "" →
      ((s.apply f).2.apply g).2.replica = none
        ∧ ∀ tree settings, load tree g = .ok settings → settings.replica = none)
  := by
  refine ⟨?refused, ?taken, fun hf hg => ?composed, apply_idem s f, ?others, fun hempty => ?off⟩
  case refused =>
    rw [isOk_apply, Option.isNone_eq_false_iff, Option.isSome_iff_ne_none]
    apply refused_iff
  case taken =>
    rw [apply_eq]
    refine ⟨fun text htext => ?_, fun text htext => ?_, fun text htext n hn hwrites => ?_⟩
    · exact congrArg (Option.getD · s.address) htext
    · show (replica? f).getD s.replica = _
      rw [replica?, htext]
      rfl
    · exact congrArg (Option.getD · s.pulseSeconds)
        (pulseSeconds?_eq_some_iff.mpr ⟨text, htext, hwrites, hn⟩)
  case composed => exact apply_apply s (refusal?_of_ok hf) (refusal?_of_ok hg)
  case others =>
    rw [apply_eq]
    exact ⟨rfl, rfl, rfl⟩
  case off =>
    use replica_apply_of_empty _ hempty
    intro tree settings hload
    obtain ⟨base, hbase⟩ := load_eq_ok hload
    obtain rfl : (base.apply g).2 = settings := congrArg Prod.snd hbase
    apply replica_apply_of_empty base hempty

end BoundedLog.Settings
