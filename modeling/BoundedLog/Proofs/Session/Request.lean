import BoundedLog.Session.Request
import Mathlib.Data.List.Basic

/-!
# What a line asks for

A line asks for a place in the log or is refused exactly if it begins with `SEEKTO:`; any other
line is a record, as it stands.
-/

namespace BoundedLog.Request

theorem behind?_eq_some_iff {front bytes rest : Bytes} :
  behind? front bytes = some rest ↔ bytes = front ++ rest
  := by
  induction front generalizing bytes with
  | nil => rw [behind?, Option.some.injEq, List.nil_append]
  | cons f front ih =>
    cases bytes with
    | nil => simp [behind?]
    | cons b bytes =>
      rw [behind?, List.cons_append, List.cons.injEq]
      by_cases h : f = b
      · subst h
        rw [if_pos (beq_self_eq_true f), ih, eq_self, true_and]
      · rw [if_neg (by rwa [beq_iff_eq])]
        constructor
        · intro hnone
          cases hnone
        · rintro ⟨rfl, -⟩
          contradiction

theorem behind?_eq_none_iff {front bytes : Bytes} :
  behind? front bytes = none ↔ ¬ front <+: bytes
  := by
  rw [Option.eq_none_iff_forall_not_mem]
  constructor
  · rintro h ⟨rest, rfl⟩
    apply h rest (behind?_eq_some_iff.mpr rfl)
  · intro h rest hrest
    apply h ⟨rest, (behind?_eq_some_iff.mp hrest).symm⟩

/-- A line in the words of the fault that refuses it. -/
def shown (line : Bytes) : String := String.ofList (Text.trimEnd (Text.Utf8.decodeLossy line))

theorem ofLine_eq_record {line : Bytes} (h : ¬ seekWord <+: line) :
  ofLine line = .ok (.record line)
  := by
  rw [ofLine, behind?_eq_none_iff.mpr h]

theorem ofLine_eq_seek_or_malformed {line : Bytes} (h : seekWord <+: line) :
  (∃ index offset, ofLine line = .ok (.seek index offset))
    ∨ ofLine line = .error (.malformedSeek (shown line))
  := by
  obtain ⟨rest, rfl⟩ := h
  rw [ofLine, behind?_eq_some_iff.mpr rfl]
  simp only
  cases arguments? rest with
  | none =>
    right
    rfl
  | some arguments =>
    left
    exact ⟨arguments.1, arguments.2, rfl⟩

/-- Only such a line asks for a place. -/
theorem begins_of_ofLine_seek {line : Bytes} {index offset : Nat}
    (h : ofLine line = .ok (.seek index offset)) :
  seekWord <+: line
  := by
  by_contra hline
  rw [ofLine_eq_record hline] at h
  cases h

end BoundedLog.Request
