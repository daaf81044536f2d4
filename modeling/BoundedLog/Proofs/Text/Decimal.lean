import BoundedLog.Text.Decimal

/-!
# What digits write

A text writes a number if it is one or more decimal digits whose value that is, so every number is
written by its usual digits and, with zeros in front, by others. Digits are read as the number that
they write, if it is within the bound, and nothing else is read; with a sign allowed, a plus sign in
front makes no difference.
-/

namespace BoundedLog.Text

/-- The text is one or more digits, and this is the number that they write. -/
def Writes (text : String) (n : Nat) : Prop :=
  text.toList ≠ [] ∧ (∀ c ∈ text.toList, c.isDigit = true) ∧ Nat.ofDigitChars 10 text.toList 0 = n

theorem writes_toString (n : Nat) :
  Writes (toString n) n
  := by
  rw [Writes, Nat.toString_eq_ofList_toDigits, String.toList_ofList]
  refine ⟨Nat.toDigits_ne_nil, ?_, Nat.ofDigitChars_ten_toDigits⟩
  intro c hc
  apply Nat.isDigit_of_mem_toDigits (by decide) (by decide) hc

/-- The value of digits is that of the characters that they stand for. -/
theorem digitsValue_map (digits : List Char) :
  digitsValue (digits.map (·.toNat - 0x30)) = Nat.ofDigitChars 10 digits 0
  := by
  rw [digitsValue, List.foldl_map, Nat.ofDigitChars_eq_foldl]
  congr 1
  funext value c
  rw [appendDigit, Nat.mul_comm]
  rfl

theorem decimal?_map_toNat {digits : List Char} (h : ∀ c ∈ digits, c.isDigit = true)
    (hne : digits ≠ []) (limit : Nat) :
  decimal? limit (digits.map Char.toNat)
    = if Nat.ofDigitChars 10 digits 0 ≤ limit then some (Nat.ofDigitChars 10 digits 0) else none
  := by
  have hall : (digits.map Char.toNat).all (fun n => 0x30 ≤ n && n ≤ 0x39) = true := by
    rw [List.all_map, List.all_eq_true]
    intro c hc
    simpa using Char.isDigit_iff_toNat.mp (h c hc)
  have hsome : (digits.map Char.toNat).isEmpty = false := by
    simpa using hne
  rw [decimal?, hall, hsome, boundedValue?_eq, List.map_map, ← digitsValue_map]
  rfl

/-- Digits are read as the number that they write, if it is within the limit; nothing else is. -/
theorem decimal?_eq_some_iff {text : String} {limit n : Nat} :
  decimal? limit (text.toList.map Char.toNat) = some n ↔ Writes text n ∧ n ≤ limit
  := by
  constructor
  · intro h
    have hdigits : text.toList ≠ [] ∧ ∀ c ∈ text.toList, c.isDigit = true := by
      rw [decimal?] at h
      split at h
      · cases h
      · next hdigits =>
        simp only [Bool.or_eq_true, Bool.not_eq_true', not_or, Bool.not_eq_false, List.all_map,
          List.all_eq_true] at hdigits
        constructor
        · simpa using hdigits.1
        · intro c hc
          have hbounds : 48 ≤ c.toNat ∧ c.toNat ≤ 57 := by simpa using hdigits.2 c hc
          apply Char.isDigit_iff_toNat.mpr hbounds
    rw [decimal?_map_toNat hdigits.2 hdigits.1, Option.ite_none_right_eq_some,
      Option.some.injEq] at h
    obtain ⟨hle, rfl⟩ := h
    exact ⟨⟨hdigits.1, hdigits.2, rfl⟩, hle⟩
  · rintro ⟨⟨hne, hdigit, rfl⟩, hle⟩
    rw [decimal?_map_toNat hdigit hne, if_pos hle]

/-! ### Signs -/

/-- The text writes a number, with or without a plus sign in front. -/
def WritesSigned (text : String) (n : Nat) : Prop :=
  ∃ digits, (text = digits ∨ text = "+" ++ digits) ∧ Writes digits n

/-- A plus sign is no digit. -/
theorem not_writes_plus (digits : String) (n : Nat) :
  ¬ Writes ("+" ++ digits) n
  := by
  rintro ⟨-, hdigit, -⟩
  have hplus : '+' ∈ ("+" ++ digits).toList := by
    rw [String.toList_append]
    apply List.mem_append_left _ (List.mem_singleton_self '+')
  cases hdigit _ hplus

/-- A plus sign in front is passed over, and any other text is read as it is. -/
theorem signedDecimal?_cases (text : String) :
  (∃ digits, text = "+" ++ digits
      ∧ ∀ limit, signedDecimal? limit (text.toList.map Char.toNat)
          = decimal? limit (digits.toList.map Char.toNat))
    ∨ ((∀ digits, text ≠ "+" ++ digits)
      ∧ ∀ limit, signedDecimal? limit (text.toList.map Char.toNat)
          = decimal? limit (text.toList.map Char.toNat))
  := by
  by_cases hplus : ∃ digits, text = "+" ++ digits
  · obtain ⟨digits, rfl⟩ := hplus
    refine .inl ⟨digits, rfl, fun limit => ?_⟩
    rw [String.toList_append]
    rfl
  · refine .inr ⟨fun digits htext => hplus ⟨digits, htext⟩, fun limit => ?_⟩
    unfold signedDecimal?
    split
    · next rest hcodes =>
      exfalso
      obtain ⟨c, digits, htext, hc, -⟩ := List.map_eq_cons_iff.mp hcodes
      obtain rfl : c = '+' := Char.toNat_inj.mp hc
      refine hplus ⟨String.ofList digits, ?_⟩
      rw [← String.toList_inj, htext]
      simp
    · rfl

/-- The same with a sign allowed. -/
theorem signedDecimal?_eq_some_iff {text : String} {limit n : Nat} :
  signedDecimal? limit (text.toList.map Char.toNat) = some n ↔ WritesSigned text n ∧ n ≤ limit
  := by
  rcases signedDecimal?_cases text with ⟨digits, rfl, hread⟩ | ⟨hplus, hread⟩
  · rw [hread, decimal?_eq_some_iff]
    constructor
    · rintro ⟨hwrites, hle⟩
      exact ⟨⟨digits, .inr rfl, hwrites⟩, hle⟩
    · rintro ⟨⟨other, rfl | hother, hwrites⟩, hle⟩
      · exact absurd hwrites (not_writes_plus digits n)
      · rw [← String.toList_inj, String.toList_append, String.toList_append,
          List.append_cancel_left_eq, String.toList_inj] at hother
        subst hother
        exact ⟨hwrites, hle⟩
  · rw [hread, decimal?_eq_some_iff]
    constructor
    · rintro ⟨hwrites, hle⟩
      exact ⟨⟨text, .inl rfl, hwrites⟩, hle⟩
    · rintro ⟨⟨digits, rfl | htext, hwrites⟩, hle⟩
      · exact ⟨hwrites, hle⟩
      · exact absurd htext (hplus digits)

end BoundedLog.Text
