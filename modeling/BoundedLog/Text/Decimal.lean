/-!
# Decimal numbers

Numbers in requests, settings and addresses are runs of ASCII digits whose value is bounded by
the word that holds them. Leading zeros are allowed. A run may be far longer than any number that
fits, so its value is followed only as long as it is within the bound.
-/

namespace BoundedLog.Text

/-- The greatest number that a word of sixty-four bits holds. -/
def wordMax : Nat := 0xFFFFFFFFFFFFFFFF

/-- A value with one more digit behind it. -/
def appendDigit (value d : Nat) : Nat := value * 10 + d

/-- The value of digits, most significant first. -/
def digitsValue (digits : List Nat) : Nat := digits.foldl appendDigit 0

/-- The value of digits, if it is at most `limit`. -/
def boundedValue? (limit : Nat) (digits : List Nat) : Option Nat :=
  digits.foldlM (fun value d =>
    if appendDigit value d ≤ limit then some (appendDigit value d) else none) 0

theorem le_foldl_appendDigit (digits : List Nat) (value : Nat) :
  value ≤ digits.foldl appendDigit value
  := by
  induction digits generalizing value with
  | nil => exact Nat.le_refl value
  | cons d rest ih =>
    have := ih (appendDigit value d)
    rw [List.foldl_cons]
    rw [appendDigit] at this ⊢
    omega

/-- Digits that exceed the limit make a value that does, whatever follows them. -/
theorem boundedValue?_eq (limit : Nat) (digits : List Nat) :
  boundedValue? limit digits
    = if digitsValue digits ≤ limit then some (digitsValue digits) else none
  := by
  rw [boundedValue?, digitsValue]
  generalize hv : (0 : Nat) = value
  have hle : value ≤ limit := by omega
  clear hv
  induction digits generalizing value with
  | nil => exact (if_pos hle).symm
  | cons d rest ih =>
    rw [List.foldlM_cons, List.foldl_cons]
    by_cases h : appendDigit value d ≤ limit
    · rw [if_pos h]
      apply ih _ h
    · have := le_foldl_appendDigit rest (appendDigit value d)
      rw [if_neg h, if_neg (by omega)]
      rfl

/-- The number that a run of ASCII codes writes, if they are one or more digits and the number
is at most `limit`. -/
def decimal? (limit : Nat) (codes : List Nat) : Option Nat :=
  if codes.isEmpty || !codes.all (fun n => 0x30 ≤ n && n ≤ 0x39) then none
  else boundedValue? limit (codes.map (· - 0x30))

/-- As `decimal?`, with a plus sign allowed in front. -/
def signedDecimal? (limit : Nat) (codes : List Nat) : Option Nat :=
  match codes with
  | 0x2B :: digits => decimal? limit digits
  | digits => decimal? limit digits

end BoundedLog.Text
