import BoundedLog.Proofs.Session.Request
import BoundedLog.Proofs.Text.Decimal
import BoundedLog.Proofs.TimeMark
import Mathlib.Algebra.GroupWithZero.Nat
import Mathlib.Data.List.TakeDrop

/-!
# How a place is asked for

A directive is a line with the two numbers of a place in digits: `SEEKTO:`, the index, a comma, the
offset, and a newline. A line that begins with `SEEKTO:` asks for a place exactly if it is a
directive and both numbers fit a word, and is refused otherwise; so what is accepted is neither more
nor less than what can be written, leading zeros apart.
-/

namespace BoundedLog

/-! ### Digits -/

/-- A text of ASCII characters has one byte for each of them. -/
theorem Bytes.ofText_of_ascii {text : String} (h : ∀ c ∈ text.toList, c.toNat ≤ 127) :
  ofText text = text.toList.map Char.toUInt8
  := by
  rw [ofText_eq_flatMap, ← List.flatMap_pure_eq_map]
  apply List.flatMap_congr
  intro c hc
  apply String.utf8EncodeChar_eq_singleton
  rw [Char.utf8Size_eq_one_iff]
  apply h c hc

theorem Text.toNat_le_of_isDigit {c : Char} (h : c.isDigit = true) :
  c.toNat ≤ 127
  := Nat.le_trans (Char.isDigit_iff_toNat.mp h).2 (by decide)

theorem Text.toNat_toUInt8_of_isDigit {c : Char} (h : c.isDigit = true) :
  c.toUInt8.toNat = c.toNat
  := by
  have hle := toNat_le_of_isDigit h
  show c.toNat % 2 ^ 8 = c.toNat
  omega

theorem Bytes.ofText_of_isDigit {text : String} (h : ∀ c ∈ text.toList, c.isDigit = true) :
  ofText text = text.toList.map Char.toUInt8
  := ofText_of_ascii fun c hc => Text.toNat_le_of_isDigit (h c hc)

namespace Request

theorem number?_ofText {text : String} (h : ∀ c ∈ text.toList, c.isDigit = true) :
  number? (Bytes.ofText text) = Text.decimal? Text.wordMax (text.toList.map Char.toNat)
  := by
  have hcodes : (Bytes.ofText text).map (·.toNat) = text.toList.map Char.toNat := by
    rw [Bytes.ofText_of_isDigit h, List.map_map, List.map_inj_left]
    intro c hc
    apply Text.toNat_toUInt8_of_isDigit (h c hc)
  rw [number?, hcodes]

/-- What is read as a number are the bytes of a text that writes it. -/
theorem exists_text_of_number? {digits : Bytes} {n : Nat} (h : number? digits = some n) :
  ∃ text, digits = Bytes.ofText text ∧ Text.Writes text n ∧ n ≤ Text.wordMax
  := by
  have hcodes : (String.ofList (digits.map Char.ofUInt8)).toList.map Char.toNat
      = digits.map (·.toNat) := by
    rw [String.toList_ofList, List.map_map]
    rfl
  rw [number?, ← hcodes, Text.decimal?_eq_some_iff] at h
  refine ⟨_, ?_, h⟩
  obtain ⟨⟨-, hdigit, -⟩, -⟩ := h
  rw [Bytes.ofText_of_isDigit hdigit, String.toList_ofList, List.map_map]
  symm
  apply List.map_id''
  intro b
  show b.toUInt32.toUInt8 = b
  rw [UInt8.toUInt8_toUInt32]

/-- Digits are read as the number that they write, if it fits a word, and nothing else is. -/
theorem number?_eq_some_iff {digits : Bytes} {n : Nat} :
  number? digits = some n
    ↔ ∃ text, digits = Bytes.ofText text ∧ Text.Writes text n ∧ n < 2 ^ 64
  := by
  have hword : ∀ n, n < 2 ^ 64 ↔ n ≤ Text.wordMax := fun n => Nat.lt_succ_iff
  simp only [hword]
  constructor
  · apply exists_text_of_number?
  · rintro ⟨text, rfl, hwrites, hle⟩
    rw [number?_ofText hwrites.2.1, Text.decimal?_eq_some_iff]
    exact ⟨hwrites, hle⟩

/-! ### Lines -/

theorem seekWord_eq :
  Bytes.ofText "SEEKTO:" = seekWord
  := Bytes.ofText_of_ascii (by simp)

/-- The line that asks for a place with these texts for its two numbers. -/
def directive (index offset : String) : Bytes := Bytes.ofText s!"SEEKTO:{index},{offset}\n"

/-- The line is a directive for this place, and both numbers fit a word. -/
def AsksFor (line : Bytes) (index offset : Nat) : Prop :=
  ∃ front behind, line = directive front behind
    ∧ Text.Writes front index ∧ Text.Writes behind offset ∧ index < 2 ^ 64 ∧ offset < 2 ^ 64

theorem directive_eq (index offset : String) :
  directive index offset
    = seekWord ++ (Bytes.ofText index ++ 0x2C :: (Bytes.ofText offset ++ [newline]))
  := by
  have hcomma : Bytes.ofText "," = [0x2C] := Bytes.ofText_of_ascii (by simp)
  have hbreak : Bytes.ofText "\n" = [newline] := Bytes.ofText_of_ascii (by simp)
  have htext : s!"SEEKTO:{index},{offset}\n" = "SEEKTO:" ++ index ++ "," ++ offset ++ "\n" := rfl
  rw [directive, htext, Bytes.ofText_append, Bytes.ofText_append, Bytes.ofText_append,
    Bytes.ofText_append, seekWord_eq, hcomma, hbreak]
  simp

theorem comma_not_mem_of_number? {digits : Bytes} {n : Nat} (h : number? digits = some n) :
  0x2C ∉ digits
  := by
  obtain ⟨text, rfl, ⟨-, hdigit, -⟩, -⟩ := exists_text_of_number? h
  rw [Bytes.ofText_of_isDigit hdigit, List.mem_map]
  rintro ⟨c, hc, hcomma⟩
  have hcode := Text.toNat_toUInt8_of_isDigit (hdigit c hc)
  have hle : 48 ≤ c.toNat := (Char.isDigit_iff_toNat.mp (hdigit c hc)).1
  rw [hcomma] at hcode
  have hcomma : (0x2C : UInt8).toNat = 44 := rfl
  omega

/-- What follows `SEEKTO:` names a place if it is a number, a comma, a number and a newline. -/
theorem arguments?_eq_some_iff {bytes : Bytes} {index offset : Nat} :
  arguments? bytes = some (index, offset)
    ↔ ∃ front behind, bytes = front ++ 0x2C :: (behind ++ [newline])
        ∧ number? front = some index ∧ number? behind = some offset
  := by
  rw [arguments?]
  constructor
  · intro h
    split at h
    · next hend =>
      obtain ⟨body, rfl⟩ := List.getLast?_eq_some_iff.mp (beq_iff_eq.mp hend)
      rw [List.dropLast_concat] at h
      split at h
      · next front comma behind hspan =>
        obtain ⟨-, rfl, rfl⟩ := Bytes.span_ne_eq_cons_iff.mp hspan
        obtain ⟨i, hfront, h⟩ := Option.bind_eq_some_iff.mp h
        obtain ⟨o, hbehind, h⟩ := Option.bind_eq_some_iff.mp h
        cases h
        exact ⟨front, behind, List.append_assoc _ _ _, hfront, hbehind⟩
      · cases h
    · cases h
  · rintro ⟨front, behind, rfl, hfront, hbehind⟩
    have hbody :
        front ++ 0x2C :: (behind ++ [newline]) = (front ++ 0x2C :: behind) ++ [newline] := by
      simp
    have hspan : (front ++ 0x2C :: behind).span (· != 0x2C) = (front, 0x2C :: behind) :=
      Bytes.span_ne_eq_cons_iff.mpr ⟨comma_not_mem_of_number? hfront, rfl, rfl⟩
    rw [hbody, Bytes.endsLine, List.getLast?_concat, if_pos (beq_self_eq_true _),
      List.dropLast_concat, hspan]
    simp only [hfront, hbehind]
    rfl

theorem ofLine_eq_seek_iff {line : Bytes} {index offset : Nat} :
  ofLine line = .ok (.seek index offset) ↔ AsksFor line index offset
  := by
  constructor
  · intro h
    obtain ⟨rest, rfl⟩ := begins_of_ofLine_seek h
    rw [ofLine, behind?_eq_some_iff.mpr rfl] at h
    simp only at h
    split at h
    · next hrest =>
      cases h
      obtain ⟨front, behind, rfl, hfront, hbehind⟩ := arguments?_eq_some_iff.mp hrest
      obtain ⟨text, rfl, hindex, hindexLe⟩ := number?_eq_some_iff.mp hfront
      obtain ⟨text', rfl, hoffset, hoffsetLe⟩ := number?_eq_some_iff.mp hbehind
      exact ⟨text, text', (directive_eq _ _).symm, hindex, hoffset, hindexLe, hoffsetLe⟩
    · cases h
  · rintro ⟨text, text', rfl, hindex, hoffset, hindexLe, hoffsetLe⟩
    have hfront := number?_eq_some_iff.mpr ⟨text, rfl, hindex, hindexLe⟩
    have hbehind := number?_eq_some_iff.mpr ⟨text', rfl, hoffset, hoffsetLe⟩
    rw [directive_eq, ofLine, behind?_eq_some_iff.mpr rfl]
    simp only [arguments?_eq_some_iff.mpr ⟨_, _, rfl, hfront, hbehind⟩]

theorem ofLine_eq_record_iff {line data : Bytes} :
  ofLine line = .ok (.record data) ↔ data = line ∧ ¬ seekWord <+: line
  := by
  constructor
  · intro h
    have hline : ¬ seekWord <+: line := by
      intro hbegins
      rcases ofLine_eq_seek_or_malformed hbegins with ⟨index, offset, hseek⟩ | hmalformed
      · rw [hseek] at h
        cases h
      · rw [hmalformed] at h
        cases h
    rw [ofLine_eq_record hline] at h
    cases h
    exact ⟨rfl, hline⟩
  · rintro ⟨rfl, hline⟩
    apply ofLine_eq_record hline

/-- A line asks for a place exactly if it is a directive for this place whose numbers fit a word,
and it is a record, as it stands, exactly if it does not begin with `SEEKTO:`; any other line is
refused as malformed. A directive that writes the numbers of a place in the usual way asks for this
place. -/
theorem ofLine_accepts_directives (line : Bytes) :
  (∀ index offset, ofLine line = .ok (.seek index offset) ↔ AsksFor line index offset)
  ∧ (∀ data, ofLine line = .ok (.record data) ↔ data = line ∧ ¬ Bytes.ofText "SEEKTO:" <+: line)
  ∧ (Bytes.ofText "SEEKTO:" <+: line → (∀ index offset, ¬ AsksFor line index offset) →
      ofLine line = .error (.malformedSeek (shown line)))
  ∧ ∀ index offset, index < 2 ^ 64 → offset < 2 ^ 64 →
      ofLine (directive (toString index) (toString offset)) = .ok (.seek index offset)
  := by
  refine ⟨fun index offset => ofLine_eq_seek_iff, ?_, ?_, ?_⟩
  · intro data
    rw [seekWord_eq]
    apply ofLine_eq_record_iff
  · intro hbegins hnone
    rw [seekWord_eq] at hbegins
    rcases ofLine_eq_seek_or_malformed hbegins with ⟨index, offset, hseek⟩ | hmalformed
    · exact absurd (ofLine_eq_seek_iff.mp hseek) (hnone index offset)
    · apply hmalformed
  · intro index offset hindex hoffset
    apply ofLine_eq_seek_iff.mpr
    use toString index, toString offset, rfl
    exact ⟨Text.writes_toString index, Text.writes_toString offset, hindex, hoffset⟩

end Request

end BoundedLog
