import BoundedLog.Bytes

/-!
# Reading UTF-8

`Utf8.decode?` reads a byte string that is UTF-8 throughout and refuses any other.
`Utf8.decodeLossy` reads every byte string: where no character can be read, the longest run of
bytes that begins a character but does not finish it, or else a single byte, becomes one
replacement character.

The first byte of a character fixes how many bytes follow and the bounds of the first of them;
all later ones lie between 0x80 and 0xBF.
-/

namespace BoundedLog.Text.Utf8

/-- What a first byte promises: the part of the code point it carries, the least and the
greatest second byte, and how many further bytes follow the second. -/
structure Lead where
  carried : Nat
  least : UInt8
  greatest : UInt8
  further : Nat

/-- The promise of a first byte of two or more; `none` where no such character begins. -/
def lead? (b : UInt8) : Option Lead :=
  if 0xC2 ≤ b && b ≤ 0xDF then some ⟨b.toNat - 0xC0, 0x80, 0xBF, 0⟩
  else if b == 0xE0 then some ⟨0, 0xA0, 0xBF, 1⟩
  else if b == 0xED then some ⟨0xD, 0x80, 0x9F, 1⟩
  else if 0xE1 ≤ b && b ≤ 0xEF then some ⟨b.toNat - 0xE0, 0x80, 0xBF, 1⟩
  else if b == 0xF0 then some ⟨0, 0x90, 0xBF, 2⟩
  else if 0xF1 ≤ b && b ≤ 0xF3 then some ⟨b.toNat - 0xF0, 0x80, 0xBF, 2⟩
  else if b == 0xF4 then some ⟨4, 0x80, 0x8F, 2⟩
  else none

/-- Reads `more` further bytes of a character of which `carried` is known. The number is the
code point, or `none` where a byte does not fit; the bytes are those not read. -/
def readFurther : Nat → Nat → Bytes → Option Nat × Bytes
  | 0, carried, rest => (some carried, rest)
  | more + 1, carried, b :: rest =>
    if 0x80 ≤ b && b ≤ 0xBF then readFurther more (carried * 64 + (b.toNat - 0x80)) rest
    else (none, b :: rest)
  | _ + 1, _, [] => (none, [])

/-- Reads a character whose first byte is `b` from the bytes behind it. The character is `none`
where the bytes are ill-formed; the bytes are those not read. -/
def readChar (b : UInt8) (rest : Bytes) : Option Char × Bytes :=
  if b < 0x80 then (some (Char.ofNat b.toNat), rest)
  else match lead? b with
    | none => (none, rest)
    | some lead =>
      match rest with
      | [] => (none, [])
      | second :: others =>
        if lead.least ≤ second && second ≤ lead.greatest then
          let (code, behind) :=
            readFurther lead.further (lead.carried * 64 + (second.toNat - 0x80)) others
          (code.map Char.ofNat, behind)
        else (none, rest)

theorem length_readFurther_le (more carried : Nat) (bytes : Bytes) :
  (readFurther more carried bytes).2.length ≤ bytes.length
  := by
  fun_induction readFurther more carried bytes with
  | case1 => simp
  | case2 _ _ _ _ _ ih => simp only [List.length_cons]; omega
  | case3 => simp
  | case4 => simp

theorem length_readChar_le (b : UInt8) (rest : Bytes) :
  (readChar b rest).2.length ≤ rest.length
  := by
  unfold readChar
  split
  · simp
  · split
    · simp
    · next lead _ =>
      split
      · simp
      · next second others =>
        split
        · have := length_readFurther_le lead.further
            (lead.carried * 64 + (second.toNat - 0x80)) others
          simp only [List.length_cons]
          omega
        · simp

/-- The characters of a byte string in order, `none` for each ill-formed piece. -/
def chars : Bytes → List (Option Char)
  | [] => []
  | b :: rest => (readChar b rest).1 :: chars (readChar b rest).2
termination_by bytes => bytes.length
decreasing_by
  have := length_readChar_le b rest
  simp only [List.length_cons]
  omega

/-- The character that stands for bytes that are no character. -/
def replacement : Char := Char.ofNat 0xFFFD

/-- The characters of a byte string, with a replacement character for each ill-formed piece. -/
def decodeLossy (bytes : Bytes) : List Char := (chars bytes).map (·.getD replacement)

/-- The text of a byte string that is UTF-8 throughout. -/
def decode? (bytes : Bytes) : Option String := ((chars bytes).mapM id).map String.ofList

end BoundedLog.Text.Utf8
