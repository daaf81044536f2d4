/-!
# Byte strings and lines

Records, requests and file contents are strings of bytes, and the byte `newline` ends a line.
`lines` cuts a byte string after each newline and `unterminated` is what remains behind the
last one; together they give back the whole, in order.
-/

namespace BoundedLog

/-- A string of bytes. -/
abbrev Bytes := List UInt8

/-- A record of the log is a string of bytes. -/
abbrev Record := Bytes

/-- The byte that ends a line. -/
def newline : UInt8 := 10

namespace Bytes

/-- The bytes of a text, in UTF-8. -/
def ofText (text : String) : Bytes := text.toUTF8.toList

/-- Whether the last byte is a newline. -/
def endsLine (bytes : Bytes) : Bool := bytes.getLast? == some newline

/-- The bytes up to the first newline, which is taken along, and the bytes behind it; `none`
if there is no newline. -/
def cutLine? (bytes : Bytes) : Option (Bytes × Bytes) :=
  match bytes.span (· != newline) with
  | (_, []) => none
  | (front, ending :: rest) => some (front ++ [ending], rest)

/-- The pieces that end with a newline, in order, and the piece behind the last newline. -/
def splitLines : Bytes → List Bytes × Bytes
  | [] => ([], [])
  | b :: rest =>
    match b == newline, splitLines rest with
    | true, (lines, last) => ([b] :: lines, last)
    | false, ([], last) => ([], b :: last)
    | false, (line :: lines, last) => ((b :: line) :: lines, last)

/-- The pieces that end with a newline, in order. -/
def lines (bytes : Bytes) : List Bytes := (splitLines bytes).1

/-- The piece behind the last newline. -/
def unterminated (bytes : Bytes) : Bytes := (splitLines bytes).2

theorem flatten_splitLines (bytes : Bytes) :
  (splitLines bytes).1.flatten ++ (splitLines bytes).2 = bytes
  := by
  induction bytes with
  | nil => rfl
  | cons b rest ih =>
    unfold splitLines
    split
    · next h => simpa [h] using ih
    · next h => simpa [h] using ih
    · next h => simpa [h] using ih

/-- The lines and what is behind the last of them give back the whole. -/
theorem flatten_lines_append_unterminated (bytes : Bytes) :
  bytes.lines.flatten ++ bytes.unterminated = bytes
  := flatten_splitLines bytes

end Bytes

end BoundedLog
