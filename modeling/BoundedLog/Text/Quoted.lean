import BoundedLog.Text.Extender
import BoundedLog.Text.Invisible

/-!
# Quoted text

A text that comes from outside is shown between double quotes so that it stays on one line and
nothing in it is hidden: quotes and backslashes are escaped, a few control characters have short
names, and every character that shows nothing or would join the one before it is written by its
code point.
-/

namespace BoundedLog.Text

/-- The digits of a number to base sixteen, in lower case. -/
def hexDigits (n : Nat) : List Char := Nat.toDigits 16 n

/-- Whether a character is a letter that stands for a missing one and shows nothing. -/
def isFiller (c : Char) : Bool := [0x115F, 0x1160, 0x3164, 0xFFA0].contains c.toNat

/-- Whether a character is a sound mark of half-width katakana, which extends the character
before it but has a place of its own. -/
def isSoundMark (c : Char) : Bool := [0xFF9E, 0xFF9F].contains c.toNat

/-- Whether a character could not be seen, or not be told from the one before it. -/
def isHidden (c : Char) : Bool :=
  isInvisible c || isFiller c || (isExtender c && !isSoundMark c)

/-- A character inside quotes. -/
def quoteChar (c : Char) : List Char :=
  match c.toNat with
  | 0x00 => ['\\', '0']
  | 0x09 => ['\\', 't']
  | 0x0A => ['\\', 'n']
  | 0x0D => ['\\', 'r']
  | 0x22 => ['\\', c]
  | 0x5C => ['\\', c]
  | n =>
    if 0x20 ≤ n && n < 0x7F then [c]
    else if isHidden c then ['\\', 'u', '\x7b'] ++ hexDigits n ++ ['\x7d']
    else [c]

/-- A text between quotes. -/
def quote (text : String) : String :=
  String.ofList ('\x22' :: text.toList.flatMap quoteChar ++ ['\x22'])

end BoundedLog.Text
