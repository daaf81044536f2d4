import BoundedLog.Text.Decimal

/-!
# Documents in JSON

A document is read in two passes: its text is cut into tokens, and the tokens are gathered into a
value on a stack of the lists and objects that are still open. `Document.parse?` refuses whatever
is not JSON.

Readers of a value want whole numbers and text. A number that is not written as a whole number of
sixty-four bits is kept without its value, and so is a string with half of a surrogate pair; both
may stand where nobody reads them.
-/

namespace BoundedLog.Document

/-- A value of JSON. -/
inductive Value
  | null
  | bool (b : Bool)
  /-- A number, with its value if it is written as a whole number that fits a word. -/
  | number (value : Option Nat)
  /-- A string, with its text if all its surrogates are paired. -/
  | string (text : Option String)
  | list (items : List Value)
  | object (members : List (Option String × Value))

/-- A token of JSON; a scalar is one value. -/
inductive Token
  | beginList
  | endList
  | beginObject
  | endObject
  | colon
  | comma
  | scalar (value : Value)

/-! ### Strings -/

/-- A piece of a string: a character that stands for itself, or a unit of sixteen bits given by
its number. -/
inductive Piece
  | char (c : Char)
  | unit (n : Nat)

/-- The value of a hexadecimal digit. -/
def hexValue? (c : Char) : Option Nat :=
  let n := c.toNat
  if 0x30 ≤ n && n ≤ 0x39 then some (n - 0x30)
  else if 0x41 ≤ n && n ≤ 0x46 then some (n - 0x37)
  else if 0x61 ≤ n && n ≤ 0x66 then some (n - 0x57)
  else none

/-- The value of four hexadecimal digits. -/
def unit? (a b c d : Char) : Option Nat :=
  return 0x1000 * (← hexValue? a) + 0x100 * (← hexValue? b) + 0x10 * (← hexValue? c)
    + (← hexValue? d)

/-- The character that a letter behind a backslash stands for. -/
def escaped? (letter : Char) : Option Char :=
  match letter with
  | '\x22' => some '\x22'
  | '\\' => some '\\'
  | '/' => some '/'
  | 'b' => some '\x08'
  | 'f' => some '\x0c'
  | 'n' => some '\n'
  | 'r' => some '\r'
  | 't' => some '\t'
  | _ => none

/-- The pieces of a string up to its closing quote, and the text behind. -/
def pieces? : List Char → Option (List Piece × List Char)
  | [] => none
  | '\x22' :: rest => some ([], rest)
  | '\\' :: 'u' :: a :: b :: c :: d :: rest => do
    let unit ← unit? a b c d
    let (others, behind) ← pieces? rest
    return (.unit unit :: others, behind)
  | '\\' :: letter :: rest => do
    let c ← escaped? letter
    let (others, behind) ← pieces? rest
    return (.char c :: others, behind)
  | c :: rest => do
    if c.toNat < 0x20 then none
    else
      let (others, behind) ← pieces? rest
      return (.char c :: others, behind)

/-- The characters that pieces make up, if every surrogate has its other half next to it. -/
def chars? : List Piece → Option (List Char)
  | [] => some []
  | .char c :: rest => return c :: (← chars? rest)
  | .unit high :: .unit low :: rest =>
    if 0xD800 ≤ high && high ≤ 0xDBFF && 0xDC00 ≤ low && low ≤ 0xDFFF then
      return Char.ofNat (0x10000 + 0x400 * (high - 0xD800) + (low - 0xDC00)) :: (← chars? rest)
    else if 0xD800 ≤ high && high ≤ 0xDFFF then none
    else return Char.ofNat high :: (← chars? (.unit low :: rest))
  | .unit n :: rest =>
    if 0xD800 ≤ n && n ≤ 0xDFFF then none else return Char.ofNat n :: (← chars? rest)

theorem length_lt_of_pieces? {text behind : List Char} {ps : List Piece}
    (h : pieces? text = some (ps, behind)) :
  behind.length < text.length
  := by
  fun_induction pieces? text generalizing ps behind with
  | case1 => simp at h
  | case2 rest => simp_all
  | case3 a b c d rest ih =>
    simp only [Option.bind_eq_bind, Option.bind_eq_some_iff, Option.pure_def, Option.some.injEq,
      Prod.mk.injEq, Prod.exists] at h
    obtain ⟨_, _, _, _, h, _, rfl⟩ := h
    have := ih h
    simp only [List.length_cons]
    omega
  | case4 letter rest _ ih =>
    simp only [Option.bind_eq_bind, Option.bind_eq_some_iff, Option.pure_def, Option.some.injEq,
      Prod.mk.injEq, Prod.exists] at h
    obtain ⟨_, _, _, _, h, _, rfl⟩ := h
    have := ih h
    simp only [List.length_cons]
    omega
  | case5 => simp at h
  | case6 c rest _ _ _ _ ih =>
    simp only [Option.bind_eq_bind, Option.bind_eq_some_iff, Option.pure_def, Option.some.injEq,
      Prod.mk.injEq, Prod.exists] at h
    obtain ⟨_, _, h, _, rfl⟩ := h
    have := ih h
    simp only [List.length_cons]
    omega

/-! ### Numbers and words -/

/-- Whether a character is an ASCII digit. -/
def isDigit (c : Char) : Bool := 0x30 ≤ c.toNat && c.toNat ≤ 0x39

/-- Whether a character can be part of a number. -/
def inNumber (c : Char) : Bool :=
  isDigit c || c == '-' || c == '+' || c == '.' || c == 'e' || c == 'E'

/-- Whether what follows the digits before the point is a fraction, an exponent, both or
nothing. -/
def isScale (text : List Char) : Bool :=
  let exponent (text : List Char) : Bool := match text with
    | [] => true
    | e :: rest =>
      let digits := match rest with
        | '+' :: digits => digits
        | '-' :: digits => digits
        | digits => digits
      (e == 'e' || e == 'E') && !digits.isEmpty && digits.all isDigit
  match text with
  | '.' :: rest => !(rest.takeWhile isDigit).isEmpty && exponent (rest.dropWhile isDigit)
  | rest => exponent rest

/-- The number that a text writes. -/
def number? (text : List Char) : Option Value :=
  let (negative, unsigned) := match text with
    | '-' :: rest => (true, rest)
    | rest => (false, rest)
  let whole := unsigned.takeWhile isDigit
  let scale := unsigned.dropWhile isDigit
  if whole.isEmpty || (whole.head? == some '0' && whole.length != 1) || !isScale scale then none
  else if negative || !scale.isEmpty then some (.number none)
  else some (.number (Text.decimal? Text.wordMax (whole.map Char.toNat)))

/-- The value that a word stands for. -/
def word? (text : List Char) : Option Value :=
  match String.ofList text with
  | "null" => some .null
  | "true" => some (.bool true)
  | "false" => some (.bool false)
  | _ => none

/-! ### Tokens -/

/-- Whether a character may stand between tokens. -/
def isBlank (c : Char) : Bool := c == ' ' || c == '\n' || c == '\t' || c == '\r'

/-- The tokens of a text. -/
def tokens? : List Char → Option (List Token)
  | [] => some []
  | c :: rest =>
    if isBlank c then tokens? rest
    else if c == '[' then return .beginList :: (← tokens? rest)
    else if c == ']' then return .endList :: (← tokens? rest)
    else if c == '\x7b' then return .beginObject :: (← tokens? rest)
    else if c == '\x7d' then return .endObject :: (← tokens? rest)
    else if c == ':' then return .colon :: (← tokens? rest)
    else if c == ',' then return .comma :: (← tokens? rest)
    else if c == '\x22' then
      match _h : pieces? rest with
      | none => none
      | some (ps, behind) =>
        return .scalar (.string ((chars? ps).map String.ofList)) :: (← tokens? behind)
    else if c.isAlpha then do
      let value ← word? (c :: rest.takeWhile Char.isAlpha)
      return .scalar value :: (← tokens? (rest.dropWhile Char.isAlpha))
    else do
      let value ← number? (c :: rest.takeWhile inNumber)
      return .scalar value :: (← tokens? (rest.dropWhile inNumber))
termination_by text => text.length
decreasing_by
  all_goals simp only [List.length_cons]
  all_goals try omega
  · have := length_lt_of_pieces? _h
    omega
  · have := (List.dropWhile_suffix Char.isAlpha (l := rest)).length_le
    omega
  · have := (List.dropWhile_suffix inNumber (l := rest)).length_le
    omega

/-! ### Values -/

/-- A list or an object that is still open, the latest content first, or the whole document. -/
inductive Frame
  | list (items : List Value)
  | object (members : List (Option String × Value))
  /-- An object with a key whose value is still to come. -/
  | member (key : Option String) (members : List (Option String × Value))
  | whole (value : Value)

/-- What may come next. -/
inductive Awaiting
  | value
  /-- The first item of a list, or its end. -/
  | firstItem
  | key
  /-- The first key of an object, or its end. -/
  | firstKey
  | colon
  /-- A comma, or the end of the list or object. -/
  | separator
  | nothing

/-- A value takes its place in what is open. -/
def place? (value : Value) : List Frame → Option (Awaiting × List Frame)
  | [] => some (.nothing, [.whole value])
  | .list items :: open_ => some (.separator, .list (value :: items) :: open_)
  | .member key members :: open_ => some (.separator, .object ((key, value) :: members) :: open_)
  | _ => none

/-- Takes a token. -/
def take? : Awaiting × List Frame → Token → Option (Awaiting × List Frame)
  | (.value, open_), .beginList | (.firstItem, open_), .beginList =>
    some (.firstItem, .list [] :: open_)
  | (.value, open_), .beginObject | (.firstItem, open_), .beginObject =>
    some (.firstKey, .object [] :: open_)
  | (.value, open_), .scalar value | (.firstItem, open_), .scalar value => place? value open_
  | (.firstItem, .list items :: open_), .endList
  | (.separator, .list items :: open_), .endList => place? (.list items.reverse) open_
  | (.firstKey, .object members :: open_), .endObject
  | (.separator, .object members :: open_), .endObject => place? (.object members.reverse) open_
  | (.key, .object members :: open_), .scalar (.string key)
  | (.firstKey, .object members :: open_), .scalar (.string key) =>
    some (.colon, .member key members :: open_)
  | (.colon, open_), .colon => some (.value, open_)
  | (.separator, .list items :: open_), .comma => some (.value, .list items :: open_)
  | (.separator, .object members :: open_), .comma => some (.key, .object members :: open_)
  | _, _ => none

/-- The value of a document. -/
def parse? (text : String) : Option Value := do
  let tokens ← tokens? text.toList
  match ← tokens.foldlM take? (.value, []) with
  | (.nothing, [.whole value]) => some value
  | _ => none

end BoundedLog.Document
