import BoundedLog.Text.Alphanumeric
import BoundedLog.Text.Blank
import BoundedLog.Text.Decimal

/-!
# What is logged

What is logged is chosen by directives separated by commas, each of which sets the level of one
target or of all others. A target without a level is logged in full. If any directive is none,
the level is the standard one.

A variable for this server goes before one for all programs, and both go before the settings.
-/

namespace BoundedLog.Verbosity

/-- How much is logged. -/
inductive Level
  | off
  | error
  | warn
  | info
  | debug
  | trace
  deriving DecidableEq, Repr

/-- The levels, from the one that logs least on. -/
def Level.all : List Level := [.off, .error, .warn, .info, .debug, .trace]

/-- The name of a level. -/
def Level.name : Level → String
  | off => "off"
  | error => "error"
  | warn => "warn"
  | info => "info"
  | debug => "debug"
  | trace => "trace"

/-- The level with a name, in capitals or not, or with a number counted from zero. -/
def Level.ofText? (text : String) : Option Level :=
  match Text.signedDecimal? Text.wordMax (text.toList.map Char.toNat) with
  | some n => Level.all[n]?
  | none => Level.all.find? (·.name == text.map Char.toLower)

/-- The level of one target, or of all targets that no directive names. -/
structure Directive where
  target : Option String
  level : Level
  deriving DecidableEq, Repr

/-- Whether a directive can start with a character. -/
def canStart (c : Char) : Bool := c == '-' || c == ':' || c == '_' || Text.isAlphanumeric c

/-- The directive that a text without an equals sign writes: a level, or a target. -/
def Directive.ofWord (text : String) : Directive :=
  match Level.ofText? text with
  | some level => ⟨none, level⟩
  | none => ⟨some text, .trace⟩

/-- The directive that a target and the text of its level write. -/
def Directive.ofParts? (target level : String) : Option Directive :=
  if level.isEmpty then some ⟨some target, .trace⟩
  else (Level.ofText? level).map fun l => ⟨some target, l⟩

/-- The directive that a text writes. Blanks in front of a target without a level belong to its
name, but a target with a level cannot have any. Brackets, which would select parts of a target,
write no directive. -/
def Directive.ofText? (text : String) : Option Directive := do
  let cs := text.toList
  let first ← cs.find? (!Text.isBlank ·)
  if !canStart first then none
  else
    let target := cs.takeWhile (· != '=')
    if target.contains '[' then none
    else match cs.dropWhile (· != '=') with
      | [] => some (ofWord text)
      | _ :: level =>
        if cs.head?.any Text.isBlank then none
        else ofParts? (String.ofList target) (String.ofList level)

/-- The text of a directive. -/
def Directive.text (d : Directive) : String :=
  match d.target with
  | none => d.level.name
  | some target => target ++ "=" ++ d.level.name

/-- Whether a directive goes before another one: longer targets do, then later ones in the
alphabet, and last comes the one without a target. -/
def Directive.before (d other : Directive) : Bool :=
  match d.target, other.target with
  | none, _ => false
  | some _, none => true
  | some a, some b =>
    b.utf8ByteSize < a.utf8ByteSize || (a.utf8ByteSize == b.utf8ByteSize && b < a)

/-- Adds a directive to directives in order; it replaces one of the same target. -/
def insert (d : Directive) : List Directive → List Directive
  | [] => [d]
  | other :: rest =>
    if other.target == d.target then d :: rest
    else if d.before other then d :: other :: rest
    else other :: insert d rest

/-- The directives that a text writes, in order. Nothing between two commas says nothing. -/
def directives? (text : String) : Option (List Directive) := do
  let said ← ((text.splitOn ",").filter (· != "")).mapM Directive.ofText?
  return said.foldl (fun all d => insert d all) []

/-- The text of the directives that hold: those of a variable for this server, else those of a
variable for all programs, else the level of the settings. -/
def choose (own common : Option String) (level : String) : String :=
  match directives? ((own.or common).getD level) with
  | some all => ",".intercalate (all.map Directive.text)
  | none => Level.info.name

end BoundedLog.Verbosity
