-- SUMMARY: How much the program logs.
import SchemaDoc.CommandLine.Command
import SchemaDoc.Text.Blank

/-!
# Log levels

The level comes from the flag of the command or from the environment. A value
that names no level gives the default level and a warning.
-/

namespace SchemaDoc.CommandLine

/-- How much is logged. -/
inductive LogLevel where
  | error
  | warn
  | info
  | debug
  | trace
  deriving DecidableEq, Repr, Inhabited

namespace LogLevel

/-- From the most severe to the most detailed. -/
def all : List LogLevel := [.error, .warn, .info, .debug, .trace]

def name : LogLevel → String
  | .error => "ERROR"
  | .warn => "WARN"
  | .info => "INFO"
  | .debug => "DEBUG"
  | .trace => "TRACE"

/-- The level in use where nothing else is said. -/
def default : LogLevel := .info

/-- A number in decimal, possibly after a plus sign. -/
def number? (cs : List Char) : Option Nat :=
  let digits := match cs with
    | '+' :: digits => digits
    | digits => digits
  if digits.isEmpty || !digits.all Char.isDigit then none
  else some (digits.foldl (fun n c => 10 * n + (c.toNat - '0'.toNat)) 0)

/-- A level by its number, counted from 1, or by its name in letters of either case. -/
def ofString? (text : String) : Option LogLevel :=
  match number? text.toList with
  | some n => if n = 0 then none else all[n - 1]?
  | none => all.find? (·.name.toLower == text.toLower)

/-- The level that a value of the environment asks for, and a warning if it asks for none. -/
def ofEnvironment (value : String) : LogLevel × Option String :=
  let text := Text.trimmed value
  if text.toLower == "verbose" then (.debug, none)
  else match ofString? text with
    | some level => (level, none)
    | none => (default, some ("Invalid `LOG_LEVEL` environment variable value: `" ++ text ++ "`"))

end LogLevel

/-- The level of a command. Asking for verbosity overrides the environment. -/
def Command.logLevel (command : Command) (environment : Option String) : LogLevel × Option String :=
  if command.verbose then (.debug, none)
  else match environment with
    | some value => LogLevel.ofEnvironment value
    | none => (.default, none)

end SchemaDoc.CommandLine
