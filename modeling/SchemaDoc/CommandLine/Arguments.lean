-- SUMMARY: Reading the arguments of the command line.
import SchemaDoc.CommandLine.Command
import SchemaDoc.Text.Lines

/-!
# Arguments

Arguments are read one by one into a request. Switches that come before the name
of the command belong to the program, later ones to the command. A switch is a
flag or takes a value, which follows a long name after `=`, a short name
directly or after `=`, or is the next argument. After `--` every argument is a
path.

The last option or group of paths stays open until the next known switch, the
first path after an option, or the end: only then is it checked and stored. So
`--config` without a value is no fault as long as an unknown argument comes
first.
-/

namespace SchemaDoc.CommandLine

/-! ## Switches -/

/-- What a name after a hyphen can mean. -/
inductive Switch where
  | verbose
  | help
  | version
  | config
  | extensions
  | only
  deriving DecidableEq, Repr

namespace Switch

/-- Whether a value belongs to the switch. -/
def takesValue : Switch → Bool
  | .verbose | .help | .version => false
  | .config | .extensions | .only => true

/-- The switch with a long name, which follows `--`. -/
def ofLong? : String → Option Switch
  | "verbose" => some .verbose
  | "help" => some .help
  | "version" => some .version
  | "config" => some .config
  | "graphql-file-exts" => some .extensions
  | "only" => some .only
  | _ => none

/-- The switch with a short name, which follows `-`. -/
def ofShort? : Char → Option Switch
  | 'v' => some .verbose
  | 'h' => some .help
  | 'V' => some .version
  | 'c' => some .config
  | _ => none

end Switch

/-- What arguments are addressed to. -/
inductive Scope where
  | program
  | list
  | render
  deriving DecidableEq, Repr

/-- Whether a switch is known here. -/
def Scope.knows : Scope → Switch → Bool
  | _, .verbose | _, .help => true
  | .program, switch => switch = .version
  | .list, switch => switch = .config || switch = .extensions
  | .render, switch => switch = .config || switch = .extensions || switch = .only

def Scope.long? (scope : Scope) (name : String) : Option Switch :=
  (Switch.ofLong? name).filter scope.knows

def Scope.short? (scope : Scope) (name : Char) : Option Switch :=
  (Switch.ofShort? name).filter scope.knows

/-! ## Arguments -/

/-- An argument by its form. -/
inductive Argument where
  /-- The argument `--`. -/
  | separator
  | long (name : String) (value : Option String)
  /-- Short names in a row; the value of the last may follow. -/
  | short (names : List Char)
  | word (text : String)
  deriving DecidableEq, Repr

/-- A long name and the value behind the first `=`. -/
def Argument.ofLong (cs : List Char) : Argument :=
  let name := String.ofList (cs.takeWhile (· ≠ '='))
  match cs.dropWhile (· ≠ '=') with
  | _ :: value => .long name (some (String.ofList value))
  | [] => .long name none

/-- The form of an argument; a lone hyphen is a word. -/
def Argument.ofString (text : String) : Argument :=
  match text.toList with
  | ['-', '-'] => .separator
  | '-' :: '-' :: cs => .ofLong cs
  | '-' :: c :: cs => .short (c :: cs)
  | _ => .word text

/-! ## Requests -/

/-- What is open: it was read, but not yet checked and stored. -/
inductive Open where
  | nothing
  | option (switch : Switch) (value : Option String)
  | paths (texts : List String)
  deriving DecidableEq, Repr

/-- What the arguments read so far ask for. -/
structure Request where
  verbose : Bool
  config : Option String
  extensions : List String
  only : List String
  paths : List String
  pending : Open
  deriving DecidableEq, Repr

namespace Request

def empty : Request where
  verbose := false
  config := none
  extensions := []
  only := []
  paths := []
  pending := .nothing

/-- Stores the value of an option. -/
def store (request : Request) (switch : Switch) (value : String) : Except Usage Request :=
  match switch with
  | .config =>
    if request.config.isSome then .error .repeated
    else if value.isEmpty then .error .badValue
    else .ok { request with config := some value }
  | .extensions => .ok { request with extensions := request.extensions ++ Text.split ',' value }
  | .only => .ok { request with only := request.only ++ Text.split ',' value }
  | .verbose | .help | .version => .ok request

/-- Checks and stores what is open. -/
def settle (request : Request) : Except Usage Request :=
  let settled := { request with pending := .nothing }
  match request.pending with
  | .nothing => .ok settled
  | .option _ none => .error .badValue
  | .option switch (some value) => settled.store switch value
  | .paths texts =>
    if texts.any String.isEmpty then .error .badValue
    else .ok { settled with paths := settled.paths ++ texts }

/-- A flag. -/
def flag (request : Request) (switch : Switch) : Except Usage Request := do
  let request ← request.settle
  match switch with
  | .help => .error .help
  | .version => .error .version
  | _ => if request.verbose then .error .repeated else .ok { request with verbose := true }

/-- An option together with its value. -/
def option (request : Request) (switch : Switch) (value : String) : Except Usage Request := do
  (← request.settle).store switch value

/-- An option whose value is to follow. -/
def await (request : Request) (switch : Switch) : Except Usage Request := do
  return { ← request.settle with pending := .option switch none }

/-- A path. -/
def path (request : Request) (text : String) : Except Usage Request :=
  match request.pending with
  | .paths texts => .ok { request with pending := .paths (texts ++ [text]) }
  | _ => do return { ← request.settle with pending := .paths [text] }

/-- A word is the value that an option waits for, or else a path. -/
def word (request : Request) (text : String) : Except Usage Request :=
  match request.pending with
  | .option switch none => .ok { request with pending := .option switch (some text) }
  | _ => request.path text

/-- Short names in a row; the first that takes a value ends the row. -/
def short (scope : Scope) (request : Request) : List Char → Except Usage Request
  | [] => .ok request
  | name :: cs =>
    match scope.short? name with
    | none => .error .unknownArgument
    | some switch =>
      if switch.takesValue then
        match cs with
        | [] => request.await switch
        | '=' :: value => request.option switch (String.ofList value)
        | value => request.option switch (String.ofList value)
      else do short scope (← request.flag switch) cs

/-- A long name, possibly with a value. -/
def long (scope : Scope) (request : Request) (name : String) (value : Option String) :
    Except Usage Request :=
  match scope.long? name, value with
  | none, _ => .error .unknownArgument
  | some switch, none => if switch.takesValue then request.await switch else request.flag switch
  | some switch, some value =>
    if switch.takesValue then request.option switch value else .error .surplusValue

/-- The arguments of a command. -/
def read (scope : Scope) (request : Request) : List String → Except Usage Request
  | [] => request.settle
  | arg :: args =>
    match Argument.ofString arg with
    | .separator => do (← args.foldlM path request).settle
    | .long name value => do read scope (← request.long scope name value) args
    | .short names => do read scope (← request.short scope names) args
    | .word text => do read scope (← request.word text) args

/-- The sources that a finished request names. -/
def sources (request : Request) : Except Usage Sources :=
  if request.paths.isEmpty then .error .missingPath
  else .ok {
    config := request.config
    extensions :=
      if request.extensions.isEmpty then Sources.defaultExtensions else request.extensions
    paths := request.paths }

end Request

/-! ## Commands -/

namespace Command

/-- The names that stand for a command. -/
def names : List String := ["list", "render", "help"]

/-- The arguments after the name of a command. -/
def ofCommandArgs (verbose : Bool) (scope : Scope) (args : List String) : Except Usage Command := do
  let request ← Request.empty.read scope args
  let sources ← request.sources
  return {
    verbose := verbose || request.verbose
    action := if scope = .render then .render request.only else .list
    sources }

/-- The arguments after `help`: the commands on the way to the one in question. -/
def helpTopic : List String → Usage
  | [] => .help
  | [topic] => if names.contains topic then .help else .unknownCommand
  | _ => .unknownCommand

/-- Arguments that end without a command. -/
def withoutName (request : Request) : Usage :=
  if request.verbose then .missingCommand else .helpByDefault

/-- No command can follow `--`. -/
def afterSeparator (request : Request) : List String → Usage
  | [] => withoutName request
  | text :: _ => if names.contains text then .unknownArgument else .unknownCommand

/-- Reads arguments, some flags of the program being read already. -/
def ofArgsAfter (request : Request) : List String → Except Usage Command
  | [] => .error (withoutName request)
  | arg :: args =>
    match Argument.ofString arg with
    | .separator => .error (afterSeparator request args)
    | .long name value => do ofArgsAfter (← request.long .program name value) args
    | .short names => do ofArgsAfter (← request.short .program names) args
    | .word "list" => ofCommandArgs request.verbose .list args
    | .word "render" => ofCommandArgs request.verbose .render args
    | .word "help" => .error (helpTopic args)
    | .word _ => .error .unknownCommand

/-- The command that the arguments of the program give. -/
def ofArgs (args : List String) : Except Usage Command :=
  ofArgsAfter .empty args

end Command

end SchemaDoc.CommandLine
