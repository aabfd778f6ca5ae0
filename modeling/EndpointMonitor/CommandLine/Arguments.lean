import EndpointMonitor.Log
import EndpointMonitor.Text.Split

/-!
# Arguments of the command line

An option has a long name and a letter. The value of an option is the next argument, or it
stands behind an equals sign or directly behind the letter, and letters without values may
follow one hyphen together. An option may be given once. Its value is taken over when the next
option is read, so a fault of a later option that is unknown comes first.
-/

namespace EndpointMonitor

/-- The arguments of the agent. -/
structure Arguments where
  /-- The path of the configuration. -/
  config : Option String := none
  verbose : Bool := false
  deriving DecidableEq, Inhabited

/-- Why the agent does not start with its arguments. -/
inductive ArgumentFault where
  /-- The arguments ask for help. -/
  | help
  | unknown
  | repeated
  | missingValue
  | unexpectedValue
  deriving DecidableEq, Inhabited

/-- The wording of an argument fault. -/
def ArgumentFault.message : ArgumentFault → String
  | .help => "help is asked for"
  | .unknown => "unexpected argument found"
  | .repeated => "an argument cannot be used multiple times"
  | .missingValue => "a value is required"
  | .unexpectedValue => "unexpected value found"

/-- The value of an option that is still being read. -/
inductive PendingValue where
  | nothing
  /-- The next argument is the value. -/
  | awaited
  | given (value : String)
  deriving DecidableEq, Inhabited

/-- The arguments read so far. -/
structure ArgumentReader where
  arguments : Arguments := {}
  pending : PendingValue := .nothing
  deriving DecidableEq, Inhabited

namespace ArgumentReader

/-- Take over the value of the path of the configuration. -/
def setConfig (r : ArgumentReader) (value : String) : Except ArgumentFault ArgumentReader :=
  if r.arguments.config.isSome then .error .repeated
  else if value.isEmpty then .error .missingValue
  else .ok { arguments := { r.arguments with config := some value } }

/-- Take over the value that is being read. -/
def settle (r : ArgumentReader) : Except ArgumentFault ArgumentReader :=
  match r.pending with
  | .nothing => .ok r
  | .awaited => .error .missingValue
  | .given value => r.setConfig value

/-- The option for the path of the configuration, with or without its value. -/
def readConfig (r : ArgumentReader) : Option String → Except ArgumentFault ArgumentReader
  | some value => r.settle >>= (·.setConfig value)
  | none => r.settle.map fun r => { r with pending := .awaited }

/-- The option for a log with every detail. -/
def readVerbose (r : ArgumentReader) : Except ArgumentFault ArgumentReader := do
  let r ← r.settle
  if r.arguments.verbose then .error .repeated
  else return { r with arguments := { r.arguments with verbose := true } }

/-- The option that asks for help. -/
def readHelp (r : ArgumentReader) : Except ArgumentFault ArgumentReader :=
  r.settle >>= fun _ => .error .help

/-- An option with a long name. -/
def readLong (r : ArgumentReader) (name : String) (value : Option String) :
    Except ArgumentFault ArgumentReader :=
  match name, value with
  | "config", value => r.readConfig value
  | "verbose", none => r.readVerbose
  | "help", none => r.readHelp
  | "verbose", some _ | "help", some _ => .error .unexpectedValue
  | _, _ => .error .unknown

/-- The value that stands directly behind a letter. -/
def attachedValue : List Char → Option String
  | [] => none
  | '=' :: rest => some (String.ofList rest)
  | rest => some (String.ofList rest)

/-- Options with letters. -/
def readLetters (r : ArgumentReader) : List Char → Except ArgumentFault ArgumentReader
  | [] => .ok r
  | 'c' :: rest => r.readConfig (attachedValue rest)
  | 'v' :: rest => r.readVerbose >>= fun r => readLetters r rest
  | 'h' :: _ => r.readHelp
  | _ :: _ => .error .unknown

/-- An argument that is no option. -/
def readPlain (r : ArgumentReader) (argument : String) : Except ArgumentFault ArgumentReader :=
  if r.pending = .awaited then .ok { r with pending := .given argument } else .error .unknown

/-- The name of a long option, and its value behind an equals sign. -/
def splitLong (cs : List Char) : String × Option String :=
  match Text.splitFirst '=' cs with
  | some (name, value) => (String.ofList name, some (String.ofList value))
  | none => (String.ofList cs, none)

/-- Read arguments one after the other. No option follows two hyphens, and nothing else does. -/
def readAll : ArgumentReader → List String → Except ArgumentFault ArgumentReader
  | r, [] => r.settle
  | r, argument :: rest =>
    match argument.toList with
    | ['-', '-'] => if rest.isEmpty then r.settle else .error .unknown
    | '-' :: '-' :: cs =>
      let (name, value) := splitLong cs
      r.readLong name value >>= (readAll · rest)
    | '-' :: c :: cs => r.readLetters (c :: cs) >>= (readAll · rest)
    | _ => r.readPlain argument >>= (readAll · rest)

end ArgumentReader

namespace Arguments

/-- Read the arguments of the command line. -/
def read (arguments : List String) : Except ArgumentFault Arguments :=
  (ArgumentReader.readAll {} arguments).map (·.arguments)

/-- What stands at a path. -/
inductive PathContent where
  | nothing
  | directory
  | file (bytes : ByteArray)

/-- The fault of the path of a configuration: something that is no file. -/
def pathFault? (path : String) : PathContent → Option String
  | .directory => some ("Configuration path is not a file: " ++ path)
  | _ => none

/-- Whether a path names a directory whatever there is: it leads to the root, to the directory
it starts from, or above. -/
def namesDirectory (path : String) : Bool :=
  !path.isEmpty && (Text.pieces '/' path.toList).all [[], ['.'], ['.', '.']].contains

/-- The last part of a path. -/
def fileName (path : String) : List Char :=
  let parts := (Text.pieces '/' path.toList).filter fun part => part ≠ [] ∧ part ≠ ['.']
  (parts.getLast?.filter (· ≠ ['.', '.'])).getD []

/-- The extension of a path, unless the last part of the path has no other dot than its first
character. -/
def extension? (path : String) : Option String :=
  match Text.splitFirst '.' (fileName path).reverse with
  | some (extension, _ :: _) => some (String.ofList extension.reverse)
  | _ => none

/-- The warning about a configuration that has an unusual extension. -/
def pathWarning? (path : String) : Option LogLine :=
  match extension? path with
  | none | some "toml" => none
  | some _ => some ⟨.warn, "Configuration file does not have .toml extension: " ++ path⟩

end Arguments

end EndpointMonitor
