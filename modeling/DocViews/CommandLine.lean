import DocViews.Conversion.Run
import DocViews.Settings.Stock

/-!
# The command line

    docs-codegen [-v] convert PATTERN OUTPUT [DESCRIPTOR] [--config FILE]
    docs-codegen [-v] gen-config
    docs-codegen help [COMMAND]
    docs-codegen --version

Arguments are read from left to right, and the first one that asks for help, asks for the version,
or cannot stand where it stands decides.  Behind two hyphens every argument is taken as it is.

`CommandLine.run` gives the exit code and the text for the standard output.  The code is 0 unless the
arguments are wrong, the run stops early, or a document fails.
-/

set_option autoImplicit false

namespace DocViews
namespace CommandLine

/-- What the arguments ask for. -/
inductive Action where
  | convert (request : Request)
  | stockSettings
  | version
  | help
deriving DecidableEq, Repr

inductive UsageError where
  | unexpected (argument : Text)
  | repeated (option : Text)
  | missingValue (option : Text)
  | missingCommand
  | missingArguments
deriving DecidableEq, Repr

namespace UsageError

def message : UsageError → Text
  | unexpected argument => "unexpected argument ".toList ++ Text.quoted argument
  | repeated option => "the option ".toList ++ option ++ " cannot be used twice".toList
  | missingValue option => "a value is required for ".toList ++ option
  | missingCommand => "a command is required".toList
  | missingArguments => "an input pattern and an output folder are required".toList

end UsageError

/-! ## Options without values -/

/-- What an option without a value does. -/
inductive Switch where
  | verbose
  | version
  | help
deriving DecidableEq, Repr

/-- The options of one letter.  The version is known outside of commands only. -/
def letter? (inCommand : Bool) (c : Char) : Option Switch :=
  if c = 'v' then some .verbose
  else if c = 'h' then some .help
  else if c = 'V' && !inCommand then some .version
  else none

def word? (inCommand : Bool) (argument : Text) : Option Switch :=
  if argument = "--verbose".toList then some .verbose
  else if argument = "--help".toList then some .help
  else if argument = "--version".toList && !inCommand then some .version
  else none

/-- The options that an argument stands for; several letters may share one hyphen. -/
def switches (inCommand : Bool) (argument : Text) : List (Option Switch) :=
  match argument with
  | '-' :: '-' :: _ => [word? inCommand argument]
  | _ => argument.tail.map (letter? inCommand)

/-- Whether an argument is an option. -/
def isOption (argument : Text) : Bool :=
  argument.head? = some '-' && argument ≠ ['-']

/-- What is known after an argument with options: an answer, or whether the run is verbose. -/
def applySwitches (argument : Text) (verbose : Bool) :
    List (Option Switch) → Except UsageError (Action ⊕ Bool)
  | [] => .ok (.inr verbose)
  | none :: _ => .error (.unexpected argument)
  | some .help :: _ => .ok (.inl .help)
  | some .version :: _ => .ok (.inl .version)
  | some .verbose :: rest =>
    if verbose then .error (.repeated "--verbose".toList)
    else applySwitches argument true rest

/-! ## The arguments of a command -/

/-- The arguments of a conversion that have been read. -/
structure Given where
  /-- The arguments without a name, in order. -/
  places : List Text
  settingsFile : Option Path

namespace Given

/-- Takes an argument without a name.  There are three at most, and the paths among them are not
empty. -/
def add (given : Given) (argument : Text) : Except UsageError Given :=
  if 3 ≤ given.places.length then .error (.unexpected argument)
  else if given.places ≠ [] && argument = [] then .error (.missingValue "a path".toList)
  else .ok { given with places := given.places ++ [argument] }

def addAll (given : Given) : List Text → Except UsageError Given
  | [] => .ok given
  | argument :: rest => do
    let next ← given.add argument
    next.addAll rest

/-- Takes the value of the option for the settings file. -/
def addSettings (given : Given) (value : Text) : Except UsageError Given :=
  if value = [] then .error (.missingValue "--config".toList)
  else if given.settingsFile.isSome then .error (.repeated "--config".toList)
  else .ok { given with settingsFile := some ⟨value⟩ }

def finish (given : Given) : Except UsageError Action :=
  match given.places with
  | [pattern, output] => .ok (.convert ⟨pattern, ⟨output⟩, none, given.settingsFile⟩)
  | [pattern, output, descriptor] =>
    .ok (.convert ⟨pattern, ⟨output⟩, some ⟨descriptor⟩, given.settingsFile⟩)
  | _ => .error .missingArguments

end Given

/-- Reads the arguments of a conversion. -/
def readConvert (verbose : Bool) (given : Given) : List Text → Except UsageError Action
  | [] => given.finish
  | argument :: rest =>
    if argument = ['-', '-'] then do
      let given ← given.addAll rest
      given.finish
    else if argument = "--config".toList then
      match rest with
      | [] => .error (.missingValue argument)
      | value :: rest =>
        if isOption value then .error (.missingValue argument)
        else do
          let given ← given.addSettings value
          readConvert verbose given rest
    else
      match List.isPrefixOf? "--config=".toList argument with
      | some value => do
        let given ← given.addSettings value
        readConvert verbose given rest
      | none =>
        if isOption argument then do
          match ← applySwitches argument verbose (switches true argument) with
          | .inl action => return action
          | .inr verbose => readConvert verbose given rest
        else do
          let given ← given.add argument
          readConvert verbose given rest

/-- Reads the arguments of a command that has none but the common options. -/
def readBare (action : Action) (verbose : Bool) : List Text → Except UsageError Action
  | [] => .ok action
  | argument :: rest =>
    if argument = ['-', '-'] then
      match rest with
      | [] => .ok action
      | extra :: _ => .error (.unexpected extra)
    else if isOption argument then do
      match ← applySwitches argument verbose (switches true argument) with
      | .inl found => return found
      | .inr verbose => readBare action verbose rest
    else .error (.unexpected argument)

def commandNames : List Text := ["convert".toList, "gen-config".toList, "help".toList]

/-- Reads what help is asked for. -/
def readHelp : List Text → Except UsageError Action
  | [] => .ok .help
  | [name] => if commandNames.contains name then .ok .help else .error (.unexpected name)
  | _ :: extra :: _ => .error (.unexpected extra)

/-! ## All arguments -/

def read (verbose : Bool) : List Text → Except UsageError Action
  | [] => .error .missingCommand
  | argument :: rest =>
    if argument = "convert".toList then readConvert false ⟨[], none⟩ rest
    else if argument = "gen-config".toList then readBare .stockSettings false rest
    else if argument = "help".toList then readHelp rest
    else if isOption argument && argument ≠ ['-', '-'] then do
      match ← applySwitches argument verbose (switches false argument) with
      | .inl action => return action
      | .inr verbose => read verbose rest
    else .error (.unexpected argument)

/-! ## Running -/

def versionText : Text := "docs-codegen 0.4.0\n".toList

def helpLines : List String := [
  "Generate app view classes from markdown documentation",
  "",
  "Usage: docs-codegen [OPTIONS] <COMMAND>",
  "",
  "Commands:",
  "  convert     Generate one file per matched markdown document",
  "  gen-config  Print a stock docgen.toml with all options documented",
  "  help        Print this message",
  "",
  "Options:",
  "  -v, --verbose  Log pipeline progress",
  "  -h, --help     Print help",
  "  -V, --version  Print version"]

def helpText : Text :=
  helpLines.flatMap fun line => line.toList ++ ['\n']

/-- How a command ends: the exit code, and the texts for the two outputs. -/
structure Ending where
  code : Nat
  output : Text
  complaint : Text
deriving DecidableEq, Repr

variable {m : Type → Type} [Monad m] [Disk m]

def ofReport (report : Report) : Ending :=
  { code := if report.succeeded then 0 else 1
    output := report.lines.flatMap (· ++ ['\n'])
    complaint := if report.succeeded then [] else report.failureMessage }

def perform : Action → m Ending
  | .version => return ⟨0, versionText, []⟩
  | .help => return ⟨0, helpText, []⟩
  | .stockSettings => return ⟨0, Settings.stockText, []⟩
  | .convert request => do
    match ← Conversion.run request with
    | .ok report => return ofReport report
    | .error e => return ⟨1, [], e.message⟩

/-- Runs the program with its arguments. -/
def run (arguments : List Text) : m Ending :=
  match read false arguments with
  | .error e => return ⟨1, [], e.message⟩
  | .ok action => perform action

end CommandLine
end DocViews
