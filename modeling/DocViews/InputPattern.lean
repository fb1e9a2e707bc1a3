import DocViews.FilePattern
import DocViews.Path
import DocViews.Text.Quoted

/-!
# Input patterns

The input of a run is given as a path whose last name is a file pattern, such as `Docs/*.md`.  The
folder part is the input root.  Documents are looked for at any depth below the root, so the folder
part is cut before its first step with a wildcard, and nothing is lost: `Docs/**/*.md` and
`Docs/*.md` say the same.
-/

set_option autoImplicit false

namespace DocViews

structure InputPattern where
  root : Path
  files : FilePattern
deriving DecidableEq, Repr

inductive InputError where
  | noFilePattern (input : Text)
  | badPattern (e : PatternError)
deriving DecidableEq, Repr

namespace InputError

def message : InputError → Text
  | noFilePattern input =>
    "Input pattern has no file name part: ".toList ++ Text.quoted input
  | badPattern e => "Invalid file pattern: ".toList ++ e.message

end InputError

namespace InputPattern

/-- Whether a step of a path holds a wildcard. -/
def hasWildcard (step : Component) : Bool :=
  step.text.any fun c => c = '*' || c = '?' || c = '['

/-- The steps of the input root. -/
def rootSteps (input : Path) : List Component :=
  input.folderComponents.takeWhile (!hasWildcard ·)

/-- The input root; without any step it is the working folder. -/
def rootOf (input : Path) : Path :=
  match rootSteps input with
  | [] => ⟨['.']⟩
  | steps => Path.ofComponents steps

def ofText (input : Text) : Except InputError InputPattern :=
  match Path.fileName? ⟨input⟩ with
  | none => .error (.noFilePattern input)
  | some name =>
    match FilePattern.ofText name with
    | .error e => .error (.badPattern e)
    | .ok files => .ok ⟨rootOf ⟨input⟩, files⟩

end InputPattern
end DocViews
