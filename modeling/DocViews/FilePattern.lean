import DocViews.Text.Digits

/-!
# File patterns

A pattern for file names: `*` stands for any characters, `?` for any one, a class in brackets for
one of its characters, and every other character for itself.  A class may hold ranges and is turned
around by an exclamation mark; its first character may be a closing bracket.  Two stars are allowed
only as a whole pattern.

Matching goes from left to right and tries every length for a star.  The name may run out while the
pattern still asks for a character; then no other length of any star can help, so the search ends.
This keeps it from trying the stars in all combinations.
-/

set_option autoImplicit false

namespace DocViews

/-- One member of a class. -/
inductive ClassItem where
  | single (c : Char)
  | range (first last : Char)
deriving DecidableEq, Repr

inductive PatternToken where
  | char (c : Char)
  | anyChar
  | anyText
  | oneOf (items : List ClassItem)
  | noneOf (items : List ClassItem)
deriving DecidableEq, Repr

/-- A file pattern, taken apart. -/
structure FilePattern where
  tokens : List PatternToken
deriving DecidableEq, Repr

/-- What is wrong with a pattern, and at which character. -/
inductive PatternError where
  | tooManyStars (position : Nat)
  | joinedStars (position : Nat)
  | badClass (position : Nat)
deriving DecidableEq, Repr

namespace PatternError

def position : PatternError → Nat
  | tooManyStars n => n
  | joinedStars n => n
  | badClass n => n

def reason : PatternError → Text
  | tooManyStars _ => "wildcards are either regular \x60*\x60 or recursive \x60**\x60".toList
  | joinedStars _ => "recursive wildcards must form a single path component".toList
  | badClass _ => "invalid range pattern".toList

def message (e : PatternError) : Text :=
  "Pattern syntax error near position ".toList ++ Digits.ofNat e.position ++ ": ".toList ++
    e.reason

end PatternError

namespace FilePattern

/-! ## Reading -/

/-- The members of a class. -/
def classItems : Text → List ClassItem
  | a :: '-' :: b :: rest => .range a b :: classItems rest
  | a :: rest => .single a :: classItems rest
  | [] => []

/-- Cuts behind the class that starts with a character and goes on to the next closing bracket. -/
def cutClass? : Text → Option (Text × Text)
  | [] => none
  | first :: rest =>
    (Text.splitOnce? ']' rest).map fun (more, after) => (first :: more, after)

/-- Reads the class behind an opening bracket. -/
def readClass? (text : Text) : Option (PatternToken × Text) :=
  match text with
  | '!' :: rest => (cutClass? rest).map fun (items, after) => (.noneOf (classItems items), after)
  | _ => (cutClass? text).map fun (items, after) => (.oneOf (classItems items), after)

/-- Reads the tokens of a pattern from a position on. -/
def readTokens : Nat → Nat → Text → Except PatternError (List PatternToken)
  | 0, _, _ => .ok []
  | _ + 1, _, [] => .ok []
  | fuel + 1, position, c :: rest =>
    if c = '*' then
      let stars := (rest.takeWhile (· = '*')).length + 1
      let after := rest.dropWhile (· = '*')
      if 2 < stars then .error (.tooManyStars (position + 2))
      else if stars = 2 && position ≠ 0 then .error (.joinedStars (position - 1))
      else if stars = 2 && after ≠ [] then .error (.joinedStars 2)
      else do
        let tokens ← readTokens fuel (position + stars) after
        return .anyText :: tokens
    else if c = '?' then do
      let tokens ← readTokens fuel (position + 1) rest
      return .anyChar :: tokens
    else if c = '[' then
      match readClass? rest with
      | none => .error (.badClass position)
      | some (token, after) => do
        let tokens ← readTokens fuel (position + 1 + (rest.length - after.length)) after
        return token :: tokens
    else do
      let tokens ← readTokens fuel (position + 1) rest
      return .char c :: tokens

def ofText (text : Text) : Except PatternError FilePattern :=
  match readTokens (text.length + 1) 0 text with
  | .ok tokens => .ok ⟨tokens⟩
  | .error e => .error e

/-! ## Matching -/

def covers (items : List ClassItem) (c : Char) : Bool :=
  items.any fun
    | .single a => c = a
    | .range a b => a ≤ c && c ≤ b

/-- How far a match has come. -/
inductive Outcome where
  | matched
  | failed
  /-- The name has run out too early. -/
  | exhausted
deriving DecidableEq, Repr

/-- Tries what follows a star at every place of the name. -/
def matchAnywhere (matchRest : Text → Outcome) : Text → Outcome
  | [] => matchRest []
  | c :: name =>
    match matchRest (c :: name) with
    | .failed => matchAnywhere matchRest name
    | outcome => outcome

/-- Matches one character. -/
def matchOne (accepts : Char → Bool) (matchRest : Text → Outcome) : Text → Outcome
  | [] => .exhausted
  | c :: name => if accepts c then matchRest name else .failed

def matchTokens : List PatternToken → Text → Outcome
  | [] => fun name => if name = [] then .matched else .failed
  | .anyText :: tokens => matchAnywhere (matchTokens tokens)
  | .char c :: tokens => matchOne (· = c) (matchTokens tokens)
  | .anyChar :: tokens => matchOne (fun _ => true) (matchTokens tokens)
  | .oneOf items :: tokens => matchOne (covers items) (matchTokens tokens)
  | .noneOf items :: tokens => matchOne (!covers items ·) (matchTokens tokens)

/-- Whether a file name fits a pattern. -/
def fits (pattern : FilePattern) (name : Text) : Bool :=
  matchTokens pattern.tokens name = .matched

end FilePattern
end DocViews
