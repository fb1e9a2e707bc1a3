import DocViews.Text.Digits

/-!
# Dates and times in TOML

A TOML moment is a date, a time, or both, and with both it may have an offset.  It is read with
checks of every part, the length of the month included, and written in one form: a `T` between date
and time, a capital `Z`, and no zeros at the end of a fraction.

The readers here answer with what they have read and what is left.
-/

set_option autoImplicit false

namespace DocViews
namespace Toml

structure Date where
  year : Nat
  month : Nat
  day : Nat
deriving DecidableEq, Repr

structure Time where
  hour : Nat
  minute : Nat
  second : Nat
  nanosecond : Nat
deriving DecidableEq, Repr

/-- A time zone: the one at zero by its letter, or a number of minutes. -/
inductive Offset where
  | zulu
  | minutes (n : Int)
deriving DecidableEq, Repr

inductive Datetime where
  | date (date : Date)
  | time (time : Time)
  | moment (date : Date) (time : Time) (offset : Option Offset)
deriving DecidableEq, Repr

/-! ## Reading -/

/-- Reads exactly so many digits. -/
def readDigits? (n : Nat) (text : Text) : Option (Nat × Text) :=
  let digits := text.take n
  if digits.length = n && digits.all Char.isDigit then some (Digits.value digits, text.drop n)
  else none

/-- Reads two digits that stand for a number in a range. -/
def readPart? (least greatest : Nat) (text : Text) : Option (Nat × Text) := do
  let (n, rest) ← readDigits? 2 text
  if least ≤ n && n ≤ greatest then some (n, rest) else none

/-- Reads one certain character. -/
def readMark? (mark : Char) (text : Text) : Option Text :=
  List.isPrefixOf? [mark] text

namespace Date

def isLeapYear (year : Nat) : Bool :=
  year % 4 = 0 && (year % 100 ≠ 0 || year % 400 = 0)

def daysInMonth (year month : Nat) : Nat :=
  if month = 2 then (if isLeapYear year then 29 else 28)
  else if month = 4 || month = 6 || month = 9 || month = 11 then 30
  else 31

def read? (text : Text) : Option (Date × Text) := do
  let (year, rest) ← readDigits? 4 text
  let (month, rest) ← readPart? 1 12 (← readMark? '-' rest)
  let (day, rest) ← readPart? 1 (daysInMonth year month) (← readMark? '-' rest)
  return (⟨year, month, day⟩, rest)

def text (d : Date) : Text :=
  Digits.padded 4 d.year ++ '-' :: Digits.padded 2 d.month ++ '-' :: Digits.padded 2 d.day

end Date

namespace Time

/-- The nanoseconds that the digits behind the point stand for; from the tenth on they are
dropped. -/
def nanoseconds (digits : Text) : Nat :=
  Digits.value (List.rightpad 9 '0' (digits.take 9))

/-- Reads the fraction of a second, if there is one. -/
def readFraction (text : Text) : Nat × Text :=
  match text with
  | '.' :: rest =>
    let digits := rest.takeWhile Char.isDigit
    if digits = [] then (0, text) else (nanoseconds digits, rest.dropWhile Char.isDigit)
  | _ => (0, text)

def read? (text : Text) : Option (Time × Text) := do
  let (hour, rest) ← readPart? 0 23 text
  let (minute, rest) ← readPart? 0 59 (← readMark? ':' rest)
  let (second, rest) ← readPart? 0 60 (← readMark? ':' rest)
  let (nanosecond, rest) := readFraction rest
  return (⟨hour, minute, second, nanosecond⟩, rest)

def text (t : Time) : Text :=
  let fraction : Text :=
    if t.nanosecond = 0 then []
    else
      let digits := Digits.padded 9 t.nanosecond
      '.' :: (digits.reverse.dropWhile (· = '0')).reverse
  Digits.padded 2 t.hour ++ ':' :: Digits.padded 2 t.minute ++ ':' :: Digits.padded 2 t.second ++
    fraction

end Time

namespace Offset

def read? (text : Text) : Option (Offset × Text) :=
  match text with
  | [] => none
  | c :: rest =>
    if c = 'Z' || c = 'z' then some (zulu, rest)
    else if c = '+' || c = '-' then do
      let (hour, rest) ← readPart? 0 23 rest
      let (minute, rest) ← readPart? 0 59 (← readMark? ':' rest)
      let n : Int := 60 * hour + minute
      return (minutes (if c = '-' then -n else n), rest)
    else none

def text : Offset → Text
  | zulu => ['Z']
  | minutes n =>
    (if n < 0 then '-' else '+') ::
      (Digits.padded 2 (n.natAbs / 60) ++ ':' :: Digits.padded 2 (n.natAbs % 60))

end Offset

namespace Datetime

/-- Whether a character may stand between a date and a time. -/
def isDelimiter (c : Char) : Bool :=
  c = 'T' || c = 't' || c = ' '

/-- Reads the time behind a date and the offset behind the time, if they are there. -/
def readAfterDate (d : Date) (text : Text) : Datetime × Text :=
  match text with
  | [] => (.date d, text)
  | c :: rest =>
    if isDelimiter c then
      match Time.read? rest with
      | none => (.date d, text)
      | some (t, rest) =>
        match Offset.read? rest with
        | none => (.moment d t none, rest)
        | some (offset, rest) => (.moment d t (some offset), rest)
    else (.date d, text)

def read? (text : Text) : Option (Datetime × Text) :=
  match Date.read? text with
  | some (d, rest) => some (readAfterDate d rest)
  | none => (Time.read? text).map fun (t, rest) => (.time t, rest)

def text : Datetime → Text
  | date d => d.text
  | time t => t.text
  | moment d t offset => d.text ++ 'T' :: t.text ++ ((offset.map Offset.text).getD [])

end Datetime
end Toml
end DocViews
