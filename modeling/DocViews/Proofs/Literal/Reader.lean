import DocViews.Literal
import DocViews.Proofs.Text.Split
import Mathlib.Data.List.Infix

/-!
# Reading string literals

What a compiler makes of a string literal: the other side of `DocViews.Literal`, written from the
rules of the language and not from the writer.

The opening run of quotes decides how a literal is read.  One or two quotes open a *regular*
literal, which stands on one line and ends at its first quote without a backslash.  Three or more
open a *raw* literal of several lines, which ends at the first run of as many quotes.

## What is here

* `Literal.codeLines` — the lines of code, with all five line breaks of the language.
* `Literal.readRegular?`, `Literal.readRaw?` — the two kinds, from behind the opening quotes.
* `Literal.read?` — the text that a literal stands for, and what follows the literal.
* The equations that a proof about a literal needs: how a cut at a fence and a list of lines grow
  with the text in front of them.
-/

set_option autoImplicit false

namespace DocViews
namespace Literal

/-! ## Lines of code -/

/-- The lines of a text.  A carriage return and its line feed end one line together. -/
def codeLines : Text → List Text
  | [] => [[]]
  | '\r' :: '\n' :: rest => [] :: codeLines rest
  | c :: rest =>
    if isLineBreak c then [] :: codeLines rest
    else
      match codeLines rest with
      | [] => [[c]]
      | line :: more => (c :: line) :: more

/-! ## Regular literals -/

/-- The worth of a hexadecimal digit. -/
def hexDigit? (c : Char) : Option Nat :=
  if '0' ≤ c ∧ c ≤ '9' then some (c.toNat - '0'.toNat)
  else if 'A' ≤ c ∧ c ≤ 'F' then some (c.toNat - 'A'.toNat + 10)
  else if 'a' ≤ c ∧ c ≤ 'f' then some (c.toNat - 'a'.toNat + 10)
  else none

/-- The character whose code point is written in four hexadecimal digits. -/
def charOfHex? (a b c d : Char) : Option Char := do
  let code :=
    4096 * (← hexDigit? a) + 256 * (← hexDigit? b) + 16 * (← hexDigit? c) + (← hexDigit? d)
  if code.isValidChar then some (Char.ofNat code) else none

/-- The character that a backslash and a letter stand for. -/
def escape? : Char → Option Char
  | '\\' => some '\\'
  | '"' => some '"'
  | 'n' => some '\n'
  | 'r' => some '\r'
  | 't' => some '\t'
  | '0' => some '\x00'
  | _ => none

/-- Reads a regular literal from behind its opening quote. -/
def readRegular? : Text → Option (Text × Text)
  | [] => none
  | '"' :: rest => some ([], rest)
  | '\\' :: 'u' :: a :: b :: c :: d :: rest =>
    (charOfHex? a b c d).bind fun char =>
      (readRegular? rest).map fun result => (char :: result.1, result.2)
  | '\\' :: e :: rest =>
    (escape? e).bind fun char =>
      (readRegular? rest).map fun result => (char :: result.1, result.2)
  | c :: rest =>
    if c = '\\' || isLineBreak c then none
    else (readRegular? rest).map fun result => (c :: result.1, result.2)

/-! ## Raw literals -/

/-- The number of quotes that a text begins with. -/
def quoteRun (text : Text) : Nat :=
  (text.takeWhile (· = '"')).length

/-- Cuts a text in front of its first run of at least so many quotes. -/
def cutAtFence? (fence : Nat) : Text → Option (Text × Text)
  | [] => none
  | c :: rest =>
    if fence ≤ quoteRun (c :: rest) then some ([], c :: rest)
    else (cutAtFence? fence rest).map fun cut => (c :: cut.1, cut.2)

/-- A line without the indentation.  An empty line needs none. -/
def unindent? (indent line : Text) : Option Text :=
  if line = [] then some [] else List.isPrefixOf? indent line

/-- What stands between the fences: nothing behind the opening one, then at least one line, then
the blanks in front of the closing one, which indent every line that is not empty. -/
def readBlock? (block : Text) : Option Text :=
  match codeLines block with
  | [] :: lines =>
    let indent := lines.getLastD []
    if lines.dropLast ≠ [] && Text.isBlankText indent then
      (lines.dropLast.mapM (unindent? indent)).map (List.intercalate ['\n'])
    else none
  | _ => none

/-- Reads a raw literal from behind its opening fence.  A closing run that is longer than the fence
is an error. -/
def readRaw? (fence : Nat) (text : Text) : Option (Text × Text) :=
  match cutAtFence? fence text with
  | none => none
  | some (block, more) =>
    if quoteRun more = fence then
      (readBlock? block).map fun content => (content, more.drop fence)
    else none

/-- Reads the string literal that a text begins with: the text that it stands for, and what
follows it. -/
def read? (text : Text) : Option (Text × Text) :=
  let fence := quoteRun text
  if fence = 0 then none
  else if fence < 3 then readRegular? text.tail
  else readRaw? fence (text.drop fence)

/-! ## One character of a regular literal -/

theorem readRegular?_escape {e char : Char} (he : e ≠ 'u') (h : escape? e = some char)
    (text : Text) :
    readRegular? ('\\' :: e :: text)
      = (readRegular? text).map fun result => (char :: result.1, result.2) := by
  rw [readRegular?, h, Option.bind_some]
  exact fun _ _ _ _ _ heu => absurd heu he

theorem readRegular?_codePoint {a b c d char : Char} (h : charOfHex? a b c d = some char)
    (text : Text) :
    readRegular? ('\\' :: 'u' :: a :: b :: c :: d :: text)
      = (readRegular? text).map fun result => (char :: result.1, result.2) := by
  rw [readRegular?, h, Option.bind_some]

theorem readRegular?_plain {c : Char} (hq : c ≠ '"') (hb : c ≠ '\\')
    (hl : isLineBreak c = false) (text : Text) :
    readRegular? (c :: text)
      = (readRegular? text).map fun result => (c :: result.1, result.2) := by
  rw [readRegular?]
  · simp [hb, hl]
  · exact hq
  · exact fun _ _ _ _ _ h => absurd h hb
  · exact fun _ _ h => absurd h hb

/-! ## Runs of quotes -/

theorem quoteRun_cons_quote (text : Text) : quoteRun ('"' :: text) = quoteRun text + 1 := by
  simp [quoteRun]

theorem quoteRun_cons_of_ne {c : Char} (h : c ≠ '"') (text : Text) : quoteRun (c :: text) = 0 := by
  simp [quoteRun, h]

theorem quoteRun_of_head?_ne {text : Text} (h : text.head? ≠ some '"') : quoteRun text = 0 := by
  cases text with
  | nil => rfl
  | cons c rest => exact quoteRun_cons_of_ne (fun hc => h (by rw [hc, List.head?_cons])) rest

theorem quoteRun_replicate_append (n : Nat) (text : Text) :
    quoteRun (List.replicate n '"' ++ text) = n + quoteRun text := by
  induction n with
  | zero => simp
  | succ n ih =>
    rw [List.replicate_succ, List.cons_append, quoteRun_cons_quote, ih]
    omega

theorem quoteRun_le_append (text more : Text) : quoteRun text ≤ quoteRun (text ++ more) := by
  induction text with
  | nil => exact Nat.zero_le _
  | cons c rest ih =>
    by_cases hc : c = '"'
    · subst hc
      rw [List.cons_append, quoteRun_cons_quote, quoteRun_cons_quote]
      exact Nat.succ_le_succ ih
    · rw [quoteRun_cons_of_ne hc]
      exact Nat.zero_le _

/-- Another character ends a run of quotes, whatever follows it. -/
theorem quoteRun_append_cons_of_ne {c : Char} (h : c ≠ '"') (text more : Text) :
    quoteRun (text ++ c :: more) = quoteRun text := by
  induction text with
  | nil => exact quoteRun_cons_of_ne h more
  | cons d rest ih =>
    by_cases hd : d = '"'
    · rw [hd, List.cons_append, quoteRun_cons_quote, quoteRun_cons_quote, ih]
    · rw [List.cons_append, quoteRun_cons_of_ne hd, quoteRun_cons_of_ne hd]

/-- All runs of quotes in a text are shorter than a fence. -/
def RunsBelow (fence : Nat) (text : Text) : Prop :=
  ∀ part, part <:+ text → quoteRun part < fence

theorem RunsBelow.tail {fence : Nat} {c : Char} {text : Text} (h : RunsBelow fence (c :: text)) :
    RunsBelow fence text :=
  fun part hp => h part (hp.trans (List.suffix_cons c text))

theorem RunsBelow.part {fence : Nat} {part text : Text} (h : RunsBelow fence text)
    (hp : part <:+: text) : RunsBelow fence part := by
  obtain ⟨before, after, rfl⟩ := hp
  rintro piece ⟨skipped, rfl⟩
  have hlt : quoteRun (piece ++ after) < fence :=
    h _ ⟨before ++ skipped, by simp only [List.append_assoc]⟩
  exact Nat.lt_of_le_of_lt (quoteRun_le_append piece after) hlt

/-- Characters other than quotes make no run longer. -/
theorem RunsBelow.append_left {fence : Nat} {before text : Text} (hpos : 0 < fence)
    (hb : '"' ∉ before) (h : RunsBelow fence text) : RunsBelow fence (before ++ text) := by
  induction before with
  | nil => exact h
  | cons c rest ih =>
    rw [List.mem_cons, not_or] at hb
    intro part hp
    rcases List.suffix_cons_iff.1 hp with rfl | hp
    · rw [quoteRun_cons_of_ne (Ne.symm hb.1)]
      exact hpos
    · exact ih hb.2 part hp

/-! ## Cuts at a fence -/

theorem cutAtFence?_cons_of_lt {fence : Nat} {c : Char} {text : Text}
    (h : quoteRun (c :: text) < fence) :
    cutAtFence? fence (c :: text)
      = (cutAtFence? fence text).map fun cut => (c :: cut.1, cut.2) := by
  rw [cutAtFence?, if_neg (Nat.not_le.2 h)]

/-- A text with short runs of quotes is passed over, if the run at its end goes on no further. -/
theorem cutAtFence?_append_cons {fence : Nat} {c : Char} {before : Text} (hpos : 0 < fence)
    (hc : c ≠ '"') (h : RunsBelow fence before) (text : Text) :
    cutAtFence? fence (before ++ c :: text)
      = (cutAtFence? fence text).map fun cut => (before ++ c :: cut.1, cut.2) := by
  induction before with
  | nil => exact cutAtFence?_cons_of_lt (by rwa [quoteRun_cons_of_ne hc])
  | cons d rest ih =>
    have hrun : quoteRun (d :: (rest ++ c :: text)) < fence := by
      rw [← List.cons_append, quoteRun_append_cons_of_ne hc]
      exact h _ List.suffix_rfl
    rw [List.cons_append, cutAtFence?_cons_of_lt hrun, ih h.tail, Option.map_map]
    rfl

/-- A fence behind characters other than quotes is found. -/
theorem cutAtFence?_append_fence {fence : Nat} {before text : Text} (hpos : 0 < fence)
    (hb : '"' ∉ before) (h : fence ≤ quoteRun text) :
    cutAtFence? fence (before ++ text) = some (before, text) := by
  induction before with
  | nil =>
    cases text with
    | nil => exact absurd h (Nat.not_le.2 hpos)
    | cons c rest => rw [List.nil_append, cutAtFence?, if_pos h]
  | cons c rest ih =>
    rw [List.mem_cons, not_or] at hb
    have hrun : quoteRun (c :: (rest ++ text)) < fence := by
      rwa [quoteRun_cons_of_ne (Ne.symm hb.1)]
    rw [List.cons_append, cutAtFence?_cons_of_lt hrun, ih hb.2, Option.map_some]

/-! ## Lines that are put in front -/

/-- A text on one line. -/
def OnOneLine (text : Text) : Prop :=
  ∀ c ∈ text, isLineBreak c = false

instance (text : Text) : Decidable (OnOneLine text) :=
  List.decidableBAll (fun c => isLineBreak c = false) text

theorem OnOneLine.append {before after : Text} (hb : OnOneLine before) (ha : OnOneLine after) :
    OnOneLine (before ++ after) :=
  fun c hc => (List.mem_append.1 hc).elim (hb c) (ha c)

theorem OnOneLine.tail {c : Char} {text : Text} (h : OnOneLine (c :: text)) : OnOneLine text :=
  (List.forall_mem_cons.1 h).2

/-- A text on one line with no control character either. -/
def Printable (text : Text) : Prop :=
  ∀ c ∈ text, (isControl c || isLineBreak c) = false

instance (text : Text) : Decidable (Printable text) :=
  List.decidableBAll (fun c => (isControl c || isLineBreak c) = false) text

theorem Printable.append {before after : Text} (hb : Printable before) (ha : Printable after) :
    Printable (before ++ after) :=
  fun c hc => (List.mem_append.1 hc).elim (hb c) (ha c)

theorem Printable.cons {c : Char} {text : Text} (hc : (isControl c || isLineBreak c) = false)
    (h : Printable text) : Printable (c :: text) :=
  List.forall_mem_cons.2 ⟨hc, h⟩

theorem Printable.onOneLine {text : Text} (h : Printable text) : OnOneLine text :=
  fun c hc => (Bool.or_eq_false_iff.1 (h c hc)).2

theorem codeLines_cons {c : Char} {rest line : Text} {more : List Text}
    (hc : isLineBreak c = false) (hs : codeLines rest = line :: more) :
    codeLines (c :: rest) = (c :: line) :: more := by
  have hr : ∀ after, c :: rest ≠ '\r' :: '\n' :: after := by
    rintro after h
    rw [(List.cons.inj h).1] at hc
    exact absurd hc (by decide)
  rw [codeLines, hs]
  · simp [hc]
  · exact fun after hcr hrest => hr after (by rw [hcr, hrest])

theorem codeLines_newline (text : Text) : codeLines ('\n' :: text) = [] :: codeLines text := by
  rw [codeLines]
  · exact if_pos (by decide)
  · exact fun _ h => absurd h (by decide)

theorem codeLines_of_onOneLine {line : Text} (h : OnOneLine line) : codeLines line = [line] := by
  induction line with
  | nil => rfl
  | cons c rest ih =>
    exact codeLines_cons (h c List.mem_cons_self) (ih h.tail)

theorem codeLines_append_newline {line : Text} (h : OnOneLine line) (text : Text) :
    codeLines (line ++ '\n' :: text) = line :: codeLines text := by
  induction line with
  | nil => exact codeLines_newline text
  | cons c rest ih =>
    exact codeLines_cons (h c List.mem_cons_self) (ih h.tail)

end Literal
end DocViews
