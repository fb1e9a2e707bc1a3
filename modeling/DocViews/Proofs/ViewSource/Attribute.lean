import DocViews.ViewSource
import DocViews.Proofs.Literal.Layout
import DocViews.Proofs.Naming.Identifier
import DocViews.Proofs.Text.Numbers
import Mathlib.Data.List.Forall2

/-!
# The attribute of a view is read back

The other side of `ViewSource.attributeLine`: a reader of `[name(key:value, ...)]` that follows the
rules of the generated language.  A value is a string literal or a word; a key stands at most once,
and the bracket has to be the end of the line.

`ViewSource.readAttribute?_attributeLine` says that the reader finds what the metadata set, for all
texts that a title or an icon can be.  The commas between arguments look like commas in a title, so
what is proved of one argument holds for whatever follows it (`Spells`): a literal ends where the
writer ended it, and no word goes on over a comma.
-/

set_option autoImplicit false

namespace DocViews
namespace ViewSource

open Literal (Printable)

/-! ## Values -/

/-- The value of an argument: a word of the language, or the text that a string literal stands
for. -/
inductive ArgumentValue where
  | word (text : Text)
  | literal (text : Text)
deriving DecidableEq, Repr

/-- The characters of words: of names with points between them, and of numbers with their sign. -/
def isValueChar (c : Char) : Bool :=
  Identifier.isIdentifierChar c || c = '.' || c = '-'

/-- Reads the value that a text begins with. -/
def readValue? (text : Text) : Option (ArgumentValue × Text) :=
  if text.head? = some '"' then
    (Literal.read? text).map fun result => (.literal result.1, result.2)
  else some (.word (text.takeWhile isValueChar), text.dropWhile isValueChar)

namespace ArgumentValue

/-- A decimal number, with a minus sign if it is negative. -/
def int? : ArgumentValue → Option Int
  | word ('-' :: digits) =>
    if Digits.isNumeral digits then some (-(Digits.value digits : Int)) else none
  | word digits => if Digits.isNumeral digits then some (Digits.value digits : Int) else none
  | literal _ => none

/-- A type and its member, with the last point between them. -/
def member? : ArgumentValue → Option (Text × Text)
  | word text =>
    let parts := List.splitOn '.' text
    if parts.length < 2 then none
    else some (List.intercalate ['.'] parts.dropLast, parts.getLastD [])
  | literal _ => none

def text? : ArgumentValue → Option Text
  | word _ => none
  | literal text => some text

def bool? : ArgumentValue → Option Bool
  | word text =>
    if text = "true".toList then some true
    else if text = "false".toList then some false
    else none
  | literal _ => none

end ArgumentValue

/-! ## The reader -/

/-- What an argument sets. -/
inductive Argument where
  | order (value : Int)
  | icon (type member : Text)
  | title (text : Text)
  | groupExpanded (value : Bool)
deriving DecidableEq, Repr

def argumentOf? (key : Text) (value : ArgumentValue) : Option Argument :=
  if key = "order".toList then value.int?.map .order
  else if key = "icon".toList then value.member?.map fun icon => .icon icon.1 icon.2
  else if key = "title".toList then value.text?.map .title
  else if key = "groupExpanded".toList then value.bool?.map .groupExpanded
  else none

/-- Reads the argument that a text begins with: its key, a colon and its value. -/
def readArgument? (text : Text) : Option (Argument × Text) :=
  match Text.splitOnce? ':' text with
  | none => none
  | some (key, more) =>
    match readValue? more with
    | none => none
    | some (value, rest) => (argumentOf? key value).map fun argument => (argument, rest)

/-- Reads at most so many arguments, up to the parenthesis behind the last one. -/
def readArguments? : Nat → Text → Option (List Argument × Text)
  | 0, _ => none
  | most + 1, text =>
    match readArgument? text with
    | some (argument, ')' :: rest) => some ([argument], rest)
    | some (argument, ',' :: ' ' :: rest) =>
      (readArguments? most rest).map fun result => (argument :: result.1, result.2)
    | _ => none

/-- What an attribute sets; an argument that is not there is `none`. -/
structure Attribute where
  name : Text
  order : Option Int := none
  /-- The type of the icons, and its member. -/
  icon : Option (Text × Text) := none
  title : Option Text := none
  groupExpanded : Option Bool := none
deriving DecidableEq, Repr

/-- The attribute with one more argument, which must not be there yet. -/
def Attribute.add? (known : Attribute) : Argument → Option Attribute
  | .order value =>
    if known.order = none then some { known with order := some value } else none
  | .icon type member =>
    if known.icon = none then some { known with icon := some (type, member) } else none
  | .title text =>
    if known.title = none then some { known with title := some text } else none
  | .groupExpanded value =>
    if known.groupExpanded = none then some { known with groupExpanded := some value } else none

/-- Reads a line that holds an attribute and nothing else. -/
def readAttribute? : Text → Option Attribute
  | '[' :: text =>
    match Text.splitOnce? '(' text with
    | none => none
    | some (name, more) =>
      match readArguments? more.length more with
      | some (arguments, [']']) => arguments.foldlM Attribute.add? { name }
      | _ => none
  | _ => none

/-! ## One value -/

/-- The characters that can stand behind an argument. -/
def afterArgument : Text :=
  [',', ')']

theorem isValueChar_afterArgument {c : Char} (hc : c ∈ afterArgument) : isValueChar c = false := by
  have hsep : Identifier.isIdentifierChar c = false :=
    Identifier.isIdentifierChar_separator c
      ((show afterArgument ⊆ _ by decide) hc)
  have hother : (decide (c = '.') || decide (c = '-')) = false := by
    simp only [afterArgument, List.mem_cons, List.not_mem_nil, or_false] at hc
    rcases hc with rfl | rfl <;> decide
  rw [isValueChar, Bool.or_assoc, hsep, hother, Bool.or_false]

/-- A word ends in front of what follows an argument. -/
theorem readValue?_word {word : Text} (hword : ∀ c ∈ word, isValueChar c = true) {c : Char}
    (hc : c ∈ afterArgument) (rest : Text) :
    readValue? (word ++ c :: rest) = some (.word word, c :: rest) := by
  have hend : isValueChar c = false := isValueChar_afterArgument hc
  have hquote : (word ++ c :: rest).head? ≠ some '"' := by
    intro h
    have hno : isValueChar '"' = false := by decide +kernel
    cases word with
    | nil =>
      obtain rfl : c = '"' := Option.some.inj h
      exact absurd hc (by decide)
    | cons d more =>
      obtain rfl : d = '"' := Option.some.inj h
      exact absurd (hword '"' List.mem_cons_self) (by rw [hno]; decide)
  rw [readValue?, if_neg hquote, List.takeWhile_append_of_pos hword,
    List.dropWhile_append_of_pos hword, List.takeWhile_cons_of_neg (by simp [hend]),
    List.dropWhile_cons_of_neg (by simp [hend]), List.append_nil]

/-- A literal ends where the writer ended it. -/
theorem readValue?_escaped {c : Char} (hc : c ∈ afterArgument) (text rest : Text) :
    readValue? (Literal.escaped text ++ c :: rest) = some (.literal text, c :: rest) := by
  have hquote : (c :: rest).head? ≠ some '"' := by
    intro h
    obtain rfl : c = '"' := Option.some.inj h
    exact absurd hc (by decide)
  have hhead : (Literal.escaped text ++ c :: rest).head? = some '"' := rfl
  rw [readValue?, if_pos hhead, Literal.read?_escaped_append hquote, Option.map_some]

theorem isNumeral_ofNat (n : Nat) : Digits.isNumeral (Digits.ofNat n) = true := by
  have hne : Digits.ofNat n ≠ [] := Nat.toDigits_ne_nil
  rw [Digits.isNumeral, Bool.and_eq_true, List.all_eq_true]
  exact ⟨by simpa using hne, fun _ => Digits.isDigit_of_mem_ofNat⟩

/-- Digits stand for their number, with or without a sign in front. -/
theorem int?_ofInt (n : Int) : (ArgumentValue.word (Digits.ofInt n)).int? = some n := by
  cases n with
  | negSucc m =>
    rw [Digits.ofInt, ArgumentValue.int?, if_pos (isNumeral_ofNat _), Digits.value_ofNat]
    rfl
  | ofNat m =>
    have hplain : ∀ digits, Digits.ofNat m ≠ '-' :: digits := by
      intro digits h
      have hdigit : '-'.isDigit = true := Digits.isDigit_of_mem_ofNat (n := m) (by simp [h])
      exact absurd hdigit (by decide)
    rw [Digits.ofInt, ArgumentValue.int?, if_pos (isNumeral_ofNat _), Digits.value_ofNat]
    · rfl
    · exact hplain

/-- No identifier holds a point, so the member is what stands behind the last one. -/
theorem member?_append_point (type name : Text) :
    (ArgumentValue.word (type ++ '.' :: Identifier.ofName name)).member?
      = some (type, Identifier.ofName name) := by
  have hpoint : '.' ∉ Identifier.ofName name := fun h =>
    absurd (Identifier.isIdentifierChar_of_mem_ofName h) (by decide +kernel)
  have hparts : List.splitOn '.' (type ++ '.' :: Identifier.ofName name)
      = List.splitOn '.' type ++ List.splitOn '.' (Identifier.ofName name) :=
    List.splitOn_append_cons_self type _
  have hpos := List.length_pos_of_ne_nil (List.splitOn_ne_nil '.' type)
  rw [List.splitOn_eq_singleton hpoint] at hparts
  simp only [ArgumentValue.member?, hparts, List.length_append, List.length_singleton,
    List.dropLast_concat, List.getLastD_concat, List.intercalate_splitOn]
  exact if_neg (by omega)

/-! ## One argument -/

/-- A text is read as an argument, whatever follows it. -/
def Spells (text : Text) (argument : Argument) : Prop :=
  ∀ c ∈ afterArgument, ∀ rest, readArgument? (text ++ c :: rest) = some (argument, c :: rest)

theorem spells_of_value {key text : Text} {value : ArgumentValue} {argument : Argument}
    (hkey : ':' ∉ key)
    (hvalue : ∀ c ∈ afterArgument, ∀ rest, readValue? (text ++ c :: rest) = some (value, c :: rest))
    (hargument : argumentOf? key value = some argument) : Spells (key ++ ':' :: text) argument := by
  intro c hc rest
  rw [readArgument?, List.append_assoc, List.cons_append, Text.splitOnce?_append hkey]
  simp only [hvalue c hc rest, hargument, Option.map_some]

theorem isIdentifierChar_of_isDigit {c : Char} (h : c.isDigit = true) :
    Identifier.isIdentifierChar c = true := by
  rw [Identifier.isIdentifierChar, isWordChar_of_isAlphanum (by simp [Char.isAlphanum, h]),
    Bool.true_or]

theorem isValueChar_of_isIdentifierChar {c : Char} (h : Identifier.isIdentifierChar c = true) :
    isValueChar c = true := by
  rw [isValueChar, h, Bool.true_or, Bool.true_or]

theorem isValueChar_of_mem_ofInt {n : Int} {c : Char} (h : c ∈ Digits.ofInt n) :
    isValueChar c = true := by
  have digits {m : Nat} (h : c ∈ Digits.ofNat m) : isValueChar c = true :=
    isValueChar_of_isIdentifierChar
      (isIdentifierChar_of_isDigit (Digits.isDigit_of_mem_ofNat h))
  cases n with
  | ofNat m => exact digits h
  | negSucc m =>
    rcases List.mem_cons.1 h with rfl | h
    · simp [isValueChar]
    · exact digits h

theorem isValueChar_of_mem_member {iconType name : Text}
    (hicon : Identifier.isDottedPath iconType = true) {c : Char}
    (h : c ∈ iconType ++ '.' :: Identifier.ofName name) : isValueChar c = true := by
  rcases List.mem_append.1 h with h | h
  · rcases Identifier.isIdentifierChar_or_eq_point_of_mem hicon h with h | rfl
    · exact isValueChar_of_isIdentifierChar h
    · simp [isValueChar]
  · rcases List.mem_cons.1 h with rfl | h
    · simp [isValueChar]
    · exact isValueChar_of_isIdentifierChar (Identifier.isIdentifierChar_of_mem_ofName h)

theorem spells_order (n : Int) : Spells ("order:".toList ++ Digits.ofInt n) (.order n) := by
  have hargument : argumentOf? "order".toList (.word (Digits.ofInt n)) = some (.order n) := by
    rw [argumentOf?, if_pos rfl, int?_ofInt, Option.map_some]
  exact spells_of_value (by decide)
    (fun c hc => readValue?_word (fun _ => isValueChar_of_mem_ofInt) hc) hargument

theorem spells_icon {iconType : Text} (hicon : Identifier.isDottedPath iconType = true)
    (name : Text) :
    Spells ("icon:".toList ++ iconType ++ '.' :: Identifier.ofName name)
      (.icon iconType (Identifier.ofName name)) := by
  have hargument : argumentOf? "icon".toList (.word (iconType ++ '.' :: Identifier.ofName name))
      = some (.icon iconType (Identifier.ofName name)) := by
    rw [argumentOf?, if_neg (by decide), if_pos rfl, member?_append_point, Option.map_some]
  rw [List.append_assoc]
  exact spells_of_value (by decide)
    (fun c hc => readValue?_word (fun _ => isValueChar_of_mem_member hicon) hc) hargument

theorem spells_title (title : Text) :
    Spells ("title:".toList ++ Literal.escaped title) (.title title) := by
  have hargument : argumentOf? "title".toList (.literal title) = some (.title title) := rfl
  exact spells_of_value (by decide) (fun _ hc => readValue?_escaped hc title) hargument

theorem spells_groupExpanded : Spells "groupExpanded:true".toList (.groupExpanded true) := by
  have hargument : argumentOf? "groupExpanded".toList (.word "true".toList)
      = some (.groupExpanded true) := rfl
  have hword : "true".toList.all isValueChar = true := by decide +kernel
  have hspells : Spells ("groupExpanded".toList ++ ':' :: "true".toList) (.groupExpanded true) :=
    spells_of_value (by decide) (fun _ hc => readValue?_word (List.all_eq_true.1 hword) hc)
      hargument
  exact hspells

/-! ## All arguments -/

/-- What the arguments of an attribute set, in the order of the writer. -/
def argumentsOf (order : Int) (metadata : Metadata) (iconType : Text) : List Argument :=
  let icon : List Argument :=
    match Metadata.declared metadata.icon with
    | some name => [.icon iconType (Identifier.ofName name)]
    | none => []
  let title : List Argument :=
    match metadata.title with
    | some title => [.title title]
    | none => []
  let group : List Argument := if metadata.groupExpanded then [.groupExpanded true] else []
  .order order :: (icon ++ title ++ group)

theorem spells_attributeArguments {iconType : Text}
    (hicon : Identifier.isDottedPath iconType = true) (order : Int) (metadata : Metadata) :
    List.Forall₂ Spells (attributeArguments order metadata iconType)
      (argumentsOf order metadata iconType) := by
  have single {text : Text} {argument : Argument} (h : Spells text argument) :
      List.Forall₂ Spells [text] [argument] := .cons h .nil
  simp only [attributeArguments, argumentsOf]
  refine .cons (spells_order order) (List.rel_append (List.rel_append ?_ ?_) ?_)
  · cases Metadata.declared metadata.icon with
    | none => exact .nil
    | some name => exact single (spells_icon hicon name)
  · cases metadata.title with
    | none => exact .nil
    | some title => exact single (spells_title title)
  · cases metadata.groupExpanded with
    | false => exact .nil
    | true => exact single spells_groupExpanded

/-- Arguments that are joined are read one after another.  The induction is on the arguments; all
of them but the last are followed by a comma. -/
theorem readArguments?_intercalate {texts : List Text} {arguments : List Argument}
    (hne : texts ≠ []) (h : List.Forall₂ Spells texts arguments) {most : Nat}
    (hmost : texts.length ≤ most) (rest : Text) :
    readArguments? most (List.intercalate [',', ' '] texts ++ ')' :: rest)
      = some (arguments, rest) := by
  induction h generalizing most with
  | nil => exact absurd rfl hne
  | @cons text argument texts arguments hspells hmore ih =>
    obtain ⟨most, rfl⟩ := Nat.exists_eq_add_of_le' (Nat.le_trans (by simp) hmost : 1 ≤ most)
    cases hmore with
    | nil =>
      rw [readArguments?, List.intercalate_singleton, hspells ')' (by decide)]
      rfl
    | @cons next _ more _ hnext hmore =>
      have hrest := ih (List.cons_ne_nil _ _) (Nat.le_of_succ_le_succ hmost)
      rw [readArguments?, List.intercalate_cons_cons, List.append_assoc, List.append_assoc,
        List.cons_append, hspells ',' (by decide)]
      simp only [List.cons_append, List.nil_append, hrest, Option.map_some]

theorem length_le_length_intercalate {between : Text} (hb : between ≠ []) (pieces : List Text) :
    pieces.length ≤ (List.intercalate between pieces).length + 1 := by
  induction pieces with
  | nil => exact Nat.zero_le _
  | cons piece more ih =>
    cases more with
    | nil => exact Nat.le_add_left 1 _
    | cons next more =>
      have hpos := List.length_pos_of_ne_nil hb
      rw [List.intercalate_cons_cons, List.length_cons, List.length_append, List.length_append]
      omega

/-- The arguments of the writer are there once each, and set what the metadata sets. -/
theorem foldlM_argumentsOf (name : Text) (order : Int) (metadata : Metadata) (iconType : Text) :
    (argumentsOf order metadata iconType).foldlM Attribute.add? { name }
      = some {
          name
          order := some order
          icon := (Metadata.declared metadata.icon).map fun icon =>
            (iconType, Identifier.ofName icon)
          title := metadata.title
          groupExpanded := if metadata.groupExpanded then some true else none } := by
  rw [argumentsOf]
  cases Metadata.declared metadata.icon <;> cases metadata.title <;>
    cases metadata.groupExpanded <;> rfl

/-! ## The line -/

theorem printable_ofInt (n : Int) : Printable (Digits.ofInt n) := by
  have digits (m : Nat) : Printable (Digits.ofNat m) := fun c hc =>
    Identifier.isControl_or_isLineBreak_of_isIdentifierChar
      (isIdentifierChar_of_isDigit (Digits.isDigit_of_mem_ofNat hc))
  cases n with
  | ofNat m => exact digits m
  | negSucc m => exact (digits (m + 1)).cons (by decide)

theorem printable_of_mem_attributeArguments {order : Int} {metadata : Metadata} {iconType : Text}
    (hicon : Identifier.isDottedPath iconType = true) {argument : Text}
    (h : argument ∈ attributeArguments order metadata iconType) : Printable argument := by
  simp only [attributeArguments, List.mem_cons, List.mem_append] at h
  rcases h with rfl | (h | h) | h
  · exact Printable.append (by decide) (printable_ofInt order)
  · split at h
    · next name _ =>
      have hmember : Printable ('.' :: Identifier.ofName name) :=
        (Identifier.printable_ofName name).cons (by decide)
      rw [List.mem_singleton.1 h]
      exact (Printable.append (by decide) (Identifier.printable_of_isDottedPath hicon)).append
        hmember
    · exact absurd h List.not_mem_nil
  · split at h
    · rw [List.mem_singleton.1 h]
      exact Printable.append (by decide) (Literal.printable_escaped _)
    · exact absurd h List.not_mem_nil
  · split at h
    · rw [List.mem_singleton.1 h]
      decide
    · exact absurd h List.not_mem_nil

theorem printable_attributeLine {target : Target} {metadata : Metadata} (order : Int)
    (hname : Identifier.isDottedPath target.attributeName = true)
    (hicon : Identifier.isDottedPath target.iconType = true) :
    Printable (attributeLine order metadata target) := by
  have harguments : Printable
      (List.intercalate [',', ' '] (attributeArguments order metadata target.iconType)) := by
    intro c hc
    rcases Text.mem_of_mem_intercalate hc with hc | ⟨argument, hargument, hc⟩
    · exact (show Printable [',', ' '] by decide) c hc
    · exact printable_of_mem_attributeArguments hicon hargument c hc
  exact ((Identifier.printable_of_isDottedPath hname).append
    ((harguments.append (by decide)).cons (by decide))).cons (by decide)

theorem readAttribute?_attributeLine {target : Target}
    (hname : Identifier.isDottedPath target.attributeName = true)
    (hicon : Identifier.isDottedPath target.iconType = true) (order : Int) (metadata : Metadata) :
    readAttribute? (attributeLine order metadata target)
      = some {
          name := target.attributeName
          order := some order
          icon := (Metadata.declared metadata.icon).map fun icon =>
            (target.iconType, Identifier.ofName icon)
          title := metadata.title
          groupExpanded := if metadata.groupExpanded then some true else none } := by
  have hparen : '(' ∉ target.attributeName := Identifier.notMem_of_isDottedPath hname
    (Identifier.isIdentifierChar_separator '(' (by decide)) (by decide)
  have hmost : (attributeArguments order metadata target.iconType).length
      ≤ (List.intercalate [',', ' '] (attributeArguments order metadata target.iconType)
          ++ [')', ']']).length := by
    have hlength := length_le_length_intercalate (List.cons_ne_nil ',' [' '])
      (attributeArguments order metadata target.iconType)
    rw [List.length_append, List.length_cons]
    omega
  have hne : attributeArguments order metadata target.iconType ≠ [] := List.cons_ne_nil _ _
  have hread := readArguments?_intercalate hne (spells_attributeArguments hicon order metadata)
    hmost [']']
  rw [attributeLine, readAttribute?, Text.splitOnce?_append hparen]
  simp only [hread, foldlM_argumentsOf]

/-- **The attribute line carries its arguments**: it is one line without control characters, and a
reader finds the order, the icon, the title and the mark of the group in it, each exactly if it is
set.  No title and no icon is taken for another argument. -/
theorem attributeLine_carries {target : Target}
    (hname : Identifier.isDottedPath target.attributeName = true)
    (hicon : Identifier.isDottedPath target.iconType = true) (order : Int) (metadata : Metadata) :
    (∀ c ∈ attributeLine order metadata target,
      isControl c = false ∧ Literal.isLineBreak c = false) ∧
    readAttribute? (attributeLine order metadata target)
      = some {
          name := target.attributeName
          order := some order
          icon := ((metadata.icon.map Text.trim).filter (· ≠ [])).map fun icon =>
            (target.iconType, Identifier.ofName icon)
          title := metadata.title
          groupExpanded := if metadata.groupExpanded then some true else none } :=
  ⟨fun c hc => Bool.or_eq_false_iff.1 (printable_attributeLine order hname hicon c hc),
    readAttribute?_attributeLine hname hicon order metadata⟩

/-- A title and an icon that look like further arguments, with a line separator. -/
def forged : Metadata where
  icon := some " Key, order:9".toList
  title := some "x\", groupExpanded:true)]\\\u2028".toList

/-- Such texts forge no argument, under the stock settings. -/
theorem attributeLine_carries_forged :
    (Identifier.isDottedPath ({} : Target).attributeName = true ∧
      Identifier.isDottedPath ({} : Target).iconType = true) ∧
    (∀ c ∈ attributeLine (-3) forged {}, isControl c = false ∧ Literal.isLineBreak c = false) ∧
    readAttribute? (attributeLine (-3) forged {})
      = some {
          name := "App".toList
          order := some (-3)
          icon := some ("Icons".toList, "Key__order_9".toList)
          title := forged.title } := by
  have hname : Identifier.isDottedPath ({} : Target).attributeName = true := by decide +kernel
  have hicon : Identifier.isDottedPath ({} : Target).iconType = true := by decide +kernel
  have hmember : ((forged.icon.map Text.trim).filter (· ≠ [])).map
      (fun icon => (({} : Target).iconType, Identifier.ofName icon))
      = some ("Icons".toList, "Key__order_9".toList) := by decide +kernel
  have hcarries := attributeLine_carries hname hicon (-3) forged
  rw [hmember] at hcarries
  exact ⟨⟨hname, hicon⟩, hcarries⟩

end ViewSource
end DocViews
