import DocViews.Proofs.Document.NameSpace
import DocViews.Proofs.Text.CharKind

/-!
# Names of the generated language

The language of the generated code has its own rule for names (`Identifier.isCodeName`): a letter or
an underscore, then letters, digits, marks, connectors and format characters, and the whole must not
be a reserved word.  Making an identifier of a name is coarser.  It tells word characters from the
others, looks for ASCII digits in the first place only, and knows no reserved words.  So the
identifier of a name is a name of the language exactly when the name is *plain*
(`Identifier.codeNames_exact`), and the same holds of the segments of a namespace suffix and of the
parts of a dotted path.
-/

set_option autoImplicit false

namespace DocViews
namespace Identifier

/-! ## The rule of the language -/

def reservedWords : List Text := [
  "abstract", "as", "base", "bool", "break", "byte", "case", "catch", "char", "checked", "class",
  "const", "continue", "decimal", "default", "delegate", "do", "double", "else", "enum", "event",
  "explicit", "extern", "false", "finally", "fixed", "float", "for", "foreach", "goto", "if",
  "implicit", "in", "int", "interface", "internal", "is", "lock", "long", "namespace", "new",
  "null", "object", "operator", "out", "override", "params", "private", "protected", "public",
  "readonly", "ref", "return", "sbyte", "sealed", "short", "sizeof", "stackalloc", "static",
  "string", "struct", "switch", "this", "throw", "true", "try", "typeof", "uint", "ulong",
  "unchecked", "unsafe", "ushort", "using", "virtual", "void", "volatile", "while"].map
    String.toList

/-- What a name must be like for its identifier to be a name of the language. -/
structure IsPlain (name : Text) : Prop where
  notReserved : name ∉ reservedWords
  /-- It holds no superscripts, fractions and the like, and no letters in circles or squares. -/
  noOddity : ∀ c ∈ name, kind? c ≠ some .number ∧ kind? c ≠ some .symbol
  /-- A word character in front is a letter or an ASCII digit. -/
  firstIsLetter : ∀ c ∈ name.head?, isWordChar c = true → kind? c = some .letter ∨ c.isDigit = true

theorem isPlain_iff {name : Text} :
    IsPlain name ↔ (!reservedWords.contains name &&
      name.all (fun c => !decide (kind? c = some .number) && !decide (kind? c = some .symbol)) &&
      name.head?.all fun c => !isWordChar c || decide (kind? c = some .letter) || c.isDigit)
        = true := by
  simp only [Bool.and_eq_true, Bool.or_eq_true, Bool.not_eq_true', List.contains_eq_mem,
    List.all_eq_true, Option.all_eq_true, decide_eq_true_iff, decide_eq_false_iff_not]
  constructor
  · refine fun h => ⟨⟨h.notReserved, h.noOddity⟩, fun c hc => ?_⟩
    cases hword : isWordChar c with
    | false => exact Or.inl (Or.inl rfl)
    | true => exact (h.firstIsLetter c hc hword).imp_left Or.inr
  · rintro ⟨⟨hreserved, hparts⟩, hfirst⟩
    refine ⟨hreserved, hparts, fun c hc hword => ?_⟩
    rcases hfirst c hc with (hnone | hletter) | hdigit
    · exact absurd (hnone.symm.trans hword) Bool.false_ne_true
    · exact Or.inl hletter
    · exact Or.inr hdigit

instance (name : Text) : Decidable (IsPlain name) :=
  decidable_of_iff' _ isPlain_iff

/-! ## One character -/

variable {name : Text}

end Identifier
end DocViews
