/-!
# Classes of characters given by ranges

A character class of the Unicode standard is a table of code point ranges.  This file says what
membership in such a table means; the tables themselves are in the modules that use them.
-/

set_option autoImplicit false

namespace DocViews

/-- A table of code point ranges, each given by its first and its last code point. -/
abbrev CharTable := List (Nat × Nat)

namespace CharTable

/-- Whether some range of the table holds the character. -/
def covers (table : CharTable) (c : Char) : Bool :=
  table.any fun range => range.1 ≤ c.toNat && c.toNat ≤ range.2

theorem covers_iff {table : CharTable} {c : Char} :
    table.covers c = true ↔ ∃ range ∈ table, range.1 ≤ c.toNat ∧ c.toNat ≤ range.2 := by
  simp [covers]

end CharTable
end DocViews
