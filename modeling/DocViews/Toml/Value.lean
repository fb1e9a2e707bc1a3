import DocViews.Decimal.Binary64
import DocViews.Text.Keyed
import DocViews.Toml.Datetime

/-!
# TOML values

A table is a list of entries under keys.  Tables are kept in the order of their keys.

`Value.merge` lays one value over another.  Tables are merged key by key, and anything else is
replaced.  What the merge holds at a key is decided by what the two sides hold there:
`lookup_mergeEntries`.
-/

set_option autoImplicit false

namespace DocViews
namespace Toml

inductive Value where
  | string (text : Text)
  | integer (n : Int)
  | float (x : Binary64)
  | boolean (b : Bool)
  | datetime (t : Datetime)
  | array (items : List Value)
  | table (entries : List (Text × Value))
deriving Repr

/-- The entries of a table. -/
abbrev Entries := List (Text × Value)

namespace Value

def emptyTable : Value := .table []

mutual

/-- Lays a value over another. -/
def merge (base : Value) : Value → Value
  | .table overlay =>
    match base with
    | .table entries => .table (mergeEntries entries overlay)
    | _ => .table overlay
  | overlay => overlay

/-- Lays entries over those of a table. -/
def mergeEntries (base : Entries) : Entries → Entries
  | [] => base
  | (key, value) :: rest =>
    let merged :=
      match base.lookup key with
      | some below => merge below value
      | none => value
    Keyed.insert key merged (mergeEntries base rest)

end

/-- A key of the merge holds the merge of what both sides hold. -/
theorem lookup_mergeEntries (base overlay : Entries) (key : Text) :
    (mergeEntries base overlay).lookup key =
      match base.lookup key, overlay.lookup key with
      | some below, some value => some (merge below value)
      | none, some value => some value
      | below, none => below := by
  induction overlay with
  | nil => cases h : base.lookup key <;> simp [mergeEntries, h]
  | cons entry rest ih =>
    obtain ⟨k, v⟩ := entry
    simp only [mergeEntries, Keyed.lookup_insert, ih]
    by_cases h : key = k
    · subst h
      rw [if_pos rfl, Keyed.lookup_cons_self]
      cases base.lookup key <;> rfl
    · rw [if_neg h, Keyed.lookup_cons_of_ne h]

end Value
end Toml
end DocViews
