import DocViews.Toml.Value

/-!
# Tables under construction

While a TOML text is read, it matters where a table came from.  A table may be opened by a *header*
once, also after it was *implied* by the header of a table inside it, and a table that *dotted keys*
have made can only be extended by dotted keys.

`Draft.within` changes a table at the end of a path; the tables on the way are made if they are
missing, and an array of tables is entered at its last one.
-/

set_option autoImplicit false

namespace DocViews
namespace Toml

/-- Where a table came from. -/
inductive Origin where
  | header
  | implied
  | dotted
deriving DecidableEq, Repr

/-- What an entry holds while tables can still grow.  A value is finished. -/
inductive Draft where
  | value (v : Value)
  | table (origin : Origin) (entries : List (Text × Draft))
  | tables (elements : List (List (Text × Draft)))

/-- The entries of a table under construction. -/
abbrev Drafts := List (Text × Draft)

namespace Draft

/-- The entries of the table at the end of a path.  Below a missing key there are none, and below a
value there can be none. -/
def find? : List Text → Drafts → Option Drafts
  | [], entries => some entries
  | key :: path, entries =>
    match entries.lookup key with
    | none => some []
    | some (.value _) => none
    | some (.table _ inner) => find? path inner
    | some (.tables elements) => find? path (elements.getLastD [])

/-- Changes the table at the end of a path, on the way of dotted keys or of a header.  Dotted keys
do not enter a table that has a header. -/
def within (byKeys : Bool) (change : Origin → Drafts → Option Drafts) :
    List Text → Origin → Drafts → Option Drafts
  | [], origin, entries => change origin entries
  | key :: path, _, entries =>
    match entries.lookup key with
    | none => do
      let origin := if byKeys then Origin.dotted else Origin.implied
      let inner ← within byKeys change path origin []
      return Keyed.set key (.table origin inner) entries
    | some (.value _) => none
    | some (.table origin inner) =>
      if byKeys && origin = .header then none
      else do
        let inner ← within byKeys change path origin inner
        return Keyed.set key (.table origin inner) entries
    | some (.tables elements) => do
      let inner ← within byKeys change path .header (elements.getLastD [])
      return Keyed.set key (.tables (elements.dropLast ++ [inner])) entries

/-- Enters a value at the end of a key.  The key must be new, and all but its last part must lead to
a table that dotted keys have made. -/
def addValue? (path : List Text) (value : Value) (entries : Drafts) : Option Drafts :=
  match path.getLast? with
  | none => none
  | some key =>
    let folder := path.dropLast
    within true (fun origin inner =>
      if (origin == .dotted) == !folder.isEmpty && (inner.lookup key).isNone then
        some (inner ++ [(key, .value value)])
      else none) folder .header entries

mutual

/-- The finished value of an entry. -/
def finish : Draft → Value
  | .value v => v
  | .table _ entries => .table (finishEntries entries)
  | .tables elements => .array (finishTables elements)

def finishEntries : Drafts → Entries
  | [] => []
  | (key, draft) :: rest => Keyed.insert key (finish draft) (finishEntries rest)

def finishTables : List Drafts → List Value
  | [] => []
  | entries :: rest => .table (finishEntries entries) :: finishTables rest

end

end Draft
end Toml
end DocViews
