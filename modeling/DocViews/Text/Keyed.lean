import DocViews.Text.Basic

/-!
# Lists with keys

Entries under keys, such as the entries of a folder or of a table.  What counts for a key is its
first entry, which `List.lookup` finds.

`Keyed.set` keeps the entries where they are and adds a new one at the end; `Keyed.insert` keeps
sorted keys sorted.  To `List.lookup` the two are the same: `lookup_set`, `lookup_insert`.
-/

set_option autoImplicit false

namespace DocViews
namespace Keyed

variable {α : Type}

/-- Sets a key: its entry is replaced, or a new one goes to the end. -/
def set (key : Text) (value : α) : List (Text × α) → List (Text × α)
  | [] => [(key, value)]
  | (k, v) :: rest => if k = key then (key, value) :: rest else (k, v) :: set key value rest

/-- Sets a key: its entry is replaced, or a new one goes before the first greater key. -/
def insert (key : Text) (value : α) : List (Text × α) → List (Text × α)
  | [] => [(key, value)]
  | (k, v) :: rest =>
    if k = key then (key, value) :: rest
    else if key < k then (key, value) :: (k, v) :: rest
    else (k, v) :: insert key value rest

theorem lookup_cons_self (key : Text) (value : α) (rest : List (Text × α)) :
    ((key, value) :: rest).lookup key = some value := by
  rw [List.lookup_cons, beq_self_eq_true]

theorem lookup_cons_of_ne {key k : Text} (h : key ≠ k) (value : α) (rest : List (Text × α)) :
    ((k, value) :: rest).lookup key = rest.lookup key := by
  rw [List.lookup_cons, beq_eq_false_iff_ne.2 h]

theorem lookup_set (key : Text) (value : α) (entries : List (Text × α)) (k : Text) :
    (set key value entries).lookup k = if k = key then some value else entries.lookup k := by
  induction entries with
  | nil =>
    by_cases h : k = key
    · subst h
      rw [set, lookup_cons_self, if_pos rfl]
    · rw [set, lookup_cons_of_ne h, if_neg h]
  | cons entry rest ih =>
    obtain ⟨n, v⟩ := entry
    rw [set]
    split
    · next hn =>
      subst hn
      by_cases h : k = n
      · subst h
        rw [lookup_cons_self, if_pos rfl]
      · rw [lookup_cons_of_ne h, lookup_cons_of_ne h, if_neg h]
    · next hn =>
      by_cases h : k = n
      · subst h
        rw [lookup_cons_self, lookup_cons_self, if_neg hn]
      · rw [lookup_cons_of_ne h, lookup_cons_of_ne h, ih]

theorem lookup_insert (key : Text) (value : α) (entries : List (Text × α)) (k : Text) :
    (insert key value entries).lookup k = if k = key then some value else entries.lookup k := by
  induction entries with
  | nil =>
    by_cases h : k = key
    · subst h
      rw [insert, lookup_cons_self, if_pos rfl]
    · rw [insert, lookup_cons_of_ne h, if_neg h]
  | cons entry rest ih =>
    obtain ⟨n, v⟩ := entry
    rw [insert]
    split
    · next hn =>
      subst hn
      by_cases h : k = n
      · subst h
        rw [lookup_cons_self, if_pos rfl]
      · rw [lookup_cons_of_ne h, lookup_cons_of_ne h, if_neg h]
    · next hn =>
      split
      · by_cases h : k = key
        · subst h
          rw [lookup_cons_self, if_pos rfl]
        · rw [lookup_cons_of_ne h, if_neg h]
      · by_cases h : k = n
        · subst h
          rw [lookup_cons_self, lookup_cons_self, if_neg hn]
        · rw [lookup_cons_of_ne h, lookup_cons_of_ne h, ih]

end Keyed
end DocViews
