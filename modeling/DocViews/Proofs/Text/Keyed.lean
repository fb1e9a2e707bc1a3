import DocViews.Text.Keyed
import Mathlib.Data.List.Nodup

/-!
# Entries in the order of their keys

In a *sorted* list the keys get greater from entry to entry, so no key stands twice.  `Keyed.insert`
keeps a list sorted (`Sorted.insert`), and a sorted list is no more than what its keys hold
(`Sorted.ext`).
-/

set_option autoImplicit false

namespace DocViews

theorem Text.ne_of_lt {a b : Text} (h : a < b) : a ≠ b :=
  fun heq => List.lt_irrefl b (heq ▸ h)

/-- Of two different texts one is before the other one. -/
theorem Text.lt_of_not_lt {a b : Text} (h : ¬ a < b) (hne : a ≠ b) : b < a := by
  by_contra hba
  exact hne (List.le_antisymm (List.not_lt.1 hba) (List.not_lt.1 h))

namespace Keyed

variable {α : Type} {key : Text} {value : α} {entries : List (Text × α)}

theorem mem_keys_iff : key ∈ entries.map Prod.fst ↔ entries.lookup key ≠ none := by
  induction entries with
  | nil => simp
  | cons entry rest ih =>
    obtain ⟨k, v⟩ := entry
    rw [List.map_cons, List.mem_cons]
    by_cases h : key = k
    · subst h
      simp
    · rw [lookup_cons_of_ne h, ← ih]
      simp [h]

theorem mem_of_lookup (h : entries.lookup key = some value) : (key, value) ∈ entries := by
  induction entries with
  | nil => exact absurd h (by simp)
  | cons entry rest ih =>
    obtain ⟨k, v⟩ := entry
    by_cases hk : key = k
    · subst hk
      rw [lookup_cons_self] at h
      exact Option.some.inj h ▸ List.mem_cons_self
    · rw [lookup_cons_of_ne hk] at h
      exact List.mem_cons_of_mem _ (ih h)

/-- Without the entries of a key, the others hold what they held. -/
theorem lookup_filter_ne (key k : Text) (entries : List (Text × α)) :
    (entries.filter (·.1 ≠ key)).lookup k = if k = key then none else entries.lookup k := by
  induction entries with
  | nil => simp
  | cons entry rest ih =>
    obtain ⟨n, v⟩ := entry
    by_cases hn : n = key
    · rw [List.filter_cons_of_neg (by simpa using hn), ih]
      split
      · rfl
      · next hk => rw [lookup_cons_of_ne (hn ▸ hk)]
    · rw [List.filter_cons_of_pos (by simpa using hn)]
      by_cases hk : k = n
      · subst hk
        rw [lookup_cons_self, lookup_cons_self, if_neg hn]
      · rw [lookup_cons_of_ne hk, lookup_cons_of_ne hk, ih]

/-- Setting a key brings in no other entry. -/
theorem mem_insert {entry : Text × α} (h : entry ∈ insert key value entries) :
    entry = (key, value) ∨ entry ∈ entries := by
  induction entries with
  | nil => exact .inl (List.mem_singleton.1 h)
  | cons first rest ih =>
    obtain ⟨k, v⟩ := first
    rw [insert] at h
    split at h
    · exact (List.mem_cons.1 h).imp_right (List.mem_cons_of_mem _)
    · split at h
      · exact List.mem_cons.1 h
      · rcases List.mem_cons.1 h with rfl | h
        · exact .inr List.mem_cons_self
        · exact (ih h).imp_right (List.mem_cons_of_mem _)

/-- Whether the keys get greater from entry to entry. -/
def Sorted (entries : List (Text × α)) : Prop :=
  entries.Pairwise fun a b => a.1 < b.1

instance (entries : List (Text × α)) : Decidable (Sorted entries) :=
  inferInstanceAs (Decidable (entries.Pairwise fun a b => a.1 < b.1))

namespace Sorted

theorem nodup_keys (h : Sorted entries) : (entries.map Prod.fst).Nodup :=
  List.pairwise_map.2 (List.Pairwise.imp Text.ne_of_lt h)

/-- **Setting a key keeps a list sorted.** -/
theorem insert (h : Sorted entries) (key : Text) (value : α) :
    Sorted (Keyed.insert key value entries) := by
  induction entries with
  | nil => exact List.pairwise_singleton _ _
  | cons entry rest ih =>
    obtain ⟨k, v⟩ := entry
    obtain ⟨hfirst, hrest⟩ := List.pairwise_cons.1 h
    rw [Keyed.insert]
    split
    · next hk =>
      subst hk
      exact List.pairwise_cons.2 ⟨hfirst, hrest⟩
    · next hk =>
      split
      · next hlt =>
        refine List.pairwise_cons.2 ⟨fun entry hmem => ?_, h⟩
        rcases List.mem_cons.1 hmem with rfl | hmem
        · exact hlt
        · exact List.lt_trans hlt (hfirst entry hmem)
      · next hlt =>
        refine List.pairwise_cons.2 ⟨fun entry hmem => ?_, ih hrest⟩
        rcases mem_insert hmem with rfl | hmem
        · exact Text.lt_of_not_lt hlt (Ne.symm hk)
        · exact hfirst entry hmem

/-- In a sorted list every entry is the one that its key finds. -/
theorem lookup_eq_some_iff (h : Sorted entries) :
    entries.lookup key = some value ↔ (key, value) ∈ entries := by
  refine ⟨mem_of_lookup, fun hmem => ?_⟩
  induction entries with
  | nil => exact absurd hmem List.not_mem_nil
  | cons entry rest ih =>
    obtain ⟨k, v⟩ := entry
    obtain ⟨hfirst, hrest⟩ := List.pairwise_cons.1 h
    rcases List.mem_cons.1 hmem with heq | hmem
    · obtain ⟨rfl, rfl⟩ := Prod.mk.inj heq
      exact lookup_cons_self ..
    · have hne : key ≠ k := fun heq => List.lt_irrefl _ (heq ▸ hfirst _ hmem)
      rw [lookup_cons_of_ne hne]
      exact ih hrest hmem

/-- **Sorted lists whose keys hold the same are the same.** -/
theorem ext {others : List (Text × α)} (h : Sorted entries) (hothers : Sorted others)
    (heq : ∀ key, entries.lookup key = others.lookup key) : entries = others := by
  have hmem : ∀ entry, entry ∈ entries ↔ entry ∈ others := by
    rintro ⟨key, value⟩
    rw [← h.lookup_eq_some_iff, ← hothers.lookup_eq_some_iff, heq]
  have hperm := (List.perm_ext_iff_of_nodup (h.nodup_keys.of_map _)
    (hothers.nodup_keys.of_map _)).2 hmem
  exact hperm.eq_of_pairwise (fun a b _ _ hab hba => absurd hba (List.lt_asymm hab)) h hothers

end Sorted
end Keyed
end DocViews
