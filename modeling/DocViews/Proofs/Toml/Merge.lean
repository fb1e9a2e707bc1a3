import DocViews.Proofs.Text.Keyed
import DocViews.Toml.Value

/-!
# Laying tables over tables

A path of keys leads through tables to a value or to nothing (`Value.at?`).  What a merge holds at a
path is decided by what both sides hold there and by what the overlay holds on the way
(`at?_merge`): its values stand where they are and hide what was below them, its tables make room
for what the base holds next to them, and where it says nothing the base shows.

A table that is kept in the order of its keys is no more than the values and the tables at its paths
(`ext_of_paths`).  So what a merge does, it does once: merging the same overlay again changes nothing.
-/

set_option autoImplicit false

namespace DocViews
namespace Toml
namespace Value

/-! ## Paths -/

def isTable : Value → Bool
  | .table _ => true
  | _ => false

/-- What a path of keys leads to. -/
def at? : Value → List Text → Option Value
  | v, [] => some v
  | .table entries, key :: path => (entries.lookup key).bind (at? · path)
  | _, _ :: _ => none

/-- Whether there is nothing but tables on the way to the end of a path. -/
def OnlyTablesAbove (v : Value) (path : List Text) : Prop :=
  ∀ above, above <+: path → above ≠ path → ∀ w, v.at? above = some w → w.isTable = true

/-- The same, found by going down the path. -/
def opens : Value → List Text → Bool
  | _, [] => true
  | .table entries, key :: path => ((entries.lookup key).map (opens · path)).getD true
  | _, _ :: _ => false

def LeadsToTable (v : Value) (path : List Text) : Prop :=
  ∃ w, v.at? path = some w ∧ w.isTable = true

section

variable {v base overlay : Value} {entries : Entries} {key : Text} {path : List Text}

theorem exists_entries (h : v.isTable = true) : ∃ entries, v = .table entries := by
  cases v with
  | table entries => exact ⟨entries, rfl⟩
  | _ => exact nomatch h

theorem at?_nil (v : Value) : v.at? [] = some v := by
  cases v <;> rfl

theorem at?_table_cons (entries : Entries) (key : Text) (path : List Text) :
    (table entries).at? (key :: path) = (entries.lookup key).bind (·.at? path) :=
  rfl

theorem at?_cons_of_not_table (h : v.isTable = false) (key : Text) (path : List Text) :
    v.at? (key :: path) = none := by
  cases v with
  | table entries => exact nomatch h
  | _ => rfl

theorem opens_table_cons (entries : Entries) (key : Text) (path : List Text) :
    (table entries).opens (key :: path) = ((entries.lookup key).map (opens · path)).getD true :=
  rfl

theorem opens_cons_of_not_table (h : v.isTable = false) (key : Text) (path : List Text) :
    v.opens (key :: path) = false := by
  cases v with
  | table entries => exact nomatch h
  | _ => rfl

theorem onlyTablesAbove_nil (v : Value) : v.OnlyTablesAbove [] :=
  fun _ hpre hne => absurd (List.prefix_nil.1 hpre) hne

/-- Behind its first key, a path has on the way what the first key leads to. -/
theorem onlyTablesAbove_table_cons_iff :
    (table entries).OnlyTablesAbove (key :: path)
      ↔ ∀ w, entries.lookup key = some w → w.OnlyTablesAbove path := by
  constructor
  · intro h w hw above hpre hne u hu
    refine h (key :: above) ((List.prefix_cons_inj key).2 hpre) (by simpa using hne) u ?_
    rw [at?_table_cons, hw, Option.bind_some, hu]
  · intro h above hpre hne u hu
    cases above with
    | nil =>
      rw [at?_nil] at hu
      rw [← Option.some.inj hu]
      rfl
    | cons first above =>
      obtain ⟨rfl, htail⟩ := List.cons_prefix_cons.1 hpre
      rw [at?_table_cons] at hu
      obtain ⟨w, hw, hbehind⟩ := Option.bind_eq_some_iff.1 hu
      exact h w hw above htail (by simpa using hne) u hbehind

theorem opens_iff : v.opens path = true ↔ v.OnlyTablesAbove path := by
  induction path generalizing v with
  | nil =>
    have hnil : v.opens [] = true := by cases v <;> rfl
    exact iff_of_true hnil (onlyTablesAbove_nil v)
  | cons key path ih =>
    cases hv : v.isTable with
    | false =>
      rw [opens_cons_of_not_table hv]
      refine iff_of_false (by decide) fun h => ?_
      exact absurd (h [] List.nil_prefix (by simp) v (at?_nil v)) (by rw [hv]; decide)
    | true =>
      obtain ⟨entries, rfl⟩ := exists_entries hv
      rw [opens_table_cons, onlyTablesAbove_table_cons_iff]
      cases entries.lookup key with
      | none => simp
      | some w => simp [ih]

/-- A value is a table of values, or no table. -/
@[elab_as_elim]
theorem induction_on_tables {motive : Value → Prop}
    (leaf : ∀ v : Value, v.isTable = false → motive v)
    (table : ∀ entries, (∀ entry ∈ entries, motive entry.2) → motive (.table entries)) :
    ∀ v, motive v
  | .table entries => table entries fun entry _ => induction_on_tables leaf table entry.2
  | .string _ => leaf _ rfl
  | .integer _ => leaf _ rfl
  | .float _ => leaf _ rfl
  | .boolean _ => leaf _ rfl
  | .datetime _ => leaf _ rfl
  | .array _ => leaf _ rfl
termination_by v => sizeOf v
decreasing_by
  have hentry := List.sizeOf_lt_of_mem ‹entry ∈ entries›
  obtain ⟨key, v⟩ := entry
  simp only [Prod.mk.sizeOf_spec, Value.table.sizeOf_spec] at hentry ⊢
  omega

/-! ## Merging values -/

theorem merge_of_not_table (h : overlay.isTable = false) (base : Value) :
    merge base overlay = overlay := by
  cases overlay with
  | table entries => exact nomatch h
  | _ => rfl

theorem merge_onto_value (h : base.isTable = false) (overlay : Value) :
    merge base overlay = overlay := by
  cases overlay with
  | table entries =>
    cases base with
    | table below => exact nomatch h
    | _ => rfl
  | _ => rfl

theorem merge_table (below entries : Entries) :
    merge (.table below) (.table entries) = .table (mergeEntries below entries) :=
  rfl

theorem isTable_merge (base overlay : Value) : (merge base overlay).isTable = overlay.isTable := by
  cases overlay with
  | table entries => cases base <;> rfl
  | _ => rfl

/-- **What a merge holds at a path**: where the overlay holds something, the merge of what both
sides hold; where it holds nothing, what the base holds, unless a value of the overlay is on the
way. -/
theorem at?_merge (base overlay : Value) (path : List Text) :
    (merge base overlay).at? path =
      match overlay.at? path with
      | some v =>
        some (match base.at? path with
          | some below => merge below v
          | none => v)
      | none => if overlay.opens path then base.at? path else none := by
  induction path generalizing base overlay with
  | nil => simp only [at?_nil]
  | cons key path ih =>
    cases hoverlay : overlay.isTable with
    | false =>
      rw [merge_of_not_table hoverlay, at?_cons_of_not_table hoverlay,
        opens_cons_of_not_table hoverlay]
      rfl
    | true =>
      obtain ⟨entries, rfl⟩ := exists_entries hoverlay
      cases hbase : base.isTable with
      | false =>
        rw [merge_onto_value hbase, at?_cons_of_not_table hbase]
        cases (table entries).at? (key :: path) <;> simp
      | true =>
        obtain ⟨below, rfl⟩ := exists_entries hbase
        rw [merge_table, at?_table_cons, at?_table_cons, at?_table_cons, opens_table_cons]
        have hmerged := lookup_mergeEntries below entries key
        cases hlow : below.lookup key <;> cases htop : entries.lookup key <;>
          rw [hlow, htop] at hmerged <;> rw [hmerged]
        case none.none => rfl
        case none.some v => cases hv : v.at? path <;> simp [hv]
        case some.none u => rfl
        case some.some u v => exact ih u v

/-- A merge holds something wherever the overlay does. -/
theorem exists_at?_merge {v : Value} (h : overlay.at? path = some v) :
    ∃ w, (merge base overlay).at? path = some w := by
  rw [at?_merge, h]
  exact ⟨_, rfl⟩

/-- Where a merge holds something, one of the sides does. -/
theorem exists_of_at?_merge {v : Value} (h : (merge base overlay).at? path = some v) :
    (∃ w, overlay.at? path = some w) ∨ base.at? path = some v := by
  cases hoverlay : overlay.at? path with
  | some w => exact .inl ⟨w, rfl⟩
  | none =>
    rw [at?_merge, hoverlay] at h
    cases hopens : overlay.opens path <;> rw [hopens] at h
    case false => exact nomatch h
    case true => exact .inr h

/-- **An overlay that is open at a path** hides the value of the base there, or lets it show. -/
theorem at?_merge_of_onlyTablesAbove (hoverlay : overlay.OnlyTablesAbove path)
    (hbase : ∀ below, base.at? path = some below → below.isTable = false) :
    (merge base overlay).at? path = (overlay.at? path).or (base.at? path) := by
  rw [at?_merge, if_pos (opens_iff.2 hoverlay)]
  cases overlay.at? path with
  | none => rfl
  | some v =>
    cases hbelow : base.at? path with
    | none => rfl
    | some below => exact congrArg some (merge_onto_value (hbase below hbelow) v)

/-! ## Values and tables at paths -/

/-- A path has its own value in the overlay, or in the base if the overlay leaves it open. -/
theorem at?_merge_eq_some_iff (hv : v.isTable = false) :
    (merge base overlay).at? path = some v
      ↔ overlay.at? path = some v ∨
        base.at? path = some v ∧ overlay.at? path = none ∧ overlay.OnlyTablesAbove path := by
  rw [at?_merge, ← opens_iff]
  cases hoverlay : overlay.at? path with
  | none =>
    simp only [reduceCtorEq, false_or, true_and]
    split <;> simp_all
  | some w =>
    simp only [Option.some.injEq, reduceCtorEq, false_and, and_false, or_false]
    cases hbase : base.at? path with
    | none => rfl
    | some u =>
      constructor
      · intro h
        change merge u w = v at h
        have hw : w.isTable = false := by rw [← isTable_merge u, h, hv]
        rwa [merge_of_not_table hw] at h
      · rintro rfl
        exact merge_of_not_table hv u

/-- A path leads to a table of the overlay, or to a table of the base if the overlay has no value
there or on the way. -/
theorem leadsToTable_merge_iff :
    (merge base overlay).LeadsToTable path
      ↔ overlay.LeadsToTable path ∨
        base.LeadsToTable path ∧ overlay.OnlyTablesAbove path ∧
          ∀ w, overlay.at? path = some w → w.isTable = true := by
  rw [LeadsToTable, LeadsToTable, LeadsToTable, at?_merge, ← opens_iff]
  cases overlay.at? path with
  | none =>
    simp only [reduceCtorEq, false_and, exists_false, false_or, IsEmpty.forall_iff, implies_true,
      and_true]
    split <;> simp_all
  | some w =>
    have htable : ∀ below : Option Value, (match below with
        | some u => merge u w
        | none => w).isTable = w.isTable := by
      rintro (_ | u)
      · rfl
      · exact isTable_merge u w
    simp only [Option.some.injEq, exists_eq_left', forall_eq']
    rw [htable]
    exact ⟨.inl, fun h => h.elim id fun h => h.2.2⟩

/-! ## Tables in the order of their keys -/

mutual

/-- Whether all tables are in the order of their keys.  Arrays are not looked into. -/
def isTidy : Value → Bool
  | .table entries => decide (Keyed.Sorted entries) && entriesTidy entries
  | _ => true

def entriesTidy : Entries → Bool
  | [] => true
  | (_, v) :: rest => isTidy v && entriesTidy rest

end

theorem entriesTidy_iff : entriesTidy entries = true ↔ ∀ entry ∈ entries, entry.2.isTidy = true := by
  induction entries with
  | nil => simp [entriesTidy]
  | cons entry rest ih => rw [entriesTidy, Bool.and_eq_true, ih, List.forall_mem_cons]

theorem isTidy_table_iff :
    (table entries).isTidy = true
      ↔ Keyed.Sorted entries ∧ ∀ key v, entries.lookup key = some v → v.isTidy = true := by
  rw [isTidy, Bool.and_eq_true, decide_eq_true_eq, entriesTidy_iff]
  refine and_congr_right fun hsorted => ⟨fun h key v hv => ?_, fun h entry hmem => ?_⟩
  · exact h _ (Keyed.mem_of_lookup hv)
  · exact h entry.1 entry.2 (hsorted.lookup_eq_some_iff.2 hmem)

theorem sorted_mergeEntries {below : Entries} (h : Keyed.Sorted below) (entries : Entries) :
    Keyed.Sorted (mergeEntries below entries) := by
  induction entries with
  | nil => exact h
  | cons entry rest ih => exact ih.insert _ _

/-- Lays one entry over a table. -/
def mergeEntry (below : Entries) (entry : Text × Value) : Entries :=
  Keyed.insert entry.1
    (match below.lookup entry.1 with
      | some v => merge v entry.2
      | none => entry.2)
    below

/-- **The entries of an overlay are laid over a table one after another.**  As no key of the overlay
stands twice, none of its entries is laid over another one. -/
theorem mergeEntries_eq_foldl {below : Entries} (h : Keyed.Sorted below)
    (hkeys : (entries.map Prod.fst).Nodup) :
    mergeEntries below entries = entries.foldl mergeEntry below := by
  induction entries generalizing below with
  | nil => rfl
  | cons entry rest ih =>
    obtain ⟨hfirst, hrest⟩ := List.nodup_cons.1 hkeys
    have hnone : rest.lookup entry.1 = none :=
      Decidable.not_not.1 fun hsome => hfirst (Keyed.mem_keys_iff.2 hsome)
    have hentry : Keyed.Sorted (mergeEntry below entry) := h.insert _ _
    rw [List.foldl_cons, ← ih hentry hrest]
    refine (sorted_mergeEntries h _).ext (sorted_mergeEntries hentry _) fun key => ?_
    rw [lookup_mergeEntries, lookup_mergeEntries, mergeEntry, Keyed.lookup_insert]
    by_cases hkey : key = entry.1
    · subst hkey
      rw [Keyed.lookup_cons_self, if_pos rfl, hnone]
      cases below.lookup entry.1 <;> rfl
    · rw [Keyed.lookup_cons_of_ne hkey, if_neg hkey]

/-- **A merge keeps tables in the order of their keys.** -/
theorem isTidy_merge (hbase : base.isTidy = true) (hoverlay : overlay.isTidy = true) :
    (merge base overlay).isTidy = true := by
  induction overlay using induction_on_tables generalizing base with
  | leaf overlay ho => rwa [merge_of_not_table ho]
  | table entries ih =>
    cases hb : base.isTable with
    | false => rwa [merge_onto_value hb]
    | true =>
      obtain ⟨below, rfl⟩ := exists_entries hb
      obtain ⟨hsorted, hvalues⟩ := isTidy_table_iff.1 hbase
      obtain ⟨-, htop⟩ := isTidy_table_iff.1 hoverlay
      rw [merge_table, isTidy_table_iff]
      refine ⟨sorted_mergeEntries hsorted entries, fun key v hv => ?_⟩
      rw [lookup_mergeEntries] at hv
      cases hl : below.lookup key <;> cases ht : entries.lookup key <;> rw [hl, ht] at hv
      case none.none => exact nomatch hv
      case none.some w => exact Option.some.inj hv ▸ htop key w ht
      case some.none u => exact Option.some.inj hv ▸ hvalues key u hl
      case some.some u w =>
        rw [← Option.some.inj hv]
        exact ih _ (Keyed.mem_of_lookup ht) (hvalues key u hl) (htop key w ht)

theorem at?_singleton (entries : Entries) (key : Text) :
    (table entries).at? [key] = entries.lookup key := by
  rw [at?_table_cons]
  cases entries.lookup key with
  | none => rfl
  | some v => exact at?_nil v

/-- What a path leads to is a table or another value. -/
theorem at?_eq_none_iff :
    v.at? path = none
      ↔ (∀ u, u.isTable = false → v.at? path ≠ some u) ∧ ¬ v.LeadsToTable path := by
  constructor
  · intro h
    refine ⟨fun u _ hu => ?_, fun ⟨u, hu, _⟩ => ?_⟩
    · exact nomatch h.symm.trans hu
    · exact nomatch h.symm.trans hu
  · rintro ⟨hvalues, htables⟩
    cases hu : v.at? path with
    | none => rfl
    | some u =>
      cases htable : u.isTable with
      | false => exact absurd hu (hvalues u htable)
      | true => exact absurd ⟨u, hu, htable⟩ htables

/-- **A tidy value is no more than the tables and the other values at its paths.** -/
theorem ext_of_paths {w : Value} (hv : v.isTidy = true) (hw : w.isTidy = true)
    (hvalues : ∀ path u, u.isTable = false → (v.at? path = some u ↔ w.at? path = some u))
    (htables : ∀ path, v.LeadsToTable path ↔ w.LeadsToTable path) : v = w := by
  induction v using induction_on_tables generalizing w with
  | leaf v hleaf =>
    have hat := (hvalues [] v hleaf).1 (at?_nil v)
    rw [at?_nil] at hat
    exact (Option.some.inj hat).symm
  | table entries ih =>
    obtain ⟨u, hu, htable⟩ := (htables []).1 ⟨_, at?_nil _, rfl⟩
    rw [at?_nil] at hu
    obtain rfl := Option.some.inj hu
    obtain ⟨others, rfl⟩ := exists_entries htable
    obtain ⟨hsorted, hin⟩ := isTidy_table_iff.1 hv
    obtain ⟨hsorted', hin'⟩ := isTidy_table_iff.1 hw
    refine congrArg table (hsorted.ext hsorted' fun key => ?_)
    have hnone : entries.lookup key = none ↔ others.lookup key = none := by
      rw [← at?_singleton, ← at?_singleton, at?_eq_none_iff, at?_eq_none_iff, htables]
      refine and_congr_left' (forall_congr' fun u => forall_congr' fun hu => ?_)
      rw [Ne, Ne, hvalues [key] u hu]
    cases he : entries.lookup key with
    | none => exact (hnone.1 he).symm
    | some a =>
      cases ho : others.lookup key with
      | none => exact nomatch he.symm.trans (hnone.2 ho)
      | some b =>
        have hat : ∀ path, (table entries).at? (key :: path) = a.at? path := fun path => by
          rw [at?_table_cons, he, Option.bind_some]
        have hat' : ∀ path, (table others).at? (key :: path) = b.at? path := fun path => by
          rw [at?_table_cons, ho, Option.bind_some]
        refine congrArg some (ih _ (Keyed.mem_of_lookup he) (hin key a he) (hin' key b ho)
          (fun path u hu => ?_) fun path => ?_)
        · rw [← hat, ← hat', hvalues _ u hu]
        · have h := htables (key :: path)
          rwa [LeadsToTable, LeadsToTable, hat, hat'] at h

/-- A table that is kept in the order of its keys, and so are the tables in it. -/
structure TidyTable where
  entries : Entries
  tidy : (table entries).isTidy = true

instance : CoeOut TidyTable Value := ⟨fun t => table t.entries⟩

/-- **Laying an overlay over a table once is enough.** -/
theorem merge_merge_self (base overlay : TidyTable) :
    merge (merge base overlay) overlay = merge base overlay := by
  have hmerge := isTidy_merge base.tidy overlay.tidy
  refine ext_of_paths (isTidy_merge hmerge overlay.tidy) hmerge (fun path u hu => ?_)
    fun path => ?_
  · rw [at?_merge_eq_some_iff hu, at?_merge_eq_some_iff hu]
    tauto
  · rw [leadsToTable_merge_iff, leadsToTable_merge_iff]
    tauto

/-- **A value of the base is replaced** by what the overlay holds, if the overlay does not leave its
path open. -/
theorem at?_merge_of_value (hv : v.isTable = false) (hbase : base.at? path = some v)
    (h : ¬ (overlay.at? path = none ∧ overlay.OnlyTablesAbove path)) :
    (merge base overlay).at? path = overlay.at? path := by
  rw [at?_merge, hbase]
  cases hoverlay : overlay.at? path with
  | none =>
    have hclosed : ¬ overlay.opens path = true := fun hopens => h ⟨hoverlay, opens_iff.1 hopens⟩
    exact if_neg hclosed
  | some w => exact congrArg some (merge_onto_value hv w)

end

/-- **A merge overrides the base value by value.**  A value of the overlay stands at its path.  A
value of the base is kept exactly if the overlay leaves its path open: if it holds nothing there and
no other value than tables on the way; if not, the path leads to what it leads to in the overlay.  A
path leads to a table if it does in the overlay, or if it does in the base and the overlay has no
other value there or on the way.  Nothing else is in the merge.  So merging an empty table changes
nothing, and merging the same table again does not either. -/
theorem merge_by_paths :
    (∀ below above : Entries,
      let base := table below
      let overlay := table above
      let merged := merge base overlay
      (∀ path,
        (∀ v, v.isTable = false → overlay.at? path = some v → merged.at? path = some v) ∧
        (∀ v, v.isTable = false → base.at? path = some v →
          (overlay.at? path = none ∧ overlay.OnlyTablesAbove path → merged.at? path = some v) ∧
          (¬ (overlay.at? path = none ∧ overlay.OnlyTablesAbove path) →
            merged.at? path = overlay.at? path)) ∧
        (merged.LeadsToTable path ↔ overlay.LeadsToTable path ∨
          base.LeadsToTable path ∧ overlay.OnlyTablesAbove path ∧
            ∀ v, overlay.at? path = some v → v.isTable = true) ∧
        (∀ v, v.isTable = false → merged.at? path = some v →
          overlay.at? path = some v ∨
            base.at? path = some v ∧ overlay.at? path = none ∧ overlay.OnlyTablesAbove path)) ∧
      merge base emptyTable = base) ∧
    ∀ base overlay : TidyTable, merge (merge base overlay) overlay = merge base overlay := by
  refine ⟨?_, merge_merge_self⟩
  intro below above base overlay merged
  refine ⟨fun path => ⟨fun v hv hoverlay => ?_, fun v hv hbase => ⟨fun hopen => ?_, fun hclosed => ?_⟩,
    leadsToTable_merge_iff, fun v hv => (at?_merge_eq_some_iff hv).1⟩, rfl⟩
  · exact (at?_merge_eq_some_iff hv).2 (.inl hoverlay)
  · exact (at?_merge_eq_some_iff hv).2 (.inr ⟨hbase, hopen⟩)
  · exact at?_merge_of_value hv hbase hclosed

/-- A value over a table, a table over a value, and an empty table over a table. -/
theorem merge_by_paths_mixed :
    let base : TidyTable := {
      entries := [
        ("a".toList, .table [("x".toList, .integer 1)]),
        ("b".toList, .string "text".toList),
        ("c".toList, .table [("x".toList, .integer 1), ("y".toList, .boolean true)])]
      tidy := by decide }
    let overlay : TidyTable := {
      entries := [
        ("a".toList, .integer 2),
        ("b".toList, .table [("y".toList, .integer 3)]),
        ("c".toList, .table []),
        ("d".toList, .array [])]
      tidy := by decide }
    let merged : Value := .table [
      ("a".toList, .integer 2),
      ("b".toList, .table [("y".toList, .integer 3)]),
      ("c".toList, .table [("x".toList, .integer 1), ("y".toList, .boolean true)]),
      ("d".toList, .array [])]
    merge base overlay = merged ∧ merge merged overlay = merged := by
  intro base overlay merged
  exact ⟨rfl, merge_by_paths.2 base overlay⟩

end Value
end Toml
end DocViews
