import DocViews.Proofs.Settings.Reading
import DocViews.Settings.Resolve

/-!
# What sparse settings change

The table of a settings file is laid over the stock table, and of the merged table no more is read
than what it holds at the keys of the schema.  That is what the file says there, or the stock value
(`Settings.at?_merged`).  So **settings are stock but for the keys that a file names, and a file that
keeps to the schema is accepted** if the names in it can stand in generated code
(`Settings.resolve_overrides`).
-/

set_option autoImplicit false

namespace DocViews
namespace Settings

open Toml (Value Entries)
open Shape

/-- The stock table with an overlay over it. -/
def merged (overlay : Entries) : Entries :=
  Value.mergeEntries (toTable {}) overlay

/-- Each key has the value that an overlay holds there, or its stock value. -/
def DescribedBy (overlay : Entries) (s : Settings) : Prop :=
  ∀ sect ∈ sections, ∀ k ∈ sect.keys,
    k.value (sect.part s)
      = ((Value.table overlay).at? [sect.name, k.name]).or (k.value (sect.part {}))

/-- Whether an overlay keeps to the schema and has documented values only. -/
structure IsDocumented (overlay : Entries) : Prop where
  sectionsAreTables : SectionsAreTables overlay
  inSchema : InSchema overlay
  documents : ∀ sect ∈ sections, ∀ k ∈ sect.keys, ∀ v,
    (Value.table overlay).at? [sect.name, k.name] = some v → k.kind.Documents v

variable {overlay : Entries} {s t : Settings}

/-- Settings are no more than the values of their keys. -/
theorem DescribedBy.unique (hs : DescribedBy overlay s) (ht : DescribedBy overlay t) : s = t := by
  refine ext_of_sections fun sect hsect k hk => k.kind.write_injective ?_
  exact (hs sect hsect k hk).trans (ht sect hsect k hk).symm

/-! ## The merged table -/

theorem table_merged (overlay : Entries) :
    Value.table (merged overlay) = Value.merge (.table (toTable {})) (.table overlay) :=
  rfl

theorem exists_section_of_stock : ∀ sect ∈ sections, ∃ inner,
    (toTable {}).lookup sect.name = some (.table inner) ∧ Keyed.Sorted inner ∧
      ∀ name ∈ inner.map Prod.fst, name ∈ sect.keys.map Key.name :=
  forall_mem_sections.2 ⟨⟨_, rfl, by decide, by decide⟩, ⟨_, rfl, by decide, by decide⟩,
    ⟨_, rfl, by decide, by decide⟩, ⟨_, rfl, by decide, by decide⟩,
    ⟨_, rfl, by decide, by decide⟩⟩

theorem inSchema_stock : InSchema (toTable {}) where
  section_mem name v hv := by
    have hnames : ∀ name ∈ (toTable {}).map Prod.fst, name ∈ sections.map Section.name := by decide
    have hname := Keyed.mem_keys_iff.2 (Option.ne_none_iff_exists'.2 ⟨v, hv⟩)
    exact List.mem_map.1 (hnames name hname)
  key_mem sect hsect name v hv := by
    obtain ⟨inner, hinner, -, hnames⟩ := exists_section_of_stock sect hsect
    rw [at?_pair, entriesAt, hinner] at hv
    have hname := Keyed.mem_keys_iff.2 (Option.ne_none_iff_exists'.2 ⟨v, hv⟩)
    exact List.mem_map.1 (hnames name hname)

/-- The sections of the merged table are those of the stock table with what the overlay has in
them. -/
theorem lookup_merged (htables : SectionsAreTables overlay) {sect : Section}
    (hsect : sect ∈ sections) : ∃ inner, (merged overlay).lookup sect.name = some (.table inner) ∧
      Keyed.Sorted inner := by
  obtain ⟨below, hbelow, hsorted, -⟩ := exists_section_of_stock sect hsect
  rw [merged, Value.lookup_mergeEntries, hbelow]
  cases hv : overlay.lookup sect.name with
  | none => exact ⟨below, rfl, hsorted⟩
  | some v =>
    obtain ⟨above, rfl⟩ := Value.exists_entries (htables sect hsect v hv)
    exact ⟨_, rfl, Value.sorted_mergeEntries hsorted above⟩

theorem sectionsAreTables_merged (htables : SectionsAreTables overlay) :
    SectionsAreTables (merged overlay) := by
  intro sect hsect v hv
  obtain ⟨inner, hinner, -⟩ := lookup_merged htables hsect
  rw [← Option.some.inj (hinner.symm.trans hv)]
  rfl

theorem inOrder_merged (htables : SectionsAreTables overlay) : InOrder (merged overlay) where
  sorted := Value.sorted_mergeEntries (by decide) overlay
  sorted_entriesAt sect hsect := by
    obtain ⟨inner, hinner, hsorted⟩ := lookup_merged htables hsect
    rw [entriesAt, hinner]
    exact hsorted

/-- **What the merged table holds at a key**: what the overlay says, or the stock value. -/
theorem at?_merged (htables : SectionsAreTables overlay) {sect : Section} (hsect : sect ∈ sections)
    {k : Key sect.Part} (hk : k ∈ sect.keys) :
    (Value.table (merged overlay)).at? [sect.name, k.name]
      = ((Value.table overlay).at? [sect.name, k.name]).or (k.value (sect.part {})) := by
  have hopen : (Value.table overlay).OnlyTablesAbove [sect.name, k.name] := by
    refine Value.onlyTablesAbove_table_cons_iff.2 fun v hv => ?_
    obtain ⟨inner, rfl⟩ := Value.exists_entries (htables sect hsect v hv)
    exact Value.onlyTablesAbove_table_cons_iff.2 fun w _ => Value.onlyTablesAbove_nil w
  have hstock := at?_toTable {} sect hsect k hk
  rw [table_merged, Value.at?_merge_of_onlyTablesAbove hopen, hstock]
  intro below hbelow
  exact k.kind.isTable_of_write below _ (hstock.symm.trans hbelow)

/-- Next to the stock table, the merged table has the sections and keys of the overlay. -/
theorem inSchema_merged_iff : InSchema (merged overlay) ↔ InSchema overlay := by
  constructor <;> refine fun h => ⟨fun name v hv => ?_, fun sect hsect name v hv => ?_⟩
  · rw [← Value.at?_singleton] at hv
    obtain ⟨w, hw⟩ := Value.exists_at?_merge hv
    rw [← table_merged, Value.at?_singleton] at hw
    exact h.section_mem name w hw
  · obtain ⟨w, hw⟩ := Value.exists_at?_merge hv
    rw [← table_merged] at hw
    exact h.key_mem sect hsect name w hw
  · rw [← Value.at?_singleton, table_merged] at hv
    rcases Value.exists_of_at?_merge hv with ⟨w, hw⟩ | hstock
    · rw [Value.at?_singleton] at hw
      exact h.section_mem name w hw
    · rw [Value.at?_singleton] at hstock
      exact inSchema_stock.section_mem name v hstock
  · rw [table_merged] at hv
    rcases Value.exists_of_at?_merge hv with ⟨w, hw⟩ | hstock
    · exact h.key_mem sect hsect name w hw
    · exact inSchema_stock.key_mem sect hsect name v hstock

/-! ## Reading the merged table -/

/-- **What a key is set to**: what the overlay says there, or its stock datum. -/
theorem data_of_merged (htables : SectionsAreTables overlay) (h : ofTable (merged overlay) = .ok s)
    {sect : Section} (hsect : sect ∈ sections) {k : Key sect.Part} (hk : k ∈ sect.keys) :
    ((Value.table overlay).at? [sect.name, k.name] = none →
      k.datum (sect.part s) = k.datum (sect.part {})) ∧
    ∀ v, (Value.table overlay).at? [sect.name, k.name] = some v →
      k.kind.read v = .ok (k.datum (sect.part s)) := by
  obtain ⟨habsent, hpresent⟩ := data_of_ofTable (sectionsAreTables_merged htables)
    (inOrder_merged htables) h hsect k hk
  have hat := at?_merged htables hsect hk
  refine ⟨fun hnone => ?_, fun v hv => ?_⟩
  · rw [hnone, Option.none_or] at hat
    cases hstock : k.value (sect.part {}) with
    | none => exact habsent (hat.trans hstock)
    | some v =>
      have hsays := k.kind.read_of_write v _ hstock
      exact Except.ok.inj ((hpresent v (hat.trans hstock)).symm.trans hsays)
  · rw [hv, Option.some_or] at hat
    exact hpresent v hat

/-- **A documented overlay is read**, and it describes what is read. -/
theorem exists_of_isDocumented (h : IsDocumented overlay) :
    ∃ s, ofTable (merged overlay) = .ok s ∧ DescribedBy overlay s := by
  have hsays : ∀ sect ∈ sections, ∀ k ∈ sect.keys, ∀ v,
      (Value.table (merged overlay)).at? [sect.name, k.name] = some v →
        ∃ d, k.kind.read v = .ok d := by
    intro sect hsect k hk v hv
    rw [at?_merged h.sectionsAreTables hsect hk] at hv
    rcases Option.or_eq_some_iff.1 hv with habove | ⟨-, hstock⟩
    · exact (k.kind.exists_read v (h.documents sect hsect k hk v habove)).2
    · exact ⟨_, k.kind.read_of_write v _ hstock⟩
  obtain ⟨s, hs⟩ := exists_ofTable (sectionsAreTables_merged h.sectionsAreTables)
    (inOrder_merged h.sectionsAreTables) (inSchema_merged_iff.2 h.inSchema) hsays
  refine ⟨s, hs, fun sect hsect k hk => ?_⟩
  obtain ⟨habsent, hpresent⟩ := data_of_merged h.sectionsAreTables hs hsect hk
  cases hv : (Value.table overlay).at? [sect.name, k.name] with
  | none => rw [Option.none_or, Key.value, Key.value, habsent hv]
  | some v =>
    obtain ⟨htype, -⟩ := k.kind.exists_read v (h.documents sect hsect k hk v hv)
    rw [Option.some_or, Key.value, k.kind.write_of_read v _ htype (hpresent v hv)]

/-- **Sparse settings override exactly what they name.**  In settings that an overlay resolves to,
every key that is absent from the overlay has its stock datum, and every key that is there with a
value of its type has this value.  The overlay names no section and no key outside the schema, and
the settings have passed the check.  On the other hand, an overlay that keeps to the schema and has
documented values only describes settings, and resolves to them if they pass the check. -/
theorem resolve_overrides (overlay : Entries) :
    (SectionsAreTables overlay → ∀ s, resolve overlay = .ok s →
      (∀ sect ∈ sections, ∀ k ∈ sect.keys,
        ((Value.table overlay).at? [sect.name, k.name] = none →
          k.datum (sect.part s) = k.datum (sect.part {})) ∧
        ∀ v, (Value.table overlay).at? [sect.name, k.name] = some v → k.kind.HasType v →
          k.value (sect.part s) = some v) ∧
      InSchema overlay ∧ s.firstFault? = none) ∧
    (IsDocumented overlay →
      (∃! s, DescribedBy overlay s) ∧
      ∀ s, DescribedBy overlay s → s.firstFault? = none → resolve overlay = .ok s) := by
  refine ⟨fun htables s h => ?_, fun h => ?_⟩
  · obtain ⟨hread, hfault⟩ := resolve_eq_ok_iff.1 h
    refine ⟨fun sect hsect k hk => ?_, ?_, hfault⟩
    · obtain ⟨habsent, hpresent⟩ := data_of_merged htables hread hsect hk
      exact ⟨habsent, fun v hv htype => k.kind.write_of_read v _ htype (hpresent v hv)⟩
    · exact inSchema_merged_iff.1 (inSchema_of_ofTable (sectionsAreTables_merged htables)
        (inOrder_merged htables) hread)
  · obtain ⟨s, hread, hs⟩ := exists_of_isDocumented h
    refine ⟨⟨s, hs, fun t ht => ht.unique hs⟩, fun t ht hfault => ?_⟩
    obtain rfl := hs.unique ht
    exact resolve_eq_ok_iff.2 ⟨hread, hfault⟩

/-- Two keys are changed. -/
theorem resolve_overrides_two :
    let overlay : Entries := [
      ("ordering".toList, .table [("precedence".toList, .string "metadata".toList)]),
      ("processing".toList, .table [("max_threads".toList, .integer 4)])]
    let s : Settings := { precedence := .metadata, maxThreads := some 4 }
    (SectionsAreTables overlay ∧ InSchema overlay) ∧
    IsDocumented overlay ∧ (∃! s, DescribedBy overlay s) ∧
      DescribedBy overlay s ∧ s.firstFault? = none ∧ resolve overlay = .ok s := by
  intro overlay s
  have habsent : ∀ {p : Value → Prop}, ∀ v, none = some v → p v :=
    fun v hv => absurd hv (Option.some_ne_none v).symm
  have htables : SectionsAreTables overlay := by
    refine forall_mem_sections.2 ⟨habsent, habsent, habsent, ?_, ?_⟩ <;> intro v hv <;>
      exact Option.some.inj hv ▸ rfl
  have hfault : s.firstFault? = none := by decide +kernel
  have hread : ofTable (merged overlay) = .ok s := rfl
  have hresolve : resolve overlay = .ok s := resolve_eq_ok_iff.2 ⟨hread, hfault⟩
  have hschema := ((resolve_overrides overlay).1 htables s hresolve).2.1
  have hdocumented : IsDocumented overlay := by
    refine ⟨htables, hschema, forall_mem_sections.2 ?_⟩
    simp only [namingSection, conventionKeys, projectSection, projectKeys, targetSection,
      targetKeys, orderingSection, orderingKeys, processingSection, processingKeys,
      List.forall_mem_cons, List.not_mem_nil, IsEmpty.forall_iff, implies_true, and_true]
    refine ⟨⟨habsent, habsent⟩, habsent,
      ⟨habsent, habsent, habsent, habsent, habsent, habsent, habsent⟩, ?_, ?_⟩ <;>
      intro v hv <;> rw [← Option.some.inj hv]
    · exact .inr rfl
    · exact ⟨4, rfl⟩
  obtain ⟨hunique, haccepted⟩ := (resolve_overrides overlay).2 hdocumented
  obtain ⟨t, ht, hdescribed⟩ := exists_of_isDocumented hdocumented
  obtain rfl : s = t := Except.ok.inj (hread.symm.trans ht)
  exact ⟨⟨htables, hschema⟩, hdocumented, hunique, hdescribed, hfault,
    haccepted s hdescribed hfault⟩

end Settings
end DocViews
