import DocViews.Proofs.Settings.Schema

/-!
# What settings a table describes

Sections are read one after another, and so are the keys of a section (`Shape.readAll`).  In a table
whose keys are in order no key stands twice, so each datum is decided by one entry or by none.  So a
table that is read has no keys but those of the schema, and **each datum is what the value under its
key says, or the stock datum if there is none** (`Shape.data_of_ofTable`); and a table is read if all
its keys are in the schema and every value says something (`Shape.exists_ofTable`).
-/

set_option autoImplicit false

namespace DocViews

open Toml (Value Entries)

namespace Shape

/-! ## Entries one after another -/

section

variable {σ ε β : Type} {step : Text → Value → σ → Except ε σ} {start result : σ}
  {entries : Entries} {key : Text} {v : Value}

/-- Reads entries one after another. -/
def readAll (step : Text → Value → σ → Except ε σ) (start : σ) : Entries → Except ε σ
  | [] => .ok start
  | (key, v) :: rest => do
    let next ← step key v start
    readAll step next rest

theorem readAll_cons_eq_ok_iff {rest : Entries} :
    readAll step start ((key, v) :: rest) = .ok result
      ↔ ∃ next, step key v start = .ok next ∧ readAll step next rest = .ok result := by
  rw [readAll]
  cases step key v start with
  | error e => exact iff_of_false nofun (by rintro ⟨next, hnext, -⟩; exact nomatch hnext)
  | ok next => simp [bind, Except.bind]

/-- Every entry has been read. -/
theorem exists_of_readAll (h : readAll step start entries = .ok result)
    (hmem : (key, v) ∈ entries) : ∃ before next, step key v before = .ok next := by
  induction entries generalizing start with
  | nil => exact absurd hmem List.not_mem_nil
  | cons entry rest ih =>
    obtain ⟨next, hnext, hrest⟩ := readAll_cons_eq_ok_iff.1 h
    rcases List.mem_cons.1 hmem with rfl | hmem
    · exact ⟨start, next, hnext⟩
    · exact ih hrest hmem

/-- What the entries of other keys keep stays as it was at the start. -/
theorem view_of_readAll_of_none {view : σ → β}
    (hkeeps : ∀ other w a b, other ≠ key → step other w a = .ok b → view b = view a)
    (hkey : entries.lookup key = none) (h : readAll step start entries = .ok result) :
    view result = view start := by
  induction entries generalizing start with
  | nil => rw [Except.ok.inj h]
  | cons entry rest ih =>
    obtain ⟨next, hnext, hrest⟩ := readAll_cons_eq_ok_iff.1 h
    have hne : key ≠ entry.1 := by
      rintro rfl
      rw [Keyed.lookup_cons_self] at hkey
      exact nomatch hkey
    rw [Keyed.lookup_cons_of_ne hne] at hkey
    rw [ih hkey hrest, hkeeps _ _ _ _ (Ne.symm hne) hnext]

/-- **What only the entry of one key changes** is decided by this entry. -/
theorem view_of_readAll {view : σ → β}
    (hkeeps : ∀ other w a b, other ≠ key → step other w a = .ok b → view b = view a)
    (hsorted : Keyed.Sorted entries) (hkey : entries.lookup key = some v)
    (h : readAll step start entries = .ok result) :
    ∃ before next, step key v before = .ok next ∧ view result = view next := by
  induction entries generalizing start with
  | nil => exact nomatch hkey
  | cons entry rest ih =>
    obtain ⟨next, hnext, hrest⟩ := readAll_cons_eq_ok_iff.1 h
    obtain ⟨hfirst, hsorted⟩ := List.pairwise_cons.1 hsorted
    by_cases heq : key = entry.1
    · subst heq
      rw [Keyed.lookup_cons_self] at hkey
      obtain rfl := Option.some.inj hkey
      have hnone : rest.lookup entry.1 = none := by
        by_contra hsome
        obtain ⟨w, hw⟩ := Option.ne_none_iff_exists'.1 hsome
        have hlt := hfirst _ (Keyed.mem_of_lookup hw)
        exact List.lt_irrefl _ hlt
      exact ⟨start, next, hnext, view_of_readAll_of_none hkeeps hnone hrest⟩
    · rw [Keyed.lookup_cons_of_ne heq] at hkey
      exact ih hsorted hkey hrest

/-- Entries are read if each of them can be, whatever was read before. -/
theorem exists_readAll (h : ∀ entry ∈ entries, ∀ a, ∃ b, step entry.1 entry.2 a = .ok b)
    (start : σ) : ∃ result, readAll step start entries = .ok result := by
  induction entries generalizing start with
  | nil => exact ⟨start, rfl⟩
  | cons entry rest ih =>
    obtain ⟨hentry, hrest⟩ := List.forall_mem_cons.1 h
    obtain ⟨next, hnext⟩ := hentry start
    obtain ⟨result, hresult⟩ := ih hrest next
    exact ⟨result, readAll_cons_eq_ok_iff.2 ⟨next, hnext, hresult⟩⟩

end

/-! ## The keys of a section -/

section

variable {α : Type} {fields : List (Field α)} {entries : Entries} {key : Text} {v : Value}

/-- Reads the entry of one key. -/
def readKey (fields : List (Field α)) (key : Text) (v : Value) (a : α) : Except MisfitAt α :=
  match fields.find? (·.name = key) with
  | none => .error ⟨[], .unknownField key (fields.map Field.name)⟩
  | some f => atPath [key] (f.set v a)

theorem readEntries_eq_readAll (fields : List (Field α)) (start : α) (entries : Entries) :
    readEntries fields start entries = readAll (readKey fields) start entries := by
  induction entries generalizing start with
  | nil => rfl
  | cons entry rest ih =>
    rw [readEntries, readAll, readKey]
    cases fields.find? (·.name = entry.1) with
    | none => rfl
    | some f => simp only [ih]

theorem readKey_eq_ok_iff {a b : α} :
    readKey fields key v a = .ok b
      ↔ ∃ f, fields.find? (·.name = key) = some f ∧ f.set v a = .ok b := by
  rw [readKey]
  cases fields.find? (·.name = key) with
  | none => simp
  | some f =>
    simp only [Option.some.injEq, exists_eq_left']
    cases f.set v a <;> simp [atPath]

end

/-- **What the entries of a section say.**  They have keys of the section only, and each datum is
what the value under its key says, or what it was at the start. -/
theorem data_of_readEntries {sect : Section} (hsect : sect ∈ sections) {entries : Entries}
    (hsorted : Keyed.Sorted entries) {start part : sect.Part}
    (h : readEntries sect.fields start entries = .ok part) :
    (∀ name v, entries.lookup name = some v → ∃ k ∈ sect.keys, k.name = name) ∧
    ∀ k ∈ sect.keys,
      (entries.lookup k.name = none → k.datum part = k.datum start) ∧
      ∀ v, entries.lookup k.name = some v → k.kind.read v = .ok (k.datum part) := by
  rw [readEntries_eq_readAll] at h
  refine ⟨fun name v hname => ?_, fun k hk => ?_⟩
  · obtain ⟨before, next, hstep⟩ := exists_of_readAll h (Keyed.mem_of_lookup hname)
    obtain ⟨f, hfind, -⟩ := readKey_eq_ok_iff.1 hstep
    have hmem : name ∈ sect.keys.map Key.name := by
      rw [← names_fields sect hsect, List.mem_map]
      exact ⟨f, List.mem_of_find?_eq_some hfind, by simpa using List.find?_some hfind⟩
    exact List.mem_map.1 hmem
  · have hkeeps : ∀ other w a b, other ≠ k.name → readKey sect.fields other w a = .ok b →
        k.datum b = k.datum a := by
      intro other w a b hne hstep
      obtain ⟨f, hfind, hset⟩ := readKey_eq_ok_iff.1 hstep
      have hname : f.name = other := by simpa using List.find?_some hfind
      exact (fits_of_mem_sections sect hsect k hk f (List.mem_of_find?_eq_some hfind)).keeps
        (hname ▸ hne) w a b hset
    refine ⟨fun hnone => view_of_readAll_of_none hkeeps hnone h, fun v hv => ?_⟩
    obtain ⟨before, next, hstep, hview⟩ := view_of_readAll hkeeps hsorted hv h
    obtain ⟨f, hfind, hset⟩ := readKey_eq_ok_iff.1 hstep
    have hname : f.name = k.name := by simpa using List.find?_some hfind
    have hfits := fits_of_mem_sections sect hsect k hk f (List.mem_of_find?_eq_some hfind)
    rw [← hfits.sets hname v before, hset, hview]
    rfl

/-- **A section is read** if its keys are in the schema and every value says something. -/
theorem exists_readEntries {sect : Section} (hsect : sect ∈ sections) {entries : Entries}
    (h : ∀ entry ∈ entries, ∃ k ∈ sect.keys, k.name = entry.1 ∧ ∃ d, k.kind.read entry.2 = .ok d)
    (start : sect.Part) : ∃ part, readEntries sect.fields start entries = .ok part := by
  rw [readEntries_eq_readAll]
  refine exists_readAll (fun entry hentry a => ?_) start
  obtain ⟨k, hk, hname, d, hd⟩ := h entry hentry
  have hfield : entry.1 ∈ sect.fields.map Field.name := by
    rw [names_fields sect hsect, List.mem_map]
    exact ⟨k, hk, hname⟩
  obtain ⟨g, hg, hgname⟩ := List.mem_map.1 hfield
  obtain ⟨f, hfind⟩ := Option.isSome_iff_exists.1
    (List.find?_isSome.2 ⟨g, hg, decide_eq_true hgname⟩ :
      (sect.fields.find? (·.name = entry.1)).isSome = true)
  have hfname : f.name = k.name := by
    rw [hname]
    simpa using List.find?_some hfind
  have hset := (fits_of_mem_sections sect hsect k hk f (List.mem_of_find?_eq_some hfind)).sets
    hfname entry.2 a
  cases hvalue : f.set entry.2 a with
  | error e =>
    rw [hvalue, hd] at hset
    exact nomatch hset
  | ok b => exact ⟨b, readKey_eq_ok_iff.2 ⟨f, hfind, hvalue⟩⟩

/-! ## The sections of a table -/

theorem under_bind_eq_ok_iff {α β : Type} {path : List Text} {x : Except MisfitAt α} {f : α → β}
    {b : β} : (do let a ← under path x; return f a) = .ok b ↔ ∃ a, x = .ok a ∧ f a = b := by
  cases x with
  | error e => exact iff_of_false nofun (by rintro ⟨a, ha, -⟩; exact nomatch ha)
  | ok a => simp [under, bind, Except.bind, pure, Except.pure]

/-- **What reading one section does**: it puts the part that the section describes into the
settings. -/
theorem readInto_eq_ok_iff {key : Text} {v : Value} {s next : Settings} :
    readInto key v s = .ok next
      ↔ ∃ sect ∈ sections, sect.name = key ∧ ∃ part,
        readSection sect.title sect.fields (sect.part {}) v = .ok part ∧ sect.put part s = next := by
  constructor
  · intro h
    rw [readInto] at h
    split at h
    · next hkey =>
      exact ⟨namingSection, by simp [sections], hkey.symm, under_bind_eq_ok_iff.1 h⟩
    split at h
    · next hkey =>
      exact ⟨projectSection, by simp [sections], hkey.symm, under_bind_eq_ok_iff.1 h⟩
    split at h
    · next hkey =>
      exact ⟨targetSection, by simp [sections], hkey.symm, under_bind_eq_ok_iff.1 h⟩
    split at h
    · next hkey =>
      exact ⟨orderingSection, by simp [sections], hkey.symm, under_bind_eq_ok_iff.1 h⟩
    split at h
    · next hkey =>
      exact ⟨processingSection, by simp [sections], hkey.symm, under_bind_eq_ok_iff.1 h⟩
    · cases h
  · rintro ⟨sect, hsect, rfl, part, hpart⟩
    revert sect
    refine forall_mem_sections.2 ⟨?_, ?_, ?_, ?_, ?_⟩ <;> intro part hpart <;> rw [readInto] <;>
      exact under_bind_eq_ok_iff.2 ⟨part, hpart⟩

theorem ofSections_eq_readAll (s : Settings) (entries : Entries) :
    s.ofSections entries = readAll readInto s entries := by
  induction entries generalizing s with
  | nil => rfl
  | cons entry rest ih =>
    rw [Settings.ofSections, readAll]
    simp only [ih]

/-- The entries of the table under a key. -/
def entriesAt (entries : Entries) (key : Text) : Entries :=
  match entries.lookup key with
  | some (.table inner) => inner
  | _ => []

theorem at?_pair (entries : Entries) (key name : Text) :
    (Value.table entries).at? [key, name] = (entriesAt entries key).lookup name := by
  rw [Value.at?_table_cons, entriesAt]
  cases entries.lookup key with
  | none => rfl
  | some v =>
    cases v with
    | table inner => exact Value.at?_singleton inner name
    | _ => rfl

/-- The sections that are there are tables. -/
def SectionsAreTables (entries : Entries) : Prop :=
  ∀ sect ∈ sections, ∀ v, entries.lookup sect.name = some v → v.isTable = true

/-- Every section is in the schema, and so is every key of a section. -/
structure InSchema (entries : Entries) : Prop where
  section_mem : ∀ name v, entries.lookup name = some v → ∃ sect ∈ sections, sect.name = name
  key_mem : ∀ sect ∈ sections, ∀ name v,
    (Value.table entries).at? [sect.name, name] = some v → ∃ k ∈ sect.keys, k.name = name

/-- Whether a table is in the order of its keys, and so are its sections. -/
structure InOrder (entries : Entries) : Prop where
  sorted : Keyed.Sorted entries
  sorted_entriesAt : ∀ sect ∈ sections, Keyed.Sorted (entriesAt entries sect.name)

section

variable {entries : Entries} {s : Settings}

theorem lookup_eq_of_sectionsAreTables (h : SectionsAreTables entries) {sect : Section}
    (hsect : sect ∈ sections) {v : Value} (hv : entries.lookup sect.name = some v) :
    v = .table (entriesAt entries sect.name) := by
  obtain ⟨inner, rfl⟩ := Value.exists_entries (h sect hsect v hv)
  rw [entriesAt, hv]

/-- **A part of the settings is what its section says**, or stock if there is no section. -/
theorem readEntries_of_ofTable (htables : SectionsAreTables entries)
    (hsorted : Keyed.Sorted entries) (h : Settings.ofTable entries = .ok s) {sect : Section}
    (hsect : sect ∈ sections) :
    readEntries sect.fields (sect.part {}) (entriesAt entries sect.name) = .ok (sect.part s) := by
  rw [Settings.ofTable, ofSections_eq_readAll] at h
  have hkeeps : ∀ other w a b, other ≠ sect.name → readInto other w a = .ok b →
      sect.part b = sect.part a := by
    intro other w a b hne hstep
    obtain ⟨read, hread, rfl, part, -, rfl⟩ := readInto_eq_ok_iff.1 hstep
    exact Section.part_put_of_ne read hread sect hsect (Ne.symm hne) part a
  cases hv : entries.lookup sect.name with
  | none =>
    rw [view_of_readAll_of_none hkeeps hv h, entriesAt, hv]
    rfl
  | some v =>
    obtain ⟨before, next, hstep, hview⟩ := view_of_readAll hkeeps hsorted hv h
    obtain ⟨read, hread, hname, part, hpart, rfl⟩ := readInto_eq_ok_iff.1 hstep
    obtain rfl := Section.eq_of_name_eq hread hsect hname
    rw [lookup_eq_of_sectionsAreTables htables hsect hv] at hpart
    rw [hview, Section.part_put read hread]
    exact hpart

theorem inSchema_of_ofTable (htables : SectionsAreTables entries) (horder : InOrder entries)
    (h : Settings.ofTable entries = .ok s) : InSchema entries where
  section_mem name v hv := by
    rw [Settings.ofTable, ofSections_eq_readAll] at h
    obtain ⟨before, next, hstep⟩ := exists_of_readAll h (Keyed.mem_of_lookup hv)
    obtain ⟨sect, hsect, hname, -⟩ := readInto_eq_ok_iff.1 hstep
    exact ⟨sect, hsect, hname⟩
  key_mem sect hsect name v hv := by
    rw [at?_pair] at hv
    have hpart := readEntries_of_ofTable htables horder.sorted h hsect
    exact (data_of_readEntries hsect (horder.sorted_entriesAt sect hsect) hpart).1 name v hv

/-- **Each datum is what the value under its key says**, or the stock datum if there is none. -/
theorem data_of_ofTable (htables : SectionsAreTables entries) (horder : InOrder entries)
    (h : Settings.ofTable entries = .ok s) {sect : Section} (hsect : sect ∈ sections) :
    ∀ k ∈ sect.keys,
      ((Value.table entries).at? [sect.name, k.name] = none →
        k.datum (sect.part s) = k.datum (sect.part {})) ∧
      ∀ v, (Value.table entries).at? [sect.name, k.name] = some v →
        k.kind.read v = .ok (k.datum (sect.part s)) := by
  intro k hk
  rw [at?_pair]
  have hpart := readEntries_of_ofTable htables horder.sorted h hsect
  exact (data_of_readEntries hsect (horder.sorted_entriesAt sect hsect) hpart).2 k hk

/-- **A table is read** if all its keys are in the schema and every value says something. -/
theorem exists_ofTable (htables : SectionsAreTables entries) (horder : InOrder entries)
    (hschema : InSchema entries)
    (hvalues : ∀ sect ∈ sections, ∀ k ∈ sect.keys, ∀ v,
      (Value.table entries).at? [sect.name, k.name] = some v → ∃ d, k.kind.read v = .ok d) :
    ∃ s, Settings.ofTable entries = .ok s := by
  rw [Settings.ofTable, ofSections_eq_readAll]
  refine exists_readAll (fun entry hentry before => ?_) _
  have hlookup := horder.sorted.lookup_eq_some_iff.2 hentry
  obtain ⟨sect, hsect, hname⟩ := hschema.section_mem _ _ hlookup
  rw [← hname] at hlookup ⊢
  rw [lookup_eq_of_sectionsAreTables htables hsect hlookup]
  have hkeys : ∀ item ∈ entriesAt entries sect.name, ∃ k ∈ sect.keys, k.name = item.1 ∧
      ∃ d, k.kind.read item.2 = .ok d := by
    intro item hitem
    have hat : (Value.table entries).at? [sect.name, item.1] = some item.2 := by
      rw [at?_pair]
      exact (horder.sorted_entriesAt sect hsect).lookup_eq_some_iff.2 hitem
    obtain ⟨k, hk, hkname⟩ := hschema.key_mem sect hsect _ _ hat
    rw [← hkname] at hat
    exact ⟨k, hk, hkname, hvalues sect hsect k hk _ hat⟩
  obtain ⟨part, hpart⟩ := exists_readEntries hsect hkeys (sect.part {})
  exact ⟨_, readInto_eq_ok_iff.2 ⟨sect, hsect, rfl, part, hpart, rfl⟩⟩

end

end Shape
end DocViews
