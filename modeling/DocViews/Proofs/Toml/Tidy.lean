import DocViews.Proofs.Toml.Merge
import DocViews.Toml.Reader

/-!
# The tables that are read

While tables are under construction, their entries stand in the order in which they came.  What is
in order from the start are the finished values in them (`Draft.isTidy`), and every step of the
reader keeps it that way.  The entries of a table are put in order when it is finished, so **the
tables of a text are in the order of their keys** (`isTidy_of_read?`).
-/

set_option autoImplicit false

namespace DocViews

/-- Setting a key brings in no other entry. -/
theorem Keyed.mem_set {α : Type} {key : Text} {value : α} {entries : List (Text × α)}
    {entry : Text × α} (h : entry ∈ set key value entries) :
    entry = (key, value) ∨ entry ∈ entries := by
  induction entries with
  | nil => exact .inl (List.mem_singleton.1 h)
  | cons first rest ih =>
    rw [set] at h
    split at h
    · exact (List.mem_cons.1 h).imp_right (List.mem_cons_of_mem _)
    · rcases List.mem_cons.1 h with rfl | h
      · exact .inr List.mem_cons_self
      · exact (ih h).imp_right (List.mem_cons_of_mem _)

namespace Toml

theorem Value.isTidy_table_insert {entries : Entries} {v : Value}
    (h : (table entries).isTidy = true) (key : Text) (hv : v.isTidy = true) :
    (table (Keyed.insert key v entries)).isTidy = true := by
  obtain ⟨hsorted, hvalues⟩ := isTidy_table_iff.1 h
  refine isTidy_table_iff.2 ⟨hsorted.insert key v, fun other w hw => ?_⟩
  rw [Keyed.lookup_insert] at hw
  split at hw
  · exact Option.some.inj hw ▸ hv
  · exact hvalues other w hw

namespace Draft

mutual

/-- Whether the finished values in a draft are tidy. -/
def isTidy : Draft → Bool
  | .value v => v.isTidy
  | .table _ entries => entriesTidy entries
  | .tables elements => elementsTidy elements

def entriesTidy : Drafts → Bool
  | [] => true
  | (_, draft) :: rest => isTidy draft && entriesTidy rest

def elementsTidy : List Drafts → Bool
  | [] => true
  | entries :: rest => entriesTidy entries && elementsTidy rest

end

section

variable {entries inner : Drafts} {elements : List Drafts} {draft : Draft} {key : Text}
  {path : List Text} {origin : Origin}

theorem entriesTidy_iff : entriesTidy entries = true ↔ ∀ entry ∈ entries, entry.2.isTidy = true := by
  induction entries with
  | nil => simp [entriesTidy]
  | cons entry rest ih => rw [entriesTidy, Bool.and_eq_true, ih, List.forall_mem_cons]

theorem elementsTidy_iff :
    elementsTidy elements = true ↔ ∀ entries ∈ elements, entriesTidy entries = true := by
  induction elements with
  | nil => simp [elementsTidy]
  | cons entries rest ih => rw [elementsTidy, Bool.and_eq_true, ih, List.forall_mem_cons]

theorem isTidy_of_lookup (h : entriesTidy entries = true) (hlookup : entries.lookup key = some draft) :
    draft.isTidy = true :=
  entriesTidy_iff.1 h _ (Keyed.mem_of_lookup hlookup)

theorem entriesTidy_set (h : entriesTidy entries = true) (hdraft : draft.isTidy = true)
    (key : Text) : entriesTidy (Keyed.set key draft entries) = true := by
  refine entriesTidy_iff.2 fun entry hmem => ?_
  rcases Keyed.mem_set hmem with rfl | hmem
  · exact hdraft
  · exact entriesTidy_iff.1 h entry hmem

theorem entriesTidy_getLastD (h : elementsTidy elements = true) :
    entriesTidy (elements.getLastD []) = true := by
  cases hlast : elements.getLast? with
  | none => rw [List.getLastD_eq_getLast?, hlast]; rfl
  | some last =>
    rw [List.getLastD_eq_getLast?, hlast]
    exact elementsTidy_iff.1 h last (List.mem_of_getLast? hlast)

theorem elementsTidy_concat (h : ∀ entries ∈ elements, entriesTidy entries = true)
    (hinner : entriesTidy inner = true) : elementsTidy (elements ++ [inner]) = true := by
  refine elementsTidy_iff.2 fun entries hmem => ?_
  rcases List.mem_append.1 hmem with hmem | hmem
  · exact h entries hmem
  · rwa [List.mem_singleton.1 hmem]

/-! ## Steps -/

theorem entriesTidy_find? (h : entriesTidy entries = true) (hfind : find? path entries = some inner) :
    entriesTidy inner = true := by
  induction path generalizing entries with
  | nil => exact Option.some.inj hfind ▸ h
  | cons key path ih =>
    rw [find?] at hfind
    split at hfind
    · exact Option.some.inj hfind ▸ rfl
    · exact absurd hfind (by simp)
    · next hlookup => exact ih (isTidy_of_lookup h hlookup) hfind
    · next hlookup => exact ih (entriesTidy_getLastD (isTidy_of_lookup h hlookup)) hfind

/-- **Changing the table at the end of a path keeps drafts tidy**, if the change keeps the entries of
this table tidy. -/
theorem entriesTidy_within {byKeys : Bool} {change : Origin → Drafts → Option Drafts}
    (hchange : ∀ origin entries changed, entriesTidy entries = true →
      change origin entries = some changed → entriesTidy changed = true)
    {changed : Drafts} (h : entriesTidy entries = true)
    (hwithin : within byKeys change path origin entries = some changed) :
    entriesTidy changed = true := by
  induction path generalizing origin entries changed with
  | nil => exact hchange origin entries changed h hwithin
  | cons key path ih =>
    rw [within] at hwithin
    split at hwithin
    · obtain ⟨inner, hinner, heq⟩ := Option.bind_eq_some_iff.1 hwithin
      rw [← Option.some.inj heq]
      refine entriesTidy_set h ?_ key
      exact ih rfl hinner
    · exact absurd hwithin (by simp)
    · next hlookup =>
      split at hwithin
      · exact absurd hwithin (by simp)
      · obtain ⟨inner, hinner, heq⟩ := Option.bind_eq_some_iff.1 hwithin
        rw [← Option.some.inj heq]
        refine entriesTidy_set h ?_ key
        exact ih (isTidy_of_lookup h hlookup) hinner
    · next elements hlookup =>
      obtain ⟨inner, hinner, heq⟩ := Option.bind_eq_some_iff.1 hwithin
      rw [← Option.some.inj heq]
      have helements : elementsTidy elements = true := isTidy_of_lookup h hlookup
      have hlast := ih (entriesTidy_getLastD helements) hinner
      have hfront : ∀ entries ∈ elements.dropLast, entriesTidy entries = true :=
        fun entries hmem => elementsTidy_iff.1 helements entries (List.dropLast_subset _ hmem)
      refine entriesTidy_set h ?_ key
      exact elementsTidy_concat hfront hlast

theorem entriesTidy_addValue? {value : Value} {added : Drafts} (h : entriesTidy entries = true)
    (hvalue : value.isTidy = true) (hadd : addValue? path value entries = some added) :
    entriesTidy added = true := by
  rw [addValue?] at hadd
  split at hadd
  · exact absurd hadd (by simp)
  · refine entriesTidy_within (fun origin entries changed hentries hchange => ?_) h hadd
    split at hchange
    · rw [← Option.some.inj hchange, entriesTidy_iff]
      intro entry hmem
      rcases List.mem_append.1 hmem with hmem | hmem
      · exact entriesTidy_iff.1 hentries entry hmem
      · rwa [List.mem_singleton.1 hmem]
    · exact absurd hchange (by simp)

/-! ## Finished tables -/

end

mutual

/-- **Finished tables are in the order of their keys**, at every depth. -/
theorem isTidy_finish : ∀ draft : Draft, draft.isTidy = true → draft.finish.isTidy = true
  | .value _, h => h
  | .table _ entries, h => isTidy_table_finishEntries entries h
  | .tables _, _ => rfl

theorem isTidy_table_finishEntries : ∀ entries : Drafts, entriesTidy entries = true →
    (Value.table (finishEntries entries)).isTidy = true
  | [], _ => rfl
  | (key, draft) :: rest, h => by
    rw [entriesTidy, Bool.and_eq_true] at h
    exact Value.isTidy_table_insert (isTidy_table_finishEntries rest h.2) key
      (isTidy_finish draft h.1)

end

end Draft

/-! ## Values -/

section

variable {fuel depth : Nat} {text rest : Text} {v : Value}

theorem isTidy_of_map {α : Type} {read : Option (α × Text)} {make : α → Value}
    (hmake : ∀ a, (make a).isTidy = true)
    (h : read.map (fun (a, rest) => (make a, rest)) = some (v, rest)) : v.isTidy = true := by
  obtain ⟨⟨a, after⟩, -, heq⟩ := Option.map_eq_some_iff.1 h
  rw [← (Prod.mk.inj heq).1]
  exact hmake a

theorem isTidy_of_readAtom? (h : readAtom? text = some (v, rest)) : v.isTidy = true := by
  rw [readAtom?.eq_def] at h
  split at h
  · exact absurd h (by simp)
  · split at h
    · exact isTidy_of_map (fun _ => rfl) h
    split at h
    · obtain ⟨after, -, heq⟩ := Option.map_eq_some_iff.1 h
      exact (Prod.mk.inj heq).1 ▸ rfl
    split at h
    · obtain ⟨after, -, heq⟩ := Option.map_eq_some_iff.1 h
      exact (Prod.mk.inj heq).1 ▸ rfl
    · simp only [Option.orElse_eq_orElse, Option.orElse_eq_or, Option.or_eq_some_iff] at h
      rcases h with h | ⟨-, h | ⟨-, h⟩⟩
      · exact isTidy_of_map (fun _ => rfl) h
      · exact isTidy_of_map (fun _ => rfl) h
      · exact isTidy_of_map (fun _ => rfl) h

/-- **A value that is read is tidy**, and so are the entries of an inline table that is read. -/
theorem isTidy_of_readValue?_and_readPairs? (fuel : Nat) :
    (∀ depth text v rest, readValue? depth fuel text = some (v, rest) → v.isTidy = true) ∧
    ∀ depth first entries text read rest, Draft.entriesTidy entries = true →
      readPairs? depth first entries fuel text = some (read, rest) →
        Draft.entriesTidy read = true := by
  induction fuel with
  | zero =>
    refine ⟨fun depth text v rest h => ?_, fun depth first entries text read rest htidy h => ?_⟩
    · rw [readValue?.eq_def] at h
      exact absurd h (by simp)
    · rw [readPairs?.eq_def] at h
      exact absurd h (by simp)
  | succ fuel ih =>
    obtain ⟨ihvalue, ihpairs⟩ := ih
    refine ⟨fun depth text v rest h => ?_, fun depth first entries text read rest htidy h => ?_⟩
    · rw [readValue?.eq_def] at h
      simp only at h
      split at h
      · split at h
        · obtain ⟨⟨items, after⟩, -, heq⟩ := Option.bind_eq_some_iff.1 h
          exact (Prod.mk.inj (Option.some.inj heq)).1 ▸ rfl
        · exact absurd h (by simp)
      · split at h
        · obtain ⟨⟨entries, after⟩, hpairs, heq⟩ := Option.bind_eq_some_iff.1 h
          rw [← (Prod.mk.inj (Option.some.inj heq)).1]
          exact Draft.isTidy_table_finishEntries entries (ihpairs _ _ _ _ _ _ rfl hpairs)
        · exact absurd h (by simp)
      · exact isTidy_of_readAtom? h
    · rw [readPairs?.eq_def] at h
      simp only at h
      split at h
      · exact (Prod.mk.inj (Option.some.inj h)).1 ▸ htidy
      · obtain ⟨⟨path, more⟩, -, h⟩ := Option.bind_eq_some_iff.1 h
        obtain ⟨more, -, h⟩ := Option.bind_eq_some_iff.1 h
        obtain ⟨⟨value, more⟩, hvalue, h⟩ := Option.bind_eq_some_iff.1 h
        obtain ⟨added, hadd, h⟩ := Option.bind_eq_some_iff.1 h
        have hadded := Draft.entriesTidy_addValue? htidy (ihvalue _ _ _ _ hvalue) hadd
        simp only at h
        split at h
        · exact ihpairs _ _ _ _ _ _ hadded h
        · exact (Prod.mk.inj (Option.some.inj h)).1 ▸ hadded
        · exact absurd h (by simp)

end

/-! ## Documents -/

namespace Opened

/-- Whether the finished values in all tables are tidy. -/
structure IsTidy (o : Opened) : Prop where
  root : Draft.entriesTidy o.root = true
  current : Draft.entriesTidy o.current = true

variable {o next : Opened} {text rest : Text} {path : List Text}

theorem IsTidy.close? (h : o.IsTidy) {root : Drafts} (hclose : o.close? = some root) :
    Draft.entriesTidy root = true := by
  rw [Opened.close?] at hclose
  split at hclose
  · exact Option.some.inj hclose ▸ h.current
  · obtain ⟨key, -, hwithin⟩ := Option.bind_eq_some_iff.1 hclose
    refine Draft.entriesTidy_within (fun origin entries changed hentries hchange => ?_) h.root
      hwithin
    rw [← Option.some.inj hchange]
    refine Draft.entriesTidy_set hentries ?_ key
    exact h.current
  · obtain ⟨key, -, hwithin⟩ := Option.bind_eq_some_iff.1 hclose
    refine Draft.entriesTidy_within (fun origin entries changed hentries hchange => ?_) h.root
      hwithin
    split at hchange
    · rw [← Option.some.inj hchange]
      refine Draft.entriesTidy_set hentries ?_ key
      exact Draft.elementsTidy_concat (fun _ hmem => absurd hmem List.not_mem_nil) h.current
    · next elements hlookup =>
      rw [← Option.some.inj hchange]
      refine Draft.entriesTidy_set hentries ?_ key
      exact Draft.elementsTidy_concat
        (Draft.elementsTidy_iff.1 (Draft.isTidy_of_lookup hentries hlookup)) h.current
    · exact absurd hchange (by simp)

theorem IsTidy.openTable? (h : o.IsTidy) (hopen : o.openTable? path = some next) : next.IsTidy := by
  rw [Opened.openTable?] at hopen
  obtain ⟨root, hclose, hopen⟩ := Option.bind_eq_some_iff.1 hopen
  obtain ⟨key, -, hopen⟩ := Option.bind_eq_some_iff.1 hopen
  obtain ⟨entries, hfind, hopen⟩ := Option.bind_eq_some_iff.1 hopen
  have hroot := h.close? hclose
  split at hopen
  · exact Option.some.inj hopen ▸ ⟨hroot, rfl⟩
  · next inner hlookup =>
    have hinner := Draft.isTidy_of_lookup (Draft.entriesTidy_find? hroot hfind) hlookup
    exact Option.some.inj hopen ▸ ⟨hroot, hinner⟩
  · exact absurd hopen (by simp)

theorem IsTidy.openElement? (h : o.IsTidy) (hopen : o.openElement? path = some next) :
    next.IsTidy := by
  rw [Opened.openElement?] at hopen
  obtain ⟨root, hclose, hopen⟩ := Option.bind_eq_some_iff.1 hopen
  obtain ⟨key, -, hopen⟩ := Option.bind_eq_some_iff.1 hopen
  obtain ⟨entries, -, hopen⟩ := Option.bind_eq_some_iff.1 hopen
  have hroot := h.close? hclose
  split at hopen
  · exact Option.some.inj hopen ▸ ⟨hroot, rfl⟩
  · exact Option.some.inj hopen ▸ ⟨hroot, rfl⟩
  · exact absurd hopen (by simp)

theorem IsTidy.readHeader? (h : o.IsTidy) (hread : o.readHeader? text = some (next, rest)) :
    next.IsTidy := by
  rw [Opened.readHeader?.eq_def] at hread
  split at hread
  · obtain ⟨⟨path, more⟩, -, hread⟩ := Option.bind_eq_some_iff.1 hread
    obtain ⟨more, -, hread⟩ := Option.bind_eq_some_iff.1 hread
    obtain ⟨opened, hopen, hread⟩ := Option.bind_eq_some_iff.1 hread
    obtain ⟨after, -, heq⟩ := Option.bind_eq_some_iff.1 hread
    exact (Prod.mk.inj (Option.some.inj heq)).1 ▸ h.openElement? hopen
  · obtain ⟨⟨path, more⟩, -, hread⟩ := Option.bind_eq_some_iff.1 hread
    obtain ⟨more, -, hread⟩ := Option.bind_eq_some_iff.1 hread
    obtain ⟨opened, hopen, hread⟩ := Option.bind_eq_some_iff.1 hread
    obtain ⟨after, -, heq⟩ := Option.bind_eq_some_iff.1 hread
    exact (Prod.mk.inj (Option.some.inj heq)).1 ▸ h.openTable? hopen

theorem IsTidy.readEntry? (h : o.IsTidy) (hread : o.readEntry? text = some (next, rest)) :
    next.IsTidy := by
  rw [Opened.readEntry?] at hread
  obtain ⟨⟨path, more⟩, -, hread⟩ := Option.bind_eq_some_iff.1 hread
  obtain ⟨more, -, hread⟩ := Option.bind_eq_some_iff.1 hread
  obtain ⟨⟨value, more⟩, hvalue, hread⟩ := Option.bind_eq_some_iff.1 hread
  obtain ⟨current, hadd, hread⟩ := Option.bind_eq_some_iff.1 hread
  obtain ⟨after, -, heq⟩ := Option.bind_eq_some_iff.1 hread
  have htidy := (isTidy_of_readValue?_and_readPairs? _).1 _ _ _ _ hvalue
  exact (Prod.mk.inj (Option.some.inj heq)).1 ▸
    ⟨h.root, Draft.entriesTidy_addValue? h.current htidy hadd⟩

theorem IsTidy.readLines? {fuel : Nat} (h : o.IsTidy)
    (hread : Opened.readLines? fuel o text = some next) : next.IsTidy := by
  induction fuel generalizing o text with
  | zero => exact absurd hread (by simp [Opened.readLines?])
  | succ fuel ih =>
    rw [Opened.readLines?] at hread
    simp only at hread
    split at hread
    · exact Option.some.inj hread ▸ h
    · split at hread
      · obtain ⟨more, -, hread⟩ := Option.bind_eq_some_iff.1 hread
        exact ih h hread
      split at hread
      · obtain ⟨⟨opened, more⟩, hheader, hread⟩ := Option.bind_eq_some_iff.1 hread
        exact ih (h.readHeader? hheader) hread
      · obtain ⟨⟨opened, more⟩, hentry, hread⟩ := Option.bind_eq_some_iff.1 hread
        exact ih (h.readEntry? hentry) hread

end Opened

/-- **The tables of a text are in the order of their keys**, at every depth. -/
theorem isTidy_of_read? {text : Text} {entries : Entries} (h : read? text = some entries) :
    (Value.table entries).isTidy = true := by
  rw [read?] at h
  obtain ⟨opened, hlines, h⟩ := Option.bind_eq_some_iff.1 h
  obtain ⟨root, hclose, heq⟩ := Option.bind_eq_some_iff.1 h
  have hstart : Opened.IsTidy ⟨[], .root, []⟩ := ⟨rfl, rfl⟩
  rw [← Option.some.inj heq]
  exact Draft.isTidy_table_finishEntries root ((hstart.readLines? hlines).close? hclose)

/-- Laying a text over another one once is enough. -/
theorem Value.merge_merge_of_read? {text overlay : Text} {below above : Entries}
    (hbelow : read? text = some below) (habove : read? overlay = some above) :
    merge (merge (table below) (table above)) (table above) = merge (table below) (table above) :=
  merge_merge_self ⟨below, isTidy_of_read? hbelow⟩ ⟨above, isTidy_of_read? habove⟩

end Toml
end DocViews
