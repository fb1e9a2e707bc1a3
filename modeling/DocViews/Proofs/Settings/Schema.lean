import DocViews.Proofs.Toml.Merge
import DocViews.Settings.Shape

/-!
# The schema of the settings

A settings file has five sections, and each key of a section holds a value of one of four kinds
(`Shape.sections`).  The schema says which part of the settings a section is about, and which datum
of the part a key sets.  Each field of a section sets the datum of the key of its name and keeps the
others (`Shape.fits_of_mem_sections`), and settings are no more than the data of their keys
(`Shape.ext_of_sections`).
-/

set_option autoImplicit false

namespace DocViews

open Toml (Value Entries)

namespace Shape

/-! ## Kinds of values -/

/-- A kind of values: what they say, and which value says it.  Only some values of the right type say
something, and only they are *documented*. -/
structure Kind (β : Type) where
  read : Value → Except Misfit β
  write : β → Option Value
  HasType : Value → Prop
  Documents : Value → Prop
  write_of_read : ∀ v d, HasType v → read v = .ok d → write d = some v
  read_of_write : ∀ v d, write d = some v → read v = .ok d
  write_injective : Function.Injective write
  isTable_of_write : ∀ v d, write d = some v → v.isTable = false
  exists_read : ∀ v, Documents v → HasType v ∧ ∃ d, read v = .ok d

theorem mapM_text_map_string (ts : List Text) : (ts.map Value.string).mapM text = .ok ts := by
  induction ts with
  | nil => rfl
  | cons t more ih =>
    rw [List.map_cons, List.mapM_cons, ih]
    rfl

theorem precedenceOfName_eq_ok_iff {name : Text} {p : Precedence} :
    precedenceOfName name = .ok p ↔ name = Settings.precedenceName p := by
  constructor
  · intro h
    rw [precedenceOfName] at h
    split at h
    · next q hq =>
      obtain rfl : q = p := Except.ok.inj h
      rcases List.mem_cons.1 (Keyed.mem_of_lookup hq) with heq | hmem
      · obtain ⟨rfl, rfl⟩ := Prod.mk.inj heq
        rfl
      · obtain ⟨rfl, rfl⟩ := Prod.mk.inj (List.mem_singleton.1 hmem)
        rfl
    · exact nomatch h
  · rintro rfl
    cases p <;> rfl

namespace Kind

def string : Kind Text where
  read := text
  write t := some (.string t)
  HasType v := ∃ t, v = .string t
  Documents v := ∃ t, v = .string t
  write_of_read := by
    rintro _ d ⟨t, rfl⟩ h
    rw [Except.ok.inj h]
  read_of_write := by
    intro v d h
    rw [← Option.some.inj h]
    rfl
  write_injective _ _ h := Value.string.inj (Option.some.inj h)
  isTable_of_write _ _ h := Option.some.inj h ▸ rfl
  exists_read := by
    rintro _ ⟨t, rfl⟩
    exact ⟨⟨t, rfl⟩, t, rfl⟩

def strings : Kind (List Text) where
  read := texts
  write ts := some (.array (ts.map .string))
  HasType v := ∃ ts : List Text, v = .array (ts.map .string)
  Documents v := ∃ ts : List Text, v = .array (ts.map .string)
  write_of_read := by
    rintro _ d ⟨ts, rfl⟩ h
    rw [Except.ok.inj ((mapM_text_map_string ts).symm.trans h)]
  read_of_write := by
    intro v d h
    rw [← Option.some.inj h]
    exact mapM_text_map_string d
  write_injective _ _ h :=
    List.map_injective_iff.2 (fun _ _ => Value.string.inj) (Value.array.inj (Option.some.inj h))
  isTable_of_write _ _ h := Option.some.inj h ▸ rfl
  exists_read := by
    rintro _ ⟨ts, rfl⟩
    exact ⟨⟨ts, rfl⟩, ts, mapM_text_map_string ts⟩

/-- One of two words. -/
def word : Kind Precedence where
  read := precedence
  write p := some (.string (Settings.precedenceName p))
  HasType v := ∃ t, v = .string t
  Documents v := v = .string "filename".toList ∨ v = .string "metadata".toList
  write_of_read := by
    rintro _ d ⟨t, rfl⟩ h
    rw [precedenceOfName_eq_ok_iff.1 h]
  read_of_write := by
    intro v d h
    rw [← Option.some.inj h]
    exact precedenceOfName_eq_ok_iff.2 rfl
  write_injective p q h := by
    have hname := Value.string.inj (Option.some.inj h)
    have hread := precedenceOfName_eq_ok_iff.2 hname
    exact Except.ok.inj ((precedenceOfName_eq_ok_iff.2 rfl).symm.trans hread)
  isTable_of_write _ _ h := Option.some.inj h ▸ rfl
  exists_read := by
    rintro _ (rfl | rfl)
    · exact ⟨⟨_, rfl⟩, .fileName, rfl⟩
    · exact ⟨⟨_, rfl⟩, .metadata, rfl⟩

/-- A number that is not negative, or none. -/
def number : Kind (Option Nat) where
  read := count
  write limit := limit.map fun n : Nat => .integer n
  HasType v := ∃ n, v = .integer n
  Documents v := ∃ n : Nat, v = .integer n
  write_of_read := by
    rintro _ d ⟨n, rfl⟩ h
    rw [count] at h
    split at h
    · next hn =>
      rw [← Except.ok.inj h, Option.map_some, Int.toNat_of_nonneg hn]
    · exact nomatch h
  read_of_write := by
    intro v d h
    obtain ⟨n, rfl, rfl⟩ := Option.map_eq_some_iff.1 h
    rw [count, if_pos (Int.natCast_nonneg n), Int.toNat_natCast]
  write_injective := Option.map_injective fun _ _ h => Int.ofNat.inj (Value.integer.inj h)
  isTable_of_write v d h := by
    obtain ⟨n, -, rfl⟩ := Option.map_eq_some_iff.1 h
    rfl
  exists_read := by
    rintro _ ⟨n, rfl⟩
    exact ⟨⟨n, rfl⟩, some n, by rw [count, if_pos (Int.natCast_nonneg n), Int.toNat_natCast]⟩

end Kind

/-! ## Keys and sections -/

/-- A key of a section: the values that it takes, and the datum that it sets. -/
structure Key (α : Type) where
  {Datum : Type}
  name : Text
  kind : Kind Datum
  datum : α → Datum

/-- A section: how it is read, its keys, and the part of the settings that it is about. -/
structure Section where
  {Part : Type}
  name : Text
  title : Text
  fields : List (Field Part)
  keys : List (Key Part)
  part : Settings → Part
  put : Part → Settings → Settings

def conventionKeys : List (Key Conventions) := [
  ⟨"index_name".toList, .string, Conventions.indexName⟩,
  ⟨"generated_root".toList, .string, Conventions.generatedRoot⟩]

def projectKeys : List (Key Text) := [
  ⟨"descriptor_extension".toList, .string, id⟩]

def targetKeys : List (Key Target) := [
  ⟨"apps_segment".toList, .string, Target.appsSegment⟩,
  ⟨"extension".toList, .string, Target.extension⟩,
  ⟨"view_base".toList, .string, Target.viewBase⟩,
  ⟨"attribute".toList, .string, Target.attributeName⟩,
  ⟨"icon_type".toList, .string, Target.iconType⟩,
  ⟨"view_type".toList, .string, Target.viewType⟩,
  ⟨"imports".toList, .strings, Target.imports⟩]

def orderingKeys : List (Key Precedence) := [
  ⟨"precedence".toList, .word, id⟩]

def processingKeys : List (Key (Option Nat)) := [
  ⟨"max_threads".toList, .number, id⟩]

@[reducible] def namingSection : Section :=
  ⟨"naming".toList, "NamingConfig".toList, conventionFields, conventionKeys, Settings.conventions,
    fun c s => { s with conventions := c }⟩

@[reducible] def projectSection : Section :=
  ⟨"project".toList, "ProjectConfig".toList, projectFields, projectKeys,
    Settings.descriptorExtension, fun e s => { s with descriptorExtension := e }⟩

@[reducible] def targetSection : Section :=
  ⟨"target".toList, "TargetConfig".toList, targetFields, targetKeys, Settings.target,
    fun t s => { s with target := t }⟩

@[reducible] def orderingSection : Section :=
  ⟨"ordering".toList, "OrderingConfig".toList, orderingFields, orderingKeys, Settings.precedence,
    fun p s => { s with precedence := p }⟩

@[reducible] def processingSection : Section :=
  ⟨"processing".toList, "ProcessingConfig".toList, processingFields, processingKeys,
    Settings.maxThreads, fun n s => { s with maxThreads := n }⟩

/-- The documented sections. -/
def sections : List Section :=
  [namingSection, projectSection, targetSection, orderingSection, processingSection]

theorem forall_mem_sections {p : Section → Prop} :
    (∀ sect ∈ sections, p sect) ↔ p namingSection ∧ p projectSection ∧ p targetSection ∧
      p orderingSection ∧ p processingSection := by
  simp only [sections, List.forall_mem_cons, List.not_mem_nil, IsEmpty.forall_iff, implies_true,
    and_true]

theorem Section.eq_of_name_eq {sect other : Section} (hsect : sect ∈ sections)
    (hother : other ∈ sections) (hname : sect.name = other.name) : sect = other := by
  have hnodup : (sections.map Section.name).Nodup := by decide
  exact List.inj_on_of_nodup_map hnodup hsect hother hname

theorem Section.part_put :
    ∀ sect ∈ sections, ∀ (part : sect.Part) (s : Settings), sect.part (sect.put part s) = part :=
  forall_mem_sections.2 ⟨fun _ _ => rfl, fun _ _ => rfl, fun _ _ => rfl, fun _ _ => rfl,
    fun _ _ => rfl⟩

/-- Sections are about different parts of the settings. -/
theorem Section.part_put_of_ne : ∀ sect ∈ sections, ∀ other ∈ sections, other.name ≠ sect.name →
    ∀ (part : sect.Part) (s : Settings), other.part (sect.put part s) = other.part s := by
  refine forall_mem_sections.2 ⟨?_, ?_, ?_, ?_, ?_⟩ <;>
    refine forall_mem_sections.2 ⟨?_, ?_, ?_, ?_, ?_⟩ <;> intro hne part s <;>
    first
    | rfl
    | exact absurd rfl hne

/-- The value that says what a key of a part is set to. -/
def Key.value {α : Type} (k : Key α) (part : α) : Option Value :=
  k.kind.write (k.datum part)

/-! ## Fields and keys -/

/-- A field sets the datum of the key of its name, and keeps that of any other key. -/
structure Key.Fits {α : Type} (k : Key α) (f : Field α) : Prop where
  sets : f.name = k.name → ∀ v a, (f.set v a).map k.datum = k.kind.read v
  keeps : f.name ≠ k.name → ∀ v a b, f.set v a = .ok b → k.datum b = k.datum a

section

variable {α β γ : Type}

theorem set_field (name : String) (read : Value → Except Misfit γ) (set : γ → α → α) (v : Value)
    (a : α) : (field name read set).set v a = (read v).map fun d => set d a := by
  change (read v >>= fun d => pure (set d a)) = _
  cases read v <;> rfl

theorem fits_same (name : String) (kind : Kind β) (datum : α → β) (set : β → α → α)
    (h : ∀ d a, datum (set d a) = d) :
    Key.Fits ⟨name.toList, kind, datum⟩ (field name kind.read set) where
  sets _ v a := by
    rw [set_field]
    cases kind.read v with
    | error e => rfl
    | ok d => exact congrArg Except.ok (h d a)
  keeps hne := absurd rfl hne

theorem fits_other {key : Text} {name : String} (kind : Kind β) (datum : α → β)
    (read : Value → Except Misfit γ) (set : γ → α → α) (hname : name.toList ≠ key)
    (h : ∀ d a, datum (set d a) = datum a) :
    Key.Fits ⟨key, kind, datum⟩ (field name read set) where
  sets heq := absurd heq hname
  keeps _ v a b hb := by
    rw [set_field] at hb
    cases hv : read v with
    | error e =>
      rw [hv] at hb
      exact nomatch hb
    | ok d =>
      rw [hv] at hb
      rw [← Except.ok.inj hb]
      exact h d a

end

/-- **A field sets the datum of the key of its name, and keeps that of any other key.** -/
theorem fits_of_mem_sections :
    ∀ sect ∈ sections, ∀ k ∈ sect.keys, ∀ f ∈ sect.fields, k.Fits f := by
  rw [forall_mem_sections]
  simp only [namingSection, conventionKeys, conventionFields, projectSection, projectKeys,
    projectFields, targetSection, targetKeys, targetFields, orderingSection, orderingKeys,
    orderingFields, processingSection, processingKeys, processingFields,
    List.forall_mem_cons, List.not_mem_nil, IsEmpty.forall_iff, implies_true, and_true]
  -- one goal for each key and each field of its section, and few of them are about one name
  and_intros
  all_goals first
    | exact fits_other _ _ _ _ (by decide) fun _ _ => rfl
    | exact fits_same _ _ _ _ fun _ _ => rfl

/-- The fields of a section have the names of its keys. -/
theorem names_fields :
    ∀ sect ∈ sections, sect.fields.map Field.name = sect.keys.map Key.name :=
  forall_mem_sections.2 ⟨rfl, rfl, rfl, rfl, rfl⟩

/-- **Settings are no more than the data of their keys.** -/
theorem ext_of_sections {s t : Settings}
    (h : ∀ sect ∈ sections, ∀ k ∈ sect.keys, k.datum (sect.part s) = k.datum (sect.part t)) :
    s = t := by
  obtain ⟨⟨index, root⟩, descriptor, ⟨apps, ending, base, marker, icon, view, imports⟩, p, n⟩ := s
  obtain ⟨⟨index', root'⟩, descriptor', ⟨apps', ending', base', marker', icon', view', imports'⟩,
    p', n'⟩ := t
  rw [forall_mem_sections] at h
  simp only [namingSection, conventionKeys, projectSection, projectKeys, targetSection, targetKeys,
    orderingSection, orderingKeys, processingSection, processingKeys,
    List.forall_mem_cons, List.not_mem_nil, IsEmpty.forall_iff, implies_true, and_true] at h
  obtain ⟨⟨rfl, rfl⟩, hdescriptor, ⟨rfl, rfl, rfl, rfl, rfl, rfl, rfl⟩, hp, hn⟩ := h
  obtain rfl : descriptor = descriptor' := hdescriptor
  obtain rfl : p = p' := hp
  obtain rfl : n = n' := hn
  rfl

/-- **A table that is written from settings holds the values of the keys.** -/
theorem at?_toTable (s : Settings) : ∀ sect ∈ sections, ∀ k ∈ sect.keys,
    (Value.table s.toTable).at? [sect.name, k.name] = k.value (sect.part s) := by
  rw [forall_mem_sections]
  simp only [namingSection, conventionKeys, projectSection, projectKeys, targetSection, targetKeys,
    orderingSection, orderingKeys, processingSection, processingKeys,
    List.forall_mem_cons, List.not_mem_nil, IsEmpty.forall_iff, implies_true, and_true]
  obtain ⟨conventions, descriptor, target, p, limit⟩ := s
  refine ⟨⟨rfl, rfl⟩, rfl, ⟨rfl, rfl, rfl, rfl, rfl, rfl, rfl⟩, rfl, ?_⟩
  cases limit <;> rfl

end Shape
end DocViews
