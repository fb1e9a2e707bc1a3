import DocViews.FileSystem.Resolve
import DocViews.Proofs.Path.Components

/-!
# Where a path leads, as far as it can be read

`Path.resolve` follows a path from a place on by what it says alone: names go down, two points go
up, and the disk is not asked.  Where there are no links this is what the disk does too
(`FileSystem.spot_place`).

A path below another is followed from where the other one leads (`resolve_join`).  So a path keeps
below every folder that it is written under as soon as it says nothing but names, and at least one
of them: that is what `Path.Confined` asks for, and `confined_iff` says that nothing less will do.
-/

set_option autoImplicit false

namespace DocViews

/-- The place one step on from a place. -/
def Component.onward (place : Place) : Component → Place
  | root => []
  | here => place
  | parent => place.dropLast
  | name text => place ++ [text]

namespace Place

/-- The place that the segments of a path lead to. -/
def along (place : Place) (segments : List Text) : Place :=
  (segments.filterMap Path.component?).foldl Component.onward place

theorem along_cons_of_none {place : Place} {segment : Text} {rest : List Text}
    (h : Path.component? segment = none) : along place (segment :: rest) = along place rest := by
  rw [along, List.filterMap_cons_none h, along]

theorem along_cons_of_some {place : Place} {segment : Text} {rest : List Text} {step : Component}
    (h : Path.component? segment = some step) :
    along place (segment :: rest) = along (Component.onward place step) rest := by
  rw [along, List.filterMap_cons_some h, List.foldl_cons, along]

/-- Names go down. -/
theorem foldl_onward_names (names : List Text) (place : Place) :
    (names.map Component.name).foldl Component.onward place = place ++ names := by
  induction names generalizing place with
  | nil => exact (List.append_nil place).symm
  | cons name rest ih =>
    rw [List.map_cons, List.foldl_cons, Component.onward, ih, List.append_assoc,
      List.singleton_append]

/-- A place in the folder at another place, or deeper. -/
def Below (folder place : Place) : Prop :=
  folder <+: place ∧ folder ≠ place

/-- Two places of which neither is the other one, or in the other one. -/
def Apart (p q : Place) : Prop :=
  p ≠ q ∧ ¬ p.Below q ∧ ¬ q.Below p

instance (p q : Place) : Decidable (p.Below q) :=
  inferInstanceAs (Decidable (p <+: q ∧ p ≠ q))

instance (p q : Place) : Decidable (Apart p q) :=
  inferInstanceAs (Decidable (p ≠ q ∧ ¬ p.Below q ∧ ¬ q.Below p))

theorem Apart.symm {p q : Place} (h : Apart p q) : Apart q p :=
  ⟨h.1.symm, h.2.2, h.2.1⟩

theorem Apart.not_above {p q : Place} (h : Apart p q) : ¬ p <+: q :=
  fun hpre => h.2.1 ⟨hpre, h.1⟩

/-- Nothing is below two places that are apart. -/
theorem Apart.not_prefix {p q place : Place} (h : Apart p q) (hq : q <+: place) : ¬ p <+: place := by
  intro hp
  rcases List.prefix_or_prefix_of_prefix hp hq with hpre | hpre
  · exact h.not_above hpre
  · exact h.symm.not_above hpre

end Place

namespace Path

/-! ## Following a path -/

/-- The place that a path leads to from another one. -/
def resolve (base : Place) (path : Path) : Place :=
  path.components.foldl Component.onward base

/-- Of the start of a path only the root leads somewhere else. -/
theorem resolve_eq (base : Place) (path : Path) :
    path.resolve base = Place.along (if path.isAbsolute then [] else base) path.segments := by
  cases h : path.isAbsolute with
  | true => rw [resolve, components_of_absolute h, List.foldl_cons, if_pos rfl]; rfl
  | false =>
    rw [resolve, components_of_relative h, List.foldl_append]
    simp only [Bool.false_eq_true, if_false]
    split <;> rfl

/-- The empty path leads nowhere else. -/
theorem resolve_of_empty {path : Path} (h : path.text = []) (base : Place) :
    path.resolve base = base := by
  obtain ⟨text⟩ := path
  obtain rfl : text = [] := h
  rfl

/-- **A path below another is followed from where the other one leads.** -/
theorem resolve_join (base : Place) (folder path : Path) :
    (folder.join path).resolve base = path.resolve (folder.resolve base) := by
  cases h : path.isAbsolute with
  | true => rw [join, if_pos h, resolve_eq, resolve_eq, h, if_pos rfl, if_pos rfl]
  | false =>
    by_cases hfolder : folder.text = []
    · rw [join_of_empty hfolder h, resolve_of_empty hfolder]
    · rw [resolve_eq (folder.resolve base), h, resolve, components_join hfolder h,
        List.foldl_append, if_neg (by simp), resolve, Place.along]

/-- A plain path only goes down. -/
theorem IsPlain.resolve_eq {path : Path} (h : path.IsPlain) (base : Place) :
    path.resolve base = base ++ path.names := by
  rw [resolve, h.components_eq, Place.foldl_onward_names]

/-! ## Keeping below a folder -/

/-- A path that stays below every folder it may be written under. -/
structure Confined (path : Path) : Prop where
  relative : path.isAbsolute = false
  /-- The path has no root, no point and no two points among its steps. -/
  plain : path.IsPlain
  below : ∀ (base : Place) (folder : Path),
    Place.Below (folder.resolve base) ((folder.join path).resolve base)

theorem confined_iff {path : Path} : path.Confined ↔ path.IsPlain ∧ path.names ≠ [] := by
  constructor
  · intro h
    refine ⟨h.plain, fun hnames => ?_⟩
    have hbelow := (h.below [] ⟨[]⟩).2
    rw [resolve_join, h.plain.resolve_eq, hnames, List.append_nil] at hbelow
    exact hbelow rfl
  · rintro ⟨hplain, hnames⟩
    refine ⟨hplain.isAbsolute, hplain, fun base folder => ?_⟩
    rw [resolve_join, hplain.resolve_eq]
    exact ⟨List.prefix_append _ _, fun h => hnames (List.self_eq_append_right.1 h)⟩

end Path

/-! ## On a disk without links -/

namespace Node

theorem get?_append (place more : Place) (tree : Node) :
    get? (place ++ more) tree = (get? place tree).bind (get? more) := by
  induction place generalizing tree with
  | nil => rfl
  | cons name rest ih =>
    cases tree with
    | file content => rfl
    | link target => rfl
    | folder entries =>
      rw [List.cons_append, get?, get?]
      cases entries.lookup name with
      | none => rfl
      | some child => exact ih child

/-- A tree without links. -/
def LinkFree (tree : Node) : Prop :=
  ∀ (place : Place) (target : Path), get? place tree ≠ some (.link target)

end Node

namespace FileSystem

/-- Following segments over folders and files ends where the segments say. -/
theorem follow_place {tree : Node} (h : tree.LinkFree) {followLast : Bool}
    {onLink : List Text → Place → Except DiskFault Spot} {segments : List Text} {place : Place}
    {spot : Spot} (hf : follow tree followLast onLink segments place = .ok spot) :
    spot.place = Place.along place segments := by
  induction segments generalizing place with
  | nil =>
    rw [follow] at hf
    obtain rfl : Spot.taken place = spot := Except.ok.inj hf
    rfl
  | cons segment rest ih =>
    rw [follow] at hf
    split at hf
    · next entries hentries =>
      by_cases hsilent : Path.isSilent segment = true
      · have hc : Path.component? segment = none := by rw [Path.component?, if_pos hsilent]
        rw [if_pos hsilent] at hf
        rw [Place.along_cons_of_none hc, ih hf]
      · by_cases hparent : segment = ['.', '.']
        · have hc : Path.component? segment = some .parent := by
            rw [Path.component?, if_neg hsilent, if_pos hparent]
          rw [if_neg hsilent, if_pos hparent] at hf
          rw [Place.along_cons_of_some hc, Component.onward, ih hf]
        · have hc : Path.component? segment = some (.name segment) := by
            rw [Path.component?, if_neg hsilent, if_neg hparent]
          rw [Place.along_cons_of_some hc, Component.onward]
          rw [if_neg hsilent, if_neg hparent] at hf
          split at hf
          · exact absurd hf (by simp)
          · split at hf
            · -- the name is free
              split at hf
              · next hrest =>
                obtain rfl : Spot.free place segment = spot := Except.ok.inj hf
                rw [hrest]
                rfl
              · exact absurd hf (by simp)
            · next target htarget =>
              -- there is no link to go through
              refine absurd ?_ (h (place ++ [segment]) target)
              rw [Node.get?_append, hentries, Option.bind_some, Node.get?, htarget]
              rfl
            · exact ih hf
    · exact absurd hf (by simp)

/-- **On a disk without links, a path leads where it says.** -/
theorem spot_place {fs : FileSystem} (h : fs.tree.LinkFree) {followLast : Bool} {path : Path}
    {spot : Spot} (hs : fs.spot followLast path = .ok spot) :
    spot.place = path.resolve fs.workingFolder := by
  rw [FileSystem.spot] at hs
  split at hs
  · exact absurd hs (by simp)
  · split at hs
    · exact absurd hs (by simp)
    · split at hs
      · exact absurd hs (by simp)
      · rw [Path.resolve_eq]
        exact follow_place h hs

/-- Whether there is a file where a path leads by what it says alone. -/
def namesFile (fs : FileSystem) (path : Path) : Bool :=
  (fs.tree.get? (path.resolve fs.workingFolder)).any Node.isFile

end FileSystem
end DocViews
