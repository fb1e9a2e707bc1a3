import DocViews.Conversion.Run
import DocViews.Proofs.Disk.Filling
import DocViews.Proofs.Disk.Folders

/-!
# Writing a file and the folders above it

A path *descends* if its segments go down, by names only, from a folder that is there
(`FileSystem.Descent`).  On a disk without links `Conversion.writeBelow` opens the way to the last
folder on such a path and then writes the file, so it touches these folders and this file only
(`writeBelow_face`).

What it does depends on no other place: on a disk that has some of the folders already, and the same
file or none, it ends with the same answer and makes the same change (`writeBelow_sameChange`).
-/

set_option autoImplicit false

namespace DocViews

open Node

namespace FileSystem

/-! ## Writing a file -/

/-- Without links a file that is written shows at the place that its path says. -/
theorem write_face {fs next : FileSystem} (hlinks : fs.tree.LinkFree) {path : Path}
    {content : FileContent} (h : fs.write path content = .ok next) :
    next.workingFolder = fs.workingFolder ∧
      (faceAt (path.resolve fs.workingFolder) fs.tree = none ∨
        ∃ old, faceAt (path.resolve fs.workingFolder) fs.tree = some (.file old)) ∧
      ∀ q, faceAt q next.tree
        = if q = path.resolve fs.workingFolder then some (.file content)
          else faceAt q fs.tree := by
  obtain ⟨hfolder, spot, hspot, hold, hface⟩ := write_shows h
  rw [← spot_place hlinks hspot]
  exact ⟨hfolder, hold, hface⟩

/-- Writing comes out the same where the path leads to the same spot. -/
theorem write_congr {fs gs : FileSystem} {path : Path}
    (hspot : gs.spot true path = fs.spot true path)
    (hkept : gs.entrySpot path = fs.entrySpot path)
    (hface : ∀ p, fs.spot true path = .ok (.taken p) → faceAt p gs.tree = faceAt p fs.tree)
    (content : FileContent) :
    (∃ fault, fs.write path content = .error fault ∧ gs.write path content = .error fault) ∨
      ∃ next next', fs.write path content = .ok next ∧ gs.write path content = .ok next' := by
  rw [write, write, hspot, hkept]
  split
  · split
    · exact Or.inl ⟨_, rfl, rfl⟩
    · exact Or.inl ⟨_, rfl, rfl⟩
  · split
    · exact Or.inl ⟨_, rfl, rfl⟩
    · exact Or.inr ⟨_, _, rfl, rfl⟩
    · next p hp =>
      have hsame := hface p hp
      split
      · next old hold =>
        rw [faceAt_eq_file_iff.2 hold] at hsame
        rw [faceAt_eq_file_iff.1 hsame]
        exact Or.inr ⟨_, _, rfl, rfl⟩
      · next hfs =>
        split
        · next old hold =>
          rw [faceAt_eq_file_iff.2 hold] at hsame
          exact absurd (faceAt_eq_file_iff.1 hsame.symm) (hfs old)
        · exact Or.inl ⟨_, rfl, rfl⟩

/-! ## Paths that descend -/

/-- A path that goes down from a folder that is there. -/
structure Descent (fs : FileSystem) (path : Path) where
  /-- The segments up to the folder. -/
  up : List Text
  /-- The segments from there on. -/
  down : List Text
  folder : Place
  /-- The names of the folders below it. -/
  front : List Text
  last : Text
  linkFree : fs.tree.LinkFree
  segments : path.segments = up ++ down
  leads : walk fs.tree up (fs.startOf path) = .ok (.taken folder)
  isFolder : faceAt folder fs.tree = some emptyFolder
  goesDown : down.filterMap Path.component? = (front ++ [last]).map .name

namespace Descent

variable {fs gs : FileSystem} {path : Path}

/-- The place that the path goes down to. -/
def place (r : Descent fs path) : Place :=
  r.folder ++ r.front ++ [r.last]

/-- A path still descends when the disk grows. -/
def grown {written : Place → Prop} (r : Descent fs path) (h : Grown written fs.tree gs.tree)
    (hfolder : gs.workingFolder = fs.workingFolder) : Descent gs path where
  up := r.up
  down := r.down
  folder := r.folder
  front := r.front
  last := r.last
  linkFree := h.linkFree r.linkFree
  segments := r.segments
  leads := by
    have hstart : gs.startOf path = fs.startOf path := by rw [startOf, startOf, hfolder]
    rw [hstart]
    refine walk_taken_grown h ?_ r.leads
    -- a walk that leads somewhere starts somewhere
    intro hnone
    have hleads := r.leads
    cases hup : r.up with
    | nil =>
      rw [hup] at hleads
      obtain hstart : fs.startOf path = r.folder := Spot.taken.inj (Except.ok.inj hleads)
      rw [hstart, r.isFolder] at hnone
      exact absurd hnone (by simp)
    | cons first rest =>
      rw [hup, walk_of_ne (by simp [hnone])] at hleads
      exact absurd hleads (by simp)
  isFolder := h.folder r.isFolder
  goesDown := r.goesDown

theorem noParent (r : Descent fs path) : ['.', '.'] ∉ r.down := by
  intro hparent
  have hmem : Component.parent ∈ r.down.filterMap Path.component? :=
    List.mem_filterMap.2 ⟨['.', '.'], hparent, rfl⟩
  rw [r.goesDown] at hmem
  obtain ⟨name, -, hname⟩ := List.mem_map.1 hmem
  exact Component.noConfusion hname

theorem along_down (r : Descent fs path) : r.folder.along r.down = r.place := by
  rw [Place.along, r.goesDown, Place.foldl_onward_names, ← List.append_assoc]
  rfl

theorem resolve_eq (r : Descent fs path) : path.resolve fs.workingFolder = r.place := by
  have hfolder : r.folder = (fs.startOf path).along r.up := walk_place r.linkFree r.leads
  rw [Path.resolve_eq, r.segments, Place.along, List.filterMap_append, List.foldl_append,
    ← along_down, Place.along, hfolder]
  rfl

theorem start (r : Descent fs path) : faceAt (fs.startOf path) fs.tree = some emptyFolder := by
  cases hup : r.up with
  | nil =>
    have hleads := r.leads
    rw [hup] at hleads
    obtain hstart : fs.startOf path = r.folder := Spot.taken.inj (Except.ok.inj hleads)
    rw [hstart, r.isFolder]
  | cons first rest =>
    have hleads := r.leads
    by_contra hstart
    rw [hup, walk_of_ne hstart] at hleads
    exact absurd hleads (by simp)

/-- The steps to the folder. -/
def base (r : Descent fs path) : List Component :=
  path.lead ++ r.up.filterMap Path.component?

theorem components_eq (r : Descent fs path) :
    path.components = r.base ++ r.front.map .name ++ [.name r.last] := by
  rw [Path.components_eq_lead, r.segments, List.filterMap_append, r.goesDown, List.map_append,
    ← List.append_assoc, ← List.append_assoc]
  rfl

theorem folderComponents_eq (r : Descent fs path) :
    Path.ofComponents path.folderComponents = Path.down r.base r.front := by
  rw [Path.folderComponents, r.components_eq, List.dropLast_concat, Path.down]

/-- The folders of the path are a way down. -/
theorem way (r : Descent fs path) : Way fs r.base r.front r.folder := by
  have hsound : Path.Sound (r.base ++ r.front.map .name) := by
    have hall := Path.sound_components path
    rw [r.components_eq] at hall
    exact hall.of_append
  have hstart : fs.startOf (Path.down r.base r.front) = fs.startOf path := by
    have habs : (Path.down r.base r.front).isAbsolute = path.isAbsolute := by
      rw [Bool.eq_iff_iff, Path.isAbsolute_iff, Path.isAbsolute_iff, Path.down,
        Path.components_ofComponents hsound, r.components_eq]
      cases r.base ++ r.front.map Component.name <;> simp
    rw [startOf, startOf, habs]
  refine ⟨r.linkFree, hsound, hstart ▸ r.start, ?_, r.isFolder⟩
  rw [hstart, base, List.filterMap_append, Path.filterMap_segment?_lead, List.nil_append,
    Path.filterMap_segment?_component?]
  exact walk_loud r.linkFree r.leads

theorem text_ne_nil (r : Descent fs path) : path.text ≠ [] := by
  intro hnil
  have hcomponents := r.components_eq
  obtain rfl : path = ⟨[]⟩ := by rw [← hnil]
  have hempty : (Path.mk []).components = [] := rfl
  rw [hempty] at hcomponents
  exact absurd hcomponents (by simp)

theorem spot_eq (r : Descent fs path) (followLast : Bool) :
    fs.spot followLast path
      = match path.fault? with
        | some fault => .error fault
        | none => walk fs.tree r.down r.folder := by
  have hspot := spot_eq_walk r.linkFree r.text_ne_nil followLast
  rw [r.segments, walk_append_of_taken r.linkFree r.leads] at hspot
  exact hspot

/-- A path that descends without its slash at the end. -/
theorem exists_of_concat {text : Text} (r : Descent fs ⟨text ++ ['/']⟩) :
    text ≠ [] ∧ ∃ r' : Descent fs ⟨text⟩, r'.folder = r.folder ∧ r'.place = r.place := by
  have hsegments : List.splitOn '/' text ++ [[]] = r.up ++ r.down := by
    rw [← r.segments, Path.segments, List.splitOn_append_cons_self]
    rfl
  have hdown : r.down ≠ [] := by
    intro hnil
    have hgoes := r.goesDown
    rw [hnil] at hgoes
    exact absurd hgoes (by simp)
  -- the slash adds an empty segment, which is the last one that goes down
  obtain ⟨down, last, hlast⟩ : ∃ down last, r.down = down ++ [last] :=
    ⟨_, _, (List.dropLast_concat_getLast hdown).symm⟩
  rw [hlast, ← List.append_assoc] at hsegments
  obtain ⟨hfront, hempty⟩ := List.append_inj' hsegments rfl
  obtain rfl : [] = last := (List.cons.inj hempty).1
  have hgoes : down.filterMap Path.component? = (r.front ++ [r.last]).map .name := by
    rw [← r.goesDown, hlast, List.filterMap_append]
    exact (List.append_nil _).symm
  have hne : text ≠ [] := by
    rintro rfl
    have hsplit : [[]] = r.up ++ down := hfront
    have hmem : ∀ segment ∈ down, segment = [] := fun segment hsegment =>
      List.mem_singleton.1 (hsplit ▸ List.mem_append_right _ hsegment)
    have hnone : down.filterMap Path.component? = [] := by
      rw [List.filterMap_eq_nil_iff]
      rintro segment hsegment
      rw [hmem segment hsegment]
      rfl
    rw [hnone] at hgoes
    exact absurd hgoes (by simp)
  have hstart : fs.startOf ⟨text⟩ = fs.startOf ⟨text ++ ['/']⟩ := by
    cases text with
    | nil => exact absurd rfl hne
    | cons c rest => rfl
  exact ⟨hne, ⟨r.up, down, r.folder, r.front, r.last, r.linkFree, hfront, hstart ▸ r.leads,
    r.isFolder, hgoes⟩, rfl, rfl⟩

/-- What is left without the slashes at the end descends to the same place. -/
theorem exists_withoutSlashes (r : Descent fs path) :
    ∃ r' : Descent fs (withoutSlashes path), r'.folder = r.folder ∧ r'.place = r.place ∧
      (withoutSlashes path).text.getLast? ≠ some '/' := by
  obtain ⟨text⟩ := path
  induction text using List.reverseRecOn with
  | nil => exact ⟨r, rfl, rfl, by simp [withoutSlashes]⟩
  | append_singleton text c ih =>
    by_cases hslash : c = '/'
    · subst hslash
      obtain ⟨hne, r', hfolder, hplace⟩ := r.exists_of_concat
      obtain ⟨r'', hfolder', hplace', hlast⟩ := ih r'
      rw [withoutSlashes_concat hne]
      exact ⟨r'', hfolder'.trans hfolder, hplace'.trans hplace, hlast⟩
    · rw [withoutSlashes_of_ne (by simpa using hslash) (by simp)]
      exact ⟨r, rfl, rfl, by simpa using hslash⟩

/-- **Where a path that descends leads to depends on the places below its folder only.** -/
theorem spot_congr (r : Descent fs path) {written : Place → Prop}
    (h : Grown written fs.tree gs.tree) (hfolder : gs.workingFolder = fs.workingFolder)
    (hsame : ∀ q, r.folder <+: q → q <+: r.place → faceAt q gs.tree = faceAt q fs.tree)
    (followLast : Bool) : gs.spot followLast path = fs.spot followLast path := by
  have hwalk : walk gs.tree r.down r.folder = walk fs.tree r.down r.folder :=
    walk_congr r.linkFree (h.linkFree r.linkFree) r.noParent (by rw [r.along_down]; exact hsame)
  have hgs : gs.spot followLast path
      = match path.fault? with
        | some fault => .error fault
        | none => walk gs.tree r.down r.folder := (r.grown h hfolder).spot_eq followLast
  rw [hgs, hwalk, r.spot_eq]

theorem folder_prefix_place (r : Descent fs path) : r.folder <+: r.place := by
  rw [place, List.append_assoc]
  exact List.prefix_append _ _

theorem write_congr (r : Descent fs path) {written : Place → Prop}
    (h : Grown written fs.tree gs.tree) (hfolder : gs.workingFolder = fs.workingFolder)
    (hsame : ∀ q, r.folder <+: q → q <+: r.place → faceAt q gs.tree = faceAt q fs.tree)
    (content : FileContent) :
    (∃ fault, fs.write path content = .error fault ∧ gs.write path content = .error fault) ∨
      ∃ next next', fs.write path content = .ok next ∧ gs.write path content = .ok next' := by
  obtain ⟨kept, hkept, hplace, -⟩ := r.exists_withoutSlashes
  refine FileSystem.write_congr (r.spot_congr h hfolder hsame true) ?_ ?_ content
  · rw [entrySpot_eq, entrySpot_eq, kept.spot_congr h hfolder (by rwa [hkept, hplace]) false]
  · intro p hp
    have hp' : p = r.place := (spot_place r.linkFree hp).trans r.resolve_eq
    rw [hp']
    exact hsame _ r.folder_prefix_place List.prefix_rfl

/-- Writing the file comes out the same where the path leads the same way. -/
theorem write_sameChange (r : Descent fs path) {written : Place → Prop}
    (h : Grown written fs.tree gs.tree) (hfolder : gs.workingFolder = fs.workingFolder)
    (hsame : ∀ q, r.folder <+: q → q <+: r.place → faceAt q gs.tree = faceAt q fs.tree)
    (content : FileContent) :
    (change (·.write path content) gs).1 = (change (·.write path content) fs).1 ∧
      SameChange fs.tree (change (·.write path content) fs).2.tree
        gs.tree (change (·.write path content) gs).2.tree ∧
      ∀ q, faceAt q (change (·.write path content) fs).2.tree ≠ faceAt q fs.tree →
        q = r.place := by
  rw [change, change]
  rcases r.write_congr h hfolder hsame content with ⟨fault, hfs, hgs⟩ | ⟨next, next', hfs, hgs⟩
  · rw [hfs, hgs]
    exact ⟨rfl, fun q => Or.inl ⟨rfl, rfl⟩, fun q hq => absurd rfl hq⟩
  · obtain ⟨-, -, hface⟩ := write_face r.linkFree hfs
    obtain ⟨-, -, hface'⟩ := write_face (h.linkFree r.linkFree) hgs
    rw [hfolder] at hface'
    rw [r.resolve_eq] at hface hface'
    rw [hfs, hgs]
    refine ⟨rfl, fun q => ?_, fun q hq => ?_⟩
    · simp only
      rw [hface, hface']
      by_cases hq : q = r.place
      · rw [if_pos hq, if_pos hq]
        have hold : faceAt q gs.tree = faceAt q fs.tree := by
          rw [hq]
          exact hsame _ r.folder_prefix_place List.prefix_rfl
        rw [hold]
        by_cases hwritten : some (Node.file content) = faceAt q fs.tree
        · exact Or.inl ⟨hwritten, hwritten⟩
        · exact Or.inr ⟨hwritten, rfl⟩
      · rw [if_neg hq, if_neg hq]
        exact Or.inl ⟨rfl, rfl⟩
    · by_contra hne
      exact hq ((hface q).trans (if_neg hne))

/-- The place is not on the way to its folder. -/
theorem place_not_on_way (r : Descent fs path) : ¬ r.place <+: r.folder ++ r.front := by
  intro h
  have hlength := h.length_le
  rw [place, List.length_append, List.length_singleton] at hlength
  omega

/-- What is above the place and below the folder is on the way. -/
theorem prefix_or_eq (r : Descent fs path) {q : Place} (h : q <+: r.place) :
    q <+: r.folder ++ r.front ∨ q = r.place := by
  rcases List.prefix_concat_iff.1 h with heq | hbefore
  · exact Or.inr heq
  · exact Or.inl hbefore

/-! ### After the folders have been opened -/

theorem grown_opened (r : Descent fs path) :
    Grown (fun _ => False) fs.tree (fs.opened r.folder r.front).2.tree :=
  grown_openDown r.isFolder

theorem opened_face (r : Descent fs path) (q : Place) :
    faceAt q (fs.opened r.folder r.front).2.tree = faceAt q fs.tree ∨
      (faceAt q fs.tree = none ∧
        faceAt q (fs.opened r.folder r.front).2.tree = some emptyFolder ∧
        r.folder <+: q ∧ q <+: r.folder ++ r.front) :=
  openDown_face fs.tree r.isFolder q

/-- The folders do not come as far as the place. -/
theorem opened_place (r : Descent fs path) :
    faceAt r.place (fs.opened r.folder r.front).2.tree = faceAt r.place fs.tree := by
  rcases r.opened_face r.place with hsame | ⟨-, -, -, habove⟩
  · exact hsame
  · exact absurd habove r.place_not_on_way

theorem opened_folders (r : Descent fs path) (hok : (fs.opened r.folder r.front).1 = .ok ())
    {q : Place} (hbelow : r.folder <+: q) (habove : q <+: r.folder ++ r.front) :
    faceAt q (fs.opened r.folder r.front).2.tree = some emptyFolder :=
  openDown_folders r.isFolder hok hbelow habove

end Descent

end FileSystem

namespace Conversion

open FileSystem

/-! ## Writing below folders -/

theorem run_writeBelow (path : Path) (text : Text) (fs : FileSystem) :
    (writeBelow path text : StateM FileSystem _).run fs
      = match (Disk.makeFolders (Path.ofComponents path.folderComponents) :
            StateM FileSystem _).run fs with
        | (.error fault, next) => (.error fault, next)
        | (.ok (), next) => change (·.write path (.text text)) next := by
  rw [writeBelow, run_bind]
  obtain ⟨answer, next⟩ := (Disk.makeFolders (Path.ofComponents path.folderComponents) :
    StateM FileSystem _).run fs
  cases answer <;> rfl

section

variable {fs gs : FileSystem} {path : Path}

/-- The two steps of writing below folders. -/
theorem run_writeBelow_of_descent (r : Descent fs path) (text : Text) :
    (writeBelow path text : StateM FileSystem _).run fs
      = match (Path.down r.base r.front).fault? with
        | some fault => (.error fault, fs)
        | none =>
          match (fs.opened r.folder r.front).1 with
          | .error fault => (.error fault, (fs.opened r.folder r.front).2)
          | .ok () => change (·.write path (.text text)) (fs.opened r.folder r.front).2 := by
  rw [run_writeBelow, r.folderComponents_eq, r.way.run_makeFolders]
  cases (Path.down r.base r.front).fault? with
  | some fault => rfl
  | none =>
    simp only
    obtain ⟨answer, next⟩ := fs.opened r.folder r.front
    cases answer <;> rfl

/-- The same two steps on a disk that has grown. -/
theorem run_writeBelow_of_grown {written : Place → Prop} (r : Descent fs path)
    (hgrown : Grown written fs.tree gs.tree) (hfolder : gs.workingFolder = fs.workingFolder)
    (text : Text) :
    (writeBelow path text : StateM FileSystem _).run gs
      = match (Path.down r.base r.front).fault? with
        | some fault => (.error fault, gs)
        | none =>
          match (gs.opened r.folder r.front).1 with
          | .error fault => (.error fault, (gs.opened r.folder r.front).2)
          | .ok () => change (·.write path (.text text)) (gs.opened r.folder r.front).2 :=
  run_writeBelow_of_descent (r.grown hgrown hfolder) text

/-- **What writing below folders changes**: free places on the way become folders, and at the place
of the path there is a file. -/
theorem writeBelow_face (r : Descent fs path) (text : Text) :
    let next := ((writeBelow path text : StateM FileSystem _).run fs).2
    next.workingFolder = fs.workingFolder ∧
      ∀ q, faceAt q next.tree = faceAt q fs.tree ∨
        (faceAt q fs.tree = none ∧ faceAt q next.tree = some emptyFolder ∧
          r.folder <+: q ∧ q <+: r.folder ++ r.front) ∨
        (q = r.place ∧
          (faceAt q fs.tree = none ∨ ∃ old, faceAt q fs.tree = some (.file old)) ∧
          ∃ new, faceAt q next.tree = some (.file new)) := by
  have hopened : ∀ q, faceAt q (fs.opened r.folder r.front).2.tree = faceAt q fs.tree ∨
      (faceAt q fs.tree = none ∧
        faceAt q (fs.opened r.folder r.front).2.tree = some emptyFolder ∧
        r.folder <+: q ∧ q <+: r.folder ++ r.front) ∨
      (q = r.place ∧
        (faceAt q fs.tree = none ∨ ∃ old, faceAt q fs.tree = some (.file old)) ∧
        ∃ new, faceAt q (fs.opened r.folder r.front).2.tree = some (.file new)) :=
    fun q => (r.opened_face q).imp_right Or.inl
  rw [run_writeBelow_of_descent r]
  cases (Path.down r.base r.front).fault? with
  | some fault => exact ⟨rfl, fun q => Or.inl rfl⟩
  | none =>
    simp only
    cases (fs.opened r.folder r.front).1 with
    | error fault => exact ⟨rfl, hopened⟩
    | ok done =>
      simp only [change]
      cases hwrite : (fs.opened r.folder r.front).2.write path (.text text) with
      | error fault => exact ⟨rfl, hopened⟩
      | ok next =>
        obtain ⟨hfolder, hold, hface⟩ :=
          write_face (r.grown_opened.linkFree r.linkFree) hwrite
        have hplace : path.resolve (fs.opened r.folder r.front).2.workingFolder = r.place :=
          r.resolve_eq
        rw [hplace] at hold hface
        rw [r.opened_place] at hold
        refine ⟨hfolder, fun q => ?_⟩
        by_cases hq : q = r.place
        · exact Or.inr (Or.inr ⟨hq, hq ▸ hold, _, (hface q).trans (if_pos hq)⟩)
        · have hsame := (hface q).trans (if_neg hq)
          simp only
          rw [hsame]
          exact hopened q

/-- **Writing below folders comes out the same on a disk that has some of the folders**, as long as
it has the same at the place of the path. -/
theorem writeBelow_sameChange (r : Descent fs path) {written : Place → Prop}
    (hgrown : Grown written fs.tree gs.tree) (hfolder : gs.workingFolder = fs.workingFolder)
    (hway : ∀ q, r.folder <+: q → q <+: r.folder ++ r.front →
      faceAt q gs.tree = faceAt q fs.tree ∨
        (faceAt q fs.tree = none ∧ faceAt q gs.tree = some emptyFolder))
    (hplace : faceAt r.place gs.tree = faceAt r.place fs.tree) (text : Text) :
    ((writeBelow path text : StateM FileSystem _).run gs).1
        = ((writeBelow path text : StateM FileSystem _).run fs).1 ∧
      SameChange fs.tree ((writeBelow path text : StateM FileSystem _).run fs).2.tree
        gs.tree ((writeBelow path text : StateM FileSystem _).run gs).2.tree := by
  obtain ⟨hanswer, hchange⟩ : (gs.opened r.folder r.front).1 = (fs.opened r.folder r.front).1 ∧
      SameChange fs.tree (fs.opened r.folder r.front).2.tree
        gs.tree (gs.opened r.folder r.front).2.tree :=
    openDown_sameChange r.isFolder (hgrown.folder r.isFolder) hway
  rw [run_writeBelow_of_descent r, run_writeBelow_of_grown r hgrown hfolder, hanswer]
  cases (Path.down r.base r.front).fault? with
  | some fault => exact ⟨rfl, fun q => Or.inl ⟨rfl, rfl⟩⟩
  | none =>
    simp only
    cases hok : (fs.opened r.folder r.front).1 with
    | error fault => exact ⟨rfl, hchange⟩
    | ok done =>
      -- the way is open on both disks, and at its end they have the same
      have hsame : ∀ q, r.folder <+: q → q <+: r.place →
          faceAt q (gs.opened r.folder r.front).2.tree
            = faceAt q (fs.opened r.folder r.front).2.tree := by
        intro q hbelow habove
        rcases r.prefix_or_eq habove with hon | rfl
        · rw [r.opened_folders hok hbelow hon]
          exact (r.grown hgrown hfolder).opened_folders (hanswer.trans hok) hbelow hon
        · rw [r.opened_place, ← hplace]
          exact (r.grown hgrown hfolder).opened_place
      obtain ⟨hwritten, hwrite, honly⟩ := (r.grown r.grown_opened rfl).write_sameChange
        (hchange.grown hgrown) hfolder hsame (.text text)
      refine ⟨hwritten, hchange.trans hwrite fun q hq => ?_⟩
      rw [honly q hq]
      exact r.opened_place

end

end Conversion
end DocViews
