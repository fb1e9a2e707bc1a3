import DocViews.Disk.Folders
import DocViews.Proofs.Disk.Asking
import DocViews.Proofs.FileSystem.Opening
import Mathlib.Data.List.Induction

/-!
# Making folders, from the top down

`Disk.makeFolders` tries the whole path first and goes up while something is missing.  Without links
this comes to the same as going down once: from a folder that is there, `FileSystem.openDown` takes
one name after another (`run_makeFolders`).

The path is written from its steps.  Those in front (`base`) lead to a folder; they may go up, and
nothing of them is ever made.  The others are names.
-/

set_option autoImplicit false

namespace DocViews

open Node

namespace FileSystem

/-- The answer and the disk after opening a way on it. -/
def opened (fs : FileSystem) (place : Place) (names : List Text) :
    Except DiskFault Unit × FileSystem :=
  ((openDown fs.tree place names).1, { fs with tree := (openDown fs.tree place names).2 })

section

variable {fs : FileSystem} {path : Path}

/-! ## One folder -/

theorem isFolder_of_spot {place : Place} (h : fs.spot true path = .ok (.taken place)) :
    fs.isFolder path = true ↔ faceAt place fs.tree = some emptyFolder := by
  rw [isFolder_iff, faceAt_eq_emptyFolder_iff, h]
  simp

theorem run_ensureFolder (fs : FileSystem) (path : Path) :
    (Disk.ensureFolder path : StateM FileSystem _).run fs
      = match fs.makeFolder path with
        | .ok next => (.ok (), next)
        | .error .alreadyExists =>
          (if fs.isFolder path then .ok () else .error .alreadyExists, fs)
        | .error fault => (.error fault, fs) := by
  have hmake : (Disk.makeFolder path : StateM FileSystem _).run fs
      = change (·.makeFolder path) fs := rfl
  rw [Disk.ensureFolder, run_bind, hmake, change]
  cases fs.makeFolder path with
  | ok next => rfl
  | error fault =>
    cases fault with
    | alreadyExists =>
      simp only [isFolder_eq_ask, run_ask_bind]
      split <;> rfl
    | _ => rfl

theorem run_ensureFolder_of_free {above : Place} {name : Text}
    (h : fs.entrySpot path = .ok (.free above name)) :
    (Disk.ensureFolder path : StateM FileSystem _).run fs
      = (.ok (), fs.withNode (above ++ [name]) emptyFolder) := by
  rw [run_ensureFolder, makeFolder, make, h]

theorem run_ensureFolder_of_taken {place : Place}
    (h : fs.entrySpot path = .ok (.taken place)) :
    (Disk.ensureFolder path : StateM FileSystem _).run fs
      = (if fs.isFolder path then .ok () else .error .alreadyExists, fs) := by
  rw [run_ensureFolder, makeFolder, make, h]

theorem run_ensureFolder_of_error {fault : DiskFault} (hfault : fault ≠ .alreadyExists)
    (h : fs.entrySpot path = .error fault) :
    (Disk.ensureFolder path : StateM FileSystem _).run fs = (.error fault, fs) := by
  rw [run_ensureFolder, makeFolder, make, h]
  cases fault with
  | alreadyExists => exact absurd rfl hfault
  | _ => rfl

/-! ## A chain of folders -/

theorem run_ensureChain_cons (fs : FileSystem) (path : Path) (above : List Path) :
    (Disk.ensureChain (path :: above) : StateM FileSystem _).run fs
      = match (Disk.ensureFolder path : StateM FileSystem _).run fs with
        | (.error .notFound, next) =>
          match (Disk.ensureChain above : StateM FileSystem _).run next with
          | (.ok (), last) => (Disk.ensureFolder path : StateM FileSystem _).run last
          | (.error fault, last) => (.error fault, last)
        | other => other := by
  rw [Disk.ensureChain, run_bind]
  obtain ⟨answer, next⟩ := (Disk.ensureFolder path : StateM FileSystem _).run fs
  cases answer with
  | ok done => rfl
  | error fault =>
    cases fault with
    | notFound =>
      simp only
      rw [run_bind]
      obtain ⟨answer, last⟩ := (Disk.ensureChain above : StateM FileSystem _).run next
      cases answer <;> rfl
    | _ => rfl

/-- Only what is missing makes a chain go up. -/
theorem run_ensureChain_of_ne {above : List Path} {answer : Except DiskFault Unit}
    {next : FileSystem}
    (h : (Disk.ensureFolder path : StateM FileSystem _).run fs = (answer, next))
    (hanswer : answer ≠ .error .notFound) :
    (Disk.ensureChain (path :: above) : StateM FileSystem _).run fs = (answer, next) := by
  rw [run_ensureChain_cons, h]
  split
  · next heq => exact absurd (Prod.mk.inj heq).1 hanswer
  · rfl

end

/-! ## Chains of steps -/

/-- The paths above a path are written from the beginnings of its steps. -/
theorem mem_pathsAbove_iff {path above : Path} :
    above ∈ Disk.pathsAbove path
      ↔ above.text ≠ [] ∧ ∃ n < path.components.length,
        above = Path.ofComponents (path.components.take n) := by
  rw [Disk.pathsAbove, List.mem_filter, List.mem_map, decide_eq_true_eq, and_comm]
  simp only [List.mem_reverse, List.mem_range, eq_comm]

theorem pathsAbove_concat {steps : List Component} {step : Component}
    (h : Path.Sound (steps ++ [step])) :
    Disk.pathsAbove (Path.ofComponents (steps ++ [step]))
      = if steps = [] then []
        else Path.ofComponents steps :: Disk.pathsAbove (Path.ofComponents steps) := by
  have hsteps := h.of_append
  have hbefore : (List.range steps.length).reverse.map
        (fun n => Path.ofComponents ((steps ++ [step]).take n))
      = (List.range steps.length).reverse.map fun n => Path.ofComponents (steps.take n) := by
    refine List.map_congr_left fun n hn => ?_
    have hlt : n < steps.length := List.mem_range.1 (List.mem_reverse.1 hn)
    rw [List.take_append_of_le_length (Nat.le_of_lt hlt)]
  rw [Disk.pathsAbove, Path.components_ofComponents h, List.length_append, List.length_singleton,
    List.range_succ, List.reverse_append, List.reverse_singleton, List.singleton_append,
    List.map_cons, List.take_left, hbefore]
  by_cases hnil : steps = []
  · subst hnil
    rfl
  · have htext : (Path.ofComponents steps).text ≠ [] :=
      fun hempty => hnil ((Path.text_ofComponents_eq_nil_iff hsteps).1 hempty)
    rw [if_neg hnil, List.filter_cons_of_pos (by simpa using htext), Disk.pathsAbove,
      Path.components_ofComponents hsteps]

/-- The beginning of a path that every disk takes is taken, too. -/
theorem fault?_of_append {steps more : List Component} (h : Path.Sound (steps ++ more))
    (hne : steps ≠ []) (hfault : (Path.ofComponents (steps ++ more)).fault? = none) :
    (Path.ofComponents steps).fault? = none := by
  induction more using List.reverseRecOn with
  | nil => rwa [List.append_nil] at hfault
  | append_singleton more step ih =>
    rw [← List.append_assoc] at h hfault
    have hstep : Path.IsInner step := h.isInner_last (by simp [hne])
    obtain ⟨rest, htext⟩ := Path.text_ofComponents_concat (steps ++ more) hstep
    exact ih h.of_append (Path.fault?_of_longer htext hfault)

theorem fault?_cases {path : Path} {fault : DiskFault} (h : path.fault? = some fault) :
    fault = .badCharacter ∨ fault = .nameTooLong := by
  rw [Path.fault?] at h
  split at h
  · exact Or.inl (Option.some.inj h).symm
  · split at h
    · exact Or.inr (Option.some.inj h).symm
    · exact absurd h (by simp)

/-- A path that no disk takes is refused before anything is made. -/
theorem run_ensureChain_of_fault {fs : FileSystem} {path : Path} {fault : DiskFault}
    (h : path.fault? = some fault) (above : List Path) :
    (Disk.ensureChain (path :: above) : StateM FileSystem _).run fs = (.error fault, fs) := by
  have hspot : fs.entrySpot path = .error fault := by rw [entrySpot_eq, h]
  refine run_ensureChain_of_ne (run_ensureFolder_of_error ?_ hspot) ?_
  · rcases fault?_cases h with rfl | rfl <;> simp
  · rcases fault?_cases h with rfl | rfl <;> simp

/-- A path that has been made is one that every disk takes. -/
theorem fault?_of_makeFolders {fs : FileSystem} {path : Path}
    (h : ((Disk.makeFolders path : StateM FileSystem _).run fs).1 = .ok ()) :
    path.fault? = none := by
  by_cases htext : path.text = []
  · obtain ⟨text⟩ := path
    obtain rfl : text = [] := htext
    rfl
  · rw [Disk.makeFolders, if_neg htext] at h
    cases hfault : path.fault? with
    | none => rfl
    | some fault =>
      rw [run_ensureChain_of_fault hfault] at h
      exact absurd h (by simp)

end FileSystem

/-- The path that goes down by names from where other steps lead. -/
def Path.down (base : List Component) (names : List Text) : Path :=
  ofComponents (base ++ names.map .name)

namespace FileSystem

/-- A way down by names, from a folder that is there. -/
structure Way (fs : FileSystem) (base : List Component) (names : List Text) (place : Place) :
    Prop where
  linkFree : fs.tree.LinkFree
  sound : Path.Sound (base ++ names.map .name)
  start : faceAt (fs.startOf (Path.down base names)) fs.tree = some emptyFolder
  /-- The steps in front of the names lead to the folder. -/
  leads : walk fs.tree (base.filterMap Component.segment?) (fs.startOf (Path.down base names))
    = .ok (.taken place)
  folder : faceAt place fs.tree = some emptyFolder

namespace Way

variable {fs : FileSystem} {base : List Component} {names : List Text} {place : Place}

theorem component? (h : Way fs base names place) {name : Text} (hname : name ∈ names) :
    Path.component? name = some (.name name) :=
  (h.sound.isInner_name (List.mem_append_right _ (List.mem_map_of_mem hname))).1

/-- A way stays when the disk grows. -/
theorem grown {written : Place → Prop} {gs : FileSystem} (h : Way fs base names place)
    (hgrown : Grown written fs.tree gs.tree) (hfolder : gs.workingFolder = fs.workingFolder) :
    Way gs base names place := by
  have hstart : gs.startOf (Path.down base names) = fs.startOf (Path.down base names) := by
    rw [startOf, startOf, hfolder]
  refine ⟨hgrown.linkFree h.linkFree, h.sound, hstart ▸ hgrown.folder h.start, ?_,
    hgrown.folder h.folder⟩
  rw [hstart]
  exact walk_taken_grown hgrown (by simp [h.start]) h.leads

theorem steps_concat (base : List Component) (names : List Text) (last : Text) :
    base ++ (names ++ [last]).map Component.name = base ++ names.map .name ++ [.name last] := by
  rw [List.map_append, List.map_singleton, List.append_assoc]

/-- The beginning of a way, unless it is the start. -/
theorem shorter {last : Text} (h : Way fs base (names ++ [last]) place)
    (hne : base ++ names.map Component.name ≠ []) : Way fs base names place := by
  have hsound := h.sound
  rw [steps_concat] at hsound
  have hstart : fs.startOf (Path.down base (names ++ [last])) = fs.startOf (Path.down base names) := by
    refine startOf_eq ?_ fs
    rw [Path.down, Path.down, steps_concat, Path.components_ofComponents hsound,
      Path.components_ofComponents hsound.of_append, List.head?_append_of_ne_nil _ hne]
  exact ⟨h.linkFree, hsound.of_append, hstart ▸ h.start, hstart ▸ h.leads, h.folder⟩

/-- **A way is walked from its folder.** -/
theorem spot_eq (h : Way fs base names place) (hne : base ++ names.map Component.name ≠ [])
    (followLast : Bool) :
    fs.spot followLast (Path.down base names)
      = match (Path.down base names).fault? with
        | some fault => .error fault
        | none => walk fs.tree names place := by
  have hspot := spot_ofComponents h.linkFree h.sound hne h.start followLast
  have hleads : walk fs.tree (base.filterMap Component.segment?)
      (fs.startOf (Path.ofComponents (base ++ names.map .name))) = .ok (.taken place) := h.leads
  rw [List.filterMap_append, Path.filterMap_segment?_names,
    walk_append_of_taken h.linkFree hleads] at hspot
  exact hspot

theorem entrySpot_down (h : Way fs base names place)
    (hne : base ++ names.map Component.name ≠ []) :
    fs.entrySpot (Path.down base names) = fs.spot false (Path.down base names) :=
  entrySpot_of_eq (withoutSlashes_ofComponents h.sound hne) fs

/-- The last folder, when the one above it is there. -/
theorem run_ensureFolder_last {last : Text} {above : Place}
    (h : Way fs base (names ++ [last]) place)
    (hfault : (Path.down base (names ++ [last])).fault? = none)
    (hwalk : walk fs.tree names place = .ok (.taken above))
    (hfolder : faceAt above fs.tree = some emptyFolder) :
    (Disk.ensureFolder (Path.down base (names ++ [last])) : StateM FileSystem _).run fs
      = fs.opened above [last] := by
  have hlast : Path.component? last = some (.name last) := h.component? (by simp)
  have hspot : ∀ followLast, fs.spot followLast (Path.down base (names ++ [last]))
      = walk fs.tree [last] above := by
    intro followLast
    rw [h.spot_eq (by simp), hfault]
    exact walk_append_of_taken h.linkFree hwalk
  have hmake := hspot false
  rw [← h.entrySpot_down (by simp)] at hmake
  rw [walk_name h.linkFree hfolder hlast] at hspot hmake
  rcases openDown_cases fs.tree above last with hlong | ⟨hlong, hfree | hinner | ⟨hne, hthere⟩⟩
  · rw [if_pos hlong] at hmake
    rw [run_ensureFolder_of_error (by simp) hmake, opened, openDown_long hlong]
  · rw [if_neg hlong, hfree] at hmake
    rw [run_ensureFolder_of_free hmake, opened, openDown_free hlong hfree]
    rfl
  · rw [if_neg hlong, hinner] at hmake
    have hthrough := hspot true
    rw [if_neg hlong, hinner] at hthrough
    rw [run_ensureFolder_of_taken hmake, if_pos ((isFolder_of_spot hthrough).2 hinner), opened,
      openDown_folder hlong hinner]
    rfl
  · obtain ⟨node, hnode⟩ := Option.ne_none_iff_exists'.1 hthere
    rw [if_neg hlong, hnode] at hmake
    have hthrough := hspot true
    rw [if_neg hlong, hnode] at hthrough
    rw [run_ensureFolder_of_taken hmake,
      if_neg fun hfolder => hne ((isFolder_of_spot hthrough).1 hfolder), opened,
      openDown_blocked hlong hne hthere]
    rfl

/-- Where a folder is missing, the chain goes up to make it, and then makes the last one. -/
theorem run_ensureChain_of_missing {last : Text} (h : Way fs base (names ++ [last]) place)
    (hfault : (Path.down base (names ++ [last])).fault? = none)
    (hne : base ++ names.map Component.name ≠ [])
    (hspot : fs.entrySpot (Path.down base (names ++ [last])) = .error .notFound)
    (hmade : (openDown fs.tree place names).1 = .ok () ∨
      (openDown fs.tree place names).1 = .error .nameTooLong)
    (hchain : (Disk.ensureChain (Path.down base names :: Disk.pathsAbove (Path.down base names)) :
        StateM FileSystem _).run fs = fs.opened place names) :
    (Disk.ensureChain (Path.down base (names ++ [last])
        :: Disk.pathsAbove (Path.down base (names ++ [last]))) : StateM FileSystem _).run fs
      = fs.opened place (names ++ [last]) := by
  have hnames : ∀ name ∈ names, Path.component? name = some (.name name) :=
    fun name hname => h.component? (List.mem_append_left _ hname)
  have hsound := h.sound
  rw [steps_concat] at hsound
  have habove : Disk.pathsAbove (Path.down base (names ++ [last]))
      = Path.down base names :: Disk.pathsAbove (Path.down base names) := by
    rw [Path.down, steps_concat, pathsAbove_concat hsound, if_neg hne]
    rfl
  rw [run_ensureChain_cons, run_ensureFolder_of_error (by simp) hspot, habove]
  simp only
  rw [hchain, opened, opened, openDown_concat]
  rcases hmade with hok | hlong
  · have hway : Way { fs with tree := (openDown fs.tree place names).2 } base
        (names ++ [last]) place := h.grown (grown_openDown h.folder) rfl
    have hlast := hway.run_ensureFolder_last hfault
      (walk_openDown h.linkFree hnames h.folder hok)
      (openDown_folders h.folder hok (List.prefix_append _ _) List.prefix_rfl)
    generalize openDown fs.tree place names = made at hok hlast ⊢
    obtain ⟨answer, tree⟩ := made
    obtain rfl : answer = .ok () := hok
    exact hlast
  · generalize openDown fs.tree place names = made at hlong ⊢
    obtain ⟨answer, tree⟩ := made
    obtain rfl : answer = .error .nameTooLong := hlong
    rfl

/-- The induction is on the names from the last one up: while a folder is missing the chain makes
those above it first, and these are the names before. -/
theorem run_ensureChain (h : Way fs base names place) (hnames : names ≠ [])
    (hfault : (Path.down base names).fault? = none) :
    (Disk.ensureChain (Path.down base names :: Disk.pathsAbove (Path.down base names)) :
        StateM FileSystem _).run fs
      = fs.opened place names := by
  induction names using List.reverseRecOn with
  | nil => exact absurd rfl hnames
  | append_singleton names last ih =>
    have hspot : fs.entrySpot (Path.down base (names ++ [last]))
        = walk fs.tree (names ++ [last]) place := by
      rw [h.entrySpot_down (by simp), h.spot_eq (by simp), hfault]
    rw [walk_append h.linkFree names (by simp)] at hspot
    have hopens := opens_openDown h.linkFree
      (fun name hname => h.component? (List.mem_append_left _ hname)) h.folder
    have hchain (hne : names ≠ []) :
        (Disk.ensureChain (Path.down base names :: Disk.pathsAbove (Path.down base names)) :
          StateM FileSystem _).run fs = fs.opened place names := by
      refine ih (h.shorter (by simp [hne])) hne ?_
      have hsound := h.sound
      rw [steps_concat] at hsound
      rw [Path.down, steps_concat] at hfault
      exact fault?_of_append hsound (by simp [hne]) hfault
    generalize hwalk : walk fs.tree names place = led at hopens hspot
    generalize hmade : openDown fs.tree place names = made at hopens
    cases hopens with
    | through hfolder =>
      rename_i p
      -- the walk ends where the names lead
      have hplace : p = place ++ names := by
        have hopened := walk_openDown h.linkFree
          (fun name hname => h.component? (List.mem_append_left _ hname)) h.folder
          (congrArg Prod.fst hmade)
        rw [hmade] at hopened
        exact Spot.taken.inj (Except.ok.inj (hwalk.symm.trans hopened))
      have hlast := h.run_ensureFolder_last hfault hwalk hfolder
      rw [run_ensureChain_of_ne hlast (openDown_ne_notFound _ _ _), hplace]
      simp only [opened]
      rw [openDown_concat, hmade]
    | blocked hfolder =>
      simp only at hspot
      rw [walk_of_ne hfolder] at hspot
      rw [run_ensureChain_of_ne (run_ensureFolder_of_error (by simp) hspot) (by simp), opened,
        openDown_concat, hmade]
      rfl
    | stopped hmiss hthere =>
      rw [run_ensureChain_of_ne (run_ensureFolder_of_error hthere hspot) (by simp [hmiss]), opened,
        openDown_concat, hmade]
      rename_i fault
      cases fault with
      | alreadyExists => exact absurd rfl hthere
      | _ => rfl
    | free hnew =>
      have hne : names ≠ [] := by
        rintro rfl
        exact absurd hwalk (by simp [walk, follow])
      exact h.run_ensureChain_of_missing hfault (by simp [hne]) hspot (hmade ▸ hnew) (hchain hne)
    | missing hnew =>
      have hne : names ≠ [] := by
        rintro rfl
        exact absurd hwalk (by simp [walk, follow])
      exact h.run_ensureChain_of_missing hfault (by simp [hne]) hspot (hmade ▸ hnew) (hchain hne)

/-- **Making a folder and those above it is opening the way to it**, unless no disk would take the
path. -/
theorem run_makeFolders (h : Way fs base names place) :
    (Disk.makeFolders (Path.down base names) : StateM FileSystem _).run fs
      = match (Path.down base names).fault? with
        | some fault => (.error fault, fs)
        | none => fs.opened place names := by
  have htext : (Path.down base names).text = [] ↔ base ++ names.map Component.name = [] :=
    Path.text_ofComponents_eq_nil_iff h.sound
  by_cases hempty : base ++ names.map Component.name = []
  · -- the empty path is the working folder, which nobody has to make
    obtain ⟨rfl, hnames⟩ := List.append_eq_nil_iff.1 hempty
    obtain rfl : names = [] := List.map_eq_nil_iff.1 hnames
    rfl
  · rw [Disk.makeFolders, if_neg (fun hnil => hempty (htext.1 hnil))]
    cases hfault : (Path.down base names).fault? with
    | some fault => exact run_ensureChain_of_fault hfault _
    | none =>
      by_cases hnames : names = []
      · subst hnames
        have hspot : ∀ followLast, fs.spot followLast (Path.down base []) = .ok (.taken place) := by
          intro followLast
          rw [h.spot_eq hempty, hfault]
          rfl
        have hmake := hspot false
        rw [← h.entrySpot_down hempty] at hmake
        have hensure := run_ensureFolder_of_taken hmake
        rw [if_pos ((isFolder_of_spot (hspot true)).2 h.folder)] at hensure
        exact run_ensureChain_of_ne hensure (openDown_ne_notFound fs.tree place [])
      · exact h.run_ensureChain hnames hfault

end Way

end FileSystem
end DocViews
