import DocViews.Proofs.Disk.Filling
import DocViews.Proofs.Disk.Folders

/-!
# Doing it again

An operation that is repeated finds what it has made.  On a disk that has grown out of the one it
left behind, it has the answer that it had the first time, and changes nothing:

* `Node.put_self` — a node that is put where it is already;
* `openDown_again` — a way down that has been opened, or as far as something was in its way;
* `write_again` — a file that has been written, or was refused;
* `run_makeFolders_again` — a folder that is there.

The disk may be a later one.  Only what was missing the first time may come out otherwise, so a
write that was refused must not have been refused for that.
-/

set_option autoImplicit false

namespace DocViews

open Node

theorem Keyed.set_self {α : Type} {key : Text} {value : α} {entries : List (Text × α)}
    (h : entries.lookup key = some value) : set key value entries = entries := by
  induction entries with
  | nil => exact nomatch h
  | cons entry rest ih =>
    obtain ⟨k, v⟩ := entry
    rw [set]
    split
    · next hk =>
      subst hk
      rw [lookup_cons_self] at h
      rw [Option.some.inj h]
    · next hk =>
      rw [lookup_cons_of_ne (Ne.symm hk)] at h
      rw [ih h]

/-- A node that is put where it is already changes nothing. -/
theorem Node.put_self {node tree : Node} {place : Place} (h : get? place tree = some node) :
    put node place tree = tree := by
  induction place generalizing tree with
  | nil => exact (Option.some.inj h).symm
  | cons name rest ih =>
    cases tree with
    | file content => exact nomatch h
    | link target => exact nomatch h
    | folder entries =>
      rw [get?] at h
      cases hchild : entries.lookup name with
      | none =>
        rw [hchild] at h
        cases h
      | some child =>
        rw [hchild] at h
        rw [put, hchild, Option.getD_some, ih h, Keyed.set_self hchild]

namespace FileSystem

/-! ## Opening a way -/

section

variable {written : Place → Prop} {s t : Node}

/-- **A way that has been opened is opened again without a change.**  The induction is on the names;
what has been made, and what was in the way, are there on the grown tree. -/
theorem openDown_again {names : List Text} {place : Place} (h : faceAt place s = some emptyFolder)
    (hgrown : Grown written (openDown s place names).2 t) :
    openDown t place names = ((openDown s place names).1, t) := by
  induction names generalizing place s with
  | nil => rfl
  | cons name rest ih =>
    rcases openDown_cases s place name with hlong | ⟨hlong, hfree | hfolder | ⟨hne, hthere⟩⟩
    · rw [openDown_long hlong, openDown_long hlong]
    · have hnew : faceAt (place ++ [name]) (put emptyFolder (place ++ [name]) s)
          = some emptyFolder := (faceAt_put_emptyFolder h hfree _).trans (if_pos rfl)
      rw [openDown_free hlong hfree] at hgrown ⊢
      have hmade := hgrown.folder ((openDown_keeps hnew (hnew ▸ Option.some_ne_none _)).trans hnew)
      rw [openDown_folder hlong hmade]
      exact ih hnew hgrown
    · rw [openDown_folder hlong hfolder] at hgrown ⊢
      have hkept :=
        hgrown.folder ((openDown_keeps hfolder (hfolder ▸ Option.some_ne_none _)).trans hfolder)
      rw [openDown_folder hlong hkept]
      exact ih hfolder hgrown
    · rw [openDown_blocked hlong hne hthere] at hgrown ⊢
      exact openDown_blocked hlong (hgrown.ne_folder hthere hne) (hgrown.there hthere)

end

theorem opened_again {written : Place → Prop} {fs gs : FileSystem} {place : Place}
    {names : List Text} (h : faceAt place fs.tree = some emptyFolder)
    (hgrown : Grown written (fs.opened place names).2.tree gs.tree) :
    gs.opened place names = ((fs.opened place names).1, gs) := by
  rw [opened, opened, openDown_again h hgrown]

/-! ## Writing a file -/

section

variable {written : Place → Prop} {fs gs : FileSystem} {path : Path}

/-- A path that is refused is refused again for the same reason, unless something was missing. -/
theorem spot_error_grown (h : Grown written fs.tree gs.tree)
    (hfolder : gs.workingFolder = fs.workingFolder)
    (hstart : faceAt (fs.startOf path) fs.tree ≠ none) {followLast : Bool} {fault : DiskFault}
    (hfault : fault ≠ .notFound) (hs : fs.spot followLast path = .error fault) :
    gs.spot followLast path = .error fault := by
  have hgrown := spot_grown h hfolder followLast path hstart
  rw [hs] at hgrown
  generalize gs.spot followLast path = after at hgrown
  cases hgrown with
  | refused fault => rfl
  | missing after => exact absurd rfl hfault

/-- A path that leads somewhere still does. -/
theorem exists_spot_grown (h : Grown written fs.tree gs.tree)
    (hfolder : gs.workingFolder = fs.workingFolder) {followLast : Bool} {spot : Spot}
    (hs : fs.spot followLast path = .ok spot) : ∃ spot', gs.spot followLast path = .ok spot' := by
  cases spot with
  | taken place => exact ⟨_, spot_taken_grown h hfolder hs⟩
  | free above name =>
    rw [spot_free_grown h hfolder hs]
    split
    · exact ⟨_, rfl⟩
    · exact ⟨_, rfl⟩

/-- A write that is refused is refused again, unless something was missing.  Of a path with a slash at
its end only the entry is asked for. -/
theorem write_error_again (h : Grown written fs.tree gs.tree)
    (hfolder : gs.workingFolder = fs.workingFolder)
    (hstart : faceAt (fs.startOf path) fs.tree ≠ none)
    (hstart' : faceAt (fs.startOf (withoutSlashes path)) fs.tree ≠ none)
    (hthere : fs.spot true path ≠ .error .notFound ∨ path.text.getLast? = some '/')
    (hentry : fs.spot false (withoutSlashes path) ≠ .error .notFound)
    {content : FileContent} {fault : DiskFault} (hwrite : fs.write path content = .error fault) :
    gs.write path content = .error fault := by
  rw [write] at hwrite ⊢
  split at hwrite
  · next hslash =>
    rw [if_pos hslash]
    rw [entrySpot_eq] at hwrite ⊢
    cases hfault : path.fault? with
    | some fault' => rwa [hfault] at hwrite
    | none =>
      rw [hfault] at hwrite
      simp only at hwrite ⊢
      cases hspot : fs.spot false (withoutSlashes path) with
      | error fault' =>
        rw [hspot] at hwrite hentry
        rw [spot_error_grown h hfolder hstart' (fun heq => hentry (heq ▸ rfl)) hspot]
        exact hwrite
      | ok spot =>
        rw [hspot] at hwrite
        obtain ⟨spot', hspot'⟩ := exists_spot_grown h hfolder hspot
        rw [hspot']
        exact hwrite
  · next hslash =>
    rw [if_neg hslash]
    replace hthere := hthere.resolve_right hslash
    cases hspot : fs.spot true path with
    | error fault' =>
      rw [hspot] at hwrite hthere
      rw [spot_error_grown h hfolder hstart (fun heq => hthere (heq ▸ rfl)) hspot]
      exact hwrite
    | ok spot =>
      rw [hspot] at hwrite
      cases spot with
      | free above name => cases hwrite
      | taken place =>
        rw [spot_taken_grown h hfolder hspot]
        simp only at hwrite ⊢
        split at hwrite
        · cases hwrite
        · next hfile =>
          have hplace : faceAt place fs.tree ≠ none := spot_fits hspot
          split
          · next new hnew =>
            -- what has become a file was one
            obtain ⟨old, hold⟩ := h.of_file hplace (faceAt_eq_file_iff.2 hnew)
            exact absurd (faceAt_eq_file_iff.1 hold) (hfile old)
          · exact hwrite

/-- **A file that has been written is written again without a change.** -/
theorem write_ok_again {next : FileSystem} {content : FileContent}
    (hwrite : fs.write path content = .ok next) (h : Grown written next.tree gs.tree)
    (hfolder : gs.workingFolder = next.workingFolder)
    (hkept : ∀ place, next.spot true path = .ok (.taken place) → ¬ written place) :
    gs.write path content = .ok gs := by
  obtain ⟨place, hspot, hface, -⟩ := spot_of_write hwrite
  have hfile : get? place gs.tree = some (.file content) :=
    (h.get?_eq_file_iff (hkept place hspot) content).2 (faceAt_eq_file_iff.1 hface)
  have hslash : ¬ path.text.getLast? = some '/' := by
    intro hslash
    rw [write, if_pos hslash] at hwrite
    split at hwrite <;> cases hwrite
  rw [write, if_neg hslash, spot_taken_grown h hfolder hspot]
  simp only [hfile]
  rw [withNode, put_self hfile]

end

/-! ## Making folders -/

/-- Slashes at the end of a path ask for a folder and go nowhere. -/
theorem spot_withoutSlashes {fs : FileSystem} (hlinks : fs.tree.LinkFree) {path : Path}
    (hfault : path.fault? = none) {place : Place} (hplace : faceAt place fs.tree = some emptyFolder) :
    fs.spot false (withoutSlashes path) = .ok (.taken place)
      ↔ fs.spot true path = .ok (.taken place) := by
  have hsame : ∀ {other : Path}, other.text ≠ [] → fs.spot false other = fs.spot true other :=
    fun htext => (spot_eq_walk hlinks htext false).trans (spot_eq_walk hlinks htext true).symm
  obtain ⟨text⟩ := path
  induction text using List.reverseRecOn with
  | nil => exact iff_of_false (by simp [withoutSlashes, spot]) (by simp [spot])
  | append_singleton text c ih =>
    by_cases hslash : c = '/'
    · subst hslash
      by_cases htext : text = []
      · subst htext
        rw [show withoutSlashes ⟨[] ++ ['/']⟩ = ⟨[] ++ ['/']⟩ from rfl, hsame (by simp)]
      · have hbefore : (Path.mk text).fault? = none := Path.fault?_of_longer rfl hfault
        have hstart : fs.startOf ⟨text ++ ['/']⟩ = fs.startOf ⟨text⟩ :=
          startOf_eq (by rw [Path.components_append_singleton htext]) fs
        have hsegments : (Path.mk (text ++ ['/'])).segments = (Path.mk text).segments ++ [[]] :=
          List.splitOn_append_cons_self text []
        rw [withoutSlashes_concat htext]
        refine (ih hbefore).trans ?_
        rw [spot_eq_walk hlinks htext, spot_eq_walk hlinks (show text ++ ['/'] ≠ [] by simp),
          hbefore, hfault]
        simp only
        rw [hstart, hsegments, walk_append hlinks _ (by simp)]
        constructor
        · intro h
          rw [h]
          exact walk_silent hplace rfl
        · intro h
          split at h
          · next p hp =>
            by_cases hfolder : faceAt p fs.tree = some emptyFolder
            · rw [walk_silent hfolder rfl] at h
              exact hp.trans h
            · rw [walk_of_ne hfolder] at h
              cases h
          · cases h
          · cases h
    · rw [withoutSlashes_of_ne (by simpa using hslash) (by simp), hsame (by simp)]

section

variable {fs next : FileSystem} {path : Path}

/-- A folder that has been made is there. -/
theorem isFolder_of_ensureFolder (hlinks : fs.tree.LinkFree)
    (h : (Disk.ensureFolder path : StateM FileSystem _).run fs = (.ok (), next)) :
    next.isFolder path = true := by
  rw [run_ensureFolder] at h
  cases hmake : fs.makeFolder path with
  | ok made =>
    rw [hmake] at h
    obtain rfl : made = next := (Prod.mk.inj h).2
    rw [makeFolder, make] at hmake
    cases hentry : fs.entrySpot path with
    | error fault =>
      rw [hentry] at hmake
      cases hmake
    | ok spot =>
      rw [hentry] at hmake
      cases spot with
      | taken place => cases hmake
      | free above name =>
        obtain rfl := Except.ok.inj hmake
        have hspot := spot_of_entrySpot hentry
        obtain ⟨habove, hfree⟩ := spot_fits hspot
        have hlaid := laid_withNode hspot
        have hnew : faceAt (above ++ [name]) (fs.withNode (above ++ [name]) emptyFolder).tree
            = some emptyFolder := (faceAt_put_emptyFolder habove hfree _).trans (if_pos rfl)
        have hfault := fault?_of_entrySpot hentry
        have hleads := spot_free_grown hlaid.grown hlaid.workingFolder hspot
        rw [if_neg (hnew ▸ Option.some_ne_none _)] at hleads
        exact (isFolder_of_spot ((spot_withoutSlashes (hlaid.grown.linkFree hlinks) hfault hnew).1
          hleads)).2 hnew
  | error fault =>
    rw [hmake] at h
    by_cases hfault : fault = .alreadyExists
    · subst hfault
      obtain rfl : fs = next := (Prod.mk.inj h).2
      have hanswer := (Prod.mk.inj h).1
      split at hanswer
      · next hfolder => exact hfolder
      · cases hanswer
    · split at h
      · next heq => cases heq
      · next heq => exact absurd (Except.error.inj heq) hfault
      · cases (Prod.mk.inj h).1

/-- **A folder that has been made with those above it is there**, whatever way its path goes. -/
theorem isFolder_of_makeFolders (hlinks : fs.tree.LinkFree) (htext : path.text ≠ [])
    (h : (Disk.makeFolders path : StateM FileSystem _).run fs = (.ok (), next)) :
    next.isFolder path = true := by
  rw [Disk.makeFolders, if_neg htext, run_ensureChain_cons] at h
  split at h
  · next first hfirst =>
    -- the last step of the chain is the path itself
    have hlaid := lays_ensureFolder path fs
    rw [hfirst] at hlaid
    have hchain := lays_ensureChain (Disk.pathsAbove path) first
    generalize (Disk.ensureChain (Disk.pathsAbove path) : StateM FileSystem _).run first = above
      at hchain h
    obtain ⟨answer, last⟩ := above
    cases answer with
    | error fault => cases (Prod.mk.inj h).1
    | ok done =>
      exact isFolder_of_ensureFolder
        (hchain.grown.linkFree (hlaid.grown.linkFree hlinks)) h
  · exact isFolder_of_ensureFolder hlinks h

/-- **A folder that is there is made without a change.** -/
theorem run_makeFolders_again (hlinks : fs.tree.LinkFree)
    (h : path.text ≠ [] → fs.isFolder path = true) :
    (Disk.makeFolders path : StateM FileSystem _).run fs = (.ok (), fs) := by
  by_cases htext : path.text = []
  · rw [Disk.makeFolders, if_pos htext]
    rfl
  · obtain ⟨place, entries, hspot, hget⟩ := isFolder_iff.1 (h htext)
    have hfault := fault?_of_spot hspot
    have hentry : fs.entrySpot path = .ok (.taken place) := by
      rw [entrySpot_eq, hfault]
      exact (spot_withoutSlashes hlinks hfault (faceAt_eq_emptyFolder_iff.2 ⟨entries, hget⟩)).2 hspot
    have hensure := run_ensureFolder_of_taken hentry
    rw [if_pos (h htext)] at hensure
    rw [Disk.makeFolders, if_neg htext]
    exact run_ensureChain_of_ne hensure (by simp)

end

end FileSystem
end DocViews
