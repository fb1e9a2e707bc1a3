import DocViews.Proofs.FileSystem.Growth
import DocViews.Proofs.Path.Steps

/-!
# Walking a tree without links

Without links there is nothing to jump to: following a path is one walk over its segments
(`FileSystem.spot_eq_walk`), and the segments that say nothing may be left out of it
(`walk_loud`).  So a path that is written from steps walks along these steps (`spot_ofComponents`).

A walk that never goes up looks at the places on its way only, which are all the places between its
start and its end (`walk_congr`).
-/

set_option autoImplicit false

namespace DocViews

open Node

namespace FileSystem

/-- Following segments where there are no links. -/
def walk (tree : Node) (segments : List Text) (place : Place) : Except DiskFault Spot :=
  follow tree true (fun _ _ => .error .tooManyLinks) segments place

section

variable {tree : Node} {segment : Text} {rest : List Text} {place : Place}

/-! ## Steps -/

theorem walk_of_ne (h : faceAt place tree ≠ some emptyFolder) :
    walk tree (segment :: rest) place = .error .notAFolder :=
  follow_of_ne h rest

theorem walk_silent (h : faceAt place tree = some emptyFolder)
    (hsilent : Path.isSilent segment = true) :
    walk tree (segment :: rest) place = walk tree rest place :=
  follow_silent h hsilent rest

theorem walk_parent (h : faceAt place tree = some emptyFolder) :
    walk tree (['.', '.'] :: rest) place = walk tree rest place.dropLast :=
  follow_parent h rest

/-- A walk goes from a place to what is called by the name, if anything is. -/
theorem walk_name (hlinks : tree.LinkFree) (h : faceAt place tree = some emptyFolder)
    (hname : Path.component? segment = some (.name segment)) :
    walk tree (segment :: rest) place
      = if maxNameSize < Text.byteSize segment then .error .nameTooLong
        else
          match faceAt (place ++ [segment]) tree with
          | none => if rest = [] then .ok (.free place segment) else .error .notFound
          | some _ => walk tree rest (place ++ [segment]) := by
  rw [walk, follow_name h hname]
  cases hface : faceAt (place ++ [segment]) tree with
  | none => rfl
  | some node =>
    cases node with
    | link target => exact absurd hface (linkFree_iff.1 hlinks _ _)
    | folder entries => rfl
    | file content => rfl

/-- A walk that comes to a node has found what is called by its first name. -/
theorem walk_name_taken (hlinks : tree.LinkFree) (h : faceAt place tree = some emptyFolder)
    (hname : Path.component? segment = some (.name segment)) {p : Place}
    (hwalk : walk tree (segment :: rest) place = .ok (.taken p)) :
    ¬ maxNameSize < Text.byteSize segment ∧ ∃ node,
      faceAt (place ++ [segment]) tree = some node ∧
        walk tree rest (place ++ [segment]) = .ok (.taken p) := by
  rw [walk_name hlinks h hname] at hwalk
  split at hwalk
  · exact absurd hwalk (by simp)
  · next hlong =>
    refine ⟨hlong, ?_⟩
    cases hface : faceAt (place ++ [segment]) tree with
    | none =>
      rw [hface] at hwalk
      simp only at hwalk
      split at hwalk <;> exact absurd hwalk (by simp)
    | some node =>
      rw [hface] at hwalk
      exact ⟨node, rfl, hwalk⟩

/-! ## Walks are all there is -/

theorem follow_eq_walk (hlinks : tree.LinkFree) {followLast : Bool}
    {onLink : List Text → Place → Except DiskFault Spot} (segments : List Text) (place : Place) :
    follow tree followLast onLink segments place = walk tree segments place := by
  induction segments generalizing place with
  | nil => rfl
  | cons segment rest ih =>
    by_cases hfolder : faceAt place tree = some emptyFolder
    · rcases Path.segment_cases segment with hsilent | rfl | hname
      · rw [follow_silent hfolder hsilent, walk_silent hfolder hsilent, ih]
      · rw [follow_parent hfolder, walk_parent hfolder, ih]
      · rw [follow_name hfolder hname, walk_name hlinks hfolder hname]
        cases hface : faceAt (place ++ [segment]) tree with
        | none => rfl
        | some node =>
          cases node with
          | link target => exact absurd hface (linkFree_iff.1 hlinks _ _)
          | folder entries => simp only [ih]
          | file content => simp only [ih]
    · rw [follow_of_ne hfolder, walk_of_ne hfolder]

theorem followLinks_eq_walk (hlinks : tree.LinkFree) {followLast : Bool} (n : Nat)
    (segments : List Text) (place : Place) :
    followLinks tree followLast n segments place = walk tree segments place := by
  cases n <;> exact follow_eq_walk hlinks segments place

theorem walk_append (hlinks : tree.LinkFree) (segments : List Text) {more : List Text}
    (hmore : more ≠ []) (place : Place) :
    walk tree (segments ++ more) place
      = match walk tree segments place with
        | .ok (.taken p) => walk tree more p
        | .ok (.free _ _) => .error .notFound
        | .error fault => .error fault :=
  follow_append hlinks segments hmore place

/-- A walk may go on from where its beginning leads. -/
theorem walk_append_of_taken (hlinks : tree.LinkFree) {segments more : List Text} {p : Place}
    (h : walk tree segments place = .ok (.taken p)) :
    walk tree (segments ++ more) place = walk tree more p := by
  by_cases hmore : more = []
  · rw [hmore, List.append_nil, h]
    rfl
  · rw [walk_append hlinks segments hmore, h]

/-- A walk to a node leads there on a tree that has grown, too. -/
theorem walk_taken_grown {written : Place → Prop} {s t : Node} (h : Grown written s t)
    {segments : List Text} {p : Place} (hplace : faceAt place s ≠ none)
    (hs : walk s segments place = .ok (.taken p)) :
    walk t segments place = .ok (.taken p) := by
  have hgrown : Outlives t (walk s segments place) (walk t segments place) :=
    follow_grown h (fun _ _ _ => .refused _) segments hplace
  rw [hs] at hgrown
  generalize walk t segments place = after at hgrown
  cases hgrown
  rfl

theorem walk_place (hlinks : tree.LinkFree) {segments : List Text} {spot : Spot}
    (h : walk tree segments place = .ok spot) : spot.place = place.along segments :=
  follow_place hlinks h

/-! ## Silent segments -/

theorem walk_quiet {quiet : List Text} (h : faceAt place tree = some emptyFolder)
    (hquiet : ∀ segment ∈ quiet, Path.isSilent segment = true) (rest : List Text) :
    walk tree (quiet ++ rest) place = walk tree rest place :=
  follow_quiet h hquiet rest

/-- Where a walk leads to a node, its silent segments may be left out. -/
theorem walk_loud (hlinks : tree.LinkFree) {segments : List Text} {p : Place}
    (h : walk tree segments place = .ok (.taken p)) :
    walk tree (segments.filter fun segment => !Path.isSilent segment) place = .ok (.taken p) := by
  induction segments generalizing place with
  | nil => exact h
  | cons segment rest ih =>
    by_cases hfolder : faceAt place tree = some emptyFolder
    · rcases Path.segment_cases segment with hsilent | rfl | hname
      · rw [walk_silent hfolder hsilent] at h
        rw [List.filter_cons_of_neg (by simp [hsilent])]
        exact ih h
      · rw [walk_parent hfolder] at h
        rw [List.filter_cons_of_pos (by decide), walk_parent hfolder]
        exact ih h
      · have hloud := (Path.loud_of_name hname).1
        obtain ⟨hlong, node, hnode, hrest⟩ := walk_name_taken hlinks hfolder hname h
        rw [List.filter_cons_of_pos (by simp [hloud]), walk_name hlinks hfolder hname,
          if_neg hlong, hnode]
        exact ih hrest
    · rw [walk_of_ne hfolder] at h
      exact absurd h (by simp)

end

/-! ## What is missing -/

/-- The first place on the way along segments that holds nothing. -/
def firstMissing? (tree : Node) : List Text → Place → Option Place
  | [], _ => none
  | segment :: rest, place =>
    if Path.isSilent segment then firstMissing? tree rest place
    else if segment = ['.', '.'] then firstMissing? tree rest place.dropLast
    else
      match faceAt (place ++ [segment]) tree with
      | none => some (place ++ [segment])
      | some _ => firstMissing? tree rest (place ++ [segment])

theorem firstMissing?_silent {tree : Node} {segment : Text} {rest : List Text} {place : Place}
    (hsilent : Path.isSilent segment = true) :
    firstMissing? tree (segment :: rest) place = firstMissing? tree rest place := by
  rw [firstMissing?, if_pos hsilent]

theorem firstMissing?_parent {tree : Node} {rest : List Text} {place : Place} :
    firstMissing? tree (['.', '.'] :: rest) place = firstMissing? tree rest place.dropLast := by
  rw [firstMissing?, if_neg (by decide), if_pos rfl]

theorem firstMissing?_name {tree : Node} {segment : Text} {rest : List Text} {place : Place}
    (hname : Path.component? segment = some (.name segment)) :
    firstMissing? tree (segment :: rest) place
      = match faceAt (place ++ [segment]) tree with
        | none => some (place ++ [segment])
        | some _ => firstMissing? tree rest (place ++ [segment]) := by
  obtain ⟨hsilent, hparent⟩ := Path.loud_of_name hname
  rw [firstMissing?, if_neg hsilent, if_neg hparent]

theorem faceAt_of_firstMissing? {tree : Node} {segments : List Text} {place gap : Place}
    (h : firstMissing? tree segments place = some gap) : faceAt gap tree = none := by
  induction segments generalizing place with
  | nil => exact absurd h (by simp [firstMissing?])
  | cons segment rest ih =>
    rw [firstMissing?] at h
    split at h
    · exact ih h
    · split at h
      · exact ih h
      · split at h
        · next hfree =>
          obtain rfl := Option.some.inj h
          exact hfree
        · exact ih h

/-- A walk that comes to a node has missed nothing. -/
theorem firstMissing?_of_walk {tree : Node} (hlinks : tree.LinkFree) {segments : List Text}
    {place p : Place} (h : walk tree segments place = .ok (.taken p)) :
    firstMissing? tree segments place = none := by
  induction segments generalizing place with
  | nil => rfl
  | cons segment rest ih =>
    by_cases hfolder : faceAt place tree = some emptyFolder
    · rcases Path.segment_cases segment with hsilent | rfl | hname
      · rw [walk_silent hfolder hsilent] at h
        rw [firstMissing?_silent hsilent]
        exact ih h
      · rw [walk_parent hfolder] at h
        rw [firstMissing?_parent]
        exact ih h
      · obtain ⟨-, node, hnode, hrest⟩ := walk_name_taken hlinks hfolder hname h
        rw [firstMissing?_name hname, hnode]
        exact ih hrest
    · rw [walk_of_ne hfolder] at h
      exact absurd h (by simp)

/-- **A walk stays the same on a tree that has grown**, unless what it misses is there now. -/
theorem walk_grown {written : Place → Prop} {s t : Node} (h : Grown written s t)
    (hlinks : s.LinkFree) {segments : List Text} {place : Place} (hplace : faceAt place s ≠ none)
    (hmissing : ∀ gap, firstMissing? s segments place = some gap → faceAt gap t = none) :
    walk t segments place = walk s segments place := by
  induction segments generalizing place with
  | nil => rfl
  | cons segment rest ih =>
    by_cases hs : faceAt place s = some emptyFolder
    · have ht := h.folder hs
      rcases Path.segment_cases segment with hsilent | rfl | hname
      · rw [firstMissing?_silent hsilent] at hmissing
        rw [walk_silent hs hsilent, walk_silent ht hsilent]
        exact ih hplace hmissing
      · rw [walk_parent hs, walk_parent ht]
        exact ih (faceAt_dropLast_ne_none hplace) hmissing
      · rw [firstMissing?_name hname] at hmissing
        rw [walk_name hlinks hs hname, walk_name (h.linkFree hlinks) ht hname]
        cases hface : faceAt (place ++ [segment]) s with
        | none =>
          rw [hface] at hmissing
          rw [hmissing _ rfl]
        | some node =>
          rw [hface] at hmissing
          have hthere : faceAt (place ++ [segment]) s ≠ none := hface ▸ Option.some_ne_none node
          obtain ⟨other, hother⟩ := Option.ne_none_iff_exists'.1 (h.there hthere)
          rw [hother]
          simp only [ih hthere hmissing]
    · rw [walk_of_ne hs, walk_of_ne (h.ne_folder hplace hs)]

end FileSystem

/-! ## Walks that never go up -/

namespace Place

/-- Without two points there is nothing but down. -/
theorem prefix_along {segments : List Text} (h : ['.', '.'] ∉ segments) (place : Place) :
    place <+: place.along segments := by
  induction segments generalizing place with
  | nil => exact List.prefix_rfl
  | cons segment rest ih =>
    rw [List.mem_cons, not_or] at h
    rcases Path.segment_cases segment with hsilent | rfl | hname
    · rw [along_cons_of_none (by rw [Path.component?, if_pos hsilent])]
      exact ih h.2 place
    · exact absurd rfl h.1
    · rw [along_cons_of_some hname]
      exact (List.prefix_append place [segment]).trans (ih h.2 _)

end Place

namespace FileSystem

/-- **A walk that never goes up depends on the places on its way only.** -/
theorem walk_congr {s t : Node} (hs : s.LinkFree) (ht : t.LinkFree) {segments : List Text}
    (hdown : ['.', '.'] ∉ segments) {place : Place}
    (h : ∀ q, place <+: q → q <+: place.along segments → faceAt q t = faceAt q s) :
    walk t segments place = walk s segments place := by
  induction segments generalizing place with
  | nil => rfl
  | cons segment rest ih =>
    have hparent : segment ≠ ['.', '.'] := fun hp => hdown (hp ▸ List.mem_cons_self)
    have hrest : ['.', '.'] ∉ rest := fun hp => hdown (List.mem_cons_of_mem _ hp)
    have hplace : faceAt place t = faceAt place s :=
      h place List.prefix_rfl (Place.prefix_along hdown place)
    by_cases hfolder : faceAt place s = some emptyFolder
    · rcases Path.segment_cases segment with hsilent | hup | hname
      · rw [walk_silent hfolder hsilent, walk_silent (hplace.trans hfolder) hsilent]
        rw [Place.along_cons_of_none (by rw [Path.component?, if_pos hsilent])] at h
        exact ih hrest h
      · exact absurd hup hparent
      · rw [Place.along_cons_of_some hname, Component.onward] at h
        have hnext : faceAt (place ++ [segment]) t = faceAt (place ++ [segment]) s :=
          h _ (List.prefix_append _ _) (Place.prefix_along hrest _)
        rw [walk_name hs hfolder hname, walk_name ht (hplace.trans hfolder) hname, hnext,
          ih hrest fun q hq => h q ((List.prefix_append _ _).trans hq)]
    · rw [walk_of_ne hfolder, walk_of_ne (hplace ▸ hfolder)]

/-! ## Paths -/

end FileSystem

/-- Why a path is refused on every disk. -/
def Path.fault? (path : Path) : Option DiskFault :=
  if path.text.contains '\x00' then some .badCharacter
  else if FileSystem.pathSizeLimit ≤ Text.byteSize path.text then some .nameTooLong
  else none

/-- A path that every disk takes is short enough, and holds no character that no name may hold. -/
theorem Path.fault?_eq_none_iff {path : Path} :
    path.fault? = none
      ↔ '\x00' ∉ path.text ∧ Text.byteSize path.text < FileSystem.pathSizeLimit := by
  rw [fault?]
  split
  · next hnul => simpa using fun hno => absurd (by simpa using hnul) hno
  · next hnul =>
    split
    · next hlong => simpa using fun _ => hlong
    · next hshort => simpa using ⟨by simpa using hnul, Nat.not_le.1 hshort⟩

/-- A path that another one begins with is taken if the other one is. -/
theorem Path.fault?_of_longer {path longer : Path} {more : Text}
    (htext : longer.text = path.text ++ more) (h : longer.fault? = none) : path.fault? = none := by
  obtain ⟨hnul, hsize⟩ := fault?_eq_none_iff.1 h
  rw [htext] at hnul hsize
  rw [Text.byteSize_append] at hsize
  exact fault?_eq_none_iff.2 ⟨fun hmem => hnul (List.mem_append_left _ hmem), by omega⟩

namespace FileSystem

section

variable {fs : FileSystem} (hlinks : fs.tree.LinkFree)

include hlinks

theorem spot_eq_walk {path : Path} (htext : path.text ≠ []) (followLast : Bool) :
    fs.spot followLast path
      = match path.fault? with
        | some fault => .error fault
        | none => walk fs.tree path.segments (fs.startOf path) := by
  rw [spot, Path.fault?, if_neg htext]
  split
  · rfl
  · split
    · rfl
    · exact followLinks_eq_walk hlinks maxLinks _ _

theorem walk_of_spot {path : Path} {followLast : Bool} {spot : Spot}
    (h : fs.spot followLast path = .ok spot) :
    walk fs.tree path.segments (fs.startOf path) = .ok spot := by
  rw [← followLinks_of_spot h, followLinks_eq_walk hlinks]

theorem spot_ofComponents {steps : List Component} (hsound : Path.Sound steps) (hne : steps ≠ [])
    (hstart : faceAt (fs.startOf (Path.ofComponents steps)) fs.tree = some emptyFolder)
    (followLast : Bool) :
    fs.spot followLast (Path.ofComponents steps)
      = match (Path.ofComponents steps).fault? with
        | some fault => .error fault
        | none =>
          walk fs.tree (steps.filterMap Component.segment?)
            (fs.startOf (Path.ofComponents steps)) := by
  obtain ⟨quiet, hquiet, hsegments⟩ := Path.segments_ofComponents hsound
  rw [spot_eq_walk hlinks (fun h => hne ((Path.text_ofComponents_eq_nil_iff hsound).1 h)),
    hsegments, walk_quiet hstart hquiet]

end

/-- A path that leads somewhere is one that every disk takes. -/
theorem fault?_of_spot {fs : FileSystem} {path : Path} {followLast : Bool} {spot : Spot}
    (h : fs.spot followLast path = .ok spot) : path.fault? = none := by
  rw [FileSystem.spot] at h
  rw [Path.fault?]
  split at h
  · cases h
  · next hnul =>
    split at h
    · cases h
    · split at h
      · cases h
      · next hshort => rw [if_neg hnul, if_neg hshort]

/-- The empty path leads nowhere. -/
theorem text_ne_nil_of_spot {fs : FileSystem} {path : Path} {followLast : Bool} {spot : Spot}
    (h : fs.spot followLast path = .ok spot) : path.text ≠ [] := by
  intro htext
  rw [FileSystem.spot, if_pos htext] at h
  split at h <;> cases h

/-- The first place on the way to a path that holds nothing. -/
def missing? (fs : FileSystem) (path : Path) : Option Place :=
  firstMissing? fs.tree path.segments (fs.startOf path)

/-- A path starts at the top or in the working folder. -/
theorem faceAt_startOf_ne_none {fs : FileSystem}
    (hhome : faceAt fs.workingFolder fs.tree = some emptyFolder) (path : Path) :
    faceAt (fs.startOf path) fs.tree ≠ none := by
  rw [startOf]
  split
  · exact Option.some_ne_none _
  · simp [hhome]

/-- **A path leads to the same spot on a disk that has grown**, unless what it misses is there
now. -/
theorem spot_eq_of_grown {written : Place → Prop} {fs gs : FileSystem}
    (h : Grown written fs.tree gs.tree) (hlinks : fs.tree.LinkFree)
    (hfolder : gs.workingFolder = fs.workingFolder) {path : Path}
    (hstart : faceAt (fs.startOf path) fs.tree ≠ none)
    (hmissing : ∀ gap, fs.missing? path = some gap → faceAt gap gs.tree = none)
    (followLast : Bool) : gs.spot followLast path = fs.spot followLast path := by
  by_cases htext : path.text = []
  · rw [spot, spot, if_pos htext, if_pos htext]
  · have hsame : gs.startOf path = fs.startOf path := by rw [startOf, startOf, hfolder]
    rw [spot_eq_walk hlinks htext, spot_eq_walk (h.linkFree hlinks) htext, hsame,
      walk_grown h hlinks hstart hmissing]

theorem startOf_eq {path other : Path} (h : path.components.head? = other.components.head?)
    (fs : FileSystem) : fs.startOf path = fs.startOf other := by
  have habs : path.isAbsolute = other.isAbsolute := by
    rw [Bool.eq_iff_iff, Path.isAbsolute_iff, Path.isAbsolute_iff, h]
  rw [startOf, startOf, habs]

/-! ## Slashes at the end -/

theorem entrySpot_eq (fs : FileSystem) (path : Path) :
    fs.entrySpot path
      = match path.fault? with
        | some fault => .error fault
        | none => fs.spot false (withoutSlashes path) := by
  rw [entrySpot, Path.fault?]
  split
  · rfl
  · split <;> rfl

theorem fault?_of_entrySpot {fs : FileSystem} {path : Path} {spot : Spot}
    (h : fs.entrySpot path = .ok spot) : path.fault? = none := by
  rw [entrySpot_eq] at h
  split at h
  · exact nomatch h
  · next hfault => exact hfault

theorem entrySpot_of_eq {path : Path} (h : withoutSlashes path = path) (fs : FileSystem) :
    fs.entrySpot path = fs.spot false path := by
  rw [entrySpot, h, spot]
  split
  · rfl
  · split
    · next hlong =>
      have htext : path.text ≠ [] := by
        intro hnil
        rw [hnil] at hlong
        exact absurd hlong (by decide)
      rw [if_neg htext]
    · rfl

theorem withoutSlashes_of_ne {text : Text} (hlast : text.getLast? ≠ some '/') (hne : text ≠ []) :
    withoutSlashes ⟨text⟩ = ⟨text⟩ := by
  have hdrop : (text.reverse.dropWhile (· = '/')).reverse = text := by
    rw [List.getLast?_eq_head?_reverse] at hlast
    cases hreverse : text.reverse with
    | nil => exact absurd (List.reverse_eq_nil_iff.1 hreverse) hne
    | cons c rest =>
      rw [hreverse] at hlast
      rw [List.dropWhile_cons_of_neg (by simpa using hlast), ← hreverse, List.reverse_reverse]
  rw [withoutSlashes, hdrop, if_neg hne]

theorem withoutSlashes_concat {text : Text} (hne : text ≠ []) :
    withoutSlashes ⟨text ++ ['/']⟩ = withoutSlashes ⟨text⟩ := by
  have hdrop : (text ++ ['/']).reverse.dropWhile (· = '/') = text.reverse.dropWhile (· = '/') := by
    rw [List.reverse_append, List.reverse_singleton, List.singleton_append,
      List.dropWhile_cons_of_pos (by simp)]
  have hfirst : (text ++ ['/']).take 1 = text.take 1 := by
    cases text with
    | nil => exact absurd rfl hne
    | cons c rest => rfl
  rw [withoutSlashes, withoutSlashes, hdrop, hfirst]

/-- A path that is written from steps has no slash at its end, or is the root. -/
theorem withoutSlashes_ofComponents {steps : List Component} (h : Path.Sound steps)
    (hne : steps ≠ []) : withoutSlashes (Path.ofComponents steps) = Path.ofComponents steps := by
  have htexts : ∀ {texts : List Text} (front : Text), texts ≠ [] →
      (∀ text ∈ texts, '/' ∉ text) → [] ∉ texts →
      withoutSlashes ⟨front ++ List.intercalate ['/'] texts⟩
        = ⟨front ++ List.intercalate ['/'] texts⟩ := by
    intro texts front hne hslash hempty
    obtain ⟨hjoin, hlast⟩ := Path.getLast?_intercalate hne hslash hempty
    refine withoutSlashes_of_ne ?_ fun hnil => hjoin (List.append_eq_nil_iff.1 hnil).2
    rwa [List.getLast?_append_of_ne_nil _ hjoin]
  cases h with
  | relative h =>
    rw [Path.ofComponents_relative h]
    exact htexts [] (by simpa using hne) (Path.slash_notMem_texts h) (Path.nil_notMem_texts h)
  | here h =>
    rw [Path.ofComponents_here h]
    refine htexts [] (by simp) ?_ ?_
    · intro text htext
      rcases List.mem_cons.1 htext with rfl | htext
      · decide
      · exact Path.slash_notMem_texts h text htext
    · simpa using Path.nil_notMem_texts h
  | absolute h =>
    rename_i inner
    rw [Path.ofComponents_absolute h]
    by_cases hinner : inner = []
    · subst hinner
      rfl
    · exact htexts ['/'] (by simpa using hinner) (Path.slash_notMem_texts h)
        (Path.nil_notMem_texts h)

end FileSystem
end DocViews
