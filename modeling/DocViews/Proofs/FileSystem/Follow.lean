import DocViews.FileSystem.Basic
import DocViews.Proofs.FileSystem.Face

/-!
# Following a path by what shows

Each step of a path looks at one place only, and only at what shows there: `follow_silent`,
`follow_parent` and `follow_name` are the steps inside a folder, and `follow_of_ne` says that
there is no step inside anything else.  Without links a path in two parts is followed part by part
(`follow_append`).

What a path leads to is there: a node, or a folder in which the name is free (`spot_fits`).
-/

set_option autoImplicit false

namespace DocViews

open Node

theorem Path.segment_cases (segment : Text) :
    isSilent segment = true ∨ segment = ['.', '.'] ∨ component? segment = some (.name segment) := by
  by_cases hsilent : isSilent segment = true
  · exact Or.inl hsilent
  · by_cases hparent : segment = ['.', '.']
    · exact Or.inr (Or.inl hparent)
    · exact Or.inr (Or.inr (by rw [component?, if_neg hsilent, if_neg hparent]))

/-- A name is neither silent nor the way up. -/
theorem Path.loud_of_name {segment name : Text} (h : component? segment = some (.name name)) :
    ¬ isSilent segment = true ∧ segment ≠ ['.', '.'] := by
  refine ⟨by simp [isSilent_eq_false_of_component? h], ?_⟩
  rintro rfl
  exact absurd h (by simp [component?, isSilent])

namespace FileSystem

/-! ## Steps -/

section Follow

variable {tree : Node} {followLast : Bool} {onLink : List Text → Place → Except DiskFault Spot}
  {segment : Text} {place : Place}

theorem follow_of_ne (h : faceAt place tree ≠ some emptyFolder) (rest : List Text) :
    follow tree followLast onLink (segment :: rest) place = .error .notAFolder := by
  rw [follow]
  split
  · next entries hentries => exact absurd (faceAt_eq_emptyFolder_iff.2 ⟨entries, hentries⟩) h
  · rfl

theorem follow_silent (h : faceAt place tree = some emptyFolder)
    (hsilent : Path.isSilent segment = true) (rest : List Text) :
    follow tree followLast onLink (segment :: rest) place
      = follow tree followLast onLink rest place := by
  obtain ⟨entries, hentries⟩ := faceAt_eq_emptyFolder_iff.1 h
  rw [follow, hentries]
  exact if_pos hsilent

theorem follow_quiet {quiet : List Text} (h : faceAt place tree = some emptyFolder)
    (hquiet : ∀ segment ∈ quiet, Path.isSilent segment = true) (rest : List Text) :
    follow tree followLast onLink (quiet ++ rest) place
      = follow tree followLast onLink rest place := by
  induction quiet with
  | nil => rfl
  | cons segment more ih =>
    rw [List.cons_append, follow_silent h (hquiet segment List.mem_cons_self),
      ih fun s hs => hquiet s (List.mem_cons_of_mem _ hs)]

theorem follow_parent (h : faceAt place tree = some emptyFolder) (rest : List Text) :
    follow tree followLast onLink (['.', '.'] :: rest) place
      = follow tree followLast onLink rest place.dropLast := by
  obtain ⟨entries, hentries⟩ := faceAt_eq_emptyFolder_iff.1 h
  rw [follow, hentries]
  rfl

/-- A name leads on to what shows below the folder. -/
theorem follow_name (h : faceAt place tree = some emptyFolder)
    (hname : Path.component? segment = some (.name segment)) (rest : List Text) :
    follow tree followLast onLink (segment :: rest) place
      = if maxNameSize < Text.byteSize segment then .error .nameTooLong
        else
          match faceAt (place ++ [segment]) tree with
          | none => if rest = [] then .ok (.free place segment) else .error .notFound
          | some (.link target) =>
            if rest = [] && !followLast then .ok (.taken (place ++ [segment]))
            else onLink (target.segments ++ rest) (if target.isAbsolute then [] else place)
          | some _ => follow tree followLast onLink rest (place ++ [segment]) := by
  obtain ⟨entries, hentries⟩ := faceAt_eq_emptyFolder_iff.1 h
  obtain ⟨hsilent, hparent⟩ := Path.loud_of_name hname
  rw [follow, hentries]
  simp only [if_neg hsilent, if_neg hparent]
  rw [faceAt_concat hentries]
  cases entries.lookup segment with
  | none => rfl
  | some node => cases node <;> rfl

/-- Without links a longer path is followed from where its beginning leads. -/
theorem follow_append (hlinks : tree.LinkFree) (segments : List Text) {more : List Text}
    (hmore : more ≠ []) (place : Place) :
    follow tree followLast onLink (segments ++ more) place
      = match follow tree followLast onLink segments place with
        | .ok (.taken p) => follow tree followLast onLink more p
        | .ok (.free _ _) => .error .notFound
        | .error fault => .error fault := by
  induction segments generalizing place with
  | nil => rfl
  | cons segment rest ih =>
    rw [List.cons_append]
    by_cases hfolder : faceAt place tree = some emptyFolder
    · rcases Path.segment_cases segment with hsilent | rfl | hname
      · rw [follow_silent hfolder hsilent, follow_silent hfolder hsilent, ih]
      · rw [follow_parent hfolder, follow_parent hfolder, ih]
      · rw [follow_name hfolder hname, follow_name hfolder hname]
        by_cases hlong : maxNameSize < Text.byteSize segment
        · rw [if_pos hlong, if_pos hlong]
        · rw [if_neg hlong, if_neg hlong]
          cases hface : faceAt (place ++ [segment]) tree with
          | none =>
            simp only
            rw [if_neg (by simp [hmore])]
            by_cases hrest : rest = []
            · rw [if_pos hrest]
            · rw [if_neg hrest]
          | some node =>
            cases node with
            | folder entries => exact ih (place ++ [segment])
            | file content => exact ih (place ++ [segment])
            | link target => exact absurd hface (linkFree_iff.1 hlinks _ _)
    · rw [follow_of_ne hfolder, follow_of_ne hfolder]

end Follow

end FileSystem

/-! ## What is there -/

/-- Whether a spot of a tree is what it says: a node, or a free name in a folder. -/
def Spot.Fits (tree : Node) : Spot → Prop
  | taken place => faceAt place tree ≠ none
  | free above name =>
    faceAt above tree = some emptyFolder ∧ faceAt (above ++ [name]) tree = none

namespace FileSystem

section

variable {tree : Node} {followLast : Bool}

/-- The induction is on the segments; links are followed from places that are there. -/
theorem follow_fits {onLink : List Text → Place → Except DiskFault Spot}
    (honLink : ∀ {segments place spot}, faceAt place tree ≠ none →
      onLink segments place = .ok spot → spot.Fits tree)
    {segments : List Text} {place : Place} {spot : Spot} (hplace : faceAt place tree ≠ none)
    (h : follow tree followLast onLink segments place = .ok spot) : spot.Fits tree := by
  induction segments generalizing place with
  | nil =>
    rw [follow] at h
    obtain rfl : Spot.taken place = spot := Except.ok.inj h
    exact hplace
  | cons segment rest ih =>
    by_cases hfolder : faceAt place tree = some emptyFolder
    · rcases Path.segment_cases segment with hsilent | rfl | hname
      · rw [follow_silent hfolder hsilent] at h
        exact ih hplace h
      · rw [follow_parent hfolder] at h
        exact ih (faceAt_dropLast_ne_none hplace) h
      · rw [follow_name hfolder hname] at h
        split at h
        · exact absurd h (by simp)
        · cases hface : faceAt (place ++ [segment]) tree with
          | none =>
            rw [hface] at h
            simp only at h
            split at h
            · obtain rfl : Spot.free place segment = spot := Except.ok.inj h
              exact ⟨hfolder, hface⟩
            · exact absurd h (by simp)
          | some node =>
            have hnext : faceAt (place ++ [segment]) tree ≠ none :=
              hface ▸ Option.some_ne_none node
            rw [hface] at h
            cases node with
            | folder entries => exact ih hnext h
            | file content => exact ih hnext h
            | link target =>
              simp only at h
              split at h
              · obtain rfl : Spot.taken (place ++ [segment]) = spot := Except.ok.inj h
                exact hnext
              · refine honLink ?_ h
                split
                · exact Option.some_ne_none _
                · exact hplace
    · rw [follow_of_ne hfolder] at h
      exact absurd h (by simp)

theorem followLinks_fits (n : Nat) {segments : List Text} {place : Place} {spot : Spot}
    (hplace : faceAt place tree ≠ none)
    (h : followLinks tree followLast n segments place = .ok spot) : spot.Fits tree := by
  induction n generalizing segments place spot with
  | zero => exact follow_fits (fun _ h => absurd h (by simp)) hplace h
  | succ n ih => exact follow_fits (fun hplace h => ih hplace h) hplace h

end

/-- Where the following of a path starts. -/
def startOf (fs : FileSystem) (path : Path) : Place :=
  if path.isAbsolute then [] else fs.workingFolder

section

variable {fs : FileSystem} {followLast : Bool} {path : Path} {spot : Spot}

/-- A path that leads somewhere has been followed to its end. -/
theorem followLinks_of_spot (h : fs.spot followLast path = .ok spot) :
    followLinks fs.tree followLast maxLinks path.segments (fs.startOf path) = .ok spot := by
  rw [FileSystem.spot] at h
  split at h
  · exact absurd h (by simp)
  · split at h
    · exact absurd h (by simp)
    · split at h
      · exact absurd h (by simp)
      · exact h

/-- A path that leads somewhere starts from a folder. -/
theorem faceAt_startOf (h : fs.spot followLast path = .ok spot) :
    faceAt (fs.startOf path) fs.tree = some emptyFolder := by
  obtain ⟨first, rest, hsegments⟩ := path.exists_segments
  have hfollow := followLinks_of_spot h
  by_contra hfolder
  rw [hsegments, maxLinks, followLinks, follow_of_ne hfolder] at hfollow
  exact absurd hfollow (by simp)

/-- **A path leads to a node, or to a free name in a folder.** -/
theorem spot_fits (h : fs.spot followLast path = .ok spot) : spot.Fits fs.tree :=
  followLinks_fits maxLinks (faceAt_startOf h ▸ Option.some_ne_none _) (followLinks_of_spot h)

/-- The spot of an entry is the one that its path leads to without the slashes at the end. -/
theorem spot_of_entrySpot (h : fs.entrySpot path = .ok spot) :
    fs.spot false (withoutSlashes path) = .ok spot := by
  rw [entrySpot] at h
  split at h
  · exact absurd h (by simp)
  · split at h
    · exact absurd h (by simp)
    · exact h

/-! ## Nodes by their paths -/

theorem node_eq_ok_iff {found : Node} :
    fs.node path = .ok found
      ↔ ∃ place, fs.spot true path = .ok (.taken place) ∧ get? place fs.tree = some found := by
  rw [node]
  cases fs.spot true path with
  | error fault => simp
  | ok spot =>
    cases spot with
    | free above name => simp
    | taken place =>
      simp only [Except.ok.injEq, Spot.taken.injEq, exists_eq_left']
      cases get? place fs.tree <;> simp

/-- A question about the node that a path leads to, where nothing answers for no node. -/
theorem exists_node_iff (test : Node → Bool) :
    (match fs.node path with
      | .ok found => test found
      | .error _ => false) = true
      ↔ ∃ place found, fs.spot true path = .ok (.taken place) ∧
        get? place fs.tree = some found ∧ test found = true := by
  cases hnode : fs.node path with
  | ok found =>
    obtain ⟨place, hspot, hget⟩ := node_eq_ok_iff.1 hnode
    simp only [hspot, Except.ok.injEq, Spot.taken.injEq]
    constructor
    · exact fun htest => ⟨place, found, rfl, hget, htest⟩
    · rintro ⟨_, other, rfl, hother, htest⟩
      obtain rfl : found = other := Option.some.inj (hget.symm.trans hother)
      exact htest
  | error fault =>
    refine ⟨fun h => absurd h (by simp), ?_⟩
    rintro ⟨place, found, hspot, hget, -⟩
    have hok := node_eq_ok_iff.2 ⟨place, hspot, hget⟩
    rw [hnode] at hok
    exact absurd hok (by simp)

theorem isFile_iff :
    fs.isFile path = true ↔ ∃ place content, fs.spot true path = .ok (.taken place) ∧
      get? place fs.tree = some (.file content) := by
  have hfile : ∀ found : Node, found.isFile = true ↔ ∃ content, found = .file content := by
    intro found
    cases found <;> simp [Node.isFile]
  refine (exists_node_iff Node.isFile).trans ?_
  simp only [hfile]
  constructor
  · rintro ⟨place, _, hspot, hget, content, rfl⟩
    exact ⟨place, content, hspot, hget⟩
  · rintro ⟨place, content, hspot, hget⟩
    exact ⟨place, _, hspot, hget, content, rfl⟩

/-- What can be read is a file. -/
theorem isFile_of_readText {text : Text} (h : fs.readText path = .ok text) :
    fs.isFile path = true := by
  rw [readText, readContent] at h
  rw [isFile]
  split at h
  · exact nomatch h
  · next content hcontent =>
    split at hcontent
    · exact nomatch hcontent
    · next found hnode =>
      rw [hnode]
      rfl
    · exact nomatch hcontent
  · exact nomatch h

theorem readText_of_not_isFile (h : fs.isFile path = false) :
    ∃ fault, fs.readText path = .error fault := by
  cases hread : fs.readText path with
  | error fault => exact ⟨fault, rfl⟩
  | ok text => exact absurd (isFile_of_readText hread) (by simp [h])

/-- A path that leads to no node is read as missing. -/
theorem readText_of_spot (h : fs.spot true path = .error .notFound ∨
    ∃ folder name, fs.spot true path = .ok (.free folder name)) :
    fs.readText path = .error .notFound := by
  rcases h with h | ⟨folder, name, h⟩ <;> rw [readText, readContent, node, h]

theorem isFolder_iff :
    fs.isFolder path = true ↔ ∃ place entries, fs.spot true path = .ok (.taken place) ∧
      get? place fs.tree = some (.folder entries) := by
  have hfolder : ∀ found : Node, found.isFolder = true ↔ ∃ entries, found = .folder entries := by
    intro found
    cases found <;> simp [Node.isFolder]
  refine (exists_node_iff Node.isFolder).trans ?_
  simp only [hfolder]
  constructor
  · rintro ⟨place, _, hspot, hget, entries, rfl⟩
    exact ⟨place, entries, hspot, hget⟩
  · rintro ⟨place, entries, hspot, hget⟩
    exact ⟨place, _, hspot, hget, entries, rfl⟩

end

end FileSystem

end DocViews
