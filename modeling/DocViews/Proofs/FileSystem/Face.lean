import DocViews.Proofs.FileSystem.Lexical
import DocViews.Proofs.Text.Keyed

/-!
# What shows at a place

A folder is seen at its place whatever is in it: the *face* of a node is the node without its
entries.  The faces at all places say everything about a tree but the order in which its folders
list their entries, so trees with the same faces are the same disk to everyone who asks for places
(`Node.Alike`).

* `faceAt_put` — a new file or folder in a folder changes the face at its own place only.
* `Node.linkFree_iff` — whether there are links can be seen at the faces.
-/

set_option autoImplicit false

namespace DocViews
namespace Node

/-- A node without what is in it. -/
def face : Node → Node
  | folder _ => emptyFolder
  | file content => file content
  | link target => link target

/-- What shows at a place. -/
def faceAt (place : Place) (tree : Node) : Option Node :=
  (get? place tree).map face

/-- Trees that hold the same files, links and folders. -/
def Alike (s t : Node) : Prop :=
  ∀ place, faceAt place s = faceAt place t

/-! ## Faces -/

theorem face_eq_emptyFolder_iff {node : Node} :
    node.face = emptyFolder ↔ ∃ entries, node = folder entries := by
  cases node with
  | folder entries => exact ⟨fun _ => ⟨entries, rfl⟩, fun _ => rfl⟩
  | file content => exact ⟨fun h => Node.noConfusion h, fun ⟨_, h⟩ => Node.noConfusion h⟩
  | link target => exact ⟨fun h => Node.noConfusion h, fun ⟨_, h⟩ => Node.noConfusion h⟩

theorem face_eq_file_iff {node : Node} {content : FileContent} :
    node.face = file content ↔ node = file content := by
  cases node with
  | folder entries => exact ⟨fun h => Node.noConfusion h, fun h => Node.noConfusion h⟩
  | file content => exact Iff.rfl
  | link target => exact Iff.rfl

theorem face_eq_link_iff {node : Node} {target : Path} :
    node.face = link target ↔ node = link target := by
  cases node with
  | folder entries => exact ⟨fun h => Node.noConfusion h, fun h => Node.noConfusion h⟩
  | file content => exact Iff.rfl
  | link target => exact Iff.rfl

section

variable {place : Place} {tree : Node}

theorem faceAt_eq_none_iff : faceAt place tree = none ↔ get? place tree = none :=
  Option.map_eq_none_iff

theorem faceAt_eq_emptyFolder_iff :
    faceAt place tree = some emptyFolder ↔ ∃ entries, get? place tree = some (folder entries) := by
  rw [faceAt, Option.map_eq_some_iff]
  constructor
  · rintro ⟨node, hnode, hface⟩
    obtain ⟨entries, rfl⟩ := face_eq_emptyFolder_iff.1 hface
    exact ⟨entries, hnode⟩
  · rintro ⟨entries, hentries⟩
    exact ⟨_, hentries, rfl⟩

theorem faceAt_eq_file_iff {content : FileContent} :
    faceAt place tree = some (file content) ↔ get? place tree = some (file content) := by
  rw [faceAt, Option.map_eq_some_iff]
  constructor
  · rintro ⟨node, hnode, hface⟩
    rw [hnode, face_eq_file_iff.1 hface]
  · exact fun h => ⟨_, h, rfl⟩

theorem faceAt_eq_link_iff {target : Path} :
    faceAt place tree = some (link target) ↔ get? place tree = some (link target) := by
  rw [faceAt, Option.map_eq_some_iff]
  constructor
  · rintro ⟨node, hnode, hface⟩
    rw [hnode, face_eq_link_iff.1 hface]
  · exact fun h => ⟨_, h, rfl⟩

/-- A folder shows without its entries. -/
theorem eq_nil_of_faceAt_eq_folder {entries : List (Text × Node)}
    (h : faceAt place tree = some (folder entries)) : entries = [] := by
  obtain ⟨node, -, hface⟩ := Option.map_eq_some_iff.1 h
  cases node with
  | folder inner => exact (Node.folder.inj hface).symm
  | file content => exact Node.noConfusion hface
  | link target => exact Node.noConfusion hface

/-- The faces inside a folder are those of its entries. -/
theorem faceAt_concat {entries : List (Text × Node)} (h : get? place tree = some (folder entries))
    (name : Text) : faceAt (place ++ [name]) tree = (entries.lookup name).map face := by
  rw [faceAt, get?_append, h, Option.bind_some, get?]
  cases entries.lookup name <;> rfl

/-- There is nothing below a place that holds no folder. -/
theorem faceAt_append_eq_none (h : faceAt place tree ≠ some emptyFolder) {more : Place}
    (hmore : more ≠ []) : faceAt (place ++ more) tree = none := by
  obtain ⟨name, rest, rfl⟩ := List.exists_cons_of_ne_nil hmore
  rw [faceAt_eq_none_iff, get?_append]
  cases hnode : get? place tree with
  | none => rfl
  | some node =>
    cases node with
    | folder entries => exact absurd (faceAt_eq_emptyFolder_iff.2 ⟨entries, hnode⟩) h
    | file content => rfl
    | link target => rfl

/-- Above everything there are folders. -/
theorem faceAt_eq_emptyFolder_of_append {more : Place} (hmore : more ≠ [])
    (h : faceAt (place ++ more) tree ≠ none) : faceAt place tree = some emptyFolder := by
  by_contra hface
  exact h (faceAt_append_eq_none hface hmore)

theorem faceAt_ne_none_of_append {more : Place} (h : faceAt (place ++ more) tree ≠ none) :
    faceAt place tree ≠ none := by
  by_cases hmore : more = []
  · rwa [hmore, List.append_nil] at h
  · rw [faceAt_eq_emptyFolder_of_append hmore h]
    exact Option.some_ne_none _

/-- The folder above a node is there. -/
theorem faceAt_dropLast_ne_none (h : faceAt place tree ≠ none) :
    faceAt place.dropLast tree ≠ none := by
  have habove : place = place.dropLast ++ place.drop (place.length - 1) := by
    rw [List.dropLast_eq_take, List.take_append_drop]
  rw [habove] at h
  exact faceAt_ne_none_of_append h

theorem linkFree_iff :
    tree.LinkFree ↔ ∀ place target, faceAt place tree ≠ some (link target) := by
  simp only [LinkFree, ne_eq, faceAt_eq_link_iff]

end

namespace LinkFree

theorem file (content : FileContent) : (Node.file content).LinkFree := by
  intro place target h
  cases place <;> simp [get?] at h

theorem nil : emptyFolder.LinkFree := by
  intro place target h
  cases place <;> simp [get?, emptyFolder] at h

theorem cons {name : Text} {node : Node} {entries : List (Text × Node)} (hnode : node.LinkFree)
    (hentries : (folder entries).LinkFree) : (folder ((name, node) :: entries)).LinkFree := by
  intro place target h
  cases place with
  | nil => simp [get?] at h
  | cons first rest =>
    rw [get?, List.lookup_cons] at h
    cases hfirst : first == name with
    | true =>
      rw [hfirst] at h
      exact hnode rest target h
    | false =>
      rw [hfirst] at h
      refine hentries (first :: rest) target ?_
      rw [get?]
      exact h

end LinkFree

/-! ## One new node -/

/-- There is nothing in a node that is its own face. -/
theorem faceAt_of_face_eq {node : Node} (h : node.face = node) {place : Place} (hplace : place ≠ []) :
    faceAt place node = none := by
  obtain ⟨name, rest, rfl⟩ := List.exists_cons_of_ne_nil hplace
  cases node with
  | folder entries =>
    obtain rfl : entries = [] := (Node.folder.inj h).symm
    rfl
  | file content => rfl
  | link target => rfl

/-- **A new node changes the face at its own place only**, if the folder above is there and no
folder is lost. -/
theorem faceAt_put {new tree : Node} {folder : Place} {name : Text} (hnew : new.face = new)
    (hfolder : faceAt folder tree = some emptyFolder)
    (hold : faceAt (folder ++ [name]) tree ≠ some emptyFolder) (place : Place) :
    faceAt place (put new (folder ++ [name]) tree)
      = if place = folder ++ [name] then some new else faceAt place tree := by
  induction folder generalizing tree place with
  | nil =>
    obtain ⟨entries, rfl⟩ := face_eq_emptyFolder_iff.1 (Option.some.inj hfolder)
    cases place with
    | nil => rfl
    | cons first rest =>
      rw [List.nil_append, faceAt, put, get?, Keyed.lookup_set, put]
      by_cases hname : first = name
      · subst hname
        rw [if_pos rfl]
        by_cases hrest : rest = []
        · subst hrest
          rw [if_pos rfl]
          exact congrArg some hnew
        · -- neither the old node nor the new one has anything in it
          rw [if_neg (by simp [hrest])]
          have hnone := faceAt_append_eq_none hold hrest
          rw [List.nil_append, List.singleton_append] at hnone
          rw [hnone]
          exact faceAt_of_face_eq hnew hrest
      · rw [if_neg hname, if_neg (by simp [hname])]
        rfl
  | cons top more ih =>
    obtain ⟨entries, rfl⟩ : ∃ entries, tree = Node.folder entries := by
      cases tree with
      | folder entries => exact ⟨entries, rfl⟩
      | file content => exact absurd hfolder (by simp [faceAt, get?])
      | link target => exact absurd hfolder (by simp [faceAt, get?])
    cases hchild : entries.lookup top with
    | none => exact absurd hfolder (by simp [faceAt, get?, hchild])
    | some child =>
      have hinside : ∀ rest, faceAt (top :: rest) (Node.folder entries) = faceAt rest child := by
        intro rest
        rw [faceAt, get?, hchild]
        rfl
      rw [hinside] at hfolder
      rw [List.cons_append, hinside] at hold
      cases place with
      | nil => rfl
      | cons first rest =>
        rw [List.cons_append, faceAt, put, get?, Keyed.lookup_set, hchild, Option.getD_some]
        by_cases hname : first = top
        · subst hname
          rw [if_pos rfl, hinside]
          simp only [List.cons.injEq, true_and]
          exact ih hfolder hold rest
        · rw [if_neg hname, if_neg (by simp [hname])]
          rfl

/-! ## One node less -/

theorem faceAt_cons_folder (name : Text) (rest : Place) (entries : List (Text × Node)) :
    faceAt (name :: rest) (folder entries) = (entries.lookup name).bind (faceAt rest) := by
  rw [faceAt, get?]
  cases entries.lookup name <;> rfl

/-- Erasing concerns one entry of a folder, which is left out or has less in it. -/
theorem exists_erase (name : Text) (rest : Place) (entries : List (Text × Node)) :
    ∃ kept, erase (name :: rest) (folder entries) = folder kept ∧
      ∀ k, kept.lookup k
        = if k = name then (if rest = [] then none else (entries.lookup name).map (erase rest))
          else entries.lookup k := by
  cases rest with
  | nil => exact ⟨_, rfl, fun k => Keyed.lookup_filter_ne name k entries⟩
  | cons next more =>
    rw [erase.eq_3 _ _ _ (List.cons_ne_nil next more)]
    cases hchild : entries.lookup name with
    | none =>
      refine ⟨entries, rfl, fun k => ?_⟩
      by_cases hk : k = name
      · rw [if_pos hk, hk, hchild, if_neg (List.cons_ne_nil _ _), Option.map_none]
      · rw [if_neg hk]
    | some child =>
      refine ⟨_, rfl, fun k => ?_⟩
      rw [Keyed.lookup_set, if_neg (List.cons_ne_nil _ _), Option.map_some]

/-- **Erasing a node leaves nothing at its place and below**, and all other faces. -/
theorem faceAt_erase {erased : Place} (herased : erased ≠ []) (tree : Node) (place : Place) :
    faceAt place (erase erased tree) = if erased <+: place then none else faceAt place tree := by
  induction erased generalizing tree place with
  | nil => exact absurd rfl herased
  | cons name rest ih =>
    -- in a file or behind a link there is nothing anyway
    have hleaf : ∀ {node : Node}, node.face = node →
        faceAt place node = if name :: rest <+: place then none else faceAt place node := by
      intro node hnode
      split
      · next hpre => exact faceAt_of_face_eq hnode fun hnil => by simp [hnil] at hpre
      · rfl
    cases tree with
    | folder entries =>
      obtain ⟨kept, hkept, hlookup⟩ := exists_erase name rest entries
      rw [hkept]
      cases place with
      | nil => rw [if_neg (by simp)]; rfl
      | cons first more =>
        rw [faceAt_cons_folder, faceAt_cons_folder, hlookup]
        simp only [List.cons_prefix_cons]
        by_cases hfirst : first = name
        · subst hfirst
          by_cases hrest : rest = []
          · rw [if_pos rfl, if_pos hrest, if_pos ⟨rfl, hrest ▸ List.nil_prefix⟩, Option.bind_none]
          · rw [if_pos rfl, if_neg hrest]
            cases entries.lookup first with
            | none => simp
            | some child => simpa using ih hrest child more
        · rw [if_neg hfirst, if_neg fun h => hfirst h.1.symm]
    | file content =>
      rw [show erase (name :: rest) (file content) = file content by cases rest <;> rfl]
      exact hleaf rfl
    | link target =>
      rw [show erase (name :: rest) (link target) = link target by cases rest <;> rfl]
      exact hleaf rfl

end Node
end DocViews
