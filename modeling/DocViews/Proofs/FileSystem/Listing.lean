import DocViews.Proofs.FileSystem.Disks

/-!
# What a listing says of a disk

A listing has one entry for every place below a folder, with the content of what is there
(`FileSystem.listing?_exact`).  Without links nothing is lost in it but the order in which folders
list their entries: two tidy trees are alike exactly if the one listing is a permutation of the other
one (`FileSystem.alike_iff_perm_listNode`).
-/

set_option autoImplicit false

namespace DocViews
namespace FileSystem

open Node

/-- What a listing says of a node at a place. -/
def contentShown (contentOf : Place → FileContent) (place : Place) : Node → Option FileContent
  | .file content => some content
  | .link _ => some (contentOf place)
  | .folder _ => none

section

variable {contentOf : Place → FileContent} {q : Place} {content : Option FileContent}

/-- A node that is no folder is listed alone. -/
theorem mem_leaf_iff {node : Node} {place : Place}
    (hlist : listNode contentOf place node = [(place, contentShown contentOf place node)])
    (hleaf : ∀ name rest, get? (name :: rest) node = none) :
    (q, content) ∈ listNode contentOf place node ↔
      ∃ names found, q = place ++ names ∧ get? names node = some found ∧
        content = contentShown contentOf q found := by
  rw [hlist, List.mem_singleton, Prod.mk.injEq]
  constructor
  · rintro ⟨rfl, rfl⟩
    exact ⟨[], node, (List.append_nil _).symm, by cases node <;> rfl, rfl⟩
  · rintro ⟨names, found, rfl, hget, rfl⟩
    cases names with
    | nil =>
      obtain rfl : node = found := Option.some.inj (by rw [← hget]; cases node <;> rfl)
      rw [List.append_nil]
      exact ⟨rfl, rfl⟩
    | cons name rest => exact nomatch (hleaf name rest).symm.trans hget

mutual

/-- **A node is listed with everything in it.** -/
theorem mem_listNode_iff {node : Node} (h : node.isTidy = true) (place : Place) :
    (q, content) ∈ listNode contentOf place node ↔
      ∃ names found, q = place ++ names ∧ get? names node = some found ∧
        content = contentShown contentOf q found := by
  match node with
  | .file inside => exact mem_leaf_iff rfl fun _ _ => rfl
  | .link target => exact mem_leaf_iff rfl fun _ _ => rfl
  | .folder entries =>
    rw [listNode, List.mem_cons, mem_listEntries_iff h place]
    constructor
    · rintro (hself | ⟨name, rest, found, hq, hget, hcontent⟩)
      · obtain ⟨rfl, rfl⟩ := Prod.mk.inj hself
        exact ⟨[], _, (List.append_nil _).symm, rfl, rfl⟩
      · exact ⟨name :: rest, found, hq, hget, hcontent⟩
    · rintro ⟨names, found, hq, hget, hcontent⟩
      cases names with
      | nil =>
        obtain rfl := Option.some.inj hget
        exact Or.inl (Prod.ext (hq.trans (List.append_nil place)) hcontent)
      | cons name rest => exact Or.inr ⟨name, rest, found, hq, hget, hcontent⟩

theorem mem_listEntries_iff {entries : List (Text × Node)} (h : entriesTidy entries = true)
    (place : Place) :
    (q, content) ∈ listEntries contentOf place entries ↔
      ∃ name rest found, q = place ++ name :: rest ∧
        get? (name :: rest) (.folder entries) = some found ∧
        content = contentShown contentOf q found := by
  match entries with
  | [] => simp [listEntries, get?]
  | (first, node) :: others =>
    obtain ⟨-, hfree, hnode, hothers⟩ := entriesTidy_cons.1 h
    have hself : ∀ rest, get? (first :: rest) (.folder ((first, node) :: others))
        = get? rest node := fun rest => by rw [get?, Keyed.lookup_cons_self]
    have hother : ∀ {name} rest, name ≠ first →
        get? (name :: rest) (.folder ((first, node) :: others))
          = get? (name :: rest) (.folder others) := fun rest hne => by
      rw [get?, get?, Keyed.lookup_cons_of_ne hne]
    rw [listEntries, List.mem_append, mem_listNode_iff hnode, mem_listEntries_iff hothers place]
    constructor
    · rintro (⟨rest, found, hq, hget, hcontent⟩ | ⟨name, rest, found, hq, hget, hcontent⟩)
      · exact ⟨first, rest, found, by simpa using hq, (hself rest).trans hget, hcontent⟩
      · have hne : name ≠ first := by
          -- the others have no entry of this name
          rintro rfl
          rw [get?, hfree] at hget
          exact nomatch hget
        exact ⟨name, rest, found, hq, (hother rest hne).trans hget, hcontent⟩
    · rintro ⟨name, rest, found, hq, hget, hcontent⟩
      by_cases hne : name = first
      · subst hne
        rw [hself] at hget
        exact Or.inl ⟨rest, found, by simpa using hq, hget, hcontent⟩
      · rw [hother rest hne] at hget
        exact Or.inr ⟨name, rest, found, hq, hget, hcontent⟩

end

mutual

/-- Every place is listed once. -/
theorem nodup_listNode {node : Node} (h : node.isTidy = true) (place : Place) :
    ((listNode contentOf place node).map Prod.fst).Nodup := by
  match node with
  | .file inside => exact List.nodup_singleton place
  | .link target => exact List.nodup_singleton place
  | .folder entries =>
    rw [listNode, List.map_cons, List.nodup_cons]
    refine ⟨fun hmem => ?_, nodup_listEntries h place⟩
    obtain ⟨⟨q, content⟩, hentry, rfl⟩ := List.mem_map.1 hmem
    obtain ⟨name, rest, found, hq, -⟩ := (mem_listEntries_iff h _).1 hentry
    simpa using congrArg List.length hq

theorem nodup_listEntries {entries : List (Text × Node)} (h : entriesTidy entries = true)
    (place : Place) : ((listEntries contentOf place entries).map Prod.fst).Nodup := by
  match entries with
  | [] => exact List.nodup_nil
  | (first, node) :: others =>
    obtain ⟨-, hfree, hnode, hothers⟩ := entriesTidy_cons.1 h
    rw [listEntries, List.map_append]
    refine List.Nodup.append (nodup_listNode hnode _) (nodup_listEntries hothers place) ?_
    intro q hfirst hrest
    obtain ⟨⟨q, content⟩, hentry, rfl⟩ := List.mem_map.1 hfirst
    obtain ⟨⟨q', content'⟩, hentry', rfl⟩ := List.mem_map.1 hrest
    obtain ⟨names, found, hq, -⟩ := (mem_listNode_iff hnode _).1 hentry
    obtain ⟨name, rest, found', hq', hget', -⟩ := (mem_listEntries_iff hothers _).1 hentry'
    -- both begin with the name of the first entry, which the others do not have
    have hname : first :: names = name :: rest := by
      have hsame := hq.symm.trans hq'
      rwa [List.append_assoc, List.append_cancel_left_eq] at hsame
    obtain ⟨rfl, -⟩ := List.cons.inj hname
    rw [get?, hfree] at hget'
    exact nomatch hget'

end

end

/-! ## Without links -/

/-- The face that a listing shows, where there are no links. -/
def faceShown : Option FileContent → Node
  | some content => .file content
  | none => emptyFolder

/-- Without links a listing has the face at every place. -/
theorem mem_listNode_iff_faceAt {contentOf : Place → FileContent} {tree : Node}
    (h : tree.isTidy = true) (hlinks : tree.LinkFree) (q : Place) (content : Option FileContent) :
    (q, content) ∈ listNode contentOf [] tree ↔ faceAt q tree = some (faceShown content) := by
  rw [mem_listNode_iff h]
  constructor
  · rintro ⟨names, found, hq, hget, rfl⟩
    obtain rfl : q = names := hq
    rw [faceAt, hget]
    cases found with
    | file inside => rfl
    | link target => exact absurd hget (hlinks q target)
    | folder entries => rfl
  · intro hface
    obtain ⟨found, hget, hfound⟩ := Option.map_eq_some_iff.1 hface
    refine ⟨q, found, rfl, hget, ?_⟩
    cases content with
    | none =>
      obtain ⟨entries, rfl⟩ := face_eq_emptyFolder_iff.1 hfound
      rfl
    | some inside => rw [face_eq_file_iff.1 hfound]; rfl

/-- **Two trees are alike exactly if their listings are the same up to order.** -/
theorem alike_iff_perm_listNode {s t : Node} (hs : s.isTidy = true) (ht : t.isTidy = true)
    (hslinks : s.LinkFree) (htlinks : t.LinkFree) (contentOf : Place → FileContent) :
    Alike s t ↔ (listNode contentOf [] s).Perm (listNode contentOf [] t) := by
  have hshown : ∀ {tree : Node}, tree.LinkFree → ∀ {q node}, faceAt q tree = some node →
      ∃ content, node = faceShown content := by
    intro tree hlinks q node hface
    cases node with
    | file content => exact ⟨some content, rfl⟩
    | link target => exact absurd hface (linkFree_iff.1 hlinks q target)
    | folder entries =>
      obtain rfl := eq_nil_of_faceAt_eq_folder hface
      exact ⟨none, rfl⟩
  rw [List.perm_ext_iff_of_nodup (nodup_listNode hs []).of_map (nodup_listNode ht []).of_map]
  simp only [Prod.forall, mem_listNode_iff_faceAt hs hslinks, mem_listNode_iff_faceAt ht htlinks]
  refine ⟨fun h q content => by rw [h q], fun h q => ?_⟩
  refine Option.ext fun node => ⟨fun hnode => ?_, fun hnode => ?_⟩
  · obtain ⟨content, rfl⟩ := hshown hslinks hnode
    exact (h q content).1 hnode
  · obtain ⟨content, rfl⟩ := hshown htlinks hnode
    exact (h q content).2 hnode

/-! ## By paths -/

/-- The path of a place below a folder; that of a folder ends in a slash. -/
def pathShown (names : Place) (content : Option FileContent) : Text :=
  List.intercalate ['/'] names ++ if content.isNone then ['/'] else []

/-- The path in a listing tells the place. -/
theorem filter_splitOn_pathShown {names : Place} (hnames : ∀ name ∈ names, Path.IsName name)
    (content : Option FileContent) :
    (List.splitOn '/' (pathShown names content)).filter (· ≠ []) = names := by
  have hloud : names.filter (· ≠ []) = names :=
    List.filter_eq_self.2 fun name hname => by simpa using (hnames name hname).1
  have hslash : ∀ name ∈ names, '/' ∉ name := fun name hname => (hnames name hname).2.2.2
  by_cases hnil : names = []
  · subst hnil
    cases content <;> rfl
  · rw [pathShown]
    cases content with
    | some inside =>
      rw [Option.isNone_some, if_neg Bool.false_ne_true, List.append_nil,
        List.splitOn_intercalate '/' hslash hnil, hloud]
    | none =>
      have hjoin : List.intercalate ['/'] names ++ ['/'] = List.intercalate ['/'] (names ++ [[]]) := by
        rw [Text.intercalate_concat hnil, List.append_nil]
      rw [Option.isNone_none, if_pos rfl, hjoin, List.splitOn_intercalate '/' ?_ (by simp),
        List.filter_append, hloud]
      · simp
      · exact List.forall_mem_append.2 ⟨hslash, by simp⟩

/-- What can be read at a place below another one; what cannot be read is empty. -/
def contentBelow (fs : FileSystem) (place below : Place) : FileContent :=
  match fs.readContent (Path.ofPlace (place ++ below)) with
  | .ok content => content
  | .error _ => .text []

/-- **A listing has every place below a folder once**, with the content of what is there. -/
theorem listing?_exact {fs : TidyDisk} {folder : Path} {place : Place}
    (hspot : fs.spot true folder = .ok (.taken place))
    (hfolder : faceAt place fs.tree = some emptyFolder) :
    ∃ shown, fs.listing? folder = some shown ∧ (shown.map Prod.fst).Nodup ∧
      ∀ path content, (path, content) ∈ shown ↔
        ∃ names found, names ≠ [] ∧ get? (place ++ names) fs.tree = some found ∧
          content = contentShown (contentBelow fs place) names found ∧
          path = pathShown names content := by
  obtain ⟨entries, hentries⟩ := faceAt_eq_emptyFolder_iff.1 hfolder
  have htidy : entriesTidy entries = true := (tidy_of_get? fs.tidy hentries).2
  have hinside : ∀ names, get? (place ++ names) fs.tree = get? names (.folder entries) :=
    fun names => by rw [get?_append, hentries, Option.bind_some]
  have hlisting : fs.listing? folder
      = some ((listEntries (contentBelow fs place) [] entries).map fun entry =>
          (pathShown entry.1 entry.2, entry.2)) := by
    rw [listing?, hspot]
    simp only [hentries]
    rfl
  refine ⟨_, hlisting, ?_, fun path content => ?_⟩
  · -- the places can be told from the paths, and no place stands twice
    have hplaces : ((listEntries (contentBelow fs place) [] entries).map fun entry =>
        pathShown entry.1 entry.2).map (fun path => (List.splitOn '/' path).filter (· ≠ []))
          = (listEntries (contentBelow fs place) [] entries).map Prod.fst := by
      rw [List.map_map]
      refine List.map_congr_left fun ⟨q, content⟩ hentry => ?_
      obtain ⟨name, rest, found, rfl, hget, -⟩ := (mem_listEntries_iff htidy _).1 hentry
      have hnode : (Node.folder entries).isTidy = true := htidy
      exact filter_splitOn_pathShown (tidy_of_get? hnode hget).1 content
    rw [List.map_map]
    exact List.Nodup.of_map _ (hplaces ▸ nodup_listEntries htidy [])
  · rw [List.mem_map]
    constructor
    · rintro ⟨⟨q, inside⟩, hentry, heq⟩
      obtain ⟨rfl, rfl⟩ := Prod.mk.inj heq
      obtain ⟨name, rest, found, rfl, hget, hcontent⟩ := (mem_listEntries_iff htidy _).1 hentry
      exact ⟨name :: rest, found, List.cons_ne_nil _ _, (hinside _).trans hget, hcontent, rfl⟩
    · rintro ⟨names, found, hne, hget, hcontent, rfl⟩
      obtain ⟨name, rest, rfl⟩ := List.exists_cons_of_ne_nil hne
      rw [hinside] at hget
      exact ⟨(name :: rest, content),
        (mem_listEntries_iff htidy _).2 ⟨name, rest, found, rfl, hget, hcontent⟩, rfl⟩

end FileSystem
end DocViews
