import DocViews.Proofs.FileSystem.Lexical
import DocViews.Proofs.Path.Steps
import DocViews.Proofs.Text.Keyed

/-!
# The files of a tidy tree

A tree is *tidy* if every entry of a folder has a name of its own, and the name can stand in a path.
Every disk is; only a `Node` could say otherwise.

In a tidy tree the chains of names of `Node.filesBelow` are the places of files, all of them
(`Node.mem_filesBelow_iff`) and each one once (`Node.nodup_filesBelow`).  Links are not followed,
since there is nothing at a place behind a link.
-/

set_option autoImplicit false

namespace DocViews
namespace Node

open DocViews.Path

mutual

/-- Whether the entries of every folder have names of their own that can stand in paths. -/
def isTidy : Node → Bool
  | .file _ => true
  | .link _ => true
  | .folder entries => entriesTidy entries

def entriesTidy : List (Text × Node) → Bool
  | [] => true
  | (name, node) :: rest =>
    decide (IsName name) && (rest.lookup name).isNone && isTidy node && entriesTidy rest

end

section

variable {name : Text} {node : Node} {rest : List (Text × Node)}

theorem entriesTidy_cons : entriesTidy ((name, node) :: rest) = true ↔
    IsName name ∧ rest.lookup name = none ∧ node.isTidy = true ∧ entriesTidy rest = true := by
  rw [entriesTidy, Bool.and_eq_true, Bool.and_eq_true, Bool.and_eq_true, decide_eq_true_eq,
    Option.isNone_iff_eq_none, and_assoc, and_assoc]

/-- An entry of a tidy folder is tidy, and its name can stand in a path. -/
theorem tidy_of_lookup {entries : List (Text × Node)} (h : entriesTidy entries = true)
    (hlookup : entries.lookup name = some node) : IsName name ∧ node.isTidy = true := by
  induction entries with
  | nil => exact absurd hlookup (by simp)
  | cons entry rest ih =>
    obtain ⟨first, child⟩ := entry
    obtain ⟨hfirst, -, hchild, hrest⟩ := entriesTidy_cons.1 h
    by_cases hname : name = first
    · subst hname
      rw [Keyed.lookup_cons_self] at hlookup
      exact ⟨hfirst, Option.some.inj hlookup ▸ hchild⟩
    · rw [Keyed.lookup_cons_of_ne hname] at hlookup
      exact ih hrest hlookup

theorem entriesTidy_iff {entries : List (Text × Node)} :
    entriesTidy entries = true ↔ (entries.map Prod.fst).Nodup ∧
      ∀ entry ∈ entries, IsName entry.1 ∧ entry.2.isTidy = true := by
  induction entries with
  | nil => simp [entriesTidy]
  | cons entry rest ih =>
    have hfree : entry.1 ∉ rest.map Prod.fst ↔ rest.lookup entry.1 = none := by
      rw [Keyed.mem_keys_iff, not_not]
    rw [entriesTidy_cons, ih, List.map_cons, List.nodup_cons, List.forall_mem_cons, hfree]
    tauto

theorem nodup_keys_of_tidy {entries : List (Text × Node)} (h : entriesTidy entries = true) :
    (entries.map Prod.fst).Nodup :=
  (entriesTidy_iff.1 h).1

/-- What is in a tidy tree is tidy, and the names that lead to it can stand in paths. -/
theorem tidy_of_get? {place : Place} {tree : Node} (h : tree.isTidy = true)
    (hnode : get? place tree = some node) :
    (∀ name ∈ place, IsName name) ∧ node.isTidy = true := by
  induction place generalizing tree with
  | nil => exact ⟨fun name hname => absurd hname List.not_mem_nil, Option.some.inj hnode ▸ h⟩
  | cons first more ih =>
    cases tree with
    | file content => exact nomatch hnode
    | link target => exact nomatch hnode
    | folder entries =>
      rw [get?] at hnode
      cases hlookup : entries.lookup first with
      | none => exact absurd hnode (by simp [hlookup])
      | some child =>
        rw [hlookup] at hnode
        obtain ⟨hfirst, hchild⟩ := tidy_of_lookup h hlookup
        obtain ⟨hmore, hlast⟩ := ih hchild hnode
        exact ⟨List.forall_mem_cons.2 ⟨hfirst, hmore⟩, hlast⟩

theorem mem_filesInEntries_cons {names : List Text} :
    names ∈ filesInEntries ((name, node) :: rest) ↔
      (∃ more ∈ filesBelow node, names = name :: more) ∨ names ∈ filesInEntries rest := by
  rw [filesInEntries, List.mem_append, List.mem_map]
  simp only [eq_comm]

end

/-! ## All files -/

/-- There is no file behind a link. -/
theorem get?_link_ne_file (names : List Text) (target : Path) (content : FileContent) :
    get? names (.link target) ≠ some (.file content) := by
  cases names <;> exact nofun

theorem get?_emptyFolder_ne_file (names : List Text) (content : FileContent) :
    get? names emptyFolder ≠ some (.file content) := by
  cases names <;> exact nofun

mutual

/-- **The files below a tidy node are those at the places in it.** -/
theorem mem_filesBelow_iff {node : Node} (h : node.isTidy = true) {names : List Text} :
    names ∈ filesBelow node ↔ ∃ content, get? names node = some (.file content) := by
  match node with
  | .file content =>
    rw [filesBelow, List.mem_singleton]
    cases names with
    | nil => exact ⟨fun _ => ⟨content, rfl⟩, fun _ => rfl⟩
    | cons name more => exact ⟨fun hnil => absurd hnil (by simp), fun ⟨_, hget⟩ => nomatch hget⟩
  | .link target =>
    exact ⟨fun hmem => absurd hmem List.not_mem_nil,
      fun ⟨content, hget⟩ => absurd hget (get?_link_ne_file names target content)⟩
  | .folder entries => exact mem_filesInEntries_iff h

theorem mem_filesInEntries_iff {entries : List (Text × Node)} (h : entriesTidy entries = true)
    {names : List Text} :
    names ∈ filesInEntries entries
      ↔ ∃ content, get? names (.folder entries) = some (.file content) := by
  match entries with
  | [] =>
    exact ⟨fun hmem => absurd hmem List.not_mem_nil,
      fun ⟨content, hget⟩ => absurd hget (get?_emptyFolder_ne_file names content)⟩
  | (name, node) :: rest =>
    obtain ⟨-, hfree, hnode, hrest⟩ := entriesTidy_cons.1 h
    rw [mem_filesInEntries_cons, mem_filesInEntries_iff hrest]
    cases names with
    | nil => simp [get?]
    | cons first more =>
      by_cases hname : first = name
      · -- the rest has no entry of this name
        subst hname
        have hnone : get? (first :: more) (.folder rest) = none := by rw [get?, hfree]
        have hchild : get? (first :: more) (.folder ((first, node) :: rest)) = get? more node := by
          rw [get?, Keyed.lookup_cons_self]
        rw [hnone, hchild, ← mem_filesBelow_iff hnode]
        simp
      · have hsame : get? (first :: more) (.folder ((name, node) :: rest))
            = get? (first :: more) (.folder rest) := by
          rw [get?, get?, Keyed.lookup_cons_of_ne hname]
        rw [hsame]
        simp [hname]

end

mutual

theorem isName_of_mem_filesBelow {node : Node} (h : node.isTidy = true) {names : List Text}
    (hmem : names ∈ filesBelow node) : ∀ name ∈ names, IsName name := by
  match node with
  | .file content =>
    obtain rfl : names = [] := List.mem_singleton.1 hmem
    exact fun name hname => absurd hname List.not_mem_nil
  | .link target => exact absurd hmem List.not_mem_nil
  | .folder entries => exact isName_of_mem_filesInEntries h hmem

theorem isName_of_mem_filesInEntries {entries : List (Text × Node)}
    (h : entriesTidy entries = true) {names : List Text} (hmem : names ∈ filesInEntries entries) :
    ∀ name ∈ names, IsName name := by
  match entries with
  | [] => exact absurd hmem List.not_mem_nil
  | (name, node) :: rest =>
    obtain ⟨hname, -, hnode, hrest⟩ := entriesTidy_cons.1 h
    rcases mem_filesInEntries_cons.1 hmem with ⟨more, hmore, rfl⟩ | hothers
    · rw [List.forall_mem_cons]
      exact ⟨hname, isName_of_mem_filesBelow hnode hmore⟩
    · exact isName_of_mem_filesInEntries hrest hothers

end

mutual

/-- Every file is found once. -/
theorem nodup_filesBelow {node : Node} (h : node.isTidy = true) : (filesBelow node).Nodup := by
  match node with
  | .file content => exact List.nodup_singleton []
  | .link target => exact List.nodup_nil
  | .folder entries => exact nodup_filesInEntries h

theorem nodup_filesInEntries {entries : List (Text × Node)} (h : entriesTidy entries = true) :
    (filesInEntries entries).Nodup := by
  match entries with
  | [] => exact List.nodup_nil
  | (name, node) :: rest =>
    obtain ⟨-, hfree, hnode, hrest⟩ := entriesTidy_cons.1 h
    rw [filesInEntries]
    refine List.Nodup.append ((nodup_filesBelow hnode).map (List.cons_injective))
      (nodup_filesInEntries hrest) ?_
    intro names hfirst hothers
    obtain ⟨more, -, rfl⟩ := List.mem_map.1 hfirst
    obtain ⟨content, hget⟩ := (mem_filesInEntries_iff hrest).1 hothers
    rw [get?, hfree] at hget
    exact nomatch hget

end

end Node
end DocViews
