import DocViews.Proofs.Catalogue.Paths
import DocViews.Proofs.Naming.Ordinal
import Mathlib.Data.List.Forall2

/-!
# Renumbering documents

A document is moved within its folder, or its folder within the one above, by changing numbers in
front of names.  Nothing that is made of the document knows these numbers but its order: the view
stays where it is and keeps its class and its namespace (`Document.describe_renumbered`).

The number in front of a file name is also the one in front of its stem, and the stem is renumbered
when the name is (`Path.stemOf_renumbers`).
-/

set_option autoImplicit false

namespace DocViews

open NumberedName

namespace Path

/-! ## Stems -/

/-- The stem of a file by its name. -/
def stemOf (name : Text) : Text :=
  ((splitName? name).map Prod.fst).getD name

theorem stem_eq {path : Path} {name : Text} (h : path.fileName? = some name) :
    path.stem = stemOf name := by
  rw [stem, h, stemOf]

/-- What is cut off a file name does not depend on how it begins. -/
theorem exists_stemOf_append (rest : Text) :
    ∃ kept, kept <+: rest ∧
      ∀ front, front ≠ [] → '.' ∉ front → stemOf (front ++ rest) = front ++ kept := by
  have hparent : ∀ front, front ≠ [] → '.' ∉ front → front ++ rest ≠ ['.', '.'] := by
    intro front hne hpoint heq
    obtain ⟨c, more, rfl⟩ := List.exists_cons_of_ne_nil hne
    rw [List.cons_append] at heq
    exact hpoint ((List.cons.inj heq).1 ▸ List.mem_cons_self)
  by_cases hpoint : '.' ∈ rest
  · -- the cut is at the last point
    obtain ⟨extension, before, hreverse, hextension⟩ :=
      List.eq_append_cons_of_mem (List.mem_reverse.2 hpoint)
    refine ⟨before.reverse, ?_, fun front hne hfront => ?_⟩
    · rw [← List.reverse_reverse rest, hreverse, List.reverse_append, List.reverse_cons,
        List.append_assoc]
      exact List.prefix_append _ _
    · have hcut : Text.splitOnce? '.' (front ++ rest).reverse
          = some (extension, before ++ front.reverse) := by
        rw [List.reverse_append, hreverse, List.append_assoc, List.cons_append,
          Text.splitOnce?_append hextension]
      rw [stemOf, splitName?, if_neg (hparent front hne hfront), hcut]
      simp [hne]
  · refine ⟨rest, List.prefix_rfl, fun front hne hfront => ?_⟩
    have hcut : Text.splitOnce? '.' (front ++ rest).reverse = none :=
      Text.splitOnce?_of_notMem (by simp [hfront, hpoint])
    rw [stemOf, splitName?, if_neg (hparent front hne hfront), hcut]
    rfl

theorem exists_stemOf_ordinal (rest : Text) :
    ∃ kept, kept <+: rest ∧
      ∀ digits, IsOrdinal digits → stemOf (digits ++ '_' :: rest) = digits ++ '_' :: kept := by
  obtain ⟨kept, hkept, hstem⟩ := exists_stemOf_append rest
  refine ⟨kept, hkept, fun digits hdigits => ?_⟩
  have hpoint : '.' ∉ digits ++ ['_'] :=
    List.not_mem_append (hdigits.notMem (by decide)) (by decide)
  have h := hstem (digits ++ ['_']) (by simp) hpoint
  rwa [List.append_assoc, List.append_assoc, List.singleton_append, List.singleton_append] at h

/-- A stem is the beginning of its file name. -/
theorem stemOf_prefix (name : Text) : stemOf name <+: name := by
  rw [stemOf, splitName?]
  split
  · exact List.prefix_rfl
  · split
    · next extension before hcut =>
      split
      · exact List.prefix_rfl
      · refine ⟨'.' :: extension.reverse, ?_⟩
        rw [← List.reverse_reverse name, Text.eq_of_splitOnce?_eq_some hcut, List.reverse_append,
          List.reverse_cons, List.append_assoc]
        rfl
    · exact List.prefix_rfl

/-- **The number in front of a stem is the one in front of the file name.** -/
theorem hasOrdinal_stemOf_iff {name : Text} {n : Nat} :
    HasOrdinal (stemOf name) n ↔ HasOrdinal name n := by
  constructor
  · rintro ⟨digits, rest, hstem, hdigits, hn⟩
    obtain ⟨more, hmore⟩ := stemOf_prefix name
    refine ⟨digits, rest ++ more, ?_, hdigits, hn⟩
    rw [← hmore, hstem, List.append_assoc, List.cons_append]
  · rintro ⟨digits, rest, rfl, hdigits, hn⟩
    obtain ⟨kept, -, hstem⟩ := exists_stemOf_ordinal rest
    exact ⟨digits, kept, hstem digits hdigits, hdigits, hn⟩

/-- With another number in front of a file name there is another one in front of its stem. -/
theorem stemOf_renumbers {name name' : Text} (h : Renumbers name name') :
    Renumbers (stemOf name) (stemOf name') := by
  cases h with
  | kept => exact .kept _
  | changed rest hold hnew =>
    obtain ⟨kept, -, hstem⟩ := exists_stemOf_ordinal rest
    rw [hstem _ hold, hstem _ hnew]
    exact .changed kept hold hnew

/-- A name with another number is a name. -/
theorem isName_of_renumbers {name name' : Text} (h : Renumbers name name') (hname : IsName name) :
    IsName name' := by
  cases h with
  | kept => exact hname
  | changed rest hold hnew =>
    rename_i old new
    have hmem : '_' ∈ new ++ '_' :: rest := by simp
    refine ⟨by simp, ?_, ?_, ?_⟩
    · intro heq
      rw [heq] at hmem
      exact absurd hmem (by decide)
    · intro heq
      rw [heq] at hmem
      exact absurd hmem (by decide)
    · refine List.not_mem_append (hnew.notMem (by decide)) fun hslash => hname.2.2.2 ?_
      exact List.mem_append_right _ hslash

end Path

/-! ## Documents by their names -/

theorem Path.forall_isName_of_renumbers {folders folders' : List Text}
    (h : List.Forall₂ Renumbers folders folders') (hfolders : ∀ name ∈ folders, IsName name) :
    ∀ name ∈ folders', IsName name := by
  induction h with
  | nil => exact hfolders
  | cons hfirst _ ih =>
    rw [List.forall_mem_cons] at hfolders ⊢
    exact ⟨isName_of_renumbers hfirst hfolders.1, ih hfolders.2⟩

theorem Location.ofNames_of_renumbers (generatedRoot : Text) {folders folders' : List Text}
    (h : List.Forall₂ Renumbers folders folders') :
    ofNames generatedRoot folders' = ofNames generatedRoot folders := by
  have hnames : folders'.map (fun name => (ofText name).name)
      = folders.map fun name => (ofText name).name := by
    induction h with
    | nil => rfl
    | cons hfirst _ ih => rw [List.map_cons, List.map_cons, ih, hfirst.name_eq]
  rw [ofNames, ofNames, segmentsOf, segmentsOf, hnames]

namespace Document

open DocViews.Path

variable {conventions : Conventions} {workingFolder root : Path} {folders : List Text} {file : Text}

/-- What is known of the document that the names of folders and a file lead to. -/
theorem describe_pathOf (hfolders : ∀ name ∈ folders, IsName name) (hfile : IsName file) :
    let path := Catalogue.pathOf root (folders ++ [file])
    describe conventions workingFolder root path =
      { place := Path.absolute workingFolder path
        path := ofComponents ((folders ++ [file]).map .name)
        stem := (ofText (stemOf file)).name
        order :=
          if (ofText (stemOf file)).name = conventions.indexName then folderOrdinal folders
          else (ofText (stemOf file)).ordinal
        location := Location.ofNames conventions.generatedRoot folders } := by
  intro path
  have hnames : ∀ name ∈ folders ++ [file], IsName name := by
    intro name hname
    rcases List.mem_append.1 hname with hfolder | hlast
    · exact hfolders name hfolder
    · exact List.mem_singleton.1 hlast ▸ hfile
  have hstem : path.stem = stemOf file := by
    refine stem_eq ?_
    rw [fileName?, Catalogue.components_pathOf root hnames, List.map_append, List.map_singleton,
      ← List.append_assoc, List.getLast?_concat]
    rfl
  have hfolderNames : (ofComponents ((folders ++ [file]).map .name)).folderNames = folders := by
    rw [folderNames_ofComponents hnames, List.dropLast_concat]
  rw [describe, hstem, Catalogue.below?_pathOf root hnames, Option.getD_some, hfolderNames]

/-- **Renumbering touches the order only.**  Where the numbers in front of the folders and of the file
of a document are replaced by others, its stem, the place and the name of its view, its class and its
namespace are the same, and its order is the new number: that of the innermost folder for a landing
document, and that of the file for any other. -/
theorem describe_renumbered (conventions : Conventions) (workingFolder root : Path)
    {folders folders' : List Text} {file file' : Text} (hfolders : ∀ name ∈ folders, IsName name)
    (hfile : IsName file) (hnumbers : List.Forall₂ Renumbers folders folders')
    (hnumber : Renumbers file file') :
    let old := describe conventions workingFolder root (Catalogue.pathOf root (folders ++ [file]))
    let new := describe conventions workingFolder root (Catalogue.pathOf root (folders' ++ [file']))
    new.stem = old.stem ∧ new.location = old.location ∧
      (∀ extension, new.output extension = old.output extension) ∧
      (∀ rootNamespace apps,
        new.className = old.className ∧
          fullNamespace rootNamespace apps new.location.namespaceSuffix
            = fullNamespace rootNamespace apps old.location.namespaceSuffix) ∧
      ∀ n, new.order = some n
        ↔ ∃ name, (if new.stem = conventions.indexName then folders'.getLast? else some file')
            = some name ∧ HasOrdinal name n := by
  intro old new
  have hold : old = _ := describe_pathOf hfolders hfile
  have hnew : new = _ :=
    describe_pathOf (forall_isName_of_renumbers hnumbers hfolders)
      (isName_of_renumbers hnumber hfile)
  clear_value old new
  have hstem : new.stem = old.stem := by rw [hold, hnew, (stemOf_renumbers hnumber).name_eq]
  have hlocation : new.location = old.location := by
    rw [hold, hnew, Location.ofNames_of_renumbers _ hnumbers]
  refine ⟨hstem, hlocation, fun extension => ?_, fun rootNamespace apps => ⟨?_, ?_⟩, fun n => ?_⟩
  · rw [output, output, hstem, hlocation]
  · rw [className, className, hstem]
  · rw [hlocation]
  · have horder : new.order
        = if new.stem = conventions.indexName then folderOrdinal folders'
          else (ofText (stemOf file')).ordinal := by
      rw [hnew]
    rw [horder]
    split
    · rw [folderOrdinal, Option.bind_eq_some_iff]
      simp only [hasOrdinal_iff]
    · rw [hasOrdinal_iff, hasOrdinal_stemOf_iff]
      simp

/-- A landing document takes its number from the folder that it is in, although nothing but a number
is left of the name of this folder. -/
theorem describe_renumbered_landing :
    ((∀ name ∈ ["2_Setup".toList, "3_".toList], IsName name) ∧ IsName "_Index.md".toList ∧
      List.Forall₂ Renumbers ["2_Setup".toList, "3_".toList] ["2_Setup".toList, "007_".toList] ∧
      Renumbers "_Index.md".toList "_Index.md".toList) ∧
    (describe {} ⟨['/']⟩ ⟨"Docs".toList⟩ ⟨"Docs/2_Setup/007_/_Index.md".toList⟩).order = some 7 := by
  have hfolders : ∀ name ∈ ["2_Setup".toList, "3_".toList], IsName name := by decide +kernel
  have hfile : IsName "_Index.md".toList := by decide +kernel
  have hchanged : Renumbers (['3'] ++ '_' :: []) (['0', '0', '7'] ++ '_' :: []) :=
    .changed [] (by decide +kernel) (by decide +kernel)
  have hnumbers : List.Forall₂ Renumbers ["2_Setup".toList, "3_".toList]
      ["2_Setup".toList, "007_".toList] := .cons (.kept _) (.cons hchanged .nil)
  refine ⟨⟨hfolders, hfile, hnumbers, .kept _⟩, ?_⟩
  refine ((describe_renumbered {} ⟨['/']⟩ ⟨"Docs".toList⟩ hfolders hfile hnumbers
    (.kept _)).2.2.2.2 7).2 ⟨"007_".toList, by decide +kernel, ['0', '0', '7'], [], rfl, ?_, ?_⟩
  · decide +kernel
  · decide +kernel

end Document
end DocViews
