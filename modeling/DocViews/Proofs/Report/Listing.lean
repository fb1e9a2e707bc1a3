import DocViews.Proofs.Text.Keyed
import DocViews.Report

/-!
# What is listed

The listing writes a header wherever the namespace is not that of the file before.  The files have
been sorted by namespace first, so these headers stand over groups (`Report.groupsOf`): the files of
one namespace are together, and **each namespace has one header, with its files below it**
(`Report.isGrouping_groupsOf`).

Files with different places are sorted in one way only, so the listing does not depend on the order
in which the files were made (`Report.lines_exact`).
-/

set_option autoImplicit false

namespace DocViews

/-! ## The order of the listing -/

theorem Text.compare_eq_lt_iff {a b : Text} : compare a b = .lt ↔ a < b := by
  induction a generalizing b with
  | nil =>
    cases b with
    | nil => decide
    | cons d b => exact iff_of_true rfl (List.nil_lt_cons d b)
  | cons c a ih =>
    cases b with
    | nil => exact iff_of_false nofun (List.not_lt_nil _)
    | cons d b =>
      have hchar : compare c d = .lt ↔ c < d := compareOfLessAndEq_eq_lt
      rw [List.compare_cons_cons, Ordering.then_eq_lt, List.cons_lt_cons_iff, ih, hchar,
        Std.LawfulEqOrd.compare_eq_iff_eq]

namespace GeneratedFile

open Std

/-- Where a file stands in the listing. -/
def place (file : GeneratedFile) : Text × Int × Text :=
  (file.nameSpace, file.order, file.className)

variable {a b : GeneratedFile}

theorem compareListed_eq_compareLex :
    compareListed = compareLex (compareOn nameSpace)
      (compareLex (compareOn order) (compareOn className)) :=
  rfl

instance : TransCmp compareListed := by
  rw [compareListed_eq_compareLex]
  infer_instance

theorem compareListed_eq_lt_iff :
    a.compareListed b = .lt ↔ a.nameSpace < b.nameSpace ∨ a.nameSpace = b.nameSpace ∧
      (a.order < b.order ∨ a.order = b.order ∧ a.className < b.className) := by
  rw [compareListed, Ordering.then_eq_lt, Ordering.then_eq_lt, Text.compare_eq_lt_iff,
    Text.compare_eq_lt_iff, LawfulEqOrd.compare_eq_iff_eq, LawfulEqOrd.compare_eq_iff_eq,
    Std.compare_eq_lt]

theorem compareListed_eq_eq_iff : a.compareListed b = .eq ↔ a.place = b.place := by
  rw [compareListed, Ordering.then_eq_eq, Ordering.then_eq_eq, LawfulEqOrd.compare_eq_iff_eq,
    LawfulEqOrd.compare_eq_iff_eq, LawfulEqOrd.compare_eq_iff_eq, place, place, Prod.mk.injEq,
    Prod.mk.injEq]

/-- A file is listed before another one by namespace, then by order, then by class name. -/
theorem isLE_compareListed_iff :
    (a.compareListed b).isLE = true ↔ a.nameSpace < b.nameSpace ∨ a.nameSpace = b.nameSpace ∧
      (a.order < b.order ∨ a.order = b.order ∧
        (a.className < b.className ∨ a.className = b.className)) := by
  rw [Ordering.isLE_iff_eq_lt_or_eq_eq, compareListed_eq_lt_iff, compareListed_eq_eq_iff, place,
    place, Prod.mk.injEq, Prod.mk.injEq]
  tauto

end GeneratedFile

namespace Report

theorem pairwise_listed (files : List GeneratedFile) :
    (listed files).Pairwise fun a b => (a.compareListed b).isLE = true := by
  refine List.pairwise_mergeSort (fun a b c => Std.TransCmp.isLE_trans) (fun a b => ?_) files
  have hswap : a.compareListed b = (b.compareListed a).swap := Std.OrientedCmp.eq_swap
  rw [hswap]
  cases b.compareListed a <;> rfl

/-! ## Groups -/

/-- A namespace and its files. -/
structure Group where
  nameSpace : Text
  files : List GeneratedFile

/-- The header, and a line for each file. -/
def Group.lines (group : Group) : List Text :=
  group.nameSpace :: group.files.map fileLine

/-- Puts a file in front of groups, into the first of them if this has its namespace. -/
def addTo (file : GeneratedFile) : List Group → List Group
  | [] => [⟨file.nameSpace, [file]⟩]
  | group :: rest =>
    if group.nameSpace = file.nameSpace then ⟨file.nameSpace, file :: group.files⟩ :: rest
    else ⟨file.nameSpace, [file]⟩ :: group :: rest

/-- The runs of files with one namespace. -/
def groupsOf (files : List GeneratedFile) : List Group :=
  files.foldr addTo []

/-- Whether groups show each file once, below the header of its namespace, and in order. -/
structure IsGrouping (files : List GeneratedFile) (groups : List Group) : Prop where
  perm : (groups.flatMap Group.files).Perm files
  headers_lt : (groups.map Group.nameSpace).Pairwise (· < ·)
  files_ne_nil : ∀ group ∈ groups, group.files ≠ []
  nameSpace_eq : ∀ group ∈ groups, ∀ file ∈ group.files, file.nameSpace = group.nameSpace
  inOrder : ∀ group ∈ groups, group.files.Pairwise fun a b =>
    a.order < b.order ∨ a.order = b.order ∧
      (a.className < b.className ∨ a.className = b.className)

variable {file : GeneratedFile} {files : List GeneratedFile} {groups : List Group}

theorem groupsOf_cons (file : GeneratedFile) (files : List GeneratedFile) :
    groupsOf (file :: files) = addTo file (groupsOf files) :=
  rfl

/-- What holds of a new group, and of a group that gets one more file of its namespace, holds of all
groups. -/
theorem forall_mem_addTo {p : Group → Prop} (hgroups : ∀ group ∈ groups, p group)
    (hnew : p ⟨file.nameSpace, [file]⟩)
    (hmore : ∀ group ∈ groups, group.nameSpace = file.nameSpace →
      p ⟨file.nameSpace, file :: group.files⟩) :
    ∀ group ∈ addTo file groups, p group := by
  cases groups with
  | nil => exact List.forall_mem_singleton.2 hnew
  | cons first rest =>
    obtain ⟨hfirst, hrest⟩ := List.forall_mem_cons.1 hgroups
    rw [addTo]
    split
    · next hsame =>
      exact List.forall_mem_cons.2 ⟨hmore first List.mem_cons_self hsame, hrest⟩
    · exact List.forall_mem_cons.2 ⟨hnew, hgroups⟩

theorem files_ne_nil_of_mem_groupsOf : ∀ group ∈ groupsOf files, group.files ≠ [] := by
  induction files with
  | nil => exact fun group hmem => absurd hmem List.not_mem_nil
  | cons file files ih =>
    exact forall_mem_addTo ih (List.cons_ne_nil _ _) fun _ _ _ => List.cons_ne_nil _ _

theorem nameSpace_of_mem_groupsOf :
    ∀ group ∈ groupsOf files, ∀ file ∈ group.files, file.nameSpace = group.nameSpace := by
  induction files with
  | nil => exact fun group hmem => absurd hmem List.not_mem_nil
  | cons file files ih =>
    refine forall_mem_addTo ih (List.forall_mem_singleton.2 rfl) fun group hmem hsame => ?_
    exact List.forall_mem_cons.2 ⟨rfl, fun other hother => (ih group hmem other hother).trans hsame⟩

theorem flatMap_files_groupsOf (files : List GeneratedFile) :
    (groupsOf files).flatMap Group.files = files := by
  induction files with
  | nil => rfl
  | cons file files ih =>
    rw [groupsOf_cons]
    cases hgroups : groupsOf files with
    | nil =>
      rw [hgroups] at ih
      exact congrArg (file :: ·) ih
    | cons group rest =>
      rw [hgroups] at ih
      rw [addTo]
      split <;> exact congrArg (file :: ·) ih

/-- **The lines of files are those of their groups**, without the first header if it is the
namespace above. -/
theorem fileLines_eq (above : Option Text) (files : List GeneratedFile) :
    fileLines above files = match groupsOf files with
      | [] => []
      | group :: rest =>
        (if above = some group.nameSpace then [] else [group.nameSpace]) ++
          group.files.map fileLine ++ rest.flatMap Group.lines := by
  induction files generalizing above with
  | nil => rfl
  | cons file files ih =>
    rw [fileLines, ih, groupsOf_cons]
    cases groupsOf files with
    | nil => simp [addTo]
    | cons group rest =>
      rw [addTo]
      by_cases hsame : group.nameSpace = file.nameSpace
      · simp [hsame]
      · simp [hsame, Ne.symm hsame, Group.lines]

theorem fileLines_none (files : List GeneratedFile) :
    fileLines none files = (groupsOf files).flatMap Group.lines := by
  rw [fileLines_eq]
  cases groupsOf files with
  | nil => rfl
  | cons group rest => simp [Group.lines]

/-- The files of a group are some of the files, in their order. -/
theorem sublist_of_mem_groupsOf {group : Group} (h : group ∈ groupsOf files) :
    group.files.Sublist files := by
  have hmem : group.files ∈ (groupsOf files).map Group.files := List.mem_map_of_mem h
  have hsub := List.sublist_flatten_of_mem hmem
  rwa [← List.flatMap_def, flatMap_files_groupsOf] at hsub

/-- **The headers of sorted files get greater from group to group.** -/
theorem pairwise_headers
    (h : files.Pairwise fun a b => (a.compareListed b).isLE = true) :
    ((groupsOf files).map Group.nameSpace).Pairwise (· < ·) := by
  induction files with
  | nil => exact .nil
  | cons file files ih =>
    obtain ⟨hfirst, hrest⟩ := List.pairwise_cons.1 h
    have hle : ∀ group ∈ groupsOf files,
        file.nameSpace < group.nameSpace ∨ file.nameSpace = group.nameSpace := by
      intro group hmem
      obtain ⟨other, hother⟩ := List.exists_mem_of_ne_nil _ (files_ne_nil_of_mem_groupsOf group hmem)
      rw [← nameSpace_of_mem_groupsOf group hmem other hother]
      have hlisted := hfirst other ((sublist_of_mem_groupsOf hmem).subset hother)
      exact (GeneratedFile.isLE_compareListed_iff.1 hlisted).imp_right And.left
    have ih := ih hrest
    rw [groupsOf_cons]
    cases hgroups : groupsOf files with
    | nil => exact List.pairwise_singleton _ _
    | cons group rest =>
      rw [hgroups] at ih hle
      rw [addTo]
      split
      · next hsame =>
        rw [List.map_cons] at ih ⊢
        rwa [hsame] at ih
      · next hother =>
        have hlt : file.nameSpace < group.nameSpace :=
          (hle group List.mem_cons_self).resolve_right (Ne.symm hother)
        refine List.pairwise_cons.2 ⟨fun header hmem => ?_, ih⟩
        rcases List.mem_cons.1 hmem with rfl | hmem
        · exact hlt
        · exact List.lt_trans hlt ((List.pairwise_cons.1 ih).1 header hmem)

/-- **The groups of the listing show each file once, below the header of its namespace.** -/
theorem isGrouping_groupsOf (files : List GeneratedFile) :
    IsGrouping files (groupsOf (listed files)) where
  perm := by
    rw [flatMap_files_groupsOf]
    exact List.mergeSort_perm _ _
  headers_lt := pairwise_headers (pairwise_listed files)
  files_ne_nil := files_ne_nil_of_mem_groupsOf
  nameSpace_eq := nameSpace_of_mem_groupsOf
  inOrder group hmem := by
    refine ((pairwise_listed files).sublist (sublist_of_mem_groupsOf hmem)).imp_of_mem
      fun {a b} ha hb hab => ?_
    have hsame : a.nameSpace = b.nameSpace :=
      (nameSpace_of_mem_groupsOf group hmem a ha).trans
        (nameSpace_of_mem_groupsOf group hmem b hb).symm
    rcases GeneratedFile.isLE_compareListed_iff.1 hab with hlt | ⟨-, hplace⟩
    · exact absurd (hsame ▸ hlt) (List.lt_irrefl _)
    · exact hplace

/-- Files of one namespace are a group, if no group of their namespace is behind them. -/
theorem groupsOf_append {nameSpace : Text} {others : List GeneratedFile} (hne : files ≠ [])
    (hfiles : ∀ file ∈ files, file.nameSpace = nameSpace)
    (hothers : ∀ group ∈ groupsOf others, group.nameSpace ≠ nameSpace) :
    groupsOf (files ++ others) = ⟨nameSpace, files⟩ :: groupsOf others := by
  induction files with
  | nil => exact absurd rfl hne
  | cons file files ih =>
    obtain ⟨rfl, hfiles⟩ := List.forall_mem_cons.1 hfiles
    rw [List.cons_append, groupsOf_cons]
    cases files with
    | nil =>
      rw [List.nil_append]
      cases hgroups : groupsOf others with
      | nil => rfl
      | cons group rest => exact if_neg (hothers group (hgroups ▸ List.mem_cons_self))
    | cons next files =>
      rw [ih (List.cons_ne_nil _ _) hfiles]
      exact if_pos rfl

namespace IsGrouping

variable {others : List GeneratedFile} {groups' : List Group}

theorem of_perm (h : IsGrouping files groups) (hperm : files.Perm others) :
    IsGrouping others groups :=
  { h with perm := h.perm.trans hperm }

/-- Every namespace of a file is the header of one group. -/
theorem count_header (h : IsGrouping files groups) (hmem : file ∈ files) :
    (groups.map Group.nameSpace).count file.nameSpace = 1 := by
  obtain ⟨group, hgroup, hfile⟩ := List.mem_flatMap.1 (h.perm.mem_iff.2 hmem)
  rw [h.nameSpace_eq group hgroup file hfile]
  exact List.count_eq_one_of_mem (h.headers_lt.imp Text.ne_of_lt) (List.mem_map_of_mem hgroup)

/-- Every header is the namespace of a file. -/
theorem exists_file (h : IsGrouping files groups) {group : Group} (hgroup : group ∈ groups) :
    ∃ file ∈ files, file.nameSpace = group.nameSpace := by
  obtain ⟨file, hfile⟩ := List.exists_mem_of_ne_nil _ (h.files_ne_nil group hgroup)
  exact ⟨file, h.perm.mem_iff.1 (List.mem_flatMap.2 ⟨group, hgroup, hfile⟩),
    h.nameSpace_eq group hgroup file hfile⟩

theorem pairwise_files (h : IsGrouping files groups) :
    (groups.flatMap Group.files).Pairwise fun a b => (a.compareListed b).isLE = true := by
  refine List.pairwise_flatMap.2 ⟨fun group hmem => ?_, ?_⟩
  · refine (h.inOrder group hmem).imp_of_mem fun {a b} ha hb hab => ?_
    have hsame : a.nameSpace = b.nameSpace :=
      (h.nameSpace_eq group hmem a ha).trans (h.nameSpace_eq group hmem b hb).symm
    exact GeneratedFile.isLE_compareListed_iff.2 (.inr ⟨hsame, hab⟩)
  · refine (List.pairwise_map.1 h.headers_lt).imp_of_mem fun {g k} hg hk hlt a ha b hb => ?_
    rw [← h.nameSpace_eq g hg a ha, ← h.nameSpace_eq k hk b hb] at hlt
    exact GeneratedFile.isLE_compareListed_iff.2 (.inl hlt)

/-- Groups are found again in their files. -/
theorem groupsOf_flatMap (h : IsGrouping files groups) :
    groupsOf (groups.flatMap Group.files) = groups := by
  obtain ⟨-, hlt, hne, hsame, -⟩ := h
  induction groups with
  | nil => rfl
  | cons group rest ih =>
    obtain ⟨hheader, hlt⟩ := List.pairwise_cons.1 hlt
    obtain ⟨hnonempty, hne⟩ := List.forall_mem_cons.1 hne
    obtain ⟨hfiles, hsame⟩ := List.forall_mem_cons.1 hsame
    have ih := ih hlt hne hsame
    have hothers : ∀ other ∈ groupsOf (rest.flatMap Group.files),
        other.nameSpace ≠ group.nameSpace := by
      rw [ih]
      exact fun other hmem => (Text.ne_of_lt (hheader _ (List.mem_map_of_mem hmem))).symm
    rw [List.flatMap_cons, groupsOf_append hnonempty hfiles hothers, ih]

/-- **Files with different places are grouped in one way only.** -/
theorem unique (h : IsGrouping files groups) (h' : IsGrouping files groups')
    (hplaces : (files.map GeneratedFile.place).Nodup) : groups = groups' := by
  have hfiles : groups.flatMap Group.files = groups'.flatMap Group.files := by
    refine List.Perm.eq_of_pairwise (fun a b ha hb hab hba => ?_) h.pairwise_files h'.pairwise_files
      (h.perm.trans h'.perm.symm)
    have hsame : a.compareListed b = .eq := Std.OrientedCmp.isLE_antisymm hab hba
    exact List.inj_on_of_nodup_map hplaces (h.perm.mem_iff.1 ha) (h'.perm.mem_iff.1 hb)
      (GeneratedFile.compareListed_eq_eq_iff.1 hsame)
  rw [← h.groupsOf_flatMap, ← h'.groupsOf_flatMap, hfiles]

end IsGrouping

/-! ## All lines -/

/-- The lines of a report that shows its files in groups. -/
def linesWith (r : Report) (groups : List Group) : List Text :=
  let files : List Text :=
    if r.generated = [] then [] else [] :: groups.flatMap Group.lines
  let failures : List Text :=
    if r.failures = [] then [] else [] :: "Failed".toList :: r.failures.map failureLine
  rootLine r.project :: (files ++ failures ++ [[], r.summary])

theorem lines_eq_linesWith (r : Report) : r.lines = r.linesWith (groupsOf (listed r.generated)) := by
  rw [lines, linesWith, fileLines_none]

/-- The summary counts files and failures only. -/
theorem summary_congr {r other : Report} (hfiles : other.generated.length = r.generated.length)
    (hfailures : other.failures.length = r.failures.length) : other.summary = r.summary := by
  have hsucceeded : other.succeeded = r.succeeded := by
    rw [succeeded, succeeded, Bool.eq_iff_iff, List.isEmpty_iff_length_eq_zero,
      List.isEmpty_iff_length_eq_zero, hfailures]
  rw [summary, summary, hsucceeded, total, total, hfiles, hfailures]

theorem failureLines_eq_iff {failures others : List Failure} :
    (if others = [] then [] else [] :: "Failed".toList :: others.map failureLine)
        = (if failures = [] then [] else [] :: "Failed".toList :: failures.map failureLine)
      ↔ others.map failureLine = failures.map failureLine := by
  cases failures <;> cases others <;> simp

/-- Reports that show as many files in the same groups differ in their first lines and their
failures only. -/
theorem linesWith_eq_iff {r other : Report}
    (hlength : other.generated.length = r.generated.length) (groups : List Group) :
    other.linesWith groups = r.linesWith groups
      ↔ rootLine other.project = rootLine r.project ∧
        other.failures.map failureLine = r.failures.map failureLine := by
  have hempty : other.generated = [] ↔ r.generated = [] := by
    rw [← List.length_eq_zero_iff, hlength, List.length_eq_zero_iff]
  rw [linesWith, linesWith, List.cons.injEq, if_congr hempty rfl rfl]
  refine and_congr_right fun _ => ⟨fun h => ?_, fun h => ?_⟩
  · have hfront := List.append_inj_left' h rfl
    exact failureLines_eq_iff.1 (List.append_cancel_left hfront)
  · have hfailures : other.failures.length = r.failures.length := by
      simpa only [List.length_map] using congrArg List.length h
    rw [failureLines_eq_iff.2 h, summary_congr hlength hfailures]

/-- **The listing shows every file once, grouped and in order.**  It is the root line, the groups of
the generated files if there are any, the failures in their order if there are any, and the summary.
The headers are the namespaces of the files, each once and in strictly increasing order, and below a
header are the files of this namespace, by order and class name.

If no two files have the same namespace, order and class name, then these groups do not depend on
how the files are ordered in the report: reports whose files are permutations of each other have the
same lines exactly if they have the same root line and the same failures. -/
theorem lines_exact (r : Report) :
    ∃ groups, IsGrouping r.generated groups ∧ r.lines = r.linesWith groups ∧
      (∀ nameSpace, nameSpace ∈ groups.map Group.nameSpace
        ↔ ∃ file ∈ r.generated, file.nameSpace = nameSpace) ∧
      (∀ file ∈ r.generated, (groups.map Group.nameSpace).count file.nameSpace = 1) ∧
      ∀ other : Report, other.generated.Perm r.generated →
        (r.generated.map GeneratedFile.place).Nodup →
        other.lines = other.linesWith groups ∧
          (other.lines = r.lines
            ↔ rootLine other.project = rootLine r.project ∧
              other.failures.map failureLine = r.failures.map failureLine) := by
  have hgroups := isGrouping_groupsOf r.generated
  refine ⟨_, hgroups, lines_eq_linesWith r, fun nameSpace => ⟨fun hmem => ?_, ?_⟩,
    fun file hmem => hgroups.count_header hmem, fun other hperm hplaces => ?_⟩
  · obtain ⟨group, hgroup, rfl⟩ := List.mem_map.1 hmem
    exact hgroups.exists_file hgroup
  · rintro ⟨file, hmem, rfl⟩
    exact List.count_pos_iff.1 (by rw [hgroups.count_header hmem]; decide)
  · have hsame := (isGrouping_groupsOf other.generated).of_perm hperm
    have hlines := lines_eq_linesWith other
    rw [hsame.unique hgroups hplaces] at hlines
    rw [hlines, lines_eq_linesWith r]
    exact ⟨rfl, linesWith_eq_iff hperm.length_eq _⟩

/-- Three files in two groups, and two documents that failed. -/
theorem lines_exact_setup :
    let project : Project := ⟨"Acme".toList, ⟨"src/Acme.csproj".toList⟩⟩
    let landing : GeneratedFile := ⟨⟨"2_Setup/_Index.md".toList⟩, ⟨"Setup/_Index.g.cs".toList⟩,
      "Acme.Apps.Setup".toList, "_IndexApp".toList, 2, true⟩
    let guide : GeneratedFile := ⟨⟨"2_Setup/1_Intro.md".toList⟩, ⟨"Setup/Intro.g.cs".toList⟩,
      "Acme.Apps.Setup".toList, "IntroApp".toList, -1, false⟩
    let welcome : GeneratedFile := ⟨⟨"1_Welcome.md".toList⟩, ⟨"Welcome.g.cs".toList⟩,
      "Acme.Apps".toList, "WelcomeApp".toList, 1, false⟩
    let failures : List Failure := [⟨⟨"2_Setup/3_Badge.md".toList⟩, .badViewBase "a-b".toList⟩,
      ⟨⟨"2_Setup/4_.md".toList⟩, .emptyName⟩]
    let r : Report := ⟨project, [landing, guide, welcome], failures⟩
    let other : Report := ⟨project, [welcome, landing, guide], failures⟩
    let groups : List Group :=
      [⟨"Acme.Apps".toList, [welcome]⟩, ⟨"Acme.Apps.Setup".toList, [guide, landing]⟩]
    (IsGrouping r.generated groups ∧ other.generated.Perm r.generated ∧
      (r.generated.map GeneratedFile.place).Nodup) ∧
    other.lines = r.lines ∧
    r.lines = [
      "Root namespace: Acme (from Acme.csproj)".toList,
      [],
      "Acme.Apps".toList,
      "    001 WelcomeApp → Welcome.g.cs".toList,
      "Acme.Apps.Setup".toList,
      "    -01 IntroApp → Setup/Intro.g.cs".toList,
      "    002 _IndexApp → Setup/_Index.g.cs (metadata only)".toList,
      [],
      "Failed".toList,
      "    2_Setup/3_Badge.md: viewBase \"a-b\" is not a valid type name".toList,
      "    2_Setup/4_.md: File name is empty once the ordinal prefix is removed".toList,
      [],
      "Generated 3 of 5 files; 2 failed".toList] := by
  intro project landing guide welcome failures r other groups
  have hgrouping : IsGrouping r.generated groups :=
    ⟨by decide, by decide, by decide, by decide, by decide⟩
  have hperm : other.generated.Perm r.generated := by decide
  have hplaces : (r.generated.map GeneratedFile.place).Nodup := by decide
  obtain ⟨found, hfound, hlines, -, -, hothers⟩ := lines_exact r
  obtain rfl : found = groups := hfound.unique hgrouping hplaces
  refine ⟨⟨hgrouping, hperm, hplaces⟩, (hothers other hperm hplaces).2.2 ⟨rfl, rfl⟩, ?_⟩
  rw [hlines]
  decide +kernel

end Report
end DocViews
