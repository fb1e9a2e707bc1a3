import DocViews.Proofs.FileSystem.Changes
import DocViews.Proofs.FileSystem.Walk

/-!
# Opening a way down

`FileSystem.openDown` goes down from a folder by names and makes the folders that are missing, until
it has come to the end or something is in its way.

* What it changes are free places on the way, which become folders (`openDown_face`), and where it
  comes to the end, all of the way is folders (`openDown_folders`).
* Where a walk by the same names gets through, or is stopped for another reason than that something
  is missing, nothing is made (`opens_openDown`).
* On two trees that differ only by folders that one of them has on the way already, the outcome is
  the same, and so are the changes (`openDown_sameChange`).
-/

set_option autoImplicit false

namespace DocViews

open Node

namespace FileSystem

/-- Goes down by names and makes the folders that are missing. -/
def openDown (tree : Node) (place : Place) : List Text → Except DiskFault Unit × Node
  | [] => (.ok (), tree)
  | name :: rest =>
    if maxNameSize < Text.byteSize name then (.error .nameTooLong, tree)
    else
      match faceAt (place ++ [name]) tree with
      | none => openDown (put emptyFolder (place ++ [name]) tree) (place ++ [name]) rest
      | some (.folder _) => openDown tree (place ++ [name]) rest
      | some _ => (.error (if rest = [] then .alreadyExists else .notAFolder), tree)

/-- What stands at the end of a way is in the way of a longer one. -/
def inside : DiskFault → DiskFault
  | .alreadyExists => .notAFolder
  | fault => fault

section

variable {tree : Node} {place : Place} {name : Text} {rest : List Text}

/-! ## Steps -/

theorem openDown_long (h : maxNameSize < Text.byteSize name) :
    openDown tree place (name :: rest) = (.error .nameTooLong, tree) := by
  rw [openDown, if_pos h]

theorem openDown_free (hlong : ¬ maxNameSize < Text.byteSize name)
    (h : faceAt (place ++ [name]) tree = none) :
    openDown tree place (name :: rest)
      = openDown (put emptyFolder (place ++ [name]) tree) (place ++ [name]) rest := by
  rw [openDown, if_neg hlong, h]

theorem openDown_folder (hlong : ¬ maxNameSize < Text.byteSize name)
    (h : faceAt (place ++ [name]) tree = some emptyFolder) :
    openDown tree place (name :: rest) = openDown tree (place ++ [name]) rest := by
  rw [openDown, if_neg hlong, h]
  rfl

theorem openDown_blocked (hlong : ¬ maxNameSize < Text.byteSize name)
    (h : faceAt (place ++ [name]) tree ≠ some emptyFolder)
    (hthere : faceAt (place ++ [name]) tree ≠ none) :
    openDown tree place (name :: rest)
      = (.error (if rest = [] then .alreadyExists else .notAFolder), tree) := by
  obtain ⟨node, hnode⟩ := Option.ne_none_iff_exists'.1 hthere
  rw [openDown, if_neg hlong, hnode]
  cases node with
  | file content => rfl
  | link target => rfl
  | folder entries =>
    obtain rfl := eq_nil_of_faceAt_eq_folder hnode
    exact absurd hnode h

/-- The cases of a step from a folder. -/
theorem openDown_cases (tree : Node) (place : Place) (name : Text) :
    maxNameSize < Text.byteSize name ∨
      (¬ maxNameSize < Text.byteSize name ∧
        (faceAt (place ++ [name]) tree = none ∨
          faceAt (place ++ [name]) tree = some emptyFolder ∨
          (faceAt (place ++ [name]) tree ≠ some emptyFolder ∧
            faceAt (place ++ [name]) tree ≠ none))) := by
  by_cases hlong : maxNameSize < Text.byteSize name
  · exact Or.inl hlong
  · by_cases hnone : faceAt (place ++ [name]) tree = none
    · exact Or.inr ⟨hlong, Or.inl hnone⟩
    · by_cases hfolder : faceAt (place ++ [name]) tree = some emptyFolder
      · exact Or.inr ⟨hlong, Or.inr (Or.inl hfolder)⟩
      · exact Or.inr ⟨hlong, Or.inr (Or.inr ⟨hfolder, hnone⟩)⟩

/-- A new folder changes the face at its own place only. -/
theorem faceAt_put_emptyFolder (h : faceAt place tree = some emptyFolder)
    (hfree : faceAt (place ++ [name]) tree = none) (q : Place) :
    faceAt q (put emptyFolder (place ++ [name]) tree)
      = if q = place ++ [name] then some emptyFolder else faceAt q tree :=
  faceAt_put rfl h (by simp [hfree]) q

theorem linkFree_put_emptyFolder (hlinks : tree.LinkFree) (h : faceAt place tree = some emptyFolder)
    (hfree : faceAt (place ++ [name]) tree = none) :
    (put emptyFolder (place ++ [name]) tree).LinkFree := by
  rw [linkFree_iff] at hlinks ⊢
  intro q target hq
  rw [faceAt_put_emptyFolder h hfree] at hq
  split at hq
  · exact Node.noConfusion (Option.some.inj hq)
  · exact hlinks q target hq

/-! ## What is made -/

/-- **Opening a way makes folders on it and nothing else.** -/
theorem openDown_face {names : List Text} {place : Place} (tree : Node)
    (h : faceAt place tree = some emptyFolder) (q : Place) :
    faceAt q (openDown tree place names).2 = faceAt q tree ∨
      (faceAt q tree = none ∧ faceAt q (openDown tree place names).2 = some emptyFolder ∧
        place <+: q ∧ q <+: place ++ names) := by
  induction names generalizing tree place with
  | nil => exact Or.inl rfl
  | cons name rest ih =>
    have hway : place ++ [name] ++ rest = place ++ name :: rest := by simp
    rcases openDown_cases tree place name with hlong | ⟨hlong, hfree | hfolder | ⟨hne, hthere⟩⟩
    · rw [openDown_long hlong]
      exact Or.inl rfl
    · have hput := faceAt_put_emptyFolder h hfree
      rw [openDown_free hlong hfree]
      rcases ih _ ((hput _).trans (if_pos rfl)) with hsame | ⟨hnone, hnew, hbelow, habove⟩
      · by_cases hq : q = place ++ [name]
        · refine Or.inr ⟨hq ▸ hfree, ?_, hq ▸ List.prefix_append _ _, ?_⟩
          · rw [hsame, hput, if_pos hq]
          · rw [hq, ← hway]
            exact List.prefix_append _ _
        · rw [hput, if_neg hq] at hsame
          exact Or.inl hsame
      · rw [hput] at hnone
        split at hnone
        · exact absurd hnone (by simp)
        · exact Or.inr ⟨hnone, hnew, (List.prefix_append _ _).trans hbelow, hway ▸ habove⟩
    · rw [openDown_folder hlong hfolder]
      rcases ih tree hfolder with hsame | ⟨hnone, hnew, hbelow, habove⟩
      · exact Or.inl hsame
      · exact Or.inr ⟨hnone, hnew, (List.prefix_append _ _).trans hbelow, hway ▸ habove⟩
    · rw [openDown_blocked hlong hne hthere]
      exact Or.inl rfl

/-- Folders are not lost. -/
theorem openDown_keeps {names : List Text} (h : faceAt place tree = some emptyFolder) {q : Place}
    (hq : faceAt q tree ≠ none) : faceAt q (openDown tree place names).2 = faceAt q tree := by
  rcases openDown_face tree h q with hsame | ⟨hnone, -⟩
  · exact hsame
  · exact absurd hnone hq

theorem grown_openDown {names : List Text} (h : faceAt place tree = some emptyFolder) :
    Grown (fun _ => False) tree (openDown tree place names).2 := by
  intro q
  rcases openDown_face tree h q with hsame | ⟨hnone, hnew, -⟩
  · exact Or.inl hsame
  · exact Or.inr (Or.inl ⟨hnone, hnew⟩)

theorem linkFree_openDown {names : List Text} (hlinks : tree.LinkFree)
    (h : faceAt place tree = some emptyFolder) : (openDown tree place names).2.LinkFree :=
  (grown_openDown h).linkFree hlinks

/-- Opening a way never misses anything. -/
theorem openDown_ne_notFound (tree : Node) (place : Place) (names : List Text) :
    (openDown tree place names).1 ≠ .error .notFound := by
  induction names generalizing tree place with
  | nil => simp [openDown]
  | cons name rest ih =>
    rcases openDown_cases tree place name with hlong | ⟨hlong, hfree | hfolder | ⟨hne, hthere⟩⟩
    · rw [openDown_long hlong]
      simp
    · rw [openDown_free hlong hfree]
      exact ih _ _
    · rw [openDown_folder hlong hfolder]
      exact ih _ _
    · rw [openDown_blocked hlong hne hthere]
      split <;> simp

/-- **A way that has been opened is all folders.** -/
theorem openDown_folders {names : List Text} {place : Place} {tree : Node}
    (h : faceAt place tree = some emptyFolder)
    (hok : (openDown tree place names).1 = .ok ()) {q : Place} (hbelow : place <+: q)
    (habove : q <+: place ++ names) :
    faceAt q (openDown tree place names).2 = some emptyFolder := by
  induction names generalizing tree place with
  | nil =>
    rw [List.append_nil] at habove
    rw [List.IsPrefix.eq_of_length habove (Nat.le_antisymm habove.length_le hbelow.length_le)]
    exact h
  | cons name rest ih =>
    have hway : place ++ [name] ++ rest = place ++ name :: rest := by simp
    -- the place itself is kept; what is below it is on the rest of the way
    have hq : q = place ∨ place ++ [name] <+: q := by
      obtain ⟨more, rfl⟩ := hbelow
      rw [List.prefix_append_right_inj] at habove
      cases more with
      | nil => exact Or.inl (List.append_nil place)
      | cons first tail =>
        obtain ⟨rfl, -⟩ := List.cons_prefix_cons.1 habove
        exact Or.inr ((List.prefix_append_right_inj place).2 ⟨tail, rfl⟩)
    have hkeep : q = place → faceAt q (openDown tree place (name :: rest)).2 = some emptyFolder := by
      rintro rfl
      rw [openDown_keeps h (by simp [h]), h]
    refine hq.elim hkeep fun hbelow => ?_
    rw [← hway] at habove
    rcases openDown_cases tree place name with hlong | ⟨hlong, hfree | hfolder | ⟨hne, hthere⟩⟩
    · rw [openDown_long hlong] at hok
      exact absurd hok (by simp)
    · rw [openDown_free hlong hfree] at hok ⊢
      exact ih ((faceAt_put_emptyFolder h hfree _).trans (if_pos rfl)) hok hbelow habove
    · rw [openDown_folder hlong hfolder] at hok ⊢
      exact ih hfolder hok hbelow habove
    · rw [openDown_blocked hlong hne hthere] at hok
      exact absurd hok (by simp)

/-! ## A way is opened one name after another -/

theorem openDown_concat {names : List Text} (tree : Node) (place : Place) (last : Text) :
    openDown tree place (names ++ [last])
      = match openDown tree place names with
        | (.ok (), opened) => openDown opened (place ++ names) [last]
        | (.error fault, opened) => (.error (inside fault), opened) := by
  induction names generalizing tree place with
  | nil => simp only [List.nil_append, List.append_nil, openDown]
  | cons name rest ih =>
    have hway : place ++ [name] ++ rest = place ++ name :: rest := by simp
    rw [List.cons_append]
    rcases openDown_cases tree place name with hlong | ⟨hlong, hfree | hfolder | ⟨hne, hthere⟩⟩
    · rw [openDown_long hlong, openDown_long hlong]
      rfl
    · rw [openDown_free hlong hfree, openDown_free hlong hfree, ih, hway]
    · rw [openDown_folder hlong hfolder, openDown_folder hlong hfolder, ih, hway]
    · rw [openDown_blocked hlong hne hthere, openDown_blocked hlong hne hthere,
        if_neg (by simp)]
      simp only
      split <;> rfl

end

/-! ## Opening and walking -/

/-- What comes of opening a way, by where a walk leads to. -/
inductive Opens (tree : Node) : Except DiskFault Spot → Except DiskFault Unit × Node → Prop
  /-- The way is there. -/
  | through {p : Place} (h : faceAt p tree = some emptyFolder) :
    Opens tree (.ok (.taken p)) (.ok (), tree)
  /-- There is something at its end, and it is no folder. -/
  | blocked {p : Place} (h : faceAt p tree ≠ some emptyFolder) :
    Opens tree (.ok (.taken p)) (.error .alreadyExists, tree)
  | stopped {fault : DiskFault} (hmissing : fault ≠ .notFound) (hthere : fault ≠ .alreadyExists) :
    Opens tree (.error fault) (.error fault, tree)
  /-- The last name is free: a new folder can only be refused for its name. -/
  | free {above : Place} {name : Text} {made : Except DiskFault Unit × Node}
    (h : made.1 = .ok () ∨ made.1 = .error .nameTooLong) : Opens tree (.ok (.free above name)) made
  | missing {made : Except DiskFault Unit × Node}
    (h : made.1 = .ok () ∨ made.1 = .error .nameTooLong) : Opens tree (.error .notFound) made

/-- In an empty folder nothing is in the way. -/
theorem openDown_empty {names : List Text} {tree : Node} {place : Place}
    (h : faceAt place tree = some emptyFolder)
    (hempty : ∀ name, faceAt (place ++ [name]) tree = none) :
    (openDown tree place names).1 = .ok () ∨
      (openDown tree place names).1 = .error .nameTooLong := by
  induction names generalizing tree place with
  | nil => exact Or.inl rfl
  | cons name rest ih =>
    by_cases hlong : maxNameSize < Text.byteSize name
    · rw [openDown_long hlong]
      exact Or.inr rfl
    · have hput := faceAt_put_emptyFolder h (hempty name)
      rw [openDown_free hlong (hempty name)]
      refine ih ((hput _).trans (if_pos rfl)) fun next => ?_
      rw [hput, if_neg (by simp)]
      exact faceAt_append_eq_none (by simp [hempty name]) (by simp)

section

variable {tree : Node} (hlinks : tree.LinkFree)

include hlinks

/-- **Opening a way goes as far as a walk does**, and makes something only where the walk misses
it. -/
theorem opens_openDown {names : List Text}
    (hnames : ∀ name ∈ names, Path.component? name = some (.name name)) {place : Place}
    (h : faceAt place tree = some emptyFolder) :
    Opens tree (walk tree names place) (openDown tree place names) := by
  induction names generalizing place with
  | nil => exact .through h
  | cons name rest ih =>
    have hrest : ∀ name ∈ rest, Path.component? name = some (.name name) :=
      fun n hn => hnames n (List.mem_cons_of_mem _ hn)
    rw [walk_name hlinks h (hnames name List.mem_cons_self)]
    rcases openDown_cases tree place name with hlong | ⟨hlong, hfree | hfolder | ⟨hne, hthere⟩⟩
    · rw [if_pos hlong, openDown_long hlong]
      exact .stopped (by simp) (by simp)
    · have hput := faceAt_put_emptyFolder h hfree
      have hmade : (openDown tree place (name :: rest)).1 = .ok () ∨
          (openDown tree place (name :: rest)).1 = .error .nameTooLong := by
        rw [openDown_free hlong hfree]
        refine openDown_empty ((hput _).trans (if_pos rfl)) fun next => ?_
        rw [hput, if_neg (by simp)]
        exact faceAt_append_eq_none (by simp [hfree]) (by simp)
      rw [if_neg hlong, hfree]
      simp only
      split
      · exact .free hmade
      · exact .missing hmade
    · rw [if_neg hlong, hfolder, openDown_folder hlong hfolder]
      exact ih hrest hfolder
    · obtain ⟨node, hnode⟩ := Option.ne_none_iff_exists'.1 hthere
      rw [if_neg hlong, hnode, openDown_blocked hlong hne hthere]
      cases rest with
      | nil => exact .blocked hne
      | cons next more =>
        simp only
        rw [walk_of_ne hne]
        exact .stopped (by simp) (by simp)

/-- A way that has been opened can be walked. -/
theorem walk_openDown {names : List Text}
    (hnames : ∀ name ∈ names, Path.component? name = some (.name name)) {place : Place}
    (h : faceAt place tree = some emptyFolder)
    (hok : (openDown tree place names).1 = .ok ()) :
    walk (openDown tree place names).2 names place = .ok (.taken (place ++ names)) := by
  induction names generalizing tree place with
  | nil =>
    rw [List.append_nil]
    rfl
  | cons name rest ih =>
    have hrest : ∀ name ∈ rest, Path.component? name = some (.name name) :=
      fun n hn => hnames n (List.mem_cons_of_mem _ hn)
    have hway : place ++ [name] ++ rest = place ++ name :: rest := by simp
    have hplace : faceAt place (openDown tree place (name :: rest)).2 = some emptyFolder := by
      rw [openDown_keeps h (by simp [h]), h]
    have hnext : faceAt (place ++ [name]) (openDown tree place (name :: rest)).2
        = some emptyFolder :=
      openDown_folders h hok (List.prefix_append _ _) (by simp)
    rw [walk_name (linkFree_openDown hlinks h) hplace (hnames name List.mem_cons_self), hnext]
    rcases openDown_cases tree place name with hlong | ⟨hlong, hfree | hfolder | ⟨hne, hthere⟩⟩
    · rw [openDown_long hlong] at hok
      exact absurd hok (by simp)
    · have hput := faceAt_put_emptyFolder h hfree
      rw [openDown_free hlong hfree] at hok ⊢
      rw [if_neg hlong, ← hway]
      exact ih (linkFree_put_emptyFolder hlinks h hfree) hrest ((hput _).trans (if_pos rfl)) hok
    · rw [openDown_folder hlong hfolder] at hok ⊢
      rw [if_neg hlong, ← hway]
      exact ih hlinks hrest hfolder hok
    · rw [openDown_blocked hlong hne hthere] at hok
      exact absurd hok (by simp)

end

/-! ## Two trees -/

section

variable {place : Place} {name : Text} {s t : Node}

/-- A step into a folder, which is made if it is missing. -/
theorem openDown_into (rest : List Text) (hs : faceAt place s = some emptyFolder)
    (hlong : ¬ maxNameSize < Text.byteSize name)
    (hnext : faceAt (place ++ [name]) s = none ∨ faceAt (place ++ [name]) s = some emptyFolder) :
    ∃ next, openDown s place (name :: rest) = openDown next (place ++ [name]) rest ∧
      ∀ q, faceAt q next = if q = place ++ [name] then some emptyFolder else faceAt q s := by
  rcases hnext with hfree | hfolder
  · exact ⟨_, openDown_free hlong hfree, faceAt_put_emptyFolder hs hfree⟩
  · refine ⟨s, openDown_folder hlong hfolder, fun q => ?_⟩
    split
    · next hq => rw [hq, hfolder]
    · rfl

/-- Steps into the same folder change the same, if the second tree is as the first one there or has
the folder that the first one gets. -/
theorem sameChange_into {s' t' : Node} {into : Place}
    (hs' : ∀ q, faceAt q s' = if q = into then some emptyFolder else faceAt q s)
    (ht' : ∀ q, faceAt q t' = if q = into then some emptyFolder else faceAt q t)
    (hnext : faceAt into s = none ∨ faceAt into s = some emptyFolder)
    (h : faceAt into t = faceAt into s ∨ (faceAt into s = none ∧ faceAt into t = some emptyFolder)) :
    SameChange s s' t t' := by
  intro q
  rw [hs', ht']
  split
  · next hq =>
    subst hq
    rcases hnext with hfree | hfolder
    · exact Or.inr ⟨by simp [hfree], rfl⟩
    · rcases h with hsame | ⟨hnone, -⟩
      · exact Or.inl ⟨hfolder.symm, (hsame.trans hfolder).symm⟩
      · exact absurd (hfolder.symm.trans hnone) (by simp)
  · exact Or.inl ⟨rfl, rfl⟩

/-- **On a tree that has some of the way already, opening it comes out the same.**  The induction is
on the names; at each of them the second tree is as the first one, or has the folder that the first
one gets. -/
theorem openDown_sameChange {names : List Text}
    (hs : faceAt place s = some emptyFolder) (ht : faceAt place t = some emptyFolder)
    (h : ∀ q, place <+: q → q <+: place ++ names →
      faceAt q t = faceAt q s ∨ (faceAt q s = none ∧ faceAt q t = some emptyFolder)) :
    (openDown t place names).1 = (openDown s place names).1 ∧
      SameChange s (openDown s place names).2 t (openDown t place names).2 := by
  induction names generalizing place s t with
  | nil => exact ⟨rfl, fun _ => Or.inl ⟨rfl, rfl⟩⟩
  | cons name rest ih =>
    have hway : place ++ [name] ++ rest = place ++ name :: rest := by simp
    have hnext := h (place ++ [name]) (List.prefix_append _ _) (by simp)
    by_cases hlong : maxNameSize < Text.byteSize name
    · rw [openDown_long hlong, openDown_long hlong]
      exact ⟨rfl, fun _ => Or.inl ⟨rfl, rfl⟩⟩
    by_cases hopen : faceAt (place ++ [name]) s = none ∨
        faceAt (place ++ [name]) s = some emptyFolder
    · have hopent : faceAt (place ++ [name]) t = none ∨
          faceAt (place ++ [name]) t = some emptyFolder := by
        rcases hnext with hsame | ⟨-, hfolder⟩
        · rwa [hsame]
        · exact Or.inr hfolder
      obtain ⟨s', hintos, hfaces⟩ := openDown_into rest hs hlong hopen
      obtain ⟨t', hintot, hfacet⟩ := openDown_into rest ht hlong hopent
      have hfolder : faceAt (place ++ [name]) s' = some emptyFolder := by rw [hfaces, if_pos rfl]
      obtain ⟨hsame, hchange⟩ := ih hfolder (by rw [hfacet, if_pos rfl]) (by
        intro q hq hq'
        rw [hfaces, hfacet]
        split
        · exact Or.inl rfl
        · exact h q ((List.prefix_append _ _).trans hq) (hway ▸ hq'))
      rw [hintos, hintot]
      refine ⟨hsame, (sameChange_into hfaces hfacet hopen hnext).trans hchange fun q hq => ?_⟩
      -- the folder of this step is there, so the next ones do not change it
      have hne : q ≠ place ++ [name] := by
        rintro rfl
        exact hq (openDown_keeps hfolder (by simp [hfolder]))
      rw [hfaces, if_neg hne]
    · obtain ⟨hthere, hne⟩ := not_or.1 hopen
      have hsame : faceAt (place ++ [name]) t = faceAt (place ++ [name]) s := by
        rcases hnext with hsame | ⟨hnone, -⟩
        · exact hsame
        · exact absurd hnone hthere
      rw [openDown_blocked hlong hne hthere,
        openDown_blocked hlong (hsame ▸ hne) (hsame ▸ hthere)]
      exact ⟨rfl, fun _ => Or.inl ⟨rfl, rfl⟩⟩

end

end FileSystem
end DocViews
