import DocViews.InputPattern
import DocViews.Proofs.Catalogue.Paths
import Mathlib.Data.List.TakeWhile

/-!
# Where an input pattern is cut

An input pattern is a path, and its input root is the folder part of this path up to its first step
with a wildcard (`SplitsAt`).  The root is a path itself, and it says these steps and nothing else
(`components_rootOf`).  So the root with the file pattern behind it is an input pattern again, which
is cut at the same place: `ofText_splits`.
-/

set_option autoImplicit false

namespace DocViews

namespace Path

theorem fileName?_eq_some_iff {path : Path} {name : Text} :
    path.fileName? = some name ↔ path.components.getLast? = some (.name name) := by
  rw [fileName?, Option.bind_eq_some_iff]
  constructor
  · rintro ⟨step, hlast, hname⟩
    rw [hlast, Component.eq_of_name?_eq_some hname]
  · intro hlast
    exact ⟨_, hlast, rfl⟩

/-- The last step of a path is a name, or leads up, or is the only one. -/
theorem fileName?_eq_none_iff {path : Path} :
    path.fileName? = none ↔ path.text = [] ∨ path.components = [.here] ∨
      path.components = [.root] ∨ path.components.getLast? = some .parent := by
  constructor
  · intro hnone
    by_cases htext : path.text = []
    · exact Or.inl htext
    · refine Or.inr ?_
      rcases List.eq_nil_or_concat' path.components with hnil | ⟨front, last, hsteps⟩
      · exact absurd hnil (components_ne_nil htext)
      · have hsound := sound_components path
        rw [fileName?, hsteps, List.getLast?_concat, Option.bind_some] at hnone
        rw [hsteps] at hsound ⊢
        -- the root and a point are said at the start only
        have honly : ¬ IsInner last → front = [] := fun hinner =>
          Decidable.byContradiction fun hne => hinner (hsound.isInner_last hne)
        cases last with
        | root => exact Or.inr (Or.inl (by rw [honly fun h => h.2 List.mem_cons_self]; rfl))
        | here => exact Or.inl (by rw [honly fun h => h.text_ne_here rfl]; rfl)
        | parent => exact Or.inr (Or.inr (List.getLast?_concat ..))
        | name text => exact absurd hnone (by simp [Component.name?])
  · obtain ⟨text⟩ := path
    rintro (rfl | hsteps | hsteps | hlast)
    · rfl
    · rw [fileName?, hsteps]
      rfl
    · rw [fileName?, hsteps]
      rfl
    · rw [fileName?, hlast]
      rfl

theorem isName_of_fileName? {path : Path} {name : Text} (h : path.fileName? = some name) :
    IsName name := by
  have hinner : IsInner (.name name) :=
    (sound_components path).isInner_name (List.mem_of_getLast? (fileName?_eq_some_iff.1 h))
  exact isName_of_component? hinner.1 hinner.2

end Path

namespace InputPattern

/-! ## The first wildcard -/

/-- A step without wildcards. -/
def IsLiteral (step : Component) : Prop :=
  '*' ∉ step.text ∧ '?' ∉ step.text ∧ '[' ∉ step.text

theorem hasWildcard_eq_false_iff {step : Component} :
    hasWildcard step = false ↔ IsLiteral step := by
  rw [hasWildcard, List.any_eq_false, IsLiteral]
  simp only [Bool.or_eq_true, decide_eq_true_eq, not_or, forall_and, List.forall_mem_ne',
    and_assoc]

/-- The steps of an input path: a folder part that is literal up to its first wildcard, and a last
name. -/
structure SplitsAt (input : Path) (literal wild : List Component) (name : Text) : Prop where
  components_eq : input.components = literal ++ wild ++ [.name name]
  literal : ∀ step ∈ literal, IsLiteral step
  wild : ∀ step ∈ wild.head?, ¬ IsLiteral step

variable {input : Path} {literal wild : List Component} {name : Text}

theorem exists_splitsAt (h : input.fileName? = some name) :
    ∃ literal wild, SplitsAt input literal wild name := by
  obtain ⟨folder, hsteps⟩ := List.getLast?_eq_some_iff.1 (Path.fileName?_eq_some_iff.1 h)
  refine ⟨folder.takeWhile (!hasWildcard ·), folder.dropWhile (!hasWildcard ·), ?_, ?_, ?_⟩
  · rw [List.takeWhile_append_dropWhile, hsteps]
  · intro step hstep
    exact hasWildcard_eq_false_iff.1 (by simpa using List.mem_takeWhile_imp hstep)
  · intro step hstep hliteral
    have hstop := List.head?_dropWhile_not (!hasWildcard ·) folder
    rw [hstep] at hstop
    simp only [hasWildcard_eq_false_iff.2 hliteral] at hstop
    exact absurd hstop (by decide)

namespace SplitsAt

theorem fileName? (h : SplitsAt input literal wild name) : input.fileName? = some name := by
  rw [Path.fileName?_eq_some_iff, h.components_eq, List.getLast?_concat]

theorem rootSteps_eq (h : SplitsAt input literal wild name) : rootSteps input = literal := by
  rw [rootSteps, Path.folderComponents, h.components_eq, List.dropLast_concat,
    List.takeWhile_append_of_pos fun step hstep => by
      rw [hasWildcard_eq_false_iff.2 (h.literal step hstep)]; rfl]
  cases hwild : wild with
  | nil => rw [List.takeWhile_nil, List.append_nil]
  | cons first rest =>
    have hfirst : hasWildcard first = true := by
      rw [← Bool.not_eq_false, hasWildcard_eq_false_iff]
      exact h.wild first (by rw [hwild]; rfl)
    rw [List.takeWhile_cons_of_neg (by rw [hfirst]; decide), List.append_nil]

/-- **The root says the literal steps**, or that it is here if there are none. -/
theorem components_rootOf (h : SplitsAt input literal wild name) :
    (rootOf input).components = if literal = [] then [.here] else literal := by
  have hsound : Path.Sound literal := by
    have hall := Path.sound_components input
    rw [h.components_eq, List.append_assoc] at hall
    exact hall.of_append
  rw [rootOf, h.rootSteps_eq]
  cases literal with
  | nil => rfl
  | cons first rest => exact Path.components_ofComponents hsound

theorem isLiteral_of_mem_root (h : SplitsAt input literal wild name) :
    ∀ step ∈ (rootOf input).components, IsLiteral step := by
  rw [h.components_rootOf]
  split
  · intro step hstep
    rw [List.mem_singleton.1 hstep]
    exact ⟨by decide, by decide, by decide⟩
  · exact h.literal

/-- Behind the root, the last name makes an input path without wildcards in its folder part. -/
theorem join_rootOf (h : SplitsAt input literal wild name) :
    SplitsAt ((rootOf input).join ⟨name⟩) (rootOf input).components [] name := by
  refine ⟨?_, h.isLiteral_of_mem_root, fun step hstep => absurd hstep (by simp)⟩
  rw [List.append_nil, Path.components_join_name _ (Path.isName_of_fileName? h.fileName?)]

/-- The root is cut off again. -/
theorem rootOf_join (h : SplitsAt input literal wild name) :
    rootOf ((rootOf input).join ⟨name⟩) = rootOf input := by
  conv_lhs => rw [rootOf, h.join_rootOf.rootSteps_eq, h.components_rootOf]
  rw [rootOf, h.rootSteps_eq]
  cases literal with
  | nil => rfl
  | cons first rest => rfl

end SplitsAt

/-! ## Reading an input pattern -/

theorem ofText_eq_ok_iff {input : Text} {pattern : InputPattern} :
    ofText input = .ok pattern ↔
      ∃ name, Path.fileName? ⟨input⟩ = some name ∧ FilePattern.ofText name = .ok pattern.files ∧
        pattern.root = rootOf ⟨input⟩ := by
  rw [ofText]
  cases Path.fileName? ⟨input⟩ with
  | none => simp
  | some name =>
    obtain ⟨root, files⟩ := pattern
    cases hfiles : FilePattern.ofText name with
    | error e => simp [hfiles]
    | ok found => simp [hfiles, eq_comm, and_comm]

theorem ofText_eq_noFilePattern_iff {input text : Text} :
    ofText input = .error (.noFilePattern text) ↔
      Path.fileName? ⟨input⟩ = none ∧ text = input := by
  rw [ofText]
  cases Path.fileName? ⟨input⟩ with
  | none => simp [eq_comm]
  | some name => cases hfiles : FilePattern.ofText name <;> simp [hfiles]

/-- **An input pattern is cut at its first wildcard.**  The root of an accepted pattern says the steps
in front of the first one with a wildcard, so it has none, and reading the root with the last name
behind it gives the same pattern.  A path has no file pattern exactly when its last step is no name:
it is empty, a point or the root alone, or leads up at its end. -/
theorem ofText_splits (input : Text) :
    (∀ pattern, ofText input = .ok pattern → ∃ literal wild name,
      SplitsAt ⟨input⟩ literal wild name ∧
        pattern.root.components = (if literal = [] then [.here] else literal) ∧
        (∀ step ∈ pattern.root.components, IsLiteral step) ∧
        FilePattern.ofText name = .ok pattern.files ∧
        ofText (pattern.root.join ⟨name⟩).text = .ok pattern) ∧
    (∀ text, ofText input = .error (.noFilePattern text) ↔ text = input ∧
      ∀ name, (Path.mk input).components.getLast? ≠ some (.name name)) ∧
    ((∀ name, (Path.mk input).components.getLast? ≠ some (.name name)) ↔
      input = [] ∨ (Path.mk input).components = [.here] ∨ (Path.mk input).components = [.root] ∨
        (Path.mk input).components.getLast? = some .parent) := by
  have hnone : (∀ name, (Path.mk input).components.getLast? ≠ some (.name name)) ↔
      Path.fileName? ⟨input⟩ = none := by
    rw [Option.eq_none_iff_forall_ne_some]
    exact forall_congr' fun name => not_congr Path.fileName?_eq_some_iff.symm
  refine ⟨fun pattern hpattern => ?_, fun text => ?_, ?_⟩
  · obtain ⟨name, hname, hfiles, hroot⟩ := ofText_eq_ok_iff.1 hpattern
    obtain ⟨literal, wild, hsplit⟩ := exists_splitsAt hname
    rw [hroot]
    refine ⟨literal, wild, name, hsplit, hsplit.components_rootOf, hsplit.isLiteral_of_mem_root,
      hfiles, ofText_eq_ok_iff.2 ⟨name, hsplit.join_rootOf.fileName?, hfiles, ?_⟩⟩
    exact hroot.trans hsplit.rootOf_join.symm
  · rw [hnone, ofText_eq_noFilePattern_iff, and_comm]
  · rw [hnone, Path.fileName?_eq_none_iff]

/-- Two points in front, an empty segment, wildcards in a folder and a slash at the end. -/
theorem ofText_splits_up :
    ofText "../Docs//v?/de/*.md/".toList
        = .ok ⟨⟨"../Docs".toList⟩, ⟨[.anyText, .char '.', .char 'm', .char 'd']⟩⟩ ∧
      (∃ wild, SplitsAt ⟨"../Docs//v?/de/*.md/".toList⟩ [.parent, .name "Docs".toList] wild
        "*.md".toList) ∧
      ofText "../Docs/*.md".toList
        = .ok ⟨⟨"../Docs".toList⟩, ⟨[.anyText, .char '.', .char 'm', .char 'd']⟩⟩ := by
  have hread : ofText "../Docs//v?/de/*.md/".toList
      = .ok ⟨⟨"../Docs".toList⟩, ⟨[.anyText, .char '.', .char 'm', .char 'd']⟩⟩ := by
    decide +kernel
  obtain ⟨literal, wild, name, hsplit, -, -, -, hagain⟩ := (ofText_splits _).1 _ hread
  have hsteps : rootSteps ⟨"../Docs//v?/de/*.md/".toList⟩ = [.parent, .name "Docs".toList] := by
    decide +kernel
  have hlast : Path.fileName? ⟨"../Docs//v?/de/*.md/".toList⟩ = some "*.md".toList := by
    decide +kernel
  obtain rfl := hsplit.rootSteps_eq.symm.trans hsteps
  obtain rfl := Option.some.inj (hsplit.fileName?.symm.trans hlast)
  exact ⟨hread, ⟨wild, hsplit⟩, hagain⟩

end InputPattern
end DocViews
