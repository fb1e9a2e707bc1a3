import DocViews.Document
import Mathlib.Data.List.Pairwise

/-!
# What the search for clashes rules out

Every document is compared with those before it, so a list without a clash is one in which any two
documents with a name differ in what their outputs say and in their class keys
(`Document.firstClash?_eq_none_iff`).
-/

set_option autoImplicit false

namespace DocViews
namespace Document

variable {extension : Text}

/-- Two documents that do not clash. -/
def KeptApart (extension : Text) (d e : Document) : Prop :=
  (d.output extension).components ≠ (e.output extension).components ∧ d.classKey ≠ e.classKey

instance : Std.Symm (KeptApart extension) where
  symm _ _ h := ⟨h.1.symm, h.2.symm⟩

theorem clashWith?_eq_none_iff {earlier : List Document} {d : Document} :
    clashWith? extension earlier d = none ↔ ∀ e ∈ earlier, KeptApart extension e d := by
  rw [clashWith?]
  split
  · next e he =>
    have hsame := List.find?_some he
    refine ⟨fun h => absurd h (by simp), fun h => absurd (of_decide_eq_true hsame) ?_⟩
    exact (h e (List.mem_of_find?_eq_some he)).1
  · next houtput =>
    rw [List.find?_eq_none] at houtput
    split
    · next e he =>
      have hsame := List.find?_some he
      refine ⟨fun h => absurd h (by simp), fun h => absurd (of_decide_eq_true hsame) ?_⟩
      exact (h e (List.mem_of_find?_eq_some he)).2
    · next hclass =>
      rw [List.find?_eq_none] at hclass
      refine ⟨fun _ e he => ⟨?_, ?_⟩, fun _ => rfl⟩
      · simpa using houtput e he
      · simpa using hclass e he

theorem firstClashAfter?_eq_none_iff {earlier documents : List Document} :
    firstClashAfter? extension earlier documents = none
      ↔ (∀ e ∈ earlier, ∀ d ∈ documents, KeptApart extension e d) ∧
        documents.Pairwise (KeptApart extension) := by
  induction documents generalizing earlier with
  | nil => simp [firstClashAfter?]
  | cons d rest ih =>
    rw [firstClashAfter?, List.pairwise_cons]
    cases hclash : clashWith? extension earlier d with
    | some clash =>
      refine ⟨fun h => absurd h (by simp), fun h => ?_⟩
      have hnone := clashWith?_eq_none_iff.2 fun e he => h.1 e he d List.mem_cons_self
      exact absurd (hclash.symm.trans hnone) (by simp)
    | none =>
      rw [clashWith?_eq_none_iff] at hclash
      simp only [ih, List.forall_mem_append, List.forall_mem_cons, List.not_mem_nil,
        false_implies, implies_true, and_true]
      constructor
      · rintro ⟨⟨hearlier, hd⟩, hrest⟩
        exact ⟨fun e he => ⟨hclash e he, hearlier e he⟩, hd, hrest⟩
      · rintro ⟨hearlier, hd, hrest⟩
        exact ⟨⟨fun e he => (hearlier e he).2, hd⟩, hrest⟩

/-- **There is no clash exactly when any two named documents are kept apart.** -/
theorem firstClash?_eq_none_iff {documents : List Document} :
    firstClash? extension documents = none
      ↔ (documents.filter (·.stem ≠ [])).Pairwise (KeptApart extension) := by
  rw [firstClash?, firstClashAfter?_eq_none_iff]
  exact and_iff_right fun e he => absurd he List.not_mem_nil

/-- Two named documents of a list without a clash are kept apart. -/
theorem keptApart_of_firstClash?_eq_none {documents : List Document}
    (h : firstClash? extension documents = none) {d e : Document} (hd : d ∈ documents)
    (he : e ∈ documents) (hne : d ≠ e) (hdstem : d.stem ≠ []) (hestem : e.stem ≠ []) :
    KeptApart extension d e := by
  have hmem : ∀ {a : Document}, a ∈ documents → a.stem ≠ [] →
      a ∈ documents.filter (·.stem ≠ []) :=
    fun ha hstem => List.mem_filter.2 ⟨ha, decide_eq_true hstem⟩
  exact (firstClash?_eq_none_iff.1 h).forall (hmem hd hdstem) (hmem he hestem) hne

end Document
end DocViews
