import DocViews.Proofs.Document.Clash

/-!
# Which clash is found

The search for clashes goes through the documents in their order and stops at the first one that
clashes with one before it.  Up to there no two documents clash, so there is only one document
before it with the same file, and only one with the same class: the answer does not depend on how
the documents before it are searched (`Document.clashWith?_eq_some_iff`).

Classes are compared without the part of the namespace that all documents of a run have in common.
This is the same as to compare them in full, whatever that part is (`fullClassName_eq_iff`).

The main statement is `Document.firstClash?_exact`.
-/

set_option autoImplicit false

namespace DocViews
namespace Document

variable {extension : Text}

/-! ## Classes in full -/

/-- The class of a document with its whole namespace. -/
def fullClassName (root apps : Text) (d : Document) : Text :=
  fullNamespace root apps d.location.namespaceSuffix ++ '.' :: d.className

theorem fullClassName_eq (root apps : Text) (d : Document) :
    d.fullClassName root apps = root ++ '.' :: (apps ++ '.' :: d.classKey) := by
  rw [fullClassName, fullNamespace, classKey]
  split <;> simp only [List.append_assoc, List.cons_append]

/-- **The common part of the namespaces does not matter.** -/
theorem fullClassName_eq_iff (root apps : Text) {d e : Document} :
    d.fullClassName root apps = e.fullClassName root apps ↔ d.classKey = e.classKey := by
  rw [fullClassName_eq, fullClassName_eq, List.append_cancel_left_eq, List.cons_inj_right,
    List.append_cancel_left_eq, List.cons_inj_right]

/-! ## Clashes with documents before -/

/-- Documents that do not clash are different if one of them has the file or the class of a third
one. -/
theorem eq_of_not_keptApart {documents : List Document}
    (h : documents.Pairwise (KeptApart extension)) {d e : Document} (hd : d ∈ documents)
    (he : e ∈ documents) (hde : ¬ KeptApart extension d e) : d = e := by
  by_contra hne
  exact hde (h.forall hd he hne)

/-- **A document clashes with the one before it that has the same file, or else with the one that has
the same class.** -/
theorem clashWith?_eq_some_iff {earlier : List Document} {d : Document} {clash : Clash}
    (h : earlier.Pairwise (KeptApart extension)) :
    clashWith? extension earlier d = some clash
      ↔ ∃ e ∈ earlier,
        ((e.output extension).components = (d.output extension).components ∧
          clash = .output (d.output extension) e.path d.path) ∨
        ((∀ o ∈ earlier, (o.output extension).components ≠ (d.output extension).components) ∧
          e.classKey = d.classKey ∧ clash = .className d.classKey e.path d.path) := by
  rw [clashWith?]
  split
  · next found hfound =>
    have hmem : found ∈ earlier := List.mem_of_find?_eq_some hfound
    have hsame : (found.output extension).components = (d.output extension).components := by
      simpa using List.find?_some hfound
    constructor
    · intro hclash
      exact ⟨found, hmem, Or.inl ⟨hsame, (Option.some.inj hclash).symm⟩⟩
    · rintro ⟨e, he, ⟨houtput, rfl⟩ | ⟨hnone, -⟩⟩
      · obtain rfl : found = e :=
          eq_of_not_keptApart h hmem he fun hkept => hkept.1 (hsame.trans houtput.symm)
        rfl
      · exact absurd hsame (hnone found hmem)
  · next hfresh =>
    have hnone : ∀ o ∈ earlier,
        (o.output extension).components ≠ (d.output extension).components := by
      simpa using List.find?_eq_none.1 hfresh
    split
    · next found hfound =>
      have hmem : found ∈ earlier := List.mem_of_find?_eq_some hfound
      have hsame : found.classKey = d.classKey := by simpa using List.find?_some hfound
      constructor
      · intro hclash
        exact ⟨found, hmem, Or.inr ⟨hnone, hsame, (Option.some.inj hclash).symm⟩⟩
      · rintro ⟨e, he, ⟨houtput, -⟩ | ⟨-, hclass, rfl⟩⟩
        · exact absurd houtput (hnone e he)
        · obtain rfl : found = e :=
            eq_of_not_keptApart h hmem he fun hkept => hkept.2 (hsame.trans hclass.symm)
          rfl
    · next hother =>
      refine ⟨fun hclash => absurd hclash (by simp), ?_⟩
      rintro ⟨e, he, ⟨houtput, -⟩ | ⟨-, hclass, -⟩⟩
      · exact absurd houtput (hnone e he)
      · exact absurd (decide_eq_true hclass) (List.find?_eq_none.1 hother e he)

/-- The induction is on the documents that are still to be looked at. -/
theorem firstClashAfter?_eq_some_iff {earlier documents : List Document} {clash : Clash} :
    firstClashAfter? extension earlier documents = some clash
      ↔ ∃ before d after, documents = before ++ d :: after ∧
        firstClashAfter? extension earlier before = none ∧
        clashWith? extension (earlier ++ before) d = some clash := by
  induction documents generalizing earlier with
  | nil => simp [firstClashAfter?]
  | cons first rest ih =>
    rw [firstClashAfter?]
    cases hfirst : clashWith? extension earlier first with
    | some found =>
      constructor
      · rintro ⟨⟩
        exact ⟨[], first, rest, rfl, rfl, by rwa [List.append_nil]⟩
      · rintro ⟨before, d, after, hsplit, hnone, hclash⟩
        cases before with
        | nil =>
          obtain ⟨rfl, -⟩ := List.cons.inj hsplit
          rw [List.append_nil, hfirst] at hclash
          exact hclash
        | cons b more =>
          obtain ⟨rfl, -⟩ := List.cons.inj hsplit
          rw [firstClashAfter?, hfirst] at hnone
          exact absurd hnone (by simp)
    | none =>
      simp only
      rw [ih]
      constructor
      · rintro ⟨before, d, after, rfl, hnone, hclash⟩
        refine ⟨first :: before, d, after, rfl, ?_, ?_⟩
        · rwa [firstClashAfter?, hfirst]
        · rwa [List.append_assoc, List.singleton_append] at hclash
      · rintro ⟨before, d, after, hsplit, hnone, hclash⟩
        cases before with
        | nil =>
          obtain ⟨rfl, -⟩ := List.cons.inj hsplit
          rw [List.append_nil, hfirst] at hclash
          exact absurd hclash (by simp)
        | cons b more =>
          obtain ⟨rfl, hrest⟩ := List.cons.inj hsplit
          rw [firstClashAfter?, hfirst] at hnone
          refine ⟨more, d, after, hrest, hnone, ?_⟩
          rwa [List.append_assoc, List.singleton_append]

/-! ## The first clash -/

/-- Two documents that do not clash, or of which one has no name. -/
def NamedApart (extension : Text) (d e : Document) : Prop :=
  d.stem ≠ [] → e.stem ≠ [] → KeptApart extension d e

theorem pairwise_filter_named {documents : List Document} :
    (documents.filter (·.stem ≠ [])).Pairwise (KeptApart extension)
      ↔ documents.Pairwise (NamedApart extension) := by
  rw [List.pairwise_filter]
  simp only [decide_eq_true_eq]
  rfl

/-- What the first clash of a list is: that of the first document that clashes with one before it,
with the one before it that has the same file, or else the same class. -/
inductive IsFirstClash (extension : Text) (documents : List Document) : Clash → Prop
  | output {before after : List Document} {d e : Document}
    (hsplit : documents = before ++ d :: after) (hdstem : d.stem ≠ [])
    (hbefore : before.Pairwise (NamedApart extension)) (he : e ∈ before) (hestem : e.stem ≠ [])
    (hsame : (e.output extension).components = (d.output extension).components) :
    IsFirstClash extension documents (.output (d.output extension) e.path d.path)
  | className {before after : List Document} {d e : Document}
    (hsplit : documents = before ++ d :: after) (hdstem : d.stem ≠ [])
    (hbefore : before.Pairwise (NamedApart extension)) (he : e ∈ before) (hestem : e.stem ≠ [])
    (houtputs : ∀ o ∈ before, o.stem ≠ [] →
      (o.output extension).components ≠ (d.output extension).components)
    (hsame : e.classKey = d.classKey) :
    IsFirstClash extension documents (.className d.classKey e.path d.path)

/-- A document of the named ones, with those before it and those behind it. -/
theorem filter_named_eq_append_cons_iff {documents before' after' : List Document} {d : Document} :
    documents.filter (·.stem ≠ []) = before' ++ d :: after'
      ↔ ∃ before after, documents = before ++ d :: after ∧ d.stem ≠ [] ∧
        before.filter (·.stem ≠ []) = before' ∧ after.filter (·.stem ≠ []) = after' := by
  rw [List.filter_eq_append_iff]
  constructor
  · rintro ⟨front, back, rfl, hfront, hback⟩
    obtain ⟨more, after, rfl, hmore, hd, hafter⟩ := List.filter_eq_cons_iff.1 hback
    refine ⟨front ++ more, after, (List.append_assoc ..).symm, of_decide_eq_true hd, ?_, hafter⟩
    rw [List.filter_append, hfront, List.filter_eq_nil_iff.2 hmore, List.append_nil]
  · rintro ⟨before, after, rfl, hd, hbefore, hafter⟩
    refine ⟨before, d :: after, rfl, hbefore, ?_⟩
    rw [List.filter_cons_of_pos (by simpa using hd), hafter]

theorem firstClash?_eq_some_iff {documents : List Document} {clash : Clash} :
    firstClash? extension documents = some clash ↔ IsFirstClash extension documents clash := by
  rw [firstClash?, firstClashAfter?_eq_some_iff]
  simp only [filter_named_eq_append_cons_iff, List.nil_append]
  constructor
  · rintro ⟨_, d, _, ⟨before, after, hsplit, hdstem, rfl, rfl⟩, hnone, hclash⟩
    have hkept := (firstClashAfter?_eq_none_iff.1 hnone).2
    have hbefore := pairwise_filter_named.1 hkept
    obtain ⟨e, he, ⟨hsame, rfl⟩ | ⟨houtputs, hsame, rfl⟩⟩ := (clashWith?_eq_some_iff hkept).1 hclash
    · obtain ⟨he, hestem⟩ := List.mem_filter.1 he
      exact .output hsplit hdstem hbefore he (of_decide_eq_true hestem) hsame
    · obtain ⟨he, hestem⟩ := List.mem_filter.1 he
      refine .className hsplit hdstem hbefore he (of_decide_eq_true hestem) ?_ hsame
      exact fun o ho hostem => houtputs o (List.mem_filter.2 ⟨ho, decide_eq_true hostem⟩)
  · intro h
    obtain ⟨before, d, after, hsplit, hdstem, hbefore, hclash⟩ :
        ∃ before d after, documents = before ++ d :: after ∧ d.stem ≠ [] ∧
          before.Pairwise (NamedApart extension) ∧
          clashWith? extension (before.filter (·.stem ≠ [])) d = some clash := by
      cases h with
      | output hsplit hdstem hbefore he hestem hsame =>
        refine ⟨_, _, _, hsplit, hdstem, hbefore, ?_⟩
        rw [clashWith?_eq_some_iff (pairwise_filter_named.2 hbefore)]
        exact ⟨_, List.mem_filter.2 ⟨he, decide_eq_true hestem⟩, Or.inl ⟨hsame, rfl⟩⟩
      | className hsplit hdstem hbefore he hestem houtputs hsame =>
        refine ⟨_, _, _, hsplit, hdstem, hbefore, ?_⟩
        rw [clashWith?_eq_some_iff (pairwise_filter_named.2 hbefore)]
        refine ⟨_, List.mem_filter.2 ⟨he, decide_eq_true hestem⟩, Or.inr ⟨?_, hsame, rfl⟩⟩
        intro o ho
        obtain ⟨ho, hostem⟩ := List.mem_filter.1 ho
        exact houtputs o ho (of_decide_eq_true hostem)
    refine ⟨_, d, _, ⟨before, after, hsplit, hdstem, rfl, rfl⟩, ?_, hclash⟩
    rw [firstClashAfter?_eq_none_iff]
    exact ⟨by simp, pairwise_filter_named.2 hbefore⟩

/-- A document without a name neither makes a clash nor hides one. -/
theorem firstClash?_nameless {d : Document} (h : d.stem = []) (before after : List Document) :
    firstClash? extension (before ++ d :: after) = firstClash? extension (before ++ after) := by
  rw [firstClash?, firstClash?, List.filter_append, List.filter_append,
    List.filter_cons_of_neg (by simp [h])]

/-- **The search for clashes is exact.**  It finds none exactly when any two named documents have
files that say different things and classes that are different in full, under every root namespace.
Otherwise it finds the first clash that there is; the class key that it tells is the same for the two
documents exactly when their classes are.  Documents without names are nothing to it. -/
theorem firstClash?_exact (extension : Text) (documents : List Document) :
    (firstClash? extension documents = none
      ↔ documents.Pairwise fun d e => d.stem ≠ [] → e.stem ≠ [] →
        (d.output extension).components ≠ (e.output extension).components ∧
        ∀ root apps, d.fullClassName root apps ≠ e.fullClassName root apps) ∧
    (∀ clash, firstClash? extension documents = some clash
      ↔ IsFirstClash extension documents clash) ∧
    (∀ (d e : Document) (root apps : Text),
      d.fullClassName root apps = e.fullClassName root apps ↔ d.classKey = e.classKey) ∧
    ∀ before d after, documents = before ++ d :: after → d.stem = [] →
      firstClash? extension documents = firstClash? extension (before ++ after) := by
  refine ⟨?_, fun clash => firstClash?_eq_some_iff,
    fun d e root apps => fullClassName_eq_iff root apps, ?_⟩
  · have hkept : ∀ d e : Document, KeptApart extension d e
        ↔ (d.output extension).components ≠ (e.output extension).components ∧
          ∀ root apps, d.fullClassName root apps ≠ e.fullClassName root apps := by
      intro d e
      simp only [KeptApart, Ne, fullClassName_eq_iff, forall_const]
    rw [firstClash?_eq_none_iff, pairwise_filter_named]
    exact List.Pairwise.iff fun d e => by rw [NamedApart, hkept]
  · rintro before d after rfl hstem
    exact firstClash?_nameless hstem before after

/-- The folder of the generated root is left out of the namespace, and a document without a name
between the two hides nothing. -/
example :
    firstClash? "cs".toList
        (["Generated/Intro.md", "Generated/1_.md", "Intro.md"].map fun path =>
          describe {} ⟨['/']⟩ ⟨['.']⟩ ⟨path.toList⟩)
      = some (.className "IntroApp".toList ⟨"Generated/Intro.md".toList⟩ ⟨"Intro.md".toList⟩) := by
  decide +kernel

end Document
end DocViews
