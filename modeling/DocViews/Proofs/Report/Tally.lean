import DocViews.Conversion.Run
import DocViews.Proofs.Text.Numbers
import Mathlib.Data.List.Basic

/-!
# What a report says of its documents

A report has two lists, and the documents come back when they are merged: each step of the merge
takes the next entry of one of them (`Interleaving`).  So no document is lost or counted twice, and
both lists keep the order of the documents (`Conversion.interleaving_reportOf`).

The last line of the listing mentions how long the lists are (`Report.numbersIn_summary`).
-/

set_option autoImplicit false

namespace DocViews

/-! ## Merging two lists -/

/-- Whether a list is a merge of two others that keeps the order of each. -/
inductive Interleaving {α : Type} : List α → List α → List α → Prop
  | nil : Interleaving [] [] []
  | left (x : α) {xs ys zs : List α} (h : Interleaving xs ys zs) : Interleaving (x :: xs) ys (x :: zs)
  | right (y : α) {xs ys zs : List α} (h : Interleaving xs ys zs) :
    Interleaving xs (y :: ys) (y :: zs)

namespace Interleaving

variable {α : Type} {xs ys zs : List α}

theorem length_eq (h : Interleaving xs ys zs) : zs.length = xs.length + ys.length := by
  induction h with
  | nil => rfl
  | left x _ ih => rw [List.length_cons, List.length_cons, ih]; omega
  | right y _ ih => rw [List.length_cons, List.length_cons, ih]; omega

theorem sublist_left (h : Interleaving xs ys zs) : xs.Sublist zs := by
  induction h with
  | nil => exact .slnil
  | left x _ ih => exact ih.cons_cons x
  | right y _ ih => exact ih.cons y

theorem sublist_right (h : Interleaving xs ys zs) : ys.Sublist zs := by
  induction h with
  | nil => exact .slnil
  | left x _ ih => exact ih.cons x
  | right y _ ih => exact ih.cons_cons y

/-- If nothing occurs twice in a merge, an entry is in one of the lists only. -/
theorem notMem_right (h : Interleaving xs ys zs) (hnodup : zs.Nodup) {x : α} (hx : x ∈ xs) :
    x ∉ ys := by
  induction h with
  | nil => exact List.not_mem_nil
  | left first hrest ih =>
    obtain ⟨hfirst, hnodup⟩ := List.nodup_cons.1 hnodup
    rcases List.mem_cons.1 hx with rfl | hmem
    · exact fun hy => hfirst (hrest.sublist_right.subset hy)
    · exact ih hnodup hmem
  | right first hrest ih =>
    obtain ⟨hfirst, hnodup⟩ := List.nodup_cons.1 hnodup
    intro hy
    rcases List.mem_cons.1 hy with rfl | hmem
    · exact hfirst (hrest.sublist_left.subset hx)
    · exact ih hnodup hx hmem

end Interleaving

/-! ## The two lists of a report -/

namespace Conversion

variable {project : Project} {results : List (Document × Except DocumentError GeneratedFile)}

theorem mem_generated_reportOf {file : GeneratedFile} :
    file ∈ (reportOf project results).generated ↔ ∃ d, (d, .ok file) ∈ results := by
  rw [reportOf, List.mem_filterMap]
  constructor
  · rintro ⟨⟨d, answer⟩, hmem, hfile⟩
    cases answer with
    | ok made => exact ⟨d, Option.some.inj hfile ▸ hmem⟩
    | error e => exact nomatch hfile
  · rintro ⟨d, hmem⟩
    exact ⟨(d, .ok file), hmem, rfl⟩

/-- **The documents are the merge of what was generated and what failed**, if every file says which
document it is from.  Each result is the next entry of one of the two lists. -/
theorem interleaving_reportOf (project : Project)
    (hsource : ∀ d file, (d, .ok file) ∈ results → file.source = d.path) :
    Interleaving ((reportOf project results).generated.map GeneratedFile.source)
      ((reportOf project results).failures.map Failure.source)
      (results.map fun result => result.1.path) := by
  induction results with
  | nil => exact .nil
  | cons result rest ih =>
    obtain ⟨d, answer⟩ := result
    have hrest := ih fun e file hmem => hsource e file (List.mem_cons_of_mem _ hmem)
    cases answer with
    | ok file =>
      have hfile : file.source = d.path := hsource d file List.mem_cons_self
      show Interleaving (file.source :: _) _ (d.path :: _)
      rw [hfile]
      exact .left d.path hrest
    | error e => exact .right d.path hrest

end Conversion

/-! ## The summary -/

namespace Report

theorem succeeded_iff {r : Report} : r.succeeded = true ↔ r.failures = [] := by
  rw [succeeded, List.isEmpty_iff]

/-- **The summary mentions how many files there are**, and if some documents have failed, how many
documents there are and how many of them have failed. -/
theorem numbersIn_summary (r : Report) :
    Digits.numbersIn r.summary
      = if r.failures = [] then [r.generated.length]
        else [r.generated.length, r.total, r.failures.length] := by
  have hfront : ∀ rest, Digits.numbersIn ("Generated ".toList ++ rest) = Digits.numbersIn rest :=
    Digits.numbersIn_append_of_words (by decide +kernel)
  rw [summary]
  by_cases h : r.failures = []
  · rw [if_pos (succeeded_iff.2 h), if_pos h, List.append_assoc, hfront]
    have htail : Digits.numbersIn
        (Digits.ofNat r.generated.length ++ (" files successfully!".toList ++ []))
          = [r.generated.length] :=
      Digits.numbersIn_ofNat_append _ (by decide +kernel) (by decide +kernel) []
    rwa [List.append_nil] at htail
  · rw [if_neg (fun hok => h (succeeded_iff.1 hok)), if_neg h]
    simp only [List.append_assoc]
    rw [hfront, Digits.numbersIn_ofNat_append _ (by decide +kernel) (by decide +kernel),
      Digits.numbersIn_ofNat_append _ (by decide +kernel) (by decide +kernel)]
    have htail : Digits.numbersIn (Digits.ofNat r.failures.length ++ (" failed".toList ++ []))
        = [r.failures.length] :=
      Digits.numbersIn_ofNat_append _ (by decide +kernel) (by decide +kernel) []
    rw [List.append_nil] at htail
    rw [htail]

end Report
end DocViews
