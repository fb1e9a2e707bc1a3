import DocViews.Proofs.Document.Clash
import DocViews.Proofs.Document.Output

/-!
# Documents in each other's way

Two outputs that say different things may still lead to the same place, and one may stand where the
other one has a folder.  Between straight documents the first does not happen, so the search for
clashes is enough for it (`landing_ne_of_straight`); nothing looks for the second.  With an
extension without slashes it takes a folder that is called like a generated file
(`below_landing_iff`).
-/

set_option autoImplicit false

namespace DocViews
namespace Document

variable {conventions : Conventions} {d e : Document} {extension : Text}

/-- Two straight documents that do not clash go to different places. -/
theorem landing_ne_of_straight (hd : d.IsDescribed conventions) (he : e.IsDescribed conventions)
    (hds : d.Straight extension) (hes : e.Straight extension) (h : KeptApart extension d e)
    (folder : Place) : d.landing extension folder ≠ e.landing extension folder := by
  intro heq
  rw [landing_of_straight hd hds, landing_of_straight he hes, List.append_cancel_left_eq] at heq
  have hplain := ((isPlain_output_iff hd).2 hds).components_eq
  rw [heq, ← ((isPlain_output_iff he).2 hes).components_eq] at hplain
  exact h.1 hplain

/-- **When the outputs of two documents that do not clash are not in each other's way**, wherever
the output root is. -/
theorem apart_resolve_iff (hd : d.IsDescribed conventions) (he : e.IsDescribed conventions)
    (h : KeptApart extension d e) (base : Place) (output : Path) :
    Place.Apart ((output.join (d.output extension)).resolve base)
        ((output.join (e.output extension)).resolve base)
      ↔ ((d.Straight extension ∧ e.Straight extension) ∨
          d.landing extension (output.resolve base)
            ≠ e.landing extension (output.resolve base)) ∧
        ¬ Place.Below (d.landing extension (output.resolve base))
          (e.landing extension (output.resolve base)) ∧
        ¬ Place.Below (e.landing extension (output.resolve base))
          (d.landing extension (output.resolve base)) := by
  rw [Path.resolve_join, Path.resolve_join, resolve_output hd, resolve_output he, Place.Apart]
  refine and_congr_left fun _ => ⟨Or.inr, ?_⟩
  rintro (⟨hds, hes⟩ | hne)
  · exact landing_ne_of_straight hd he hds hes h (output.resolve base)
  · exact hne

/-- One straight document stands where another one has a folder exactly when the other one is in a
folder that is called like its generated file. -/
theorem below_landing_iff (hd : d.IsDescribed conventions) (he : e.IsDescribed conventions)
    (hds : d.Straight extension) (hes : e.Straight extension) (hext : '/' ∉ extension)
    {folder : Place} (hne : d.landing extension folder ≠ e.landing extension folder) :
    Place.Below (d.landing extension folder) (e.landing extension folder)
      ↔ d.outputFolders ++ [d.outputName extension] <+: e.outputFolders := by
  rw [landing_of_straight hd hds, landing_of_straight he hes,
    names_output_of_straight hd hds hext, names_output_of_straight he hes hext] at hne ⊢
  rw [Ne, List.append_cancel_left_eq] at hne
  rw [Place.Below, List.prefix_append_right_inj, List.prefix_concat_iff, or_iff_right hne]
  exact and_iff_left_of_imp fun _ heq => hne (List.append_cancel_left heq)

end Document
end DocViews
