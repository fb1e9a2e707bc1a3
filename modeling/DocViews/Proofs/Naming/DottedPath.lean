import DocViews.Proofs.Naming.Identifier
import DocViews.Proofs.Text.Split

/-!
# Dotted paths

A name that has been repaired needs no repair (`Identifier.ofName_ofName`), and neither does the name
of a class (`Identifier.isIdentifier_className`).  No identifier holds a point, so a text with a point
in it is a dotted path exactly when both sides of the point are
(`Identifier.isDottedPath_append_point`), and identifiers come back from their join.
-/

set_option autoImplicit false

namespace DocViews
namespace Identifier

/-! ## Repairs -/

/-- A character stays as it is exactly when an identifier may hold it. -/
theorem sanitizeChar_eq_self_iff {c : Char} :
    sanitizeChar c = c ↔ isIdentifierChar c = true := by
  rw [sanitizeChar]
  split
  · next h => exact iff_of_true rfl h
  · next h =>
    refine iff_of_false (fun heq => h ?_) h
    rw [← heq]
    exact isIdentifierChar_underscore

theorem map_sanitizeChar_eq_self_iff {name : Text} :
    name.map sanitizeChar = name ↔ ∀ c ∈ name, isIdentifierChar c = true := by
  have hid : name.map sanitizeChar = name ↔ name.map sanitizeChar = name.map id := by
    rw [List.map_id]
  rw [hid, List.map_inj_left]
  exact forall₂_congr fun c _ => sanitizeChar_eq_self_iff

/-- The guard stands in front of a leading digit and nowhere else. -/
theorem guardDigit_eq_self_iff {name : Text} :
    guardDigit name = name ↔ ∀ c ∈ name.head?, c.isDigit = false := by
  cases name with
  | nil => simp [guardDigit]
  | cons c rest =>
    cases hc : c.isDigit <;> simp [guardDigit, hc]

/-- **A name needs no repair if its characters need none and it begins with no digit.** -/
theorem ofName_eq_self_iff {name : Text} :
    ofName name = name
      ↔ (∀ c ∈ name, isIdentifierChar c = true) ∧ ∀ c ∈ name.head?, c.isDigit = false := by
  constructor
  · intro h
    have hchars : ∀ c ∈ name, isIdentifierChar c = true := fun c hc =>
      isIdentifierChar_of_mem_ofName (h.symm ▸ hc)
    rw [ofName, map_sanitizeChar_eq_self_iff.2 hchars, guardDigit_eq_self_iff] at h
    exact ⟨hchars, h⟩
  · rintro ⟨hchars, hfirst⟩
    rw [ofName, map_sanitizeChar_eq_self_iff.2 hchars, guardDigit_eq_self_iff.2 hfirst]

theorem ofName_eq_nil_iff {name : Text} : ofName name = [] ↔ name = [] := by
  rw [ofName]
  cases name with
  | nil => exact iff_of_true rfl rfl
  | cons c rest =>
    rw [List.map_cons, guardDigit]
    split <;> simp

/-- The guard is no digit, so a repaired name begins with none. -/
theorem isDigit_of_mem_head?_ofName {name : Text} {c : Char} (h : c ∈ (ofName name).head?) :
    c.isDigit = false := by
  rw [ofName] at h
  cases hname : name.map sanitizeChar with
  | nil =>
    rw [hname] at h
    exact absurd h (by simp [guardDigit])
  | cons first rest =>
    rw [hname, guardDigit] at h
    split at h
    · obtain rfl : '_' = c := Option.some.inj h
      decide
    · next hdigit =>
      obtain rfl : first = c := Option.some.inj h
      exact Bool.not_eq_true _ ▸ hdigit

/-- **A repaired name needs no repair.** -/
theorem ofName_ofName (name : Text) : ofName (ofName name) = ofName name :=
  ofName_eq_self_iff.2
    ⟨fun _ => isIdentifierChar_of_mem_ofName, fun _ => isDigit_of_mem_head?_ofName⟩

theorem isIdentifier_ofName {name : Text} (h : name ≠ []) : isIdentifier (ofName name) = true := by
  have hne : ofName name ≠ [] := mt ofName_eq_nil_iff.1 h
  simpa [isIdentifier, ofName_ofName] using hne

/-- The word behind the identifier of a stem makes an identifier of an empty stem, too. -/
theorem isIdentifier_className (stem : Text) : isIdentifier (className stem) = true := by
  have hself : ofName (className stem) = className stem := by
    refine ofName_eq_self_iff.2 ⟨fun c hc => ?_, fun c hc => ?_⟩
    · rw [className, List.mem_append] at hc
      rcases hc with hstem | hword
      · exact isIdentifierChar_of_mem_ofName hstem
      · exact List.all_eq_true.1 (show "App".toList.all isIdentifierChar = true by decide +kernel) c
          hword
    · cases hstem : ofName stem with
      | nil =>
        rw [className, hstem] at hc
        obtain rfl : 'A' = c := Option.some.inj hc
        decide
      | cons first rest =>
        rw [className, hstem] at hc
        have hfirst : c ∈ (ofName stem).head? := by rw [hstem]; exact hc
        exact isDigit_of_mem_head?_ofName hfirst
  have hne : className stem ≠ [] := List.append_ne_nil_of_right_ne_nil _ (by decide)
  simpa [isIdentifier, hself] using hne

/-! ## Points -/

theorem point_notMem_of_isIdentifier {name : Text} (h : isIdentifier name = true) : '.' ∉ name :=
  fun hmem => absurd (isIdentifierChar_of_mem h hmem) (by decide +kernel)

/-- An identifier is a dotted path of one part. -/
theorem isDottedPath_of_isIdentifier {name : Text} (h : isIdentifier name = true) :
    isDottedPath name = true := by
  rw [isDottedPath, List.splitOn_eq_singleton (point_notMem_of_isIdentifier h), List.all_cons, h]
  rfl

/-- **A point joins dotted paths and nothing else.** -/
theorem isDottedPath_append_point {before after : Text} :
    isDottedPath (before ++ '.' :: after) = true
      ↔ isDottedPath before = true ∧ isDottedPath after = true := by
  rw [isDottedPath, List.splitOn_append_cons_self, List.all_append, Bool.and_eq_true]
  rfl

theorem splitOn_intercalate_identifiers {names : List Text} (hne : names ≠ [])
    (h : ∀ name ∈ names, isIdentifier name = true) :
    List.splitOn '.' (List.intercalate ['.'] names) = names :=
  List.splitOn_intercalate '.' (fun name hname => point_notMem_of_isIdentifier (h name hname)) hne

end Identifier

end DocViews
