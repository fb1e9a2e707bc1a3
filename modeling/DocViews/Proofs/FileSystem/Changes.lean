import DocViews.Proofs.FileSystem.Growth

/-!
# Changes of a tree

What a program does to a tree is seen at the faces: a change keeps the face at a place, or there is
another one afterwards.  Two runs make the same change if what one of them changes comes out the
same in the other one, and what it keeps is kept (`Node.SameChange`).

A tree that has taken the changes of several runs that each began on the same tree is their merge
(`Node.Merges`).  There is one merge at most, in whatever order the changes have come about
(`Node.Merges.alike`).
-/

set_option autoImplicit false

namespace DocViews
namespace Node

/-! ## The same change -/

/-- Whether two changes, from `s` to `s'` and from `t` to `t'`, are the same one: what the first one
changes comes out the same in the second one, and what it keeps is kept. -/
def SameChange (s s' t t' : Node) : Prop :=
  ∀ place, (faceAt place s' = faceAt place s ∧ faceAt place t' = faceAt place t) ∨
    (faceAt place s' ≠ faceAt place s ∧ faceAt place t' = faceAt place s')

/-- Changes one after another are the same if they are, as long as nothing is changed twice. -/
theorem SameChange.trans {s s' s'' t t' t'' : Node} (h : SameChange s s' t t')
    (hnext : SameChange s' s'' t' t'')
    (honce : ∀ place, faceAt place s'' ≠ faceAt place s' → faceAt place s' = faceAt place s) :
    SameChange s s'' t t'' := by
  intro place
  rcases hnext place with ⟨hs, ht⟩ | ⟨hs, ht⟩
  · rw [hs, ht]
    exact h place
  · exact Or.inr ⟨honce place hs ▸ hs, ht⟩

theorem SameChange.grown {s s' t t' : Node} (h : SameChange s s' t t') {written : Place → Prop}
    (hgrown : Grown written s t) : Grown written s' t' := by
  intro place
  rcases h place with ⟨hs, ht⟩ | ⟨-, ht⟩
  · rw [hs, ht]
    exact hgrown place
  · exact Or.inl ht

/-! ## Several changes -/

/-- Whether a tree is another one with the changes that lead from it to some others. -/
structure Merges (origin : Node) (parts : List Node) (whole : Node) : Prop where
  /-- What none of them has changed is as it was. -/
  kept : ∀ place, (∀ part ∈ parts, faceAt place part = faceAt place origin) →
    faceAt place whole = faceAt place origin
  taken : ∀ part ∈ parts, ∀ place, faceAt place part ≠ faceAt place origin →
    faceAt place whole = faceAt place part

namespace Merges

variable {origin whole : Node} {parts : List Node}

theorem nil (origin : Node) : Merges origin [] origin :=
  ⟨fun _ _ => rfl, fun _ h => absurd h List.not_mem_nil⟩

/-- One more change, which agrees with those before where both change something. -/
theorem concat {part whole' : Node} (h : Merges origin parts whole)
    (hchange : SameChange origin part whole whole')
    (hagree : ∀ other ∈ parts, ∀ place, faceAt place other ≠ faceAt place origin →
      faceAt place part ≠ faceAt place origin → faceAt place part = faceAt place other) :
    Merges origin (parts ++ [part]) whole' := by
  constructor
  · intro place hall
    have hpart := hall part (by simp)
    rcases hchange place with ⟨-, hwhole⟩ | ⟨hne, -⟩
    · rw [hwhole]
      exact h.kept place fun other hother => hall other (List.mem_append_left _ hother)
    · exact absurd hpart hne
  · intro other hother place hne
    rcases List.mem_append.1 hother with hold | hnew
    · rcases hchange place with ⟨-, hwhole⟩ | ⟨hpart, hwhole⟩
      · rw [hwhole]
        exact h.taken other hold place hne
      · rw [hwhole]
        exact hagree other hold place hne hpart
    · obtain rfl : other = part := List.mem_singleton.1 hnew
      rcases hchange place with ⟨hsame, -⟩ | ⟨-, hwhole⟩
      · exact absurd hsame hne
      · exact hwhole

/-- **There is one merge at most.** -/
theorem alike {parts' : List Node} {whole' : Node} (h : Merges origin parts whole)
    (h' : Merges origin parts' whole') (hparts : ∀ part, part ∈ parts ↔ part ∈ parts') :
    Alike whole whole' := by
  intro place
  by_cases hchanged : ∃ part ∈ parts, faceAt place part ≠ faceAt place origin
  · obtain ⟨part, hpart, hne⟩ := hchanged
    rw [h.taken part hpart place hne, h'.taken part ((hparts part).1 hpart) place hne]
  · have hsame : ∀ part ∈ parts, faceAt place part = faceAt place origin := by
      intro part hpart
      by_contra hne
      exact hchanged ⟨part, hpart, hne⟩
    rw [h.kept place hsame, h'.kept place fun part hpart => hsame part ((hparts part).2 hpart)]

theorem of_mem_iff {parts' : List Node} (h : Merges origin parts whole)
    (hparts : ∀ part, part ∈ parts ↔ part ∈ parts') : Merges origin parts' whole :=
  ⟨fun place hall => h.kept place fun part hpart => hall part ((hparts part).1 hpart),
    fun part hpart => h.taken part ((hparts part).2 hpart)⟩

end Merges
end Node
end DocViews
