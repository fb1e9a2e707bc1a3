import DocViews.Proofs.Text.Lines

/-!
# What trimming leaves

A trimmed text is a part of the text (`mem_of_mem_trim`) that neither begins nor ends with a blank
(`isTrimmed_trim`).  Blanks around a text do not change what trimming leaves of it
(`trim_append_append`), and of a text without them it leaves everything (`IsTrimmed.trim_eq`).
-/

set_option autoImplicit false

namespace DocViews
namespace Text

/-- Whether a text neither begins nor ends with a blank. -/
def IsTrimmed (text : Text) : Prop :=
  ∀ c, text.head? = some c ∨ text.getLast? = some c → isBlank c = false

variable {text : Text}

theorem mem_of_mem_trimEnd {c : Char} (h : c ∈ trimEnd text) : c ∈ text :=
  List.mem_reverse.1 ((List.dropWhile_sublist _).subset (List.mem_reverse.1 h))

theorem mem_of_mem_trim {c : Char} (h : c ∈ trim text) : c ∈ text :=
  (List.dropWhile_sublist _).subset (mem_of_mem_trimEnd h)

/-- What is left of dropping blanks begins with no blank. -/
theorem isBlank_of_head?_dropWhile {c : Char} (h : (text.dropWhile isBlank).head? = some c) :
    isBlank c = false := by
  have hhead := List.head?_dropWhile_not isBlank text
  rw [h] at hhead
  exact hhead

theorem isTrimmed_trim (text : Text) : IsTrimmed (trim text) := by
  rintro c (h | h)
  · rw [← trimStart_trimEnd, trimStart] at h
    exact isBlank_of_head?_dropWhile h
  · rw [trim, trimEnd, List.getLast?_reverse] at h
    exact isBlank_of_head?_dropWhile h

/-- Nothing is dropped from a text that begins with no blank. -/
theorem dropWhile_isBlank_eq_self (h : ∀ c, text.head? = some c → isBlank c = false) :
    text.dropWhile isBlank = text := by
  cases text with
  | nil => rfl
  | cons c rest => exact List.dropWhile_cons_of_neg (by rw [h c rfl]; decide)

theorem IsTrimmed.trim_eq (h : IsTrimmed text) : trim text = text := by
  rw [trim, trimStart, dropWhile_isBlank_eq_self fun c hc => h c (.inl hc), trimEnd,
    dropWhile_isBlank_eq_self fun c hc => h c (.inr (List.head?_reverse ▸ hc)),
    List.reverse_reverse]

/-- Blanks around a text are trimmed. -/
theorem trim_append_append {front back : Text} (hfront : isBlankText front = true)
    (hback : isBlankText back = true) (text : Text) : trim (front ++ text ++ back) = trim text := by
  rw [← trimStart_trimEnd, trimEnd_append hback, trimStart_trimEnd, trim, trimStart_append hfront,
    trim]

end Text
end DocViews
