import DocViews.Text.Digits
import Mathlib.Algebra.Group.Nat.Defs
import Mathlib.Data.List.Basic

/-!
# Numerals, and numbers in texts

The numeral of a number is read back, has no needless zero in front, and is as long as the number is
large.

A text that is made for people mentions numbers among words.  `Digits.numbersIn` reads them again:
each longest run of digits stands for a number.  What is between the numbers does not matter as long
as it has no digits.
-/

set_option autoImplicit false

namespace DocViews
namespace Digits

theorem value_ofNat (n : Nat) : value (ofNat n) = n :=
  Nat.ofDigitChars_toDigits (by decide) (by decide)

theorem isDigit_of_mem_ofNat {n : Nat} {c : Char} (h : c ∈ ofNat n) : c.isDigit = true :=
  Nat.isDigit_of_mem_toDigits (by decide) (by decide) h

/-- The numeral of a number that is not zero has no zero in front. -/
theorem head?_ofNat {n : Nat} (h : n ≠ 0) : (ofNat n).head? ≠ some '0' := by
  induction n using Nat.strongRecOn with
  | ind n ih =>
    by_cases hsmall : n < 10
    · have hne := (by decide : ∀ k < 10, k ≠ 0 → Nat.digitChar k ≠ '0') n hsmall h
      rw [ofNat, Nat.toDigits_of_lt_base hsmall]
      simpa using hne
    · have hbig : 10 ≤ n := Nat.not_lt.1 hsmall
      have hne : Nat.toDigits 10 (n / 10) ≠ [] := Nat.toDigits_ne_nil
      rw [ofNat, Nat.toDigits_of_base_le (by decide) hbig, List.head?_append_of_ne_nil _ hne]
      exact ih (n / 10) (Nat.div_lt_self (by omega) (by decide)) (by omega)

theorem lt_pow_length_ofNat (n : Nat) : n < 10 ^ (ofNat n).length :=
  (Nat.length_toDigits_le_iff (by decide) Nat.length_toDigits_pos).1 (Nat.le_refl _)

theorem pow_length_ofNat_le {n : Nat} (h : n ≠ 0) : 10 ^ ((ofNat n).length - 1) ≤ n := by
  have hpos : 0 < (ofNat n).length := Nat.length_toDigits_pos
  rcases Nat.eq_zero_or_pos ((ofNat n).length - 1) with hone | hmore
  · rw [hone]
    exact Nat.one_le_iff_ne_zero.2 h
  · refine Nat.not_lt.1 fun hlt => ?_
    have hshort : (ofNat n).length ≤ (ofNat n).length - 1 :=
      (Nat.length_toDigits_le_iff (by decide) hmore).2 hlt
    omega

theorem value_append (digits more : Text) :
    value (digits ++ more) = 10 ^ more.length * value digits + value more :=
  (Nat.ofDigitChars_append 0).trans Nat.ofDigitChars_eq_ofDigitChars_zero

theorem value_zeros (n : Nat) : value (List.replicate n '0') = 0 :=
  Nat.ofDigitChars_replicate_zero.trans (Nat.mul_zero _)

/-- The numbers that a text mentions, from left to right. -/
def numbersIn (text : Text) : List Nat :=
  ((text.splitOnP fun c => !c.isDigit).filter (· ≠ [])).map value

theorem numbersIn_append_cons (before after : Text) {c : Char} (hc : c.isDigit = false) :
    numbersIn (before ++ c :: after) = numbersIn before ++ numbersIn after := by
  rw [numbersIn, List.splitOnP_append_cons before after (by simp [hc]), List.filter_append,
    List.map_append]
  rfl

theorem numbersIn_ofNat (n : Nat) : numbersIn (ofNat n) = [n] := by
  have hsplit : (ofNat n).splitOnP (fun c => !c.isDigit) = [ofNat n] :=
    List.splitOnP_eq_singleton fun c hc => by simp [isDigit_of_mem_ofNat hc]
  have hne : ofNat n ≠ [] := Nat.toDigits_ne_nil
  rw [numbersIn, hsplit, List.filter_cons_of_pos (by simpa using hne), List.map_cons, value_ofNat]
  rfl

/-- Words mention no numbers. -/
theorem numbersIn_append_of_words {words : Text} (h : words.any Char.isDigit = false)
    (rest : Text) : numbersIn (words ++ rest) = numbersIn rest := by
  induction words with
  | nil => rfl
  | cons c more ih =>
    rw [List.any_cons, Bool.or_eq_false_iff] at h
    have hcons := numbersIn_append_cons [] (more ++ rest) h.1
    rw [List.nil_append] at hcons
    rw [List.cons_append, hcons, ih h.2]
    rfl

/-- A numeral ends where words begin. -/
theorem numbersIn_ofNat_append (n : Nat) {words : Text} (hne : words ≠ [])
    (h : words.any Char.isDigit = false) (rest : Text) :
    numbersIn (ofNat n ++ (words ++ rest)) = n :: numbersIn rest := by
  obtain ⟨c, more, rfl⟩ := List.exists_cons_of_ne_nil hne
  rw [List.any_cons, Bool.or_eq_false_iff] at h
  rw [List.cons_append, numbersIn_append_cons _ _ h.1, numbersIn_ofNat,
    numbersIn_append_of_words h.2]
  rfl

example : numbersIn "Generated 2 of 13 files; 011 failed".toList = [2, 13, 11] := by decide +kernel

end Digits
end DocViews
