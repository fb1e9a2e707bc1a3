import DocViews.Proofs.Decimal.Shortest
import DocViews.Proofs.Text.Numbers
import DocViews.Toml.Number

/-!
# Floats are written to be read

A decimal is laid out with all of its places or with a power of ten.  Either way it is a `Numeral`
of the same worth, and a numeral is read as the value that its worth is rounded to.  As the shortest
decimal of a value is rounded to that value, what is written of a float is read as the same float
(`readFloat?_textWith`), and every float that was read is of the form that this needs
(`readFloat?_text_of_readFloat?`).
-/

set_option autoImplicit false

namespace DocViews

namespace Toml

variable {digits rest : Text}

/-! ## Runs of digits -/

/-- A run of digits. -/
structure IsRun (digits : Text) : Prop where
  nonempty : digits ≠ []
  isDigit : ∀ c ∈ digits, c.isDigit = true

/-- A run of digits without a needless zero in front. -/
structure IsPlainRun (digits : Text) : Prop extends IsRun digits where
  plain : digits = ['0'] ∨ digits.head? ≠ some '0'

theorem isRun_ofNat (n : Nat) : IsRun (Digits.ofNat n) :=
  ⟨Nat.toDigits_ne_nil, fun _ => Digits.isDigit_of_mem_ofNat⟩

theorem IsRun.singleton (h : IsRun digits) {c : Char} (hc : c ∈ digits) : IsRun [c] :=
  ⟨List.cons_ne_nil _ _, fun _ hmem => List.mem_singleton.1 hmem ▸ h.isDigit c hc⟩

theorem IsRun.replicate_append (h : IsRun digits) (zeros : Nat) :
    IsRun (List.replicate zeros '0' ++ digits) := by
  refine ⟨List.append_ne_nil_of_right_ne_nil _ h.nonempty, fun c hc => ?_⟩
  rcases List.mem_append.1 hc with hc | hc
  · rw [List.eq_of_mem_replicate hc]
    rfl
  · exact h.isDigit c hc

/-- A text that does not go on with a run of digits. -/
def EndsRun (rest : Text) : Prop :=
  ∀ c ∈ rest.head?, c.isDigit = false ∧ c ≠ '_'

theorem endsRun_nil : EndsRun [] := by
  rintro c ⟨⟩

theorem digitRun_append (h : ∀ c ∈ digits, c.isDigit = true) (hrest : EndsRun rest) :
    digitRun Char.isDigit (digits ++ rest) = (digits, rest) := by
  induction digits with
  | nil =>
    cases rest with
    | nil => rfl
    | cons c more =>
      obtain ⟨hc, hbar⟩ := hrest c rfl
      rw [List.nil_append, digitRun, if_neg (by simp [hc]), if_neg (by simp [hbar])]
  | cons c more ih =>
    rw [List.cons_append, digitRun, if_pos (h c List.mem_cons_self),
      ih fun d hd => h d (List.mem_cons_of_mem _ hd)]

theorem IsRun.readRun?_append (h : IsRun digits) (hrest : EndsRun rest) :
    readRun? Char.isDigit (digits ++ rest) = some (digits, rest) := by
  obtain ⟨c, more, rfl⟩ := List.exists_cons_of_ne_nil h.nonempty
  rw [readRun?, digitRun_append h.isDigit hrest, if_pos]
  simpa using h.isDigit c List.mem_cons_self

theorem readRun?_ofNat (n : Nat) :
    readRun? Char.isDigit (Digits.ofNat n) = some (Digits.ofNat n, []) := by
  have hread := (isRun_ofNat n).readRun?_append endsRun_nil
  rwa [List.append_nil] at hread

theorem IsPlainRun.readDecimal?_append (h : IsPlainRun digits) (hrest : EndsRun rest) :
    readDecimal? (digits ++ rest) = some (digits, rest) := by
  rcases h.plain with rfl | hzero
  · rfl
  · obtain ⟨c, more, rfl⟩ := List.exists_cons_of_ne_nil h.nonempty
    have hc : c ≠ '0' := fun heq => hzero (by rw [heq, List.head?_cons])
    rw [List.cons_append, readDecimal?.eq_2 _ (by simpa using hc), ← List.cons_append]
    exact h.readRun?_append hrest

theorem IsRun.readSign_append (h : IsRun digits) (rest : Text) :
    readSign (digits ++ rest) = (false, digits ++ rest) := by
  obtain ⟨c, more, rfl⟩ := List.exists_cons_of_ne_nil h.nonempty
  have hc := h.isDigit c List.mem_cons_self
  rw [List.cons_append, readSign.eq_3]
  · rintro _ ⟨⟩
    exact absurd hc (by decide)
  · rintro _ ⟨⟩
    exact absurd hc (by decide)

/-! ## Exponents -/

theorem readExponent?_ofInt (e : Int) :
    readExponent? ('e' :: Digits.ofInt e) = some (some e, []) := by
  rw [readExponent?, if_pos (by decide)]
  cases e with
  | ofNat n =>
    have hsign := (isRun_ofNat n).readSign_append []
    rw [List.append_nil] at hsign
    rw [Digits.ofInt, hsign]
    simp only [readRun?_ofNat, Digits.value_ofNat, Option.bind_eq_bind, Option.bind_some]
    rfl
  | negSucc n =>
    rw [Digits.ofInt, readSign]
    simp only [readRun?_ofNat, Digits.value_ofNat, Option.bind_eq_bind, Option.bind_some]
    rfl

/-! ## Numerals -/

/-- A number in digits with a fraction or an exponent, in its parts. -/
structure Numeral where
  whole : Text
  fraction : Option Text
  exponent : Option Int
  isPlainRun : IsPlainRun whole
  isRun : ∀ places ∈ fraction, IsRun places
  marked : fraction.isSome ∨ exponent.isSome

namespace Numeral

variable (n : Numeral)

def fractionText : Text :=
  n.fraction.elim [] ('.' :: ·)

def exponentText : Text :=
  n.exponent.elim [] fun e => 'e' :: Digits.ofInt e

def text : Text :=
  n.whole ++ (n.fractionText ++ n.exponentText)

def places : Text :=
  n.fraction.getD []

/-- The power of ten that the digits, read as one whole number, are multiplied by. -/
def tens : Int :=
  n.exponent.getD 0 - n.places.length

def worth : ℚ :=
  Digits.value (n.whole ++ n.places) * 10 ^ n.tens

theorem endsRun_exponentText : EndsRun n.exponentText := by
  rw [exponentText]
  cases n.exponent with
  | none => exact endsRun_nil
  | some e => rintro c ⟨⟩; decide

theorem endsRun_fractionText : EndsRun (n.fractionText ++ n.exponentText) := by
  have hexponent := n.endsRun_exponentText
  rw [fractionText]
  cases n.fraction with
  | none => exact hexponent
  | some places => rintro c ⟨⟩; decide

theorem readExponent?_text : readExponent? n.exponentText = some (n.exponent, []) := by
  rw [exponentText]
  cases n.exponent with
  | none => rfl
  | some e => exact readExponent?_ofInt e

theorem readFraction?_text :
    readFraction? (n.fractionText ++ n.exponentText) = some (n.fraction, n.exponentText) := by
  rw [fractionText]
  cases hfraction : n.fraction with
  | none =>
    rw [exponentText]
    cases n.exponent <;> rfl
  | some places =>
    have hread := (n.isRun places hfraction).readRun?_append n.endsRun_exponentText
    rw [Option.elim, List.cons_append, readFraction?, hread]
    rfl

/-- A numeral is read as the value that its worth is rounded to. -/
theorem readPointed?_text (negative : Bool) :
    readPointed? ((if negative then ['-'] else []) ++ n.text) =
      let x := Binary64.nearest negative (n.whole ++ n.places) n.tens
      if x = .infinite false then none else some (x, []) := by
  have hsign : readSign ((if negative then ['-'] else []) ++ n.text) = (negative, n.text) := by
    cases negative with
    | true => rfl
    | false => exact n.isPlainRun.readSign_append _
  have hwhole : readDecimal? n.text = some (n.whole, n.fractionText ++ n.exponentText) :=
    n.isPlainRun.readDecimal?_append n.endsRun_fractionText
  have hmarked : (n.fraction.isNone && n.exponent.isNone) = false :=
    Bool.and_eq_false_iff.2
      (n.marked.imp Option.isNone_eq_false_iff.2 Option.isNone_eq_false_iff.2)
  rw [readPointed?, hsign]
  simp only [hwhole, n.readFraction?_text, n.readExponent?_text, Option.bind_eq_bind,
    Option.bind_some, hmarked]
  rfl

end Numeral

end Toml

namespace Decimal

open Toml (Numeral IsRun IsPlainRun isRun_ofNat)

variable (a : Decimal)

/-! ## Layouts -/

theorem exists_numeral_scientific : ∃ n : Numeral, n.text = a.scientific ∧ n.worth = a.worth := by
  have hrun := isRun_ofNat a.digits
  have hvalue := Digits.value_ofNat a.digits
  rw [scientific, worth, magnitude]
  generalize Digits.ofNat a.digits = digits at *
  obtain ⟨first, others, rfl⟩ := List.exists_cons_of_ne_nil hrun.nonempty
  rw [← hvalue]
  have hfirst : IsPlainRun [first] :=
    ⟨hrun.singleton List.mem_cons_self, by by_cases hzero : first = '0' <;> simp [hzero]⟩
  cases others with
  | nil =>
    refine ⟨⟨[first], none, some a.exponent, hfirst, by rintro places ⟨⟩, .inr rfl⟩, ?_, ?_⟩
    · simp [Numeral.text, Numeral.fractionText, Numeral.exponentText]
    · simp [Numeral.worth, Numeral.tens, Numeral.places]
  | cons second more =>
    refine ⟨⟨[first], some (second :: more), some (more.length + 1 + a.exponent), hfirst, ?_,
      .inr rfl⟩, ?_, ?_⟩
    · rintro places ⟨⟩
      exact ⟨List.cons_ne_nil _ _, fun c hc => hrun.isDigit c (List.mem_cons_of_mem _ hc)⟩
    · simp [Numeral.text, Numeral.fractionText, Numeral.exponentText]
    · simp [Numeral.worth, Numeral.tens, Numeral.places]

/-- A numeral with zeros behind it, of which zero has none. -/
theorem isPlainRun_zerosBehind (number tens : Nat) :
    IsPlainRun (Digits.ofNat number ++ List.replicate (if number = 0 then 0 else tens) '0') := by
  have hrun := isRun_ofNat number
  refine ⟨⟨List.append_ne_nil_of_left_ne_nil hrun.nonempty _, fun c hc => ?_⟩, ?_⟩
  · rcases List.mem_append.1 hc with hc | hc
    · exact hrun.isDigit c hc
    · rw [List.eq_of_mem_replicate hc]
      rfl
  · by_cases hnumber : number = 0
    · rw [hnumber]
      exact .inl rfl
    · rw [List.head?_append_of_ne_nil _ hrun.nonempty]
      exact .inr (Digits.head?_ofNat hnumber)

theorem value_zerosBehind (number tens : Nat) :
    Digits.value (Digits.ofNat number ++ List.replicate (if number = 0 then 0 else tens) '0') =
      number * 10 ^ tens := by
  rw [Digits.value_append, Digits.value_zeros, Digits.value_ofNat, List.length_replicate,
    Nat.add_zero, Nat.mul_comm]
  by_cases hnumber : number = 0
  · rw [hnumber, Nat.zero_mul, Nat.zero_mul]
  · rw [if_neg hnumber]

/-- A whole number has one place behind the point. -/
theorem exists_numeral_of_nonneg (h : 0 ≤ a.exponent) :
    ∃ n : Numeral, n.text = a.positional ∧ n.worth = a.worth := by
  obtain ⟨tens, htens⟩ := Int.eq_ofNat_of_zero_le h
  rw [positional, if_pos h, worth, htens, Int.toNat_natCast]
  refine ⟨⟨_, some ['0'], none, isPlainRun_zerosBehind a.digits tens, ?_, .inl rfl⟩, ?_, ?_⟩
  · rintro places ⟨⟩
    exact isRun_ofNat 0
  · simp [Numeral.text, Numeral.fractionText, Numeral.exponentText]
  · have hzero : Digits.value ['0'] = 0 := rfl
    rw [Numeral.worth, Numeral.places, Option.getD_some, Digits.value_append, value_zerosBehind,
      hzero, Nat.add_zero]
    show ((10 ^ 1 * (a.digits * 10 ^ tens) : Nat) : ℚ) * 10 ^ (-1 : Int) =
      a.digits * 10 ^ (tens : Int)
    rw [zpow_neg_one, zpow_natCast]
    push_cast
    field_simp

/-- The front of a numeral that is filled up with zeros until there is a digit before so many
places. -/
theorem isPlainRun_take_leftpad {number places length : Nat} (hplaces : 0 < places)
    (hlength : length + places = (List.leftpad (places + 1) '0' (Digits.ofNat number)).length) :
    IsPlainRun ((List.leftpad (places + 1) '0' (Digits.ofNat number)).take length) := by
  have hrun := (isRun_ofNat number).replicate_append (places + 1 - (Digits.ofNat number).length)
  rw [List.length_leftpad] at hlength
  refine ⟨⟨?_, fun c hc => hrun.isDigit c (List.mem_of_mem_take hc)⟩, ?_⟩
  · rw [Ne, List.take_eq_nil_iff, not_or]
    exact ⟨by omega, hrun.nonempty⟩
  by_cases hshort : (Digits.ofNat number).length ≤ places
  · obtain ⟨zeros, hzeros⟩ : ∃ zeros, places + 1 - (Digits.ofNat number).length = zeros + 1 :=
      ⟨places - (Digits.ofNat number).length, by omega⟩
    obtain rfl : length = 1 := by omega
    rw [List.leftpad, hzeros, List.replicate_succ]
    exact .inl rfl
  · have hnumber : number ≠ 0 := by
      rintro rfl
      exact hshort hplaces
    have hfull : places + 1 - (Digits.ofNat number).length = 0 := by omega
    rw [List.leftpad, hfull, List.head?_take, if_neg (by omega)]
    exact .inr (Digits.head?_ofNat hnumber)

theorem exists_numeral_of_neg (h : a.exponent < 0) :
    ∃ n : Numeral, n.text = a.positional ∧ n.worth = a.worth := by
  have hplaces : 0 < (-a.exponent).toNat := by omega
  have hexponent : a.exponent = -((-a.exponent).toNat : Int) := by omega
  rw [positional, if_neg (Int.not_le.2 h), worth, hexponent, neg_neg, Int.toNat_natCast]
  generalize (-a.exponent).toNat = places at *
  have hrun := (isRun_ofNat a.digits).replicate_append (places + 1 - (Digits.ofNat a.digits).length)
  have hvalue : Digits.value (List.leftpad (places + 1) '0' (Digits.ofNat a.digits)) =
      a.digits := by
    rw [List.leftpad, Digits.value_append, Digits.value_zeros, Digits.value_ofNat, Nat.mul_zero,
      Nat.zero_add]
  have hlength : (List.leftpad (places + 1) '0' (Digits.ofNat a.digits)).length - places + places =
      (List.leftpad (places + 1) '0' (Digits.ofNat a.digits)).length := by
    rw [List.length_leftpad]
    omega
  have hfront := isPlainRun_take_leftpad hplaces hlength
  rw [← List.leftpad] at hrun
  dsimp only
  generalize List.leftpad (places + 1) '0' (Digits.ofNat a.digits) = padded at *
  generalize padded.length - places = cut at *
  have hdrop : (padded.drop cut).length = places := by
    rw [List.length_drop]
    omega
  refine ⟨⟨padded.take cut, some (padded.drop cut), none, hfront, ?_, .inl rfl⟩, ?_, ?_⟩
  · rintro _ ⟨⟩
    exact ⟨List.ne_nil_of_length_pos (hdrop ▸ hplaces),
      fun c hc => hrun.isDigit c (List.mem_of_mem_drop hc)⟩
  · simp [Numeral.text, Numeral.fractionText, Numeral.exponentText]
  · show (Digits.value (padded.take cut ++ padded.drop cut) : ℚ) *
      10 ^ (0 - ((padded.drop cut).length : Int)) = a.digits * 10 ^ (-places : Int)
    rw [List.take_append_drop, hvalue, hdrop, zero_sub]

theorem exists_numeral_positional : ∃ n : Numeral, n.text = a.positional ∧ n.worth = a.worth :=
  (lt_or_ge a.exponent 0).elim a.exists_numeral_of_neg a.exists_numeral_of_nonneg

theorem exists_numeral_text : ∃ n : Numeral, n.text = a.text ∧ n.worth = a.worth := by
  rw [text]
  split
  · exact a.exists_numeral_positional
  · exact a.exists_numeral_scientific

end Decimal

namespace Toml

variable {x : Binary64} {text rest : Text}

/-! ## Reading what was written -/

/-- **Floats are read back.**  In a layout that keeps the worth of a decimal, what is written of a
number is read as that number. -/
theorem readFloat?_textWith {layout : Decimal → Text}
    (hlayout : ∀ a, ∃ n : Numeral, n.text = layout a ∧ n.worth = a.worth) (h : x.IsNumber) :
    readFloat? (x.textWith layout) = some (x, []) := by
  cases x with
  | finite negative mantissa exponent =>
    obtain ⟨n, htext, hworth⟩ := hlayout (Decimal.shortest mantissa exponent)
    have hnearest := Binary64.nearest_of_worth_eq negative h hworth
    rw [Binary64.textWith, ← htext, readFloat?, n.readPointed?_text, hnearest]
    rfl
  | infinite negative => cases negative <;> rfl
  | nan => exact h.elim

theorem isNumber_of_readPointed? (h : readPointed? text = some (x, rest)) : x.IsNumber := by
  rw [readPointed?] at h
  simp only [Option.bind_eq_bind, Option.bind_eq_some_iff] at h
  obtain ⟨whole, -, fraction, -, exponent, -, h⟩ := h
  split at h
  · cases h
  · split at h
    · cases h
    · cases h
      exact Binary64.isNumber_nearest _ _ _

theorem eq_of_readSpecial? {negative : Bool} (h : readSpecial? negative text = some (x, rest)) :
    x = .infinite negative ∨ x = .nan := by
  unfold readSpecial? at h
  split at h <;> cases h
  · exact .inl rfl
  · exact .inr rfl

/-- **A number that was read is written to be read again**, in either layout. -/
theorem readFloat?_text_of_readFloat? (h : readFloat? text = some (x, rest)) (hx : x ≠ .nan) :
    readFloat? x.text = some (x, []) ∧ readFloat? x.positional = some (x, []) := by
  have hnumber : x.IsNumber := by
    rw [readFloat?] at h
    split at h
    · rename_i found hfound
      cases h
      exact isNumber_of_readPointed? hfound
    · obtain rfl := (eq_of_readSpecial? h).resolve_right hx
      trivial
  exact ⟨readFloat?_textWith Decimal.exists_numeral_text hnumber,
    readFloat?_textWith Decimal.exists_numeral_positional hnumber⟩

example : (readFloat? "1_0.50e-1".toList).map (fun found => found.1.text) =
    some "1.05".toList := by
  decide +kernel

end Toml
end DocViews
