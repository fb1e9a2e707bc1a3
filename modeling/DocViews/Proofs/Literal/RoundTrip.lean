import DocViews.Proofs.Literal.Reader

/-!
# A literal is read back

`Literal.read?_format` says that a compiler reads the literal of a text as that text, and finds the
end of the literal where it is.  The two forms are read by two different sets of rules, so the proof
has two halves:

* in a regular literal every character is read back from its escape sequence
  (`Spelling.readRegular?_append`), and nothing but the last quote ends it;
* in a raw literal no run of quotes is as long as the fence (`runsBelow_of_formOf`), so the block is
  cut where the writer ended it (`cutAtFence?_rawLines`), and its lines are the lines of the text
  behind the indentation (`codeLines_rawLines`).
-/

set_option autoImplicit false

namespace DocViews
namespace Literal

/-! ## Four hexadecimal digits -/

/-- The digit of a number below sixteen, upper case. -/
def hexDigit (n : Nat) : Char :=
  (Nat.digitChar n).toUpper

theorem hexDigit?_hexDigit : ∀ n < 16, hexDigit? (hexDigit n) = some n := by
  decide

/-- Filling up with zeros leaves the last digit alone. -/
theorem leftpad_toDigits_succ (k n : Nat) :
    List.leftpad (k + 2) '0' ((Nat.toDigits 16 n).map Char.toUpper)
      = List.leftpad (k + 1) '0' ((Nat.toDigits 16 (n / 16)).map Char.toUpper)
        ++ [hexDigit (n % 16)] := by
  rcases Nat.lt_or_ge n 16 with hn | hn
  · rw [Nat.toDigits_of_lt_base hn, Nat.div_eq_of_lt hn, Nat.mod_eq_of_lt hn, Nat.toDigits_zero]
    simp only [List.leftpad, List.map_cons, List.map_nil, List.length_singleton]
    rw [show k + 2 - 1 = k + 1 from rfl, List.replicate_succ']
    rfl
  · rw [Nat.toDigits_of_base_le (by decide) hn, List.map_append]
    simp only [List.leftpad, List.map_cons, List.map_nil, List.length_append,
      List.length_singleton, List.append_assoc]
    rw [show ∀ m, k + 2 - (m + 1) = k + 1 - m by omega]
    rfl

theorem hex4_eq {n : Nat} (hn : n < 65536) :
    hex4 n = [hexDigit (n / 4096), hexDigit (n / 256 % 16), hexDigit (n / 16 % 16),
      hexDigit (n % 16)] := by
  have hlast : List.leftpad 1 '0' ((Nat.toDigits 16 (n / 4096)).map Char.toUpper)
      = [hexDigit (n / 4096)] := by
    rw [Nat.toDigits_of_lt_base (by omega)]
    rfl
  rw [hex4, leftpad_toDigits_succ, leftpad_toDigits_succ, leftpad_toDigits_succ,
    show n / 16 / 16 / 16 = n / 4096 by omega, show n / 16 / 16 = n / 256 by omega, hlast]
  rfl

theorem charOfHex?_hexDigit {c : Char} (hc : c.toNat < 65536) :
    charOfHex? (hexDigit (c.toNat / 4096)) (hexDigit (c.toNat / 256 % 16))
      (hexDigit (c.toNat / 16 % 16)) (hexDigit (c.toNat % 16)) = some c := by
  have hcode : 4096 * (c.toNat / 4096) + 256 * (c.toNat / 256 % 16) + 16 * (c.toNat / 16 % 16)
      + c.toNat % 16 = c.toNat := by omega
  rw [charOfHex?, hexDigit?_hexDigit _ (by omega), hexDigit?_hexDigit _ (by omega),
    hexDigit?_hexDigit _ (by omega), hexDigit?_hexDigit _ (by omega)]
  simp only [Option.bind_eq_bind, Option.bind_some, hcode]
  rw [if_pos (show c.toNat.isValidChar from c.valid), Char.ofNat_toNat]

/-! ## Escape sequences -/

/-- The characters that are written by their code points have four digits. -/
theorem toNat_lt_of_isControl_or_isLineBreak {c : Char}
    (h : (isControl c || isLineBreak c) = true) : c.toNat < 65536 := by
  rw [Bool.or_eq_true] at h
  rcases h with h | h
  · simp only [isControl, Bool.or_eq_true, Bool.and_eq_true, decide_eq_true_eq] at h
    omega
  · simp only [isLineBreak, Bool.or_eq_true, decide_eq_true_eq] at h
    rcases h with (((rfl | rfl) | rfl) | rfl) | rfl <;> decide

/-- The three ways to write a character in a regular literal. -/
inductive Spelling (c : Char) : Text → Prop
  | letter {e : Char} (he : e ∈ ['\\', '"', 'n', 'r', 't', '0']) (h : escape? e = some c) :
      Spelling c ['\\', e]
  | codePoint (h : (isControl c || isLineBreak c) = true) :
      Spelling c ['\\', 'u', hexDigit (c.toNat / 4096), hexDigit (c.toNat / 256 % 16),
        hexDigit (c.toNat / 16 % 16), hexDigit (c.toNat % 16)]
  | plain (hq : c ≠ '"') (hb : c ≠ '\\') (h : (isControl c || isLineBreak c) = false) :
      Spelling c [c]

theorem spelling_escapeChar (c : Char) : Spelling c (escapeChar c) := by
  unfold escapeChar
  split
  · next h => exact .letter (by decide) (by rw [h]; rfl)
  split
  · next h => exact .letter (by decide) (by rw [h]; rfl)
  split
  · next h => exact .letter (by decide) (by rw [h]; rfl)
  split
  · next h => exact .letter (by decide) (by rw [h]; rfl)
  split
  · next h => exact .letter (by decide) (by rw [h]; rfl)
  split
  · next h => exact .letter (by decide) (by rw [h]; rfl)
  split
  · next h =>
    rw [hex4_eq (toNat_lt_of_isControl_or_isLineBreak h)]
    exact .codePoint h
  · next hb hq _ _ _ _ h => exact .plain hq hb (Bool.not_eq_true _ ▸ h)

/-- **Every character is read back from its spelling.** -/
theorem Spelling.readRegular?_append {c : Char} {spelled : Text} (h : Spelling c spelled)
    (text : Text) :
    readRegular? (spelled ++ text)
      = (readRegular? text).map fun result => (c :: result.1, result.2) := by
  cases h with
  | letter he h =>
    refine readRegular?_escape ?_ h text
    rintro rfl
    exact absurd he (by decide)
  | codePoint h =>
    exact readRegular?_codePoint (charOfHex?_hexDigit (toNat_lt_of_isControl_or_isLineBreak h)) text
  | plain hq hb h => exact readRegular?_plain hq hb (Bool.or_eq_false_iff.1 h).2 text

/-- An escape sequence begins with a backslash, and a quote is never written as it is. -/
theorem Spelling.quoteRun_append {c : Char} {spelled : Text} (h : Spelling c spelled)
    (text : Text) : quoteRun (spelled ++ text) = 0 := by
  cases h with
  | letter _ _ => exact quoteRun_cons_of_ne (by decide) _
  | codePoint _ => exact quoteRun_cons_of_ne (by decide) _
  | plain hq _ _ => exact quoteRun_cons_of_ne hq text

theorem readRegular?_flatMap_escapeChar (text rest : Text) :
    readRegular? (text.flatMap escapeChar ++ '"' :: rest) = some (text, rest) := by
  induction text with
  | nil => rfl
  | cons c text ih =>
    rw [List.flatMap_cons, List.append_assoc, (spelling_escapeChar c).readRegular?_append, ih,
      Option.map_some]

/-- The opening quote of an escaped literal stands alone, or the closing one follows it. -/
theorem quoteRun_escaped_append {rest : Text} (hrest : rest.head? ≠ some '"') (text : Text) :
    quoteRun (escaped text ++ rest) = 1 ∨ quoteRun (escaped text ++ rest) = 2 := by
  have hcons : escaped text ++ rest = '"' :: (text.flatMap escapeChar ++ '"' :: rest) := by
    rw [escaped, List.cons_append, List.append_assoc, List.singleton_append]
  rw [hcons, quoteRun_cons_quote]
  cases text with
  | nil =>
    rw [List.flatMap_nil, List.nil_append, quoteRun_cons_quote, quoteRun_of_head?_ne hrest]
    exact Or.inr rfl
  | cons c text =>
    rw [List.flatMap_cons, List.append_assoc, (spelling_escapeChar c).quoteRun_append]
    exact Or.inl rfl

theorem read?_escaped_append {rest : Text} (hrest : rest.head? ≠ some '"') (text : Text) :
    read? (escaped text ++ rest) = some (text, rest) := by
  have hrun := quoteRun_escaped_append hrest text
  rw [read?]
  rw [if_neg (by omega), if_pos (by omega), escaped, List.cons_append, List.tail_cons,
    List.append_assoc, List.singleton_append, readRegular?_flatMap_escapeChar]

/-! ## The fence is longer than every run of quotes -/

theorem le_longestQuoteRunFrom (run longest : Nat) (text : Text) :
    longest ≤ longestQuoteRunFrom run longest text := by
  induction text generalizing run longest with
  | nil => exact Nat.le_refl _
  | cons c rest ih =>
    rw [longestQuoteRunFrom]
    split
    · exact Nat.le_trans (Nat.le_max_left _ _) (ih _ _)
    · exact ih _ _

/-- The run that a text goes on with is counted together with what came before. -/
theorem add_quoteRun_le_longestQuoteRunFrom {run longest : Nat} (h : run ≤ longest) (text : Text) :
    run + quoteRun text ≤ longestQuoteRunFrom run longest text := by
  induction text generalizing run longest with
  | nil => exact h
  | cons c rest ih =>
    rw [longestQuoteRunFrom]
    split
    · next hc =>
      have hrun : run + 1 + quoteRun rest ≤ _ := ih (Nat.le_max_right longest (run + 1))
      rw [hc, quoteRun_cons_quote]
      omega
    · next hc =>
      rw [quoteRun_cons_of_ne hc]
      exact Nat.le_trans h (le_longestQuoteRunFrom 0 longest rest)

theorem quoteRun_le_longestQuoteRunFrom {run longest : Nat} (h : run ≤ longest)
    {part text : Text} (hp : part <:+ text) :
    quoteRun part ≤ longestQuoteRunFrom run longest text := by
  induction text generalizing run longest with
  | nil => rw [List.suffix_nil.1 hp]; exact Nat.zero_le _
  | cons c rest ih =>
    rcases List.suffix_cons_iff.1 hp with rfl | hp
    · exact Nat.le_trans (Nat.le_add_left _ _) (add_quoteRun_le_longestQuoteRunFrom h _)
    · rw [longestQuoteRunFrom]
      split
      · exact ih (Nat.le_max_right _ _) hp
      · exact ih (Nat.zero_le _) hp

theorem formOf_eq_raw_iff {text : Text} {fence : Nat} :
    formOf text = .raw fence ↔
      wantsRaw text = true ∧ canEmbedRaw text = true ∧
        fence = max (longestQuoteRun text) 2 + 1 := by
  rw [formOf]
  split
  · next h =>
    rw [Bool.and_eq_true] at h
    simp [h, eq_comm]
  · next h =>
    rw [Bool.and_eq_true, not_and] at h
    exact ⟨fun hf => absurd hf (by simp), fun hf => absurd hf.2.1 (h hf.1)⟩

theorem runsBelow_of_formOf {text : Text} {fence : Nat} (h : formOf text = .raw fence) :
    3 ≤ fence ∧ RunsBelow fence text := by
  obtain ⟨-, -, rfl⟩ := formOf_eq_raw_iff.1 h
  refine ⟨by omega, fun part hp => ?_⟩
  have hle : quoteRun part ≤ longestQuoteRun text :=
    quoteRun_le_longestQuoteRunFrom (Nat.le_refl 0) hp
  omega

/-! ## The lines of a raw literal -/

/-- A line of a text as a raw literal holds it, without its end. -/
def indented (indent line : Text) : Text :=
  if line = [] then [] else indent ++ line

theorem rawLine_eq (indent line : Text) : rawLine indent line = indented indent line ++ ['\n'] := by
  by_cases h : line = [] <;> simp [rawLine, indented, h]

theorem unindent?_indented (indent line : Text) :
    unindent? indent (indented indent line) = some line := by
  by_cases h : line = []
  · simp [unindent?, indented, h]
  · have hne : indent ++ line ≠ [] := fun hn => h (List.append_eq_nil_iff.1 hn).2
    rw [indented, if_neg h, unindent?, if_neg hne, Text.isPrefixOf?_append]

theorem mapM_unindent?_indented (indent : Text) (lines : List Text) :
    (lines.map (indented indent)).mapM (unindent? indent) = some lines := by
  induction lines with
  | nil => rfl
  | cons line more ih => simp [List.mapM_cons, unindent?_indented, ih]

/-- What may stand in front of a line: spaces and tabs. -/
def IsIndent (indent : Text) : Prop :=
  ∀ c ∈ indent, c = ' ' ∨ c = '\t'

instance (indent : Text) : Decidable (IsIndent indent) :=
  List.decidableBAll (fun c => c = ' ' ∨ c = '\t') indent

namespace IsIndent

variable {indent : Text}

theorem quote_notMem (h : IsIndent indent) : '"' ∉ indent :=
  fun hq => absurd (h _ hq) (by decide)

theorem onOneLine (h : IsIndent indent) : OnOneLine indent := by
  intro c hc
  rcases h c hc with rfl | rfl <;> decide

theorem isBlankText (h : IsIndent indent) : Text.isBlankText indent = true := by
  rw [Text.isBlankText, List.all_eq_true]
  intro c hc
  rcases h c hc with rfl | rfl <;> decide

end IsIndent

/-- A text that a raw literal can hold has no line break but the line feed. -/
theorem eq_newline_of_isLineBreak {text : Text} (h : canEmbedRaw text = true) {c : Char}
    (hc : c ∈ text) (hl : isLineBreak c = true) : c = '\n' := by
  rw [canEmbedRaw, Bool.and_eq_true, Bool.not_eq_true', List.any_eq_false] at h
  by_contra hn
  have hsafe : isRawUnsafe c = true := by
    have ht : c ≠ '\t' := by
      rintro rfl
      exact absurd hl (by decide)
    simp [isRawUnsafe, hn, ht, hl]
  exact h.1 c hc hsafe

theorem onOneLine_of_mem_splitOn {text line : Text} (h : canEmbedRaw text = true)
    (hm : line ∈ List.splitOn '\n' text) : OnOneLine line := by
  intro c hc
  by_contra hl
  have hn : c = '\n' := eq_newline_of_isLineBreak h
    ((Text.infix_of_mem_splitOn hm).subset hc) (by simpa using hl)
  exact Text.notMem_of_mem_splitOn hm (hn ▸ hc)

theorem onOneLine_indented {indent line : Text} (hi : IsIndent indent) (hl : OnOneLine line) :
    OnOneLine (indented indent line) := by
  rw [indented]
  split
  · exact fun _ hc => absurd hc List.not_mem_nil
  · exact hi.onOneLine.append hl

/-- The lines are cut where the writer ended them. -/
theorem codeLines_rawLines {indent : Text} (hi : IsIndent indent) {lines : List Text}
    (hl : ∀ line ∈ lines, OnOneLine line) :
    codeLines (lines.flatMap (rawLine indent) ++ indent)
      = lines.map (indented indent) ++ [indent] := by
  induction lines with
  | nil => exact codeLines_of_onOneLine hi.onOneLine
  | cons line more ih =>
    have hline : OnOneLine (indented indent line) :=
      onOneLine_indented hi (hl line List.mem_cons_self)
    rw [List.flatMap_cons, rawLine_eq, List.append_assoc, List.append_assoc, List.singleton_append,
      codeLines_append_newline hline, ih fun l hm => hl l (List.mem_cons_of_mem line hm)]
    rfl

/-- The block goes on up to the closing fence. -/
theorem cutAtFence?_rawLines {fence : Nat} {indent : Text} (hpos : 0 < fence)
    (hi : IsIndent indent) {lines : List Text} (hl : ∀ line ∈ lines, RunsBelow fence line)
    {text : Text} (hf : fence ≤ quoteRun text) :
    cutAtFence? fence (lines.flatMap (rawLine indent) ++ (indent ++ text))
      = some (lines.flatMap (rawLine indent) ++ indent, text) := by
  induction lines with
  | nil => exact cutAtFence?_append_fence hpos hi.quote_notMem hf
  | cons line more ih =>
    have hline : RunsBelow fence (indented indent line) := by
      rw [indented]
      split
      · next h => exact h ▸ hl line List.mem_cons_self
      · exact (hl line List.mem_cons_self).append_left hpos hi.quote_notMem
    rw [List.flatMap_cons, rawLine_eq, List.append_assoc, List.append_assoc, List.singleton_append,
      cutAtFence?_append_cons hpos (by decide) hline,
      ih fun l hm => hl l (List.mem_cons_of_mem line hm), Option.map_some, List.append_assoc,
      List.append_assoc, List.singleton_append]

theorem readBlock?_rawLines {indent : Text} (hi : IsIndent indent) {lines : List Text}
    (hne : lines ≠ []) (hl : ∀ line ∈ lines, OnOneLine line) :
    readBlock? ('\n' :: (lines.flatMap (rawLine indent) ++ indent))
      = some (List.intercalate ['\n'] lines) := by
  have hmap : lines.map (indented indent) ≠ [] := fun h => hne (List.map_eq_nil_iff.1 h)
  rw [readBlock?, codeLines_newline, codeLines_rawLines hi hl]
  simp only [List.dropLast_concat, List.getLastD_concat, mapM_unindent?_indented, hi.isBlankText,
    Option.map_some, Bool.and_true, decide_eq_true hmap, if_true]

theorem read?_raw_append {indent rest text : Text} {fence : Nat} (hi : IsIndent indent)
    (hrest : rest.head? ≠ some '"') (h : formOf text = .raw fence) :
    read? (raw fence indent text ++ rest) = some (text, rest) := by
  obtain ⟨hfence, hruns⟩ := runsBelow_of_formOf h
  have hembed : canEmbedRaw text = true := (formOf_eq_raw_iff.1 h).2.1
  let quotes : Text := List.replicate fence '"'
  let block : Text := (List.splitOn '\n' text).flatMap (rawLine indent)
  have hraw : raw fence indent text ++ rest
      = quotes ++ ('\n' :: (block ++ (indent ++ (quotes ++ rest)))) := by
    simp only [raw, quotes, block, List.append_assoc, List.cons_append]
  have hopen : quoteRun (raw fence indent text ++ rest) = fence := by
    rw [hraw, quoteRun_replicate_append, quoteRun_cons_of_ne (by decide), Nat.add_zero]
  have hclose : quoteRun (quotes ++ rest) = fence := by
    rw [quoteRun_replicate_append, quoteRun_of_head?_ne hrest, Nat.add_zero]
  have hcut : cutAtFence? fence ('\n' :: (block ++ (indent ++ (quotes ++ rest))))
      = some ('\n' :: (block ++ indent), quotes ++ rest) := by
    rw [cutAtFence?_cons_of_lt (by rw [quoteRun_cons_of_ne (by decide)]; omega),
      cutAtFence?_rawLines (by omega) hi
        (fun line hm => hruns.part (Text.infix_of_mem_splitOn hm)) hclose.ge,
      Option.map_some]
  have hblock : readBlock? ('\n' :: (block ++ indent)) = some text := by
    rw [readBlock?_rawLines hi (List.splitOn_ne_nil '\n' text)
      fun line hm => onOneLine_of_mem_splitOn hembed hm, List.intercalate_splitOn]
  have hlength : quotes.length = fence := List.length_replicate
  rw [read?, hopen, if_neg (by omega), if_neg (by omega), hraw, List.drop_left' hlength, readRaw?,
    hcut]
  simp only [hclose, if_true, hblock, Option.map_some, List.drop_left' hlength]

/-! ## Both forms -/

/-- **A literal is read back.**  Whatever the text, and whatever follows its literal but a quote, a
compiler reads that text and goes on behind the literal. -/
theorem read?_format {indent rest : Text} (hi : IsIndent indent) (hrest : rest.head? ≠ some '"')
    (text : Text) : read? (format indent text ++ rest) = some (text, rest) := by
  rw [format]
  split
  · exact read?_escaped_append hrest text
  · next fence h => exact read?_raw_append hi hrest h

/-- Three quotes in the text make a fence of four, and a backslash stays as it is. -/
theorem read?_format_fenced :
    IsIndent "\t  ".toList ∧ (");".toList).head? ≠ some '"' ∧
      read? (format "\t  ".toList "say \"\"\"hi\"\"\"\n\n C:\\ \"".toList ++ ");".toList)
        = some ("say \"\"\"hi\"\"\"\n\n C:\\ \"".toList, ");".toList) :=
  ⟨by decide, by decide, read?_format (by decide) (by decide) _⟩

end Literal
end DocViews
