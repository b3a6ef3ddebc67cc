/-
# SymbolAtlas.Proofs.Listing.Token — which tokens there are, and that reading them never fails

The shapes of tokens are decided by programs; here each of them is written out: the hexadecimal
digits, the pairs of them that are opcode bytes, the two letters of padding, and the delimiters that
operand text is cut at. Two readings of a token are partial: the number of an address and the first
word of a text. Each is applied only where it succeeds, and this module says with which result.
Facts on single hexadecimal digits are checked digit by digit.
-/
import SymbolAtlas.Listing.Token
import SymbolAtlas.Proofs.Text.Words
import Mathlib.Tactic.IntervalCases

namespace SymbolAtlas

/-! ## Hexadecimal digits -/

namespace Text

/-- All hexadecimal digits. -/
def hexDigits : List Char :=
  ['0', '1', '2', '3', '4', '5', '6', '7', '8', '9', 'a', 'b', 'c', 'd', 'e', 'f',
    'A', 'B', 'C', 'D', 'E', 'F']

theorem isHexDigit_iff {c : Char} : isHexDigit c = true ↔ c ∈ hexDigits := by
  refine ⟨fun h => ?_, List.all_eq_true.mp (by decide : hexDigits.all isHexDigit = true) c⟩
  have hrange : (48 ≤ c.toNat ∧ c.toNat ≤ 57) ∨ (97 ≤ c.toNat ∧ c.toNat ≤ 102)
      ∨ (65 ≤ c.toNat ∧ c.toNat ≤ 70) := by
    simpa [isHexDigit, isDecimalDigit, Char.le_def, UInt32.le_iff_toNat_le, or_assoc] using h
  have hc : c = Char.ofNat c.toNat := (Char.ofNat_toNat c).symm
  rw [hc]
  generalize c.toNat = n at hrange
  rcases hrange with ⟨hlo, hhi⟩ | ⟨hlo, hhi⟩ | ⟨hlo, hhi⟩ <;> interval_cases n <;> decide

/-- The characters that mean something of their own where a number is read. -/
def numberMarks : List Char := ['_', ':', 'x', 'X', '+', '-']

/-- What a reader of numbers needs to know of a hexadecimal digit. -/
theorem hexDigit_spec {c : Char} (h : isHexDigit c = true) :
    isBlank c = false ∧ Numeral.asciiDigit c = c ∧ c ∉ numberMarks := by
  have hall : (hexDigits.all fun d => !isBlank d && Numeral.asciiDigit d == d &&
      !numberMarks.contains d) = true := by decide
  have hc := List.all_eq_true.mp hall c (isHexDigit_iff.mp h)
  simp only [Bool.and_eq_true, Bool.not_eq_true', beq_iff_eq, List.contains_eq_mem,
    decide_eq_false_iff_not] at hc
  exact ⟨hc.1.1, hc.1.2, hc.2⟩

theorem isHexDigit_of_isDecimalDigit {c : Char} (h : isDecimalDigit c = true) :
    isHexDigit c = true := by
  rw [isHexDigit, h, Bool.true_or, Bool.true_or]

end Text

/-! ## The shapes of tokens -/

namespace Token

theorem isHex_iff {token : Text} :
    isHex token = true ↔ token ≠ [] ∧ ∀ c ∈ token, Text.isHexDigit c = true := by
  simp [isHex]

theorem isDecimal_iff {token : Text} :
    isDecimal token = true ↔ token ≠ [] ∧ ∀ c ∈ token, Text.isDecimalDigit c = true := by
  simp [isDecimal]

/-- Decimal digits are hexadecimal digits. -/
theorem isHex_of_isDecimal {token : Text} (h : isDecimal token = true) : isHex token = true := by
  obtain ⟨hne, hdigits⟩ := isDecimal_iff.mp h
  exact isHex_iff.mpr ⟨hne, fun c hc => Text.isHexDigit_of_isDecimalDigit (hdigits c hc)⟩

/-- An opcode byte is two hexadecimal digits. -/
theorem isOpcodeByte_iff {token : Text} :
    isOpcodeByte token = true ↔ ∃ high ∈ Text.hexDigits, ∃ low ∈ Text.hexDigits,
      token = [high, low] := by
  rw [isOpcodeByte, Bool.and_eq_true, beq_iff_eq, List.length_eq_two, isHex_iff]
  constructor
  · rintro ⟨⟨high, low, rfl⟩, -, hdigits⟩
    exact ⟨high, Text.isHexDigit_iff.mp (hdigits high (by simp)), low,
      Text.isHexDigit_iff.mp (hdigits low (by simp)), rfl⟩
  · rintro ⟨high, hhigh, low, hlow, rfl⟩
    refine ⟨⟨high, low, rfl⟩, List.cons_ne_nil high [low], fun c hc => ?_⟩
    rcases List.mem_pair.mp hc with rfl | rfl
    · exact Text.isHexDigit_iff.mpr hhigh
    · exact Text.isHexDigit_iff.mpr hlow

/-- The characters that are written as C in upper case. -/
theorem toUpper_eq_C_iff {c : Char} : c.toUpper = 'C' ↔ c ∈ ['C', 'c'] := by
  constructor
  · intro h
    by_cases hlower : 97 ≤ c.toNat ∧ c.toNat ≤ 122
    · obtain ⟨hlo, hhi⟩ := hlower
      rw [← Char.ofNat_toNat c] at h ⊢
      generalize c.toNat = n at h hlo hhi
      interval_cases n <;> revert h <;> decide
    · have hsame : c.toUpper = c := dif_neg hlower
      rw [← hsame, h]
      decide
  · intro h
    rcases List.mem_pair.mp h with rfl | rfl <;> decide

/-- Padding is written with two letters C, each in either case. -/
theorem isFiller_iff {token : Text} :
    isFiller token = true ↔ ∃ first ∈ ['C', 'c'], ∃ second ∈ ['C', 'c'],
      token = [first, second] := by
  rw [isFiller, beq_iff_eq]
  constructor
  · intro h
    obtain ⟨first, second, rfl⟩ : ∃ first second, token = [first, second] := by
      rw [← List.length_eq_two, ← List.length_map Char.toUpper, h]
      rfl
    have hletters : first.toUpper = 'C' ∧ second.toUpper = 'C' := by simpa using h
    exact ⟨first, toUpper_eq_C_iff.mp hletters.1, second, toUpper_eq_C_iff.mp hletters.2, rfl⟩
  · rintro ⟨first, hfirst, second, hsecond, rfl⟩
    rw [List.map_cons, List.map_cons, List.map_nil, toUpper_eq_C_iff.mpr hfirst,
      toUpper_eq_C_iff.mpr hsecond]

/-- The characters at which operand text is cut. -/
def delimiters : List Char := [' ', '\t', ',', '[', '+', ']', '-']

theorem isDelimiter_iff {c : Char} : isDelimiter c = true ↔ c ∈ delimiters := by
  simp [isDelimiter, delimiters, or_assoc]

theorem isDelimiter_eq_false_iff {c : Char} : isDelimiter c = false ↔ c ∉ delimiters := by
  rw [← isDelimiter_iff, Bool.not_eq_true]

/-- The parts of an operand are not empty and hold no delimiter. -/
theorem mem_operands {token part : Text} (h : part ∈ operands token) :
    part ≠ [] ∧ ∀ c ∈ part, c ∉ delimiters := by
  obtain ⟨hne, hplain⟩ := Text.mem_pieces h
  exact ⟨hne, fun c hc => isDelimiter_eq_false_iff.mp (hplain c hc)⟩

/-- Operand text is cut at every delimiter, and what holds none is one part unless it is empty. -/
theorem operands_spec :
    operands [] = [] ∧
    (∀ part, part ≠ [] → (∀ c ∈ part, c ∉ delimiters) → operands part = [part]) ∧
    ∀ left right, ∀ c ∈ delimiters,
      operands (left ++ c :: right) = operands left ++ operands right := by
  refine ⟨rfl, fun part hne hplain => ?_, fun left right c hc => ?_⟩
  · exact Text.pieces_eq_singleton hne fun c hc => isDelimiter_eq_false_iff.mpr (hplain c hc)
  · exact Text.pieces_append_cons (isDelimiter_iff.mpr hc) left right

example : operands "offset [g+8]".toList = ["offset".toList, "g".toList, "8".toList] := by
  decide

end Token

/-! ## Numbers in base sixteen -/

namespace Hexadecimal

/-- A non-empty run of digits spells its value. -/
theorem digits?_eq_self {digits : Text} (hne : digits ≠ [])
    (h : ∀ c ∈ digits, Text.isHexDigit c = true) : digits? digits = some digits := by
  induction digits with
  | nil => exact absurd rfl hne
  | cons c rest ih =>
      have hc := h c List.mem_cons_self
      cases rest with
      | nil => simp only [digits?, hc, if_true]
      | cons d others =>
          have hd : (d == '_') = false := by
            have hmark := (Text.hexDigit_spec (h d (by simp))).2.2
            exact beq_eq_false_iff_ne.mpr fun heq => hmark (by rw [heq]; decide)
          have hrest := ih (List.cons_ne_nil d others)
            fun e he => h e (List.mem_cons_of_mem c he)
          simp only [digits?, hc, hd, if_true, Bool.false_eq_true, if_false, hrest,
            Option.map_some]

theorem normalize_eq_self {digits : Text} (h : ∀ c ∈ digits, Text.isHexDigit c = true) :
    Numeral.normalize digits = digits := by
  have hmargin : ∀ c ∈ digits, Numeral.isMargin c = false := by
    intro c hc
    rw [Numeral.isMargin, (Text.hexDigit_spec (h c hc)).1, Bool.false_and]
  have hstart : digits.dropWhile Numeral.isMargin = digits := by
    refine List.dropWhile_eq_self_iff.mpr fun hlen => ?_
    rw [hmargin _ (List.getElem_mem hlen)]
    exact Bool.false_ne_true
  have hend : digits.rdropWhile Numeral.isMargin = digits := by
    refine List.rdropWhile_eq_self_iff.mpr fun hne => ?_
    rw [hmargin _ (List.getLast_mem hne)]
    exact Bool.false_ne_true
  have hwithout : Numeral.withoutMargins digits = digits := by
    rw [Numeral.withoutMargins, hstart]
    exact hend
  rw [Numeral.normalize, hwithout]
  have hid : digits.map Numeral.asciiDigit = digits.map id :=
    List.map_congr_left fun c hc => (Text.hexDigit_spec (h c hc)).2.1
  rw [hid, List.map_id]

theorem splitSign_eq_self {digits : Text} (h : ∀ c ∈ digits, Text.isHexDigit c = true) :
    Numeral.splitSign digits = (false, digits) := by
  unfold Numeral.splitSign
  split
  · exact absurd (List.mem_cons_self) (fun hc => (Text.hexDigit_spec (h '-' hc)).2.2 (by decide))
  · exact absurd (List.mem_cons_self) (fun hc => (Text.hexDigit_spec (h '+' hc)).2.2 (by decide))
  · rfl

theorem afterMark_eq_self {digits : Text} (h : ∀ c ∈ digits, Text.isHexDigit c = true) :
    afterMark digits = digits := by
  have hx : 'x' ∉ digits := fun hc => (Text.hexDigit_spec (h 'x' hc)).2.2 (by decide)
  have hX : 'X' ∉ digits := fun hc => (Text.hexDigit_spec (h 'X' hc)).2.2 (by decide)
  unfold afterMark
  split
  · exact absurd (by simp) hx
  · exact absurd (by simp) hX
  · exact absurd (by simp) hx
  · exact absurd (by simp) hX
  · rfl

/-- A token of hexadecimal digits is a number in base sixteen. -/
theorem read?_of_isHex {digits : Text} (h : Token.isHex digits = true) :
    read? digits = some (value digits : Int) := by
  obtain ⟨hnil, hdigits⟩ := Token.isHex_iff.mp h
  unfold read?
  rw [normalize_eq_self hdigits, splitSign_eq_self hdigits]
  simp only [afterMark_eq_self hdigits, digits?_eq_self hnil hdigits, Option.map_some]
  rfl

end Hexadecimal

namespace Token

/-! ## Columns -/

/-- A token of hexadecimal digits is a word: it is not empty and holds no blank. -/
theorem word_of_isHex {token : Text} (h : isHex token = true) :
    token ≠ [] ∧ ∀ c ∈ token, Text.isBlank c = false := by
  obtain ⟨hne, hdigits⟩ := isHex_iff.mp h
  exact ⟨hne, fun c hc => (Text.hexDigit_spec (hdigits c hc)).1⟩

/-! ## Addresses -/

/-- Dropping all colons at the end of an address drops at most the one that may be there. -/
theorem dropWhile_colon_of_isHex {digits : Text} (h : isHex digits = true) (colons : Text)
    (hcolons : ∀ c ∈ colons, c = ':') :
    ((digits ++ colons).reverse.dropWhile (· == ':')).reverse = digits := by
  obtain ⟨-, hdigits⟩ := isHex_iff.mp h
  have hall : ∀ c ∈ colons.reverse, (c == ':') = true :=
    fun c hc => beq_iff_eq.mpr (hcolons c (List.mem_reverse.mp hc))
  rw [List.reverse_append, List.dropWhile_append_of_pos hall]
  refine List.rdropWhile_eq_self_iff.mpr fun hne => ?_
  have hlast := (Text.hexDigit_spec (hdigits _ (List.getLast_mem hne))).2.2
  exact fun heq => hlast (by rw [beq_iff_eq.mp heq]; decide)

/-- An address token has a number: the value of its digits. -/
theorem addressValue_of_isAddress {token : Text} (h : isAddress token = true) :
    addressValue token = .ok (Hexadecimal.value (withoutColon token)) := by
  rw [isAddress, Bool.and_eq_true] at h
  obtain ⟨-, hhex⟩ := h
  have hdigits : (token.reverse.dropWhile (· == ':')).reverse = withoutColon token := by
    unfold withoutColon at hhex ⊢
    split
    · rename_i hcolon
      rw [if_pos hcolon] at hhex
      have hsplit := List.dropLast_append_getLast? ':' hcolon
      conv_lhs => rw [← hsplit]
      exact dropWhile_colon_of_isHex hhex [':'] (by simp)
    · rename_i hcolon
      rw [if_neg hcolon] at hhex
      simpa using dropWhile_colon_of_isHex hhex [] (by simp)
  unfold addressValue
  simp only [hdigits, Hexadecimal.read?_of_isHex hhex]

/-! ## First words -/

/-- A text that is not blank has a first word. -/
theorem firstWord_of_not_blank {s : Text} (h : s.isBlankText = false) :
    ∃ word rest, s.words = word :: rest ∧ firstWord s = .ok word := by
  cases hwords : s.words with
  | nil =>
      rw [(Text.words_eq_nil_iff s).mp hwords] at h
      cases h
  | cons word rest => exact ⟨word, rest, rfl, by rw [firstWord, hwords]⟩

end Token

end SymbolAtlas
