/-
# SymbolAtlas.Proofs.Text.LowerCase — the end of a text in lower case

The lower-case form of a text is not put together from those of its characters: a capital sigma
looks at what stands before and behind it. Two kinds of end are nevertheless read off without looking
at the rest of the text. Blanks stay as they are and count as no letter, so they change nothing in
front of them; and a text of ASCII characters that are in lower case already holds no sigma.
-/
import SymbolAtlas.Text.LowerCase
import SymbolAtlas.Proofs.Text.Words

namespace SymbolAtlas.Text

/-! ## Blanks -/

/-- All blank characters. -/
def blanks : List Char :=
  (List.range' 9 5 ++ List.range' 28 5 ++ List.range' 0x2000 11 ++
    [0x85, 0xA0, 0x1680, 0x2028, 0x2029, 0x202F, 0x205F, 0x3000]).map Char.ofNat

theorem mem_blanks {c : Char} (h : isBlank c = true) : c ∈ blanks := by
  have hrange : (9 ≤ c.toNat ∧ c.toNat ≤ 13) ∨ (28 ≤ c.toNat ∧ c.toNat ≤ 32) ∨ c.toNat = 0x85 ∨
      c.toNat = 0xA0 ∨ c.toNat = 0x1680 ∨ (0x2000 ≤ c.toNat ∧ c.toNat ≤ 0x200A) ∨
      c.toNat = 0x2028 ∨ c.toNat = 0x2029 ∨ c.toNat = 0x202F ∨ c.toNat = 0x205F ∨
      c.toNat = 0x3000 := by
    simpa [isBlank, or_assoc] using h
  rw [← Char.ofNat_toNat c]
  generalize c.toNat = n at hrange
  refine List.mem_map_of_mem ?_
  simp only [List.mem_append, List.mem_range'_1, List.mem_cons, List.not_mem_nil, or_false]
  omega

/-- A blank is its own lower-case form and no letter, and it is not passed over. -/
theorem blank_lower {c : Char} (h : isBlank c = true) :
    lowerChar c = [c] ∧ caseRole c = .other ∧ c ≠ capitalSigma := by
  have hall : (blanks.all fun d => lowerChar d == [d] && caseRole d == .other && d != capitalSigma)
      = true := by decide +kernel
  have hc := List.all_eq_true.mp hall c (mem_blanks h)
  simpa [and_assoc] using hc

variable {margin : Text}

/-- Blanks behind a text meet no letter. -/
theorem meetsCased_append (h : margin.isBlankText = true) (s : Text) :
    meetsCased (s ++ margin) = meetsCased s := by
  induction s with
  | nil =>
      cases margin with
      | nil => rfl
      | cons c rest =>
          have hc := blank_lower ((isBlankText_iff _).mp h c List.mem_cons_self)
          simp only [List.nil_append, meetsCased, hc.2.1]
  | cons c rest ih =>
      rw [List.cons_append, meetsCased, meetsCased, ih]

theorem lowerFrom_blank (h : margin.isBlankText = true) (before : Text) :
    lowerFrom before margin = margin := by
  induction margin generalizing before with
  | nil => rfl
  | cons c rest ih =>
      have hblank := (isBlankText_iff _).mp h
      obtain ⟨hform, -, hsigma⟩ := blank_lower (hblank c List.mem_cons_self)
      have hrest : lowerFrom (c :: before) rest = rest :=
        ih ((isBlankText_iff rest).mpr fun d hd => hblank d (List.mem_cons_of_mem c hd)) _
      simp [lowerFrom, hrest, hform, hsigma]

/-- Blanks behind a text stay as they are, and what is in front of them does not notice them. -/
theorem lower_append_blank (h : margin.isBlankText = true) (s : Text) :
    (s ++ margin).lower = s.lower ++ margin := by
  have hfrom (before : Text) : lowerFrom before (s ++ margin) = lowerFrom before s ++ margin := by
    induction s generalizing before with
    | nil => exact lowerFrom_blank h before
    | cons c rest ih =>
        simp only [List.cons_append, lowerFrom, meetsCased_append h, ih, List.append_assoc]
  exact hfrom []

/-! ## ASCII ends in lower case -/

/-- Whether a character is an ASCII character other than a capital letter. -/
def isLowerAscii (c : Char) : Bool := c.toNat < 128 && !('A' ≤ c && c ≤ 'Z')

theorem lowerFrom_ascii {s : Text} (h : s.all isLowerAscii = true) (before : Text) :
    lowerFrom before s = s := by
  induction s generalizing before with
  | nil => rfl
  | cons c rest ih =>
      rw [List.all_cons, Bool.and_eq_true] at h
      obtain ⟨hc, hrest⟩ := h
      rw [isLowerAscii, Bool.and_eq_true, Bool.not_eq_true', decide_eq_true_iff] at hc
      have hsigma : (c == capitalSigma) = false := by
        refine beq_eq_false_iff_ne.mpr ?_
        rintro rfl
        exact absurd hc.1 (by decide)
      have hform : lowerChar c = [c] := by
        rw [lowerChar, if_pos hc.1, hc.2]
        rfl
      simp only [lowerFrom, hsigma, Bool.false_and, Bool.false_eq_true, if_false, hform,
        ih hrest, List.singleton_append]

/-- A text that ends in lower-case ASCII keeps this end. -/
theorem exists_lower_append {last : Text} (h : last.all isLowerAscii = true) (s : Text) :
    ∃ above, (s ++ last).lower = above ++ last := by
  have hfrom (before : Text) : ∃ above, lowerFrom before (s ++ last) = above ++ last := by
    induction s generalizing before with
    | nil => exact ⟨[], lowerFrom_ascii h before⟩
    | cons c rest ih =>
        obtain ⟨above, habove⟩ := ih (c :: before)
        rw [List.cons_append, lowerFrom, habove, ← List.append_assoc]
        exact ⟨_, rfl⟩
  exact hfrom []

end SymbolAtlas.Text
