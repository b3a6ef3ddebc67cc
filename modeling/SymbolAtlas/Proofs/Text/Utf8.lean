/-
# SymbolAtlas.Proofs.Text.Utf8 — the decoder after an ASCII byte, and after a whole character

The decoder never waits for a byte below 0x80: whatever sequence is unfinished, an ASCII byte ends
it, is read as itself and leaves the decoder as it was at the beginning. So a byte string can be cut
at any ASCII byte and both parts decoded alone, however damaged they are. The encoded bytes of a
character take the decoder back to where it was, with that character read; so decoding undoes
encoding.
-/
import SymbolAtlas.Text.Utf8
import Mathlib.Data.List.Basic

namespace SymbolAtlas.Text.Utf8

/-! ## Decoding byte by byte -/

/-- The characters read before come first. -/
theorem decodeFrom_reversed (state : State) (reversed : Text) (bytes : List UInt8) :
    decodeFrom state reversed bytes = reversed.reverse ++ decodeFrom state [] bytes := by
  induction bytes generalizing state reversed with
  | nil => rfl
  | cons b rest ih =>
      simp only [decodeFrom]
      rw [ih, ih (step state b).2 ((step state b).1.reverse ++ [])]
      simp only [List.reverse_append, List.reverse_reverse, List.append_nil, List.append_assoc]

theorem decodeFrom_cons (state : State) (b : UInt8) (rest : List UInt8) :
    decodeFrom state [] (b :: rest) = (step state b).1 ++ decodeFrom (step state b).2 [] rest := by
  simp only [decodeFrom]
  rw [decodeFrom_reversed, List.append_nil, List.reverse_reverse]

/-! ## Cutting at an ASCII byte -/

/-- That the decoder waits for no ASCII byte. -/
def State.AboveAscii : State → Prop
  | .ready => True
  | .within _ _ low _ => 0x80 ≤ low

theorem aboveAscii_begin {b : Nat} {state : State} (h : begin? b = some state) :
    state.AboveAscii := by
  unfold begin? at h
  repeat' split at h
  all_goals cases h <;> simp [State.AboveAscii]

theorem aboveAscii_start (b : UInt8) : (start b).2.AboveAscii := by
  unfold start
  split
  · trivial
  · split
    · rename_i state hbegin
      exact aboveAscii_begin hbegin
    · trivial

/-- No byte makes the decoder wait for an ASCII byte. -/
theorem aboveAscii_step (state : State) (b : UInt8) : (step state b).2.AboveAscii := by
  unfold step
  split
  · exact aboveAscii_start b
  · split
    · split
      · trivial
      · exact Nat.le_refl _
    · exact aboveAscii_start b

/-- An ASCII byte ends what is unfinished, and nothing of it is left. -/
theorem step_ascii {state : State} (h : state.AboveAscii) {b : UInt8} (hb : b < 0x80) :
    step state b = (finish state ++ [Char.ofNat b.toNat], .ready) := by
  have hstart : start b = ([Char.ofNat b.toNat], .ready) := by rw [start, if_pos hb]
  cases state with
  | ready => exact hstart
  | within bits missing low high =>
      have hlow : 0x80 ≤ low := h
      have hlt : b.toNat < 0x80 := UInt8.lt_iff_toNat_lt.mp hb
      have hout : ¬ (low ≤ b.toNat && b.toNat ≤ high) = true := by
        simp only [Bool.and_eq_true, decide_eq_true_eq]
        omega
      simp only [step, if_neg hout, hstart]
      rfl

theorem decodeFrom_ascii {state : State} (h : state.AboveAscii) (above : List UInt8) {b : UInt8}
    (hb : b < 0x80) (below : List UInt8) :
    decodeFrom state [] (above ++ b :: below)
      = decodeFrom state [] above ++ Char.ofNat b.toNat :: decode below := by
  induction above generalizing state with
  | nil =>
      rw [List.nil_append, decodeFrom_cons, step_ascii h hb, List.append_assoc]
      rfl
  | cons other rest ih =>
      rw [List.cons_append, decodeFrom_cons, decodeFrom_cons, ih (aboveAscii_step state other),
        List.append_assoc]

/-- What stands before an ASCII byte and what stands behind it are decoded on their own. -/
theorem decode_ascii (above : List UInt8) {b : UInt8} (hb : b < 0x80) (below : List UInt8) :
    decode (above ++ b :: below) = decode above ++ Char.ofNat b.toNat :: decode below := by
  have hready : State.AboveAscii .ready := trivial
  exact decodeFrom_ascii hready above hb below

/-! ## Decoding what was encoded -/

theorem toNat_byte {k : Nat} (h : k < 256) : k.toUInt8.toNat = k :=
  UInt8.toNat_ofNat_of_lt' h

/-- The byte that begins a sequence of several bytes. -/
theorem decodeFrom_begin {k : Nat} {state : State} (hk : 0x80 ≤ k) (hbyte : k < 256)
    (h : begin? k = some state) (rest : List UInt8) :
    decodeFrom .ready [] (k.toUInt8 :: rest) = decodeFrom state [] rest := by
  have hlt : ¬ k.toUInt8 < 0x80 := by
    rw [UInt8.lt_iff_toNat_lt, toNat_byte hbyte]
    exact Nat.not_lt.mpr hk
  rw [decodeFrom_cons, step, start, if_neg hlt, toNat_byte hbyte, h, List.nil_append]

/-- A byte in the middle of a sequence adds its six bits. -/
theorem decodeFrom_middle {bits missing low high k : Nat} (hlow : low ≤ 0x80 + k)
    (hhigh : 0x80 + k ≤ high) (hbyte : 0x80 + k < 256) (rest : List UInt8) :
    decodeFrom (.within bits (missing + 1) low high) [] ((0x80 + k).toUInt8 :: rest)
      = decodeFrom (.within (bits * 64 + k) missing 0x80 0xBF) [] rest := by
  have hin : (low ≤ 0x80 + k && 0x80 + k ≤ high) = true := by simp [hlow, hhigh]
  rw [decodeFrom_cons]
  simp only [step, toNat_byte hbyte, hin, if_true, List.nil_append, Nat.add_sub_cancel_left]

/-- The last byte of a sequence completes its character. -/
theorem decodeFrom_last {bits low high k : Nat} (hlow : low ≤ 0x80 + k) (hhigh : 0x80 + k ≤ high)
    (hbyte : 0x80 + k < 256) (rest : List UInt8) :
    decodeFrom (.within bits 0 low high) [] ((0x80 + k).toUInt8 :: rest)
      = Char.ofNat (bits * 64 + k) :: decodeFrom .ready [] rest := by
  have hin : (low ≤ 0x80 + k && 0x80 + k ≤ high) = true := by simp [hlow, hhigh]
  rw [decodeFrom_cons]
  simp only [step, toNat_byte hbyte, hin, if_true, List.singleton_append, Nat.add_sub_cancel_left]

theorem begin?_two : ∀ k < 32, 2 ≤ k → begin? (0xC0 + k) = some (.within k 0 0x80 0xBF) := by
  decide

/-- Behind `E0` the second byte rules out what two bytes can say, behind `ED` the surrogates. -/
theorem begin?_three : ∀ k < 16, begin? (0xE0 + k)
    = some (.within k 1 (if k = 0 then 0xA0 else 0x80) (if k = 13 then 0x9F else 0xBF)) := by
  decide

/-- Behind `F0` the second byte rules out what three bytes can say, behind `F4` what lies beyond the
last character. -/
theorem begin?_four : ∀ k < 5, begin? (0xF0 + k)
    = some (.within k 2 (if k = 0 then 0x90 else 0x80) (if k = 4 then 0x8F else 0xBF)) := by
  decide

/-- The bytes of a character are read as the character. -/
theorem decodeFrom_encodeChar (c : Char) (rest : List UInt8) :
    decodeFrom .ready [] (encodeChar c ++ rest) = c :: decodeFrom .ready [] rest := by
  have hvalid : c.toNat < 0xD800 ∨ 0xDFFF < c.toNat ∧ c.toNat < 0x110000 := c.valid
  have hchar : Char.ofNat c.toNat = c := Char.ofNat_toNat c
  unfold encodeChar
  simp only
  generalize c.toNat = n at hvalid hchar ⊢
  by_cases hone : n < 0x80
  · have hbyte : n.toUInt8 < 0x80 := by
      rw [UInt8.lt_iff_toNat_lt, toNat_byte (by omega)]
      exact hone
    rw [if_pos hone, List.singleton_append, decodeFrom_cons, step_ascii (by trivial) hbyte,
      toNat_byte (by omega), hchar]
    rfl
  rw [if_neg hone]
  by_cases htwo : n < 0x800
  · have hbits : n / 64 * 64 + n % 64 = n := by omega
    rw [if_pos htwo, List.cons_append, List.singleton_append,
      decodeFrom_begin (by omega) (by omega) (begin?_two (n / 64) (by omega) (by omega)),
      decodeFrom_last (by omega) (by omega) (by omega), hbits, hchar]
  rw [if_neg htwo]
  by_cases hthree : n < 0x10000
  · have hbits : (n / 4096 * 64 + n / 64 % 64) * 64 + n % 64 = n := by omega
    rw [if_pos hthree, List.cons_append, List.cons_append, List.singleton_append,
      decodeFrom_begin (by omega) (by omega) (begin?_three (n / 4096) (by omega)),
      decodeFrom_middle (by split <;> omega) (by split <;> omega) (by omega),
      decodeFrom_last (by omega) (by omega) (by omega), hbits, hchar]
  · have hbits : ((n / 262144 * 64 + n / 4096 % 64) * 64 + n / 64 % 64) * 64 + n % 64 = n := by
      omega
    rw [if_neg hthree, List.cons_append, List.cons_append, List.cons_append, List.singleton_append,
      decodeFrom_begin (by omega) (by omega) (begin?_four (n / 262144) (by omega)),
      decodeFrom_middle (by split <;> omega) (by split <;> omega) (by omega),
      decodeFrom_middle (by omega) (by omega) (by omega),
      decodeFrom_last (by omega) (by omega) (by omega), hbits, hchar]

/-- Decoding undoes encoding. -/
theorem decode_encode (s : Text) : decode (encode s) = s := by
  show decodeFrom .ready [] (encode s) = s
  induction s with
  | nil => rfl
  | cons c rest ih =>
      have hcons : encode (c :: rest) = encodeChar c ++ encode rest := List.flatMap_cons
      rw [hcons, decodeFrom_encodeChar, ih]

/-- The bytes of a character are those that strings are stored as. -/
theorem encodeChar_eq (c : Char) : encodeChar c = String.utf8EncodeChar c := by
  have hvalid : c.toNat < 0xD800 ∨ 0xDFFF < c.toNat ∧ c.toNat < 0x110000 := c.valid
  have hval : c.val.toNat = c.toNat := rfl
  unfold encodeChar String.utf8EncodeChar
  simp only [hval, ← Nat.lt_succ_iff, Nat.reduceSucc]
  generalize c.toNat = n at hvalid ⊢
  have htail (k : Nat) : k % 64 + 128 = 0x80 + k % 64 := by omega
  by_cases hone : n < 0x80
  · rw [if_pos hone, if_pos hone]
  rw [if_neg hone, if_neg hone]
  by_cases htwo : n < 0x800
  · have hlead : n / 64 % 32 + 192 = 0xC0 + n / 64 := by omega
    rw [if_pos htwo, if_pos htwo, hlead, htail]
  rw [if_neg htwo, if_neg htwo]
  by_cases hthree : n < 0x10000
  · have hlead : n / 4096 % 16 + 224 = 0xE0 + n / 4096 := by omega
    rw [if_pos hthree, if_pos hthree, hlead, htail, htail]
  · have hlead : n / 262144 % 8 + 240 = 0xF0 + n / 262144 := by omega
    rw [if_neg hthree, if_neg hthree, hlead, htail, htail, htail]

theorem encode_eq (s : Text) : encode s = s.flatMap String.utf8EncodeChar := by
  rw [encode, funext encodeChar_eq]

end SymbolAtlas.Text.Utf8
