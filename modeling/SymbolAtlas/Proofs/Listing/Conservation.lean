/-
# SymbolAtlas.Proofs.Listing.Conservation — no byte of a region is lost or invented

The code of a region is measured by a difference of addresses less the padding at its end, while the
opcode bytes are counted one by one. If no byte is read before the first address, both agree up to
the gaps that addresses leave: what lies between the first and the last address is the opcode bytes
and the gaps. If moreover no address goes back behind the one that was reached, then the code has no
negative size. The invariant `Balanced` relates the four counters and the gaps met so far; one lemma
says that a line keeps it, and one that a run does.
-/
import SymbolAtlas.Proofs.Listing.Extent
import Mathlib.Algebra.Order.BigOperators.Group.List

namespace SymbolAtlas.RegionReader

open CodeLine

/-! ## Gaps -/

/-- How far the address of a line lies above the address that was reached before. The first address
has no gap, nor has a line without an address. -/
def gap? (r : RegionReader) (line : Text) : Option Int := do
  let value ← addressValue? line
  let last ← r.region.lastAddress
  return value - last

/-- The gaps that a reader meets in some lines. -/
def gaps (resolver : Resolver) : RegionReader → List Text → Attempt (List Int)
  | _, [] => return []
  | r, line :: below => do
    let next ← feed resolver r line
    return (gap? r line).toList ++ (← gaps resolver next below)

/-- The gaps of a reading that never fails. -/
def gapsOf (resolver : Resolver) : RegionReader → List Text → List Int
  | _, [] => []
  | r, line :: below => (gap? r line).toList ++ gapsOf resolver (readLine resolver r line) below

theorem gaps_eq_gapsOf (resolver : Resolver) (lines : List Text) (r : RegionReader) :
    gaps resolver r lines = .ok (gapsOf resolver r lines) := by
  induction lines generalizing r with
  | nil => rfl
  | cons line below ih =>
      rw [gaps, feed_spec]
      show (gaps resolver (readLine resolver r line) below >>= _) = _
      rw [ih]
      rfl

/-! ## Lines that begin with an address -/

/-- That the first line with an opcode byte has an address or comes below one. -/
def AddressedFirst (lines : List Text) : Prop :=
  ∀ above line below, lines = above ++ line :: below → (∀ other ∈ above, bytes other = []) →
    bytes line ≠ [] → ∃ addressed ∈ above ++ [line], (address? addressed).isSome = true

/-- Either the first line has an address, or it has no bytes and the lines below it are such. -/
theorem addressedFirst_cons {line : Text} {below : List Text} :
    AddressedFirst (line :: below)
      ↔ (address? line).isSome = true ∨ (bytes line = [] ∧ AddressedFirst below) := by
  constructor
  · intro h
    by_cases haddress : (address? line).isSome = true
    · exact .inl haddress
    · have hbytes : bytes line = [] := by
        by_contra hsome
        obtain ⟨addressed, hmem, htoken⟩ := h [] line below rfl (List.forall_mem_nil _) hsome
        rw [List.nil_append, List.mem_singleton] at hmem
        exact haddress (hmem ▸ htoken)
      refine .inr ⟨hbytes, fun above next rest heq hnone hsome => ?_⟩
      obtain ⟨addressed, hmem, htoken⟩ := h (line :: above) next rest (by rw [heq]; rfl)
        (List.forall_mem_cons.mpr ⟨hbytes, hnone⟩) hsome
      rcases List.mem_cons.mp hmem with rfl | hmem
      · exact absurd htoken haddress
      · exact ⟨addressed, hmem, htoken⟩
  · rintro (haddress | ⟨hbytes, hbelow⟩) above next rest heq hnone hsome
    · cases above with
      | nil =>
          obtain ⟨rfl, -⟩ := List.cons.inj heq
          exact ⟨line, List.mem_singleton_self line, haddress⟩
      | cons first others =>
          obtain ⟨rfl, -⟩ := List.cons.inj heq
          exact ⟨line, List.mem_cons_self, haddress⟩
    · cases above with
      | nil =>
          obtain ⟨rfl, -⟩ := List.cons.inj heq
          exact absurd hbytes hsome
      | cons first others =>
          obtain ⟨-, heq⟩ := List.cons.inj heq
          obtain ⟨addressed, hmem, htoken⟩ :=
            hbelow others next rest heq (List.forall_mem_cons.mp hnone).2 hsome
          exact ⟨addressed, List.mem_cons_of_mem first hmem, htoken⟩

/-! ## The balance of the counters -/

/-- What a reader has counted after some gaps: the padding is part of the opcode bytes; as long as
there is no address there are no bytes; and from the first address on, what lies behind it is the
opcode bytes and the gaps. -/
structure Balanced (r : RegionReader) (gapSum : Int) : Prop where
  fillerRun_le : (r.fillerRun : Int) ≤ r.region.opcodeByteCount
  unaddressed : r.region.firstAddress = none →
    r.region.lastAddress = none ∧ r.region.opcodeByteCount = 0 ∧ gapSum = 0
  addressed : ∀ first, r.region.firstAddress = some first → ∃ last,
    r.region.lastAddress = some last ∧ last - first = r.region.opcodeByteCount + gapSum

theorem balanced_fresh (name : Text) (lineStart lineEnd : Int) :
    Balanced (fresh name lineStart lineEnd) 0 where
  fillerRun_le := Int.le_refl 0
  unaddressed _ := ⟨rfl, rfl, rfl⟩
  addressed _ h := by cases h

/-- A byte extends the run of padding by one at most. -/
theorem fillerRun_countBytes (seen : Nat) (tokens : List Text) (r : RegionReader) :
    (countBytes seen tokens r).fillerRun ≤ r.fillerRun + tokens.length := by
  induction tokens generalizing seen r with
  | nil => exact Nat.le_refl _
  | cons token rest ih =>
      have hbyte : (r.opcodeByte token seen).fillerRun ≤ r.fillerRun + 1 := by
        simp only [opcodeByte]
        split
        · exact Nat.le_refl _
        · exact Nat.zero_le _
      have hrest := ih (seen + 1) (r.opcodeByte token seen)
      rw [countBytes, List.length_cons]
      omega

theorem fillerRun_readLine (resolver : Resolver) (r : RegionReader) (line : Text) :
    (readLine resolver r line).fillerRun ≤ r.fillerRun + (bytes line).length := by
  have hset : (r.setAddress (address? line)).fillerRun = r.fillerRun := by
    cases address? line <;> rfl
  have hbytes := fillerRun_countBytes 0 (bytes line) (r.setAddress (address? line))
  rw [hset] at hbytes
  exact hbytes

/-- A line keeps the balance, if its bytes have an address on the line or above it. -/
theorem balanced_readLine (resolver : Resolver) {r : RegionReader} {gapSum : Int}
    (h : Balanced r gapSum) {line : Text}
    (hline : r.region.firstAddress ≠ none ∨ (address? line).isSome = true ∨ bytes line = []) :
    Balanced (readLine resolver r line) (gapSum + (gap? r line).toList.sum) := by
  have hfiller := fillerRun_readLine resolver r line
  have hle := h.fillerRun_le
  have hregion := readLine_region resolver r line
  refine ⟨?filler, ?unaddressed, ?addressed⟩
  case filler =>
    rw [hregion]
    show ((readLine resolver r line).fillerRun : Int)
      ≤ r.region.opcodeByteCount + (bytes line).length
    omega
  case unaddressed =>
    intro hnone
    rw [hregion] at hnone ⊢
    obtain ⟨hfirst, hvalue⟩ := Option.or_eq_none_iff.mp hnone
    obtain ⟨hlast, hcount, hsum⟩ := h.unaddressed hfirst
    have haddress : address? line = none := addressValue?_eq_none_iff.mp hvalue
    have hbytes : bytes line = [] := by
      rcases hline with hseen | hsome | hbytes
      · exact absurd hfirst hseen
      · rw [haddress] at hsome
        cases hsome
      · exact hbytes
    simp [gap?, hvalue, hlast, hcount, hsum, hbytes]
  case addressed =>
    intro first hsome
    rw [hregion] at hsome ⊢
    cases hfirst : r.region.firstAddress with
    | none =>
        -- the first address: nothing was counted before it, and it leaves no gap
        obtain ⟨hlast, hcount, hsum⟩ := h.unaddressed hfirst
        have hvalue : addressValue? line = some first := by
          rw [← hsome, hfirst, Option.none_or]
        refine ⟨first + (bytes line).length, by rw [hvalue]; rfl, ?_⟩
        simp [gap?, hvalue, hlast, hcount, hsum]
    | some seen =>
        have hseen : seen = first := by
          rw [hfirst, Option.some_or] at hsome
          exact Option.some.inj hsome
        subst hseen
        obtain ⟨last, hlast, hbalance⟩ := h.addressed seen hfirst
        cases hvalue : addressValue? line with
        | none =>
            refine ⟨last + (bytes line).length, by rw [hlast]; rfl, ?_⟩
            have hgap : (gap? r line).toList.sum = 0 := by simp [gap?, hvalue]
            show last + (bytes line).length - seen
              = r.region.opcodeByteCount + (bytes line).length
                + (gapSum + (gap? r line).toList.sum)
            omega
        | some value =>
            -- the address moves on by its gap, and so does the balance
            refine ⟨value + (bytes line).length, rfl, ?_⟩
            have hgap : (gap? r line).toList.sum = value - last := by simp [gap?, hvalue, hlast]
            show value + (bytes line).length - seen
              = r.region.opcodeByteCount + (bytes line).length
                + (gapSum + (gap? r line).toList.sum)
            omega

/-- Lines keep the balance, if no byte comes above all addresses. -/
theorem balanced_foldl (resolver : Resolver) {lines : List Text} {r : RegionReader} {gapSum : Int}
    (h : Balanced r gapSum) (hlines : r.region.firstAddress ≠ none ∨ AddressedFirst lines) :
    Balanced (lines.foldl (readLine resolver) r) (gapSum + (gapsOf resolver r lines).sum) := by
  induction lines generalizing r gapSum with
  | nil =>
      rw [gapsOf, List.sum_nil, add_zero]
      exact h
  | cons line below ih =>
      have hfirst : (readLine resolver r line).region.firstAddress
          = r.region.firstAddress.or (addressValue? line) := by
        rw [readLine_region]
      rw [List.foldl_cons, gapsOf, List.sum_append, ← add_assoc]
      rcases hlines with hseen | hlines
      · refine ih (balanced_readLine resolver h (.inl hseen)) (.inl fun hnone => hseen ?_)
        rw [hfirst] at hnone
        exact (Option.or_eq_none_iff.mp hnone).1
      · rcases addressedFirst_cons.mp hlines with haddress | ⟨hbytes, hbelow⟩
        · refine ih (balanced_readLine resolver h (.inr (.inl haddress))) (.inl fun hnone => ?_)
          rw [hfirst] at hnone
          rw [addressValue?_eq_none_iff.mp (Option.or_eq_none_iff.mp hnone).2] at haddress
          cases haddress
        · exact ih (balanced_readLine resolver h (.inr (.inr hbytes))) (.inr hbelow)

/-! ## The balance of a region -/

/-- If the lines of a region show an address, and no byte above the first one, then no byte is lost:
what lies between the first address and the address reached is the code and the padding, and it is
the opcode bytes and the gaps. The padding is part of the opcode bytes, and the size of the code is
not negative if no address goes back. Without gaps, code and padding are exactly the opcode bytes. -/
theorem extent_conserved (resolver : Resolver) (name : Text) (lineStart lineEnd : Int)
    {lines : List Text} (hfirst : AddressedFirst lines)
    (haddress : ∃ line ∈ lines, (address? line).isSome = true) :
    ∃ reader met, lines.foldlM (feed resolver) (fresh name lineStart lineEnd) = .ok reader ∧
      gaps resolver (fresh name lineStart lineEnd) lines = .ok met ∧
      reader.finish.region.fillerByteCount ≤ reader.finish.region.opcodeByteCount ∧
      (∃ first last, reader.finish.region.firstAddress = some first ∧
        reader.finish.region.lastAddress = some last ∧
        reader.finish.region.codeByteCount + reader.finish.region.fillerByteCount = last - first ∧
        last - first = reader.finish.region.opcodeByteCount + met.sum) ∧
      ((∀ gap ∈ met, 0 ≤ gap) → 0 ≤ reader.finish.region.codeByteCount) ∧
      ((∀ gap ∈ met, gap = 0) →
        reader.finish.region.codeByteCount + reader.finish.region.fillerByteCount
          = reader.finish.region.opcodeByteCount) := by
  refine ⟨_, _, foldlM_feed resolver lines _, gaps_eq_gapsOf resolver lines _, ?_⟩
  have hlines : (fresh name lineStart lineEnd).region.firstAddress ≠ none ∨ AddressedFirst lines :=
    .inr hfirst
  have hbalanced := balanced_foldl resolver (balanced_fresh name lineStart lineEnd) hlines
  have hregion := foldl_readLine_region resolver lines (fresh name lineStart lineEnd)
  obtain ⟨first, hfound⟩ := exists_findSome?_addressValue? haddress
  generalize lines.foldl (readLine resolver) (fresh name lineStart lineEnd) = reader
    at hbalanced hregion ⊢
  generalize gapsOf resolver (fresh name lineStart lineEnd) lines = met at hbalanced ⊢
  have hsome : reader.region.firstAddress = some first := by
    rw [hregion, hfound]
    rfl
  obtain ⟨last, hlast, hbalance⟩ := hbalanced.addressed first hsome
  rw [zero_add] at hbalance
  have hcode : reader.finish.region.codeByteCount = last - reader.fillerRun - first := by
    simp only [finish, hsome, hlast]
  have hfiller : reader.finish.region.fillerByteCount = reader.fillerRun := rfl
  have hcount : reader.finish.region.opcodeByteCount = reader.region.opcodeByteCount := rfl
  have hle := hbalanced.fillerRun_le
  rw [hcode, hfiller, hcount]
  refine ⟨hle, ⟨first, last, hsome, hlast, by omega, hbalance⟩, fun hgaps => ?_, fun hzero => ?_⟩
  · have hsum : 0 ≤ met.sum := List.sum_nonneg hgaps
    omega
  · have hnone : met.sum = 0 := List.sum_eq_zero hzero
    omega

/-- A comment, an instruction that goes on below its address, and padding behind a gap. -/
def paddedLines : List Text :=
  ["  ; entry".toList, "  00401000: 48 83".toList, "  EC 28  sub rsp,28h".toList,
    "  00401006: CC CC  int 3".toList]

theorem extent_conserved_paddedLines :
    AddressedFirst paddedLines ∧ (∃ line ∈ paddedLines, (address? line).isSome = true) ∧
      ∃ reader, paddedLines.foldlM (feed []) (fresh "entry".toList 0 5) = .ok reader ∧
        gaps [] (fresh "entry".toList 0 5) paddedLines = .ok [2] ∧
        0 ≤ reader.finish.region.codeByteCount ∧
        reader.finish.region.codeByteCount + reader.finish.region.fillerByteCount
          = reader.finish.region.opcodeByteCount + 2 := by
  have hfirst : AddressedFirst paddedLines :=
    addressedFirst_cons.mpr (.inr ⟨by rfl, addressedFirst_cons.mpr (.inl (by rfl))⟩)
  have haddress : ∃ line ∈ paddedLines, (address? line).isSome = true :=
    ⟨"  00401000: 48 83".toList, by decide, by rfl⟩
  obtain ⟨reader, met, hread, hgaps, -, ⟨first, last, -, -, hcode, hcount⟩, hsize, -⟩ :=
    extent_conserved [] "entry".toList 0 5 hfirst haddress
  have hmet : met = [2] := Except.ok.inj (hgaps.symm.trans (by rfl))
  subst hmet
  have hsum : ([2] : List Int).sum = 2 := by decide
  exact ⟨hfirst, haddress, reader, hread, hgaps, hsize (by decide), by omega⟩

example : (paddedLines.foldlM (feed []) (fresh "entry".toList 0 5)).map
      (fun reader => reader.finish.region)
    = .ok { name := "entry".toList, lineStart := 0, lineEnd := 5, firstAddress := some 0x401000,
            lastAddress := some 0x401008, opcodeByteCount := 6, codeByteCount := 6,
            fillerByteCount := 2 } := by
  rfl

end SymbolAtlas.RegionReader
