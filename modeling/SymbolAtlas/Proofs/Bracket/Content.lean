/-
# SymbolAtlas.Proofs.Bracket.Content — scanning the content of a pair once more

Between two matching brackets a text is balanced, so whatever stands around a pair, also brackets
that are never closed, has no part in what matches inside of it. The matching brackets of the content
are those of the text that lie inside the pair, counted from behind its opening bracket; and the
depth of the content starts again where that of the text stands behind this bracket. So a second
scan, of the content alone, sees what the first scan saw there.
-/
import SymbolAtlas.Proofs.Bracket.Balance
import Mathlib.Data.List.Sort

namespace SymbolAtlas.Bracket

/-! ## Slices -/

/-- Matching brackets of a slice are matching brackets of the text. -/
theorem matched_slice_iff (s : Text) (kind : Bracket) {start stop i j : Nat}
    (h : start + j < stop) :
    Matched (slice s start stop) kind i j ↔ Matched s kind (start + i) (start + j) := by
  have hbetween : slice (slice s start stop) (i + 1) j
      = slice s (start + i + 1) (start + j) := by
    rw [slice_of_slice s (Nat.le_of_lt h), Nat.add_assoc]
  have hclosing := getElem?_slice s h
  constructor
  · intro hmatched
    have horder := hmatched.order
    have hopening := getElem?_slice s (Nat.lt_trans (Nat.add_lt_add_left horder start) h)
    exact ⟨hopening ▸ hmatched.opening, hclosing ▸ hmatched.closing, by omega,
      hbetween ▸ hmatched.between⟩
  · intro hmatched
    have horder := hmatched.order
    have hopening := getElem?_slice s (Nat.lt_trans horder h)
    exact ⟨hopening ▸ hmatched.opening, hclosing ▸ hmatched.closing, by omega,
      hbetween ▸ hmatched.between⟩

theorem depth_take_slice (s : Text) {start stop count : Nat} (h : start + count ≤ stop) :
    depth (s.take (start + count))
      = depth (s.take start) + depth ((slice s start stop).take count) := by
  rw [take_slice s h, List.take_add, depth_append, slice, List.drop_take,
    Nat.add_sub_cancel_left]

/-! ## The inside of a pair -/

/-- Whether a pair lies strictly inside this one. -/
def Pair.encloses (p q : Pair) : Bool :=
  decide (p.openIndex < q.openIndex) && decide (q.closeIndex < p.closeIndex)

theorem Pair.encloses_iff {p q : Pair} :
    p.encloses q = true ↔ p.openIndex < q.openIndex ∧ q.closeIndex < p.closeIndex := by
  rw [encloses, Bool.and_eq_true, decide_eq_true_iff, decide_eq_true_iff]

/-- What a pair of the content of this pair is in the text around it: its positions are counted
from behind the opening bracket, and its level from the level of this pair. -/
def Pair.outward (p q : Pair) : Pair where
  kind := q.kind
  openIndex := p.openIndex + 1 + q.openIndex
  closeIndex := p.openIndex + 1 + q.closeIndex
  level := p.level + q.level

theorem Pair.content_eq_slice (p : Pair) (s : Text) :
    p.content s = slice s (p.openIndex + 1) p.closeIndex := by
  rw [content, slice, List.drop_take]

namespace Pair.Describes

variable {s : Text} {p : Pair}

/-- The content of a pair is balanced. -/
theorem balanced_content (h : p.Describes s) : Balanced (p.content s) := by
  rw [content_eq_slice]
  exact balanced_iff_wellNested.mpr h.matched.between

theorem closeIndex_lt (h : p.Describes s) : p.closeIndex < s.length :=
  (List.getElem?_eq_some_iff.mp h.matched.closing).1

/-- Behind its opening bracket the depth is the level of the pair. -/
theorem depth_inside (h : p.Describes s) :
    depth (s.take (p.openIndex + 1)) = p.level := by
  rw [List.take_add_one, h.matched.opening, depth_append, h.level]
  simp

/-- The pairs of the content are the pairs of the text inside of the pair. -/
theorem outward_iff (h : p.Describes s) (q : Pair) :
    q.Describes (p.content s) ↔ (p.outward q).Describes s ∧ p.encloses (p.outward q) = true := by
  rw [Pair.encloses_iff, content_eq_slice]
  have hinside : p.openIndex < p.openIndex + 1 + q.openIndex := by omega
  -- a pair that reaches beyond the closing bracket is a pair of neither side
  by_cases hend : p.openIndex + 1 + q.closeIndex < p.closeIndex
  · have hmatched := matched_slice_iff (i := q.openIndex) s q.kind hend
    have hlevel (horder : q.openIndex < q.closeIndex) :
        ((p.level + q.level : Nat) : Int) = depth (s.take (p.openIndex + 1 + q.openIndex)) + 1 ↔
          (q.level : Int)
            = depth ((slice s (p.openIndex + 1) p.closeIndex).take q.openIndex) + 1 := by
      have hle : p.openIndex + 1 + q.openIndex ≤ p.closeIndex := by omega
      rw [depth_take_slice s hle, h.depth_inside]
      omega
    constructor
    · intro hq
      exact ⟨⟨hmatched.mp hq.matched, (hlevel hq.matched.order).mpr hq.level⟩, hinside, hend⟩
    · rintro ⟨hq, -⟩
      have hm := hmatched.mpr hq.matched
      exact ⟨hm, (hlevel hm.order).mp hq.level⟩
  · refine iff_of_false (fun hq => hend ?_) fun hq => hend hq.2.2
    have hclose := hq.closeIndex_lt
    have hlast := h.closeIndex_lt
    rw [length_slice (Nat.le_of_lt hlast)] at hclose
    omega

/-- Every pair inside of this one is a pair of the content. -/
theorem exists_outward (h : p.Describes s) {r : Pair} (hr : r.Describes s)
    (hinside : p.encloses r = true) : ∃ q, p.outward q = r := by
  obtain ⟨hopen, hclose⟩ := Pair.encloses_iff.mp hinside
  have horder := hr.matched.order
  have habove := h.matched.depth_spec.2 r.openIndex hopen (by omega)
  have hlevel := h.level
  have hlevel' := hr.level
  refine ⟨⟨r.kind, r.openIndex - (p.openIndex + 1), r.closeIndex - (p.openIndex + 1),
    r.level - p.level⟩, ?_⟩
  obtain ⟨kind, openIndex, closeIndex, level⟩ := r
  simp only [Pair.outward, Pair.mk.injEq, true_and] at *
  omega

end Pair.Describes

/-- Scanning the content of a pair gives the pairs inside of it, in the same order. -/
theorem map_pairs_content {s : Text} {p : Pair} (h : p ∈ pairs s) :
    (pairs (p.content s)).map p.outward = (pairs s).filter p.encloses := by
  have hp := describes_of_mem h
  obtain ⟨-, hsorted, hmem⟩ := pairs_spec (extendable_of_mem h)
  obtain ⟨-, hsorted', hmem'⟩ := pairs_spec (extendable_of_balanced hp.balanced_content)
  have hirreflexive : Std.Irrefl fun q r : Pair => q.openIndex < r.openIndex :=
    ⟨fun q => Nat.lt_irrefl q.openIndex⟩
  have hantisymmetric : Std.Antisymm fun q r : Pair => q.openIndex < r.openIndex :=
    ⟨fun q r hlt hgt => absurd hlt (Nat.lt_asymm hgt)⟩
  -- both lists are in the order of the opening brackets, so their members decide
  refine List.Pairwise.eq_of_mem_iff (hsorted'.map p.outward fun q r hlt => ?_)
    (hsorted.filter p.encloses) fun r => ?_
  · exact Nat.add_lt_add_left hlt (p.openIndex + 1)
  · rw [List.mem_map, List.mem_filter, hmem]
    constructor
    · rintro ⟨q, hq, rfl⟩
      exact (hp.outward_iff q).mp ((hmem' q).mp hq)
    · rintro ⟨hr, hinside⟩
      obtain ⟨q, rfl⟩ := hp.exists_outward hr hinside
      exact ⟨q, (hmem' q).mpr ((hp.outward_iff q).mpr ⟨hr, hinside⟩), rfl⟩

example : (pairs "x(a[b]<c>)".toList).map (fun p => pairs (p.content "x(a[b]<c>)".toList))
    = [[⟨.square, 1, 3, 1⟩, ⟨.angled, 4, 6, 1⟩], [], []] := by
  decide

end SymbolAtlas.Bracket
