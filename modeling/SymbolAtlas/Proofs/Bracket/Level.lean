/-
# SymbolAtlas.Proofs.Bracket.Level — what the level of a pair counts

The scan takes the level of a pair from the height of its stack. The brackets on the stack are those
open in front of the pair, and they are of two sorts: the others close behind the pair and so enclose
it, or they are never closed. `level_counts` counts both. An outermost pair is meant to have level 1, and
it has, unless a bracket in front of it is never closed, which the scan does not mind. So in a text
that is balanced as a whole the level counts just the pair and the pairs around it.
-/
import SymbolAtlas.Proofs.Bracket.Content

namespace SymbolAtlas.Bracket

/-! ## Brackets that are never closed -/

/-- Whether a bracket opens at a position of a text. -/
def opensAt (s : Text) (i : Nat) : Bool := s[i]?.any fun c => (ofOpening? c).isSome

/-- The positions of the opening brackets of a text that stand in no pair. -/
def neverClosed (s : Text) : List Nat :=
  (List.range s.length).filter fun o => opensAt s o && (pairs s).all fun p => p.openIndex != o

theorem isSome_ofOpening?_iff (c : Char) :
    (ofOpening? c).isSome = true ↔ ∃ kind : Bracket, c = kind.opening := by
  constructor
  · intro h
    rcases bracket_cases c with hopening | ⟨kind, rfl⟩ | hother
    · exact hopening
    · cases kind <;> cases h
    · rw [ofOpening?_eq_none hother] at h
      cases h
  · rintro ⟨kind, rfl⟩
    cases kind <;> rfl

theorem opensAt_iff (s : Text) (i : Nat) :
    opensAt s i = true ↔ ∃ kind : Bracket, s[i]? = some kind.opening := by
  unfold opensAt
  cases s[i]? with
  | none => simp
  | some c => simp only [Option.any_some, isSome_ofOpening?_iff, Option.some.injEq]

/-- A bracket stands in no pair exactly if it is still open at the end of the text. -/
theorem mem_neverClosed_iff {s : Text} (h : Extendable s) (o : Nat) :
    o ∈ neverClosed s ↔ OpenAt s s.length o := by
  obtain ⟨-, -, hmem⟩ := pairs_spec h
  simp only [neverClosed, List.mem_filter, List.mem_range, Bool.and_eq_true, opensAt_iff,
    List.all_eq_true, bne_iff_ne]
  constructor
  · rintro ⟨hlt, hopening, hunpaired⟩
    refine ⟨hlt, hopening, fun kind j hmatched => ?_⟩
    obtain ⟨p, hp, hopen, -⟩ := exists_mem_pairs h hmatched
    exact absurd hopen (hunpaired p hp)
  · intro hopen
    refine ⟨hopen.order, hopen.opening, ?_⟩
    rintro p hp rfl
    have hdescribes := (hmem p).mp hp
    have hlate := hopen.unmatched p.kind p.closeIndex hdescribes.matched
    exact absurd hdescribes.closeIndex_lt (Nat.not_lt_of_le hlate)

/-! ## The brackets open in front of a pair -/

/-- The brackets that a text leaves open stand in it from the last to the first. -/
theorem Unclosed.pairwise {s : Text} {opened : List (Bracket × Nat)} (h : Unclosed s opened) :
    opened.Pairwise fun inner outer => outer.2 < inner.2 := by
  induction h with
  | balanced hs => exact List.Pairwise.nil
  | opening kind hs ht ih =>
      refine List.pairwise_cons.mpr ⟨fun outer houter => ?_, ih⟩
      exact (hs.depth_above outer houter).1

/-- A bracket is open in front of a pair if it belongs to a pair around this one, or if it stands in
front of this one and is never closed. -/
theorem openAt_openIndex_iff {s : Text} {p : Pair} (h : p ∈ pairs s) (o : Nat) :
    OpenAt s p.openIndex o ↔
      (∃ q ∈ pairs s, q.encloses p = true ∧ q.openIndex = o) ∨
        o ∈ neverClosed s ∧ o < p.openIndex := by
  have hextendable := extendable_of_mem h
  have hp := describes_of_mem h
  have horder := hp.matched.order
  have hend := hp.closeIndex_lt
  rw [mem_neverClosed_iff hextendable]
  constructor
  · intro hopen
    by_cases hclosed : ∃ kind j, Matched s kind o j
    · obtain ⟨kind, j, hmatched⟩ := hclosed
      obtain ⟨q, hq, rfl, rfl⟩ := exists_mem_pairs hextendable hmatched
      have hlate := hopen.unmatched kind q.closeIndex hmatched
      -- it closes behind the opening bracket of the pair, so it closes behind the pair
      rcases hmatched.apart_or_inside hp.matched hopen.order with happart | hinside
      · omega
      · exact .inl ⟨q, hq, Pair.encloses_iff.mpr ⟨hopen.order, hinside⟩, rfl⟩
    · have hfront := hopen.order
      refine .inr ⟨⟨by omega, hopen.opening, ?_⟩, hfront⟩
      intro kind j hmatched
      exact absurd ⟨kind, j, hmatched⟩ hclosed
  · rintro (⟨q, hq, hencloses, rfl⟩ | ⟨hopen, hlt⟩)
    · obtain ⟨hfront, hbehind⟩ := Pair.encloses_iff.mp hencloses
      have hdescribes := describes_of_mem hq
      refine ⟨hfront, ⟨q.kind, hdescribes.matched.opening⟩, fun kind j hmatched => ?_⟩
      have hsame := hdescribes.matched.closeIndex_unique hmatched
      omega
    · refine ⟨hlt, hopen.opening, fun kind j hmatched => ?_⟩
      have hlate := hopen.unmatched kind j hmatched
      omega

/-- The stack in front of a pair holds the opening brackets of the pairs around it and those that
are never closed, each once. -/
theorem perm_opened {s : Text} {p : Pair} (h : p ∈ pairs s) {opened : List (Bracket × Nat)}
    (hopened : Unclosed (s.take p.openIndex) opened) :
    (opened.map (·.2)).Perm (((pairs s).filter fun q => q.encloses p).map (·.openIndex)
      ++ (neverClosed s).filter fun o => o < p.openIndex) := by
  have hextendable := extendable_of_mem h
  obtain ⟨-, hsorted, -⟩ := pairs_spec hextendable
  have hinside : p.openIndex ≤ s.length := by
    have hp := describes_of_mem h
    have horder := hp.matched.order
    have hend := hp.closeIndex_lt
    omega
  have hstack (o : Nat) : o ∈ opened.map (·.2) ↔ OpenAt s p.openIndex o := by
    have hopen := openAt_iff hopened (s.drop p.openIndex) o
    rw [List.take_append_drop, List.length_take_of_le hinside] at hopen
    rw [hopen]
    simp
  refine (List.perm_ext_iff_of_nodup ?stack ?sorts).mpr fun o => ?members
  case stack =>
    refine hopened.pairwise.map _ ?_
    intro inner outer hlt
    exact Nat.ne_of_gt hlt
  case sorts =>
    refine List.nodup_append'.mpr ⟨?_, (List.nodup_range.filter _).filter _, ?_⟩
    · refine (hsorted.filter _).map _ ?_
      intro q r hlt
      exact Nat.ne_of_lt hlt
    · -- what opens a pair is closed
      intro o haround hleft
      obtain ⟨q, hq, rfl⟩ := List.mem_map.mp haround
      have hnever := (mem_neverClosed_iff hextendable _).mp (List.mem_filter.mp hleft).1
      have hdescribes := describes_of_mem (List.mem_filter.mp hq).1
      have hlate := hnever.unmatched q.kind q.closeIndex hdescribes.matched
      exact absurd hdescribes.closeIndex_lt (Nat.not_lt_of_le hlate)
  case members =>
    rw [hstack, openAt_openIndex_iff h]
    simp [and_assoc]

/-- The level of a pair counts the pair itself, the pairs around it, and the brackets in front of it
that are never closed. -/
theorem level_eq {s : Text} {p : Pair} (h : p ∈ pairs s) :
    p.level = 1 + (pairs s).countP (fun q => q.encloses p)
      + (neverClosed s).countP (fun o => o < p.openIndex) := by
  have hfront := extendable_of_mem h
  rw [← List.take_append_drop p.openIndex s] at hfront
  obtain ⟨opened, hopened⟩ := extendable_iff.mp (extendable_of_append hfront)
  have hheight := (perm_opened h hopened).length_eq
  rw [List.length_map, List.length_append, List.length_map, ← List.countP_eq_length_filter,
    ← List.countP_eq_length_filter] at hheight
  have hlevel := (describes_of_mem h).level
  rw [hopened.depth_eq] at hlevel
  omega

/-- If all brackets of a text are closed, the level of a pair counts the pairs around it, and
outermost pairs have level 1. -/
theorem level_of_balanced {s : Text} (hs : Balanced s) {p : Pair} (h : p ∈ pairs s) :
    p.level = 1 + (pairs s).countP (fun q => q.encloses p) := by
  have hlevel := level_eq h
  have hnone : (neverClosed s).countP (fun o => o < p.openIndex) = 0 := by
    rw [List.countP_eq_zero]
    intro o hnever
    have hopen := (mem_neverClosed_iff (extendable_of_mem h) o).mp hnever
    exact absurd hopen ((balanced_iff_closed.mp hs).2 o)
  omega

/-- The level of a pair is one more than the number of pairs around it and of brackets in front of
it that are never closed. So it is what it is meant to be, one more than the number of pairs around
it, exactly if every bracket in front of the pair is closed somewhere. -/
theorem level_counts {s : Text} {p : Pair} (h : p ∈ pairs s) :
    p.level = 1 + (pairs s).countP (fun q => q.encloses p)
        + (neverClosed s).countP (fun o => o < p.openIndex) ∧
      (p.level = 1 + (pairs s).countP (fun q => q.encloses p) ↔
        ∀ o < p.openIndex, ¬ OpenAt s s.length o) := by
  have hlevel := level_eq h
  refine ⟨hlevel, ?_⟩
  have hnone : (neverClosed s).countP (fun o => o < p.openIndex) = 0
      ↔ ∀ o < p.openIndex, ¬ OpenAt s s.length o := by
    simp only [List.countP_eq_zero, decide_eq_true_eq, mem_neverClosed_iff (extendable_of_mem h)]
    exact ⟨fun hfront o hlt hopen => hfront o hopen hlt, fun hfront o hopen hlt =>
      hfront o hlt hopen⟩
  rw [← hnone]
  omega

/-- A bracket in front of the pairs that is never closed: the square pair lies in the round one
alone, but it has level 3. -/
theorem level_counts_operator :
    (⟨.square, 12, 14, 3⟩ : Pair) ∈ pairs "operator< (a[b])".toList ∧
      (3 = 1 + (pairs "operator< (a[b])".toList).countP
            (fun q => q.encloses ⟨.square, 12, 14, 3⟩)
          + (neverClosed "operator< (a[b])".toList).countP (fun o => o < 12) ∧
        (3 = 1 + (pairs "operator< (a[b])".toList).countP
            (fun q => q.encloses ⟨.square, 12, 14, 3⟩) ↔
          ∀ o < 12, ¬ OpenAt "operator< (a[b])".toList "operator< (a[b])".toList.length o)) := by
  have hmem : (⟨.square, 12, 14, 3⟩ : Pair) ∈ pairs "operator< (a[b])".toList := by decide
  exact ⟨hmem, level_counts hmem⟩

/-- The only pair of this text has no pair around it, and its level is 2. -/
theorem level_behind_unclosed :
    fault? "operator<(int)".toList = none ∧
      pairs "operator<(int)".toList = [⟨.round, 9, 13, 2⟩] ∧
      ¬ ∀ p ∈ pairs "operator<(int)".toList,
        p.level = 1 + (pairs "operator<(int)".toList).countP (fun q => q.encloses p) := by
  decide

end SymbolAtlas.Bracket
