/-
# SymbolAtlas.Proofs.Bracket.Balance — texts that are balanced as a whole, and the pairs of a text

A text that is not balanced has a closing bracket with nothing open, a closing bracket of the wrong
kind, or an opening bracket that is never closed. The scan looks for the first two only. So what it
accepts are the texts that can be extended, and a text is balanced if besides no bracket is open at
its end. The pairs of a text that is accepted are exactly those that describe its matching brackets,
and in a balanced text every bracket stands in one of them.
-/
import SymbolAtlas.Proofs.Bracket.Scan

namespace SymbolAtlas.Bracket

/-! ## Balanced texts and their brackets -/

/-- Whether a text is balanced depends on its brackets alone. -/
theorem balanced_iff_wellNested {s : Text} : Balanced s ↔ WellNested (brackets s) := by
  constructor
  · exact wellNested_brackets
  · intro h
    obtain ⟨opened, hopened⟩ := extendable_iff.mp ⟨brackets s, h, List.prefix_rfl⟩
    exact hopened.balanced_of_depth (depth_of_wellNested h).1

theorem extendable_of_balanced {s : Text} (h : Balanced s) : Extendable s :=
  extendable_of_unclosed (.balanced h)

/-- A text is balanced exactly if it can be extended and leaves no bracket open. -/
theorem balanced_iff_closed {s : Text} :
    Balanced s ↔ Extendable s ∧ ∀ o, ¬ OpenAt s s.length o := by
  have hopen {opened : List (Bracket × Nat)} (h : Unclosed s opened) (o : Nat) :
      OpenAt s s.length o ↔ ∃ kind, (kind, o) ∈ opened := by
    have hend := openAt_iff h [] o
    rwa [List.append_nil] at hend
  constructor
  · intro h
    refine ⟨extendable_of_balanced h, fun o ho => ?_⟩
    obtain ⟨kind, hmem⟩ := (hopen (.balanced h) o).mp ho
    cases hmem
  · rintro ⟨hextendable, hclosed⟩
    obtain ⟨opened, hopened⟩ := extendable_iff.mp hextendable
    cases opened with
    | nil =>
        cases hopened with
        | balanced hs => exact hs
    | cons innermost outer =>
        have hlast := (hopen hopened innermost.2).mpr ⟨innermost.1, List.mem_cons_self⟩
        exact absurd hlast (hclosed innermost.2)

/-! ## The pairs of a text -/

/-- A text that can be extended has the pairs that describe its matching brackets, in order. -/
theorem pairs_spec {s : Text} (h : Extendable s) :
    fault? s = none ∧
      ((pairs s).Pairwise fun earlier later => earlier.openIndex < later.openIndex) ∧
      ∀ p : Pair, p ∈ pairs s ↔ p.Describes s := by
  obtain ⟨found, hfound⟩ := scan_eq_ok_iff.mpr h
  have hpairs : pairs s = found := by rw [pairs, hfound]
  have hfault : fault? s = none := by rw [fault?, hfound]
  rw [hpairs]
  exact ⟨hfault, mem_scan hfound⟩

theorem extendable_iff_fault? {s : Text} : Extendable s ↔ fault? s = none := by
  refine ⟨fun h => (pairs_spec h).1, fun h => ?_⟩
  cases hscan : scan s with
  | ok found => exact scan_eq_ok_iff.mp ⟨found, hscan⟩
  | error fault =>
      rw [fault?, hscan] at h
      cases h

/-- A text is balanced exactly if the scan accepts it and it closes as many brackets as it opens. -/
theorem balanced_iff_depth {s : Text} : Balanced s ↔ fault? s = none ∧ depth s = 0 := by
  constructor
  · intro h
    exact ⟨extendable_iff_fault?.mp (extendable_of_balanced h), (depth_of_balanced h).1⟩
  · rintro ⟨hfault, hdepth⟩
    obtain ⟨opened, hopened⟩ := extendable_iff.mp (extendable_iff_fault?.mpr hfault)
    exact hopened.balanced_of_depth hdepth

instance (s : Text) : Decidable (Balanced s) := decidable_of_iff _ balanced_iff_depth.symm

/-- A scan that fails leaves no pairs. -/
theorem pairs_of_fault {s : Text} {fault : Fault} (h : fault? s = some fault) : pairs s = [] := by
  cases hscan : scan s with
  | ok found =>
      rw [fault?, hscan] at h
      cases h
  | error other => rw [pairs, hscan]

theorem extendable_of_mem {s : Text} {p : Pair} (h : p ∈ pairs s) : Extendable s := by
  cases hfault : fault? s with
  | none => exact extendable_iff_fault?.mpr hfault
  | some fault =>
      rw [pairs_of_fault hfault] at h
      cases h

theorem describes_of_mem {s : Text} {p : Pair} (h : p ∈ pairs s) : p.Describes s :=
  ((pairs_spec (extendable_of_mem h)).2.2 p).mp h

/-- In a text that can be extended, any two matching brackets stand in a pair. -/
theorem exists_mem_pairs {s : Text} (h : Extendable s) {kind : Bracket} {i j : Nat}
    (hmatched : Matched s kind i j) : ∃ p ∈ pairs s, p.openIndex = i ∧ p.closeIndex = j := by
  obtain ⟨p, hp, hopen, hclose⟩ := exists_describes h hmatched
  exact ⟨p, ((pairs_spec h).2.2 p).mpr hp, hopen, hclose⟩

/-- Every bracket of a balanced text stands in a pair. -/
theorem exists_pair_of_balanced {s : Text} (h : Balanced s) {i : Nat} {c : Char}
    (hc : s[i]? = some c) (hbracket : isBracket c = true) :
    ∃ p ∈ pairs s, p.openIndex = i ∨ p.closeIndex = i := by
  have hextendable := extendable_of_balanced h
  rcases bracket_cases c with ⟨kind, rfl⟩ | ⟨kind, rfl⟩ | hother
  · obtain ⟨j, hmatched⟩ := exists_matched_of_balanced h hc
    obtain ⟨p, hp, hopen, -⟩ := exists_mem_pairs hextendable hmatched
    exact ⟨p, hp, .inl hopen⟩
  · obtain ⟨o, hmatched⟩ := exists_matched_of_extendable hextendable hc
    obtain ⟨p, hp, -, hclose⟩ := exists_mem_pairs hextendable hmatched
    exact ⟨p, hp, .inr hclose⟩
  · rw [hother] at hbracket
    cases hbracket

/-! ## What makes a text unbalanced -/

/-- In a text that can be extended, the innermost bracket open in front of a closing bracket is of
its kind. -/
theorem exists_innermost {s : Text} (h : Extendable s) {kind : Bracket} {i : Nat}
    (hclosing : s[i]? = some kind.closing) :
    ∃ o, s[o]? = some kind.opening ∧ OpenAt s i o ∧ ∀ other, OpenAt s i other → other ≤ o := by
  obtain ⟨before, after, rfl, rfl⟩ := exists_cut hclosing
  obtain ⟨opened, hopened⟩ := extendable_iff.mp (extendable_of_append h)
  have hfits : ¬ Blocked opened kind := by
    intro hblocked
    exact not_extendable_of_blocked hopened hblocked after h
  obtain ⟨o, outer, rfl⟩ := exists_of_not_blocked hfits
  obtain ⟨hlt, hget, -⟩ := hopened.depth_above _ List.mem_cons_self
  refine ⟨o, ?_, openAt_innermost hopened (kind.closing :: after)⟩
  rw [List.getElem?_append_left hlt]
  exact hget

/-- A text cannot be extended exactly if something is wrong with one of its closing brackets. -/
theorem not_extendable_iff {s : Text} : ¬ Extendable s ↔ ∃ i fault, Fault.Names s i fault := by
  constructor
  · intro h
    cases hscan : scan s with
    | ok found => exact absurd (scan_eq_ok_iff.mp ⟨found, hscan⟩) h
    | error fault =>
        obtain ⟨i, -, hnames⟩ := scan_error_names hscan
        exact ⟨i, fault, hnames⟩
  · rintro ⟨i, fault, hnames⟩ h
    cases hnames with
    | unbalanced hclosing hnone =>
        obtain ⟨o, -, hopen, -⟩ := exists_innermost h hclosing
        exact hnone o hopen
    | mismatched hclosing hopening hkind hopen hinnermost =>
        obtain ⟨o, hget, hopen', hinnermost'⟩ := exists_innermost h hclosing
        -- there is one innermost bracket only, and it cannot be of two kinds
        have hsame := Nat.le_antisymm (hinnermost o hopen') (hinnermost' _ hopen)
        rw [hsame, hopening] at hget
        exact hkind (opening_injective (Option.some.inj hget))

theorem names_of_fault? {s : Text} {fault : Fault} (h : fault? s = some fault) :
    ∃ i, fault.Names s i := by
  cases hscan : scan s with
  | ok found =>
      rw [fault?, hscan] at h
      cases h
  | error other =>
      rw [fault?, hscan] at h
      cases h
      obtain ⟨i, -, hnames⟩ := scan_error_names hscan
      exact ⟨i, hnames⟩

end SymbolAtlas.Bracket
