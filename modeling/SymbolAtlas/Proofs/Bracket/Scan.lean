/-
# SymbolAtlas.Proofs.Bracket.Scan — the scan finds the matching brackets, or the first that has none

The scan keeps a stack of positions and stops at the first closing bracket that its top does not
fit. Every step of it keeps the stack equal to the brackets that the text read so far leaves open,
and from this all else follows. A text can be extended to a well-nested word exactly if it leaves
some brackets open, so the scan fails only where no continuation could help; and what the scan takes
from its stack are the matching brackets. The last statement says both of every text.
-/
import SymbolAtlas.Proofs.Bracket.Unclosed
import Mathlib.Order.Bounds.Basic

namespace SymbolAtlas.Bracket

/-! ## Where the scan fails -/

/-- That the innermost of the open brackets, if there is one, is not of the given kind. -/
def Blocked (opened : List (Bracket × Nat)) (kind : Bracket) : Prop :=
  (opened.map (·.1)).head? ≠ some kind

/-- Otherwise there is an innermost one, and it is of that kind. -/
theorem exists_of_not_blocked {opened : List (Bracket × Nat)} {kind : Bracket}
    (h : ¬ Blocked opened kind) : ∃ o outer, opened = (kind, o) :: outer := by
  cases opened with
  | nil => exact absurd (by simp [Blocked]) h
  | cons innermost outer =>
      obtain ⟨openKind, o⟩ := innermost
      have hkind : openKind = kind := by simpa [Blocked] using h
      exact ⟨o, outer, by rw [hkind]⟩

/-- What is wrong with a closing bracket that does not fit the brackets open in front of it. -/
def faultAt (kind : Bracket) (index : Nat) : List (Bracket × Nat) → Fault
  | [] => .unbalanced kind index
  | (openKind, openIndex) :: _ => .mismatched kind index openKind openIndex

theorem scanFrom_blocked {opened : List (Bracket × Nat)} {kind : Bracket}
    (h : Blocked opened kind) (index : Nat) (rest : Text) :
    scanFrom index opened (kind.closing :: rest) = .error (faultAt kind index opened) := by
  have hopening : ofOpening? kind.closing = none := by cases kind <;> rfl
  have hclosing : ofClosing? kind.closing = some kind := by cases kind <;> rfl
  cases opened with
  | nil => simp only [scanFrom, hopening, hclosing, faultAt]
  | cons innermost outer =>
      obtain ⟨openKind, openIndex⟩ := innermost
      have hne : ¬ openKind = kind := fun heq => h (congrArg some heq)
      simp only [scanFrom, hopening, hclosing, if_neg hne, faultAt]

/-- The scan goes through a text and comes out with the brackets that it leaves open on its stack.
-/
theorem scan_append {s : Text} {opened : List (Bracket × Nat)} (h : Unclosed s opened)
    (rest : Text) : ∃ inner : List Pair, scan (s ++ rest)
      = (scanFrom s.length opened rest).map fun found => inner.foldr insertPair found := by
  induction h generalizing rest with
  | @balanced s hs =>
      obtain ⟨inner, -, hscan⟩ := scanFrom_balanced hs 0 [] rest
      rw [Nat.zero_add] at hscan
      exact ⟨inner, hscan⟩
  | @opening kind s t opened _ ht ih =>
      obtain ⟨first, hfirst⟩ := ih (kind.opening :: (t ++ rest))
      obtain ⟨second, -, hsecond⟩ :=
        scanFrom_balanced ht (s.length + 1) ((kind, s.length) :: opened) rest
      have hlength : (s ++ kind.opening :: t).length = s.length + 1 + t.length := by
        rw [List.length_append, List.length_cons]
        omega
      refine ⟨first ++ second, ?_⟩
      rw [List.append_assoc, List.cons_append, hfirst, scanFrom_opening, hsecond, hlength]
      cases scanFrom (s.length + 1 + t.length) ((kind, s.length) :: opened) rest with
      | error fault => rfl
      | ok found => simp only [Except.map, List.foldr_append]

/-- A closing bracket that does not fit ends the scan. -/
theorem scan_blocked {s : Text} {opened : List (Bracket × Nat)} (h : Unclosed s opened)
    {kind : Bracket} (hblocked : Blocked opened kind) (rest : Text) :
    scan (s ++ kind.closing :: rest) = .error (faultAt kind s.length opened) := by
  obtain ⟨inner, hscan⟩ := scan_append h (kind.closing :: rest)
  rw [hscan, scanFrom_blocked hblocked]
  rfl

/-- Nothing behind such a bracket can help. -/
theorem not_extendable_of_blocked {s : Text} {opened : List (Bracket × Nat)}
    (h : Unclosed s opened) {kind : Bracket} (hblocked : Blocked opened kind) (rest : Text) :
    ¬ Extendable (s ++ kind.closing :: rest) := by
  rintro ⟨word, hword, more, rfl⟩
  -- the scan of a well-nested word succeeds, but that of this one fails where the text does
  obtain ⟨opened', hopened, hkinds⟩ := unclosed_brackets h
  have hblocked' : Blocked opened' kind := by
    unfold Blocked
    rw [hkinds]
    exact hblocked
  have hsplit : brackets (s ++ kind.closing :: rest) ++ more
      = brackets s ++ kind.closing :: (brackets rest ++ more) := by
    rw [brackets_append, brackets_cons_of_bracket (isBracket_closing kind), List.append_assoc,
      List.cons_append]
  have hfails := scan_blocked hopened hblocked' (brackets rest ++ more)
  obtain ⟨found, -, hsucceeds⟩ := scanFrom_balanced hword.balanced 0 [] []
  rw [List.append_nil, hsplit] at hsucceeds
  cases hsucceeds.symm.trans hfails

/-! ## How far a text can be read -/

/-- One character more: the text still leaves brackets open, or the character closes none of
them. -/
theorem unclosed_step {s : Text} {opened : List (Bracket × Nat)} (h : Unclosed s opened)
    (c : Char) :
    (∃ next, Unclosed (s ++ [c]) next) ∨
      ∃ kind : Bracket, c = kind.closing ∧ Blocked opened kind := by
  rcases bracket_cases c with ⟨kind, rfl⟩ | ⟨kind, rfl⟩ | hother
  · exact .inl ⟨_, h.open_bracket kind⟩
  · by_cases hblocked : Blocked opened kind
    · exact .inr ⟨kind, rfl, hblocked⟩
    · obtain ⟨o, outer, rfl⟩ := exists_of_not_blocked hblocked
      exact .inl ⟨outer, h.close_bracket⟩
  · exact .inl ⟨opened, h.append_balanced (.plain hother)⟩

/-- Read further, a text leaves brackets open up to its end, or up to a first closing bracket that
does not fit. -/
theorem unclosed_or_blocked_append (rest : Text) {s : Text} {opened : List (Bracket × Nat)}
    (h : Unclosed s opened) :
    (∃ left, Unclosed (s ++ rest) left) ∨
      ∃ between kind after left, rest = between ++ closing kind :: after ∧
        Unclosed (s ++ between) left ∧ Blocked left kind := by
  induction rest generalizing s opened with
  | nil =>
      rw [List.append_nil]
      exact .inl ⟨opened, h⟩
  | cons c rest ih =>
      rcases unclosed_step h c with ⟨next, hnext⟩ | ⟨kind, rfl, hblocked⟩
      · rcases ih hnext with ⟨left, hleft⟩ | ⟨between, kind, after, left, rfl, hleft, hblocked⟩
        · rw [List.append_assoc] at hleft
          exact .inl ⟨left, hleft⟩
        · rw [List.append_assoc] at hleft
          exact .inr ⟨c :: between, kind, after, left, rfl, hleft, hblocked⟩
      · refine .inr ⟨[], kind, rest, opened, rfl, ?_, hblocked⟩
        rw [List.append_nil]
        exact h

/-- A text leaves brackets open, or it has a first closing bracket that does not fit. -/
theorem unclosed_or_blocked (s : Text) :
    (∃ left, Unclosed s left) ∨
      ∃ before kind after left, s = before ++ closing kind :: after ∧ Unclosed before left ∧
        Blocked left kind := by
  have h := unclosed_or_blocked_append s (.balanced .nil)
  simpa using h

/-- The texts that can be extended to a well-nested word are those that leave brackets open. -/
theorem extendable_iff {s : Text} : Extendable s ↔ ∃ opened, Unclosed s opened := by
  constructor
  · intro h
    rcases unclosed_or_blocked s with hleft | ⟨before, kind, after, left, rfl, hleft, hblocked⟩
    · exact hleft
    · exact absurd h (not_extendable_of_blocked hleft hblocked after)
  · rintro ⟨opened, h⟩
    exact extendable_of_unclosed h

/-- The scan succeeds for these texts only. -/
theorem scan_eq_ok_iff {s : Text} : (∃ found, scan s = .ok found) ↔ Extendable s := by
  constructor
  · rintro ⟨found, hfound⟩
    rcases unclosed_or_blocked s with ⟨left, hleft⟩ | ⟨before, kind, after, left, rfl, hleft,
      hblocked⟩
    · exact extendable_of_unclosed hleft
    · rw [scan_blocked hleft hblocked] at hfound
      cases hfound
  · intro h
    obtain ⟨opened, hopened⟩ := extendable_iff.mp h
    obtain ⟨inner, hscan⟩ := scan_append hopened []
    rw [List.append_nil] at hscan
    exact ⟨_, hscan⟩

/-- In a text that can be extended every closing bracket has its match. -/
theorem exists_matched_of_extendable {s : Text} (h : Extendable s) {kind : Bracket} {j : Nat}
    (hclosing : s[j]? = some kind.closing) : ∃ o, Matched s kind o j := by
  obtain ⟨before, after, rfl, rfl⟩ := exists_cut hclosing
  obtain ⟨opened, hopened⟩ := extendable_iff.mp (extendable_of_append h)
  have hfits : ¬ Blocked opened kind := fun hblocked =>
    not_extendable_of_blocked hopened hblocked after h
  obtain ⟨o, outer, rfl⟩ := exists_of_not_blocked hfits
  exact ⟨o, hopened.matched_close after⟩

/-! ## What the scan finds -/

/-- That a pair stands for two matching brackets of a text, with the number of brackets open inside
of it as its level. -/
structure Pair.Describes (p : Pair) (s : Text) : Prop where
  matched : Matched s p.kind p.openIndex p.closeIndex
  level : (p.level : Int) = depth (s.take p.openIndex) + 1

/-- Nothing but one pair describes a closing bracket and its match. -/
theorem Pair.Describes.unique {s : Text} {p q : Pair} (hp : p.Describes s) (hq : q.Describes s)
    (h : p.closeIndex = q.closeIndex) : p = q := by
  obtain ⟨kind, o, j, level⟩ := p
  obtain ⟨kind', o', j', level'⟩ := q
  obtain ⟨hmatched, hlevel⟩ := hp
  obtain ⟨hmatched', hlevel'⟩ := hq
  dsimp only at hmatched hlevel hmatched' hlevel' h
  subst h
  have hopen : o = o' := hmatched.openIndex_unique hmatched'
  have hkind : kind = kind' :=
    closing_injective (Option.some.inj (hmatched.closing.symm.trans hmatched'.closing))
  subst hopen hkind
  have hlevels : level = level' := by omega
  rw [hlevels]

/-- What the scan records when a bracket closes the innermost open one. -/
theorem describes_close {s : Text} {kind : Bracket} {o : Nat} {outer : List (Bracket × Nat)}
    (h : Unclosed s ((kind, o) :: outer)) (rest : Text) :
    (Pair.mk kind o s.length (outer.length + 1)).Describes (s ++ kind.closing :: rest) where
  matched := h.matched_close rest
  level := by
    have hinside := (h.depth_above _ List.mem_cons_self).1
    show ((outer.length + 1 : Nat) : Int) = depth ((s ++ kind.closing :: rest).take o) + 1
    rw [List.take_append_of_le_length (Nat.le_of_lt hinside), h.depth_take rfl]
    omega

theorem mem_insertPair {p q : Pair} {found : List Pair} :
    q ∈ insertPair p found ↔ q = p ∨ q ∈ found := by
  induction found with
  | nil => simp [insertPair]
  | cons first later ih =>
      rw [insertPair]
      split
      · rw [List.mem_cons]
      · rw [List.mem_cons, ih, List.mem_cons]
        exact or_left_comm

/-- Pairs stay in the order of their opening brackets. -/
theorem pairwise_insertPair {p : Pair} {found : List Pair}
    (h : found.Pairwise fun earlier later => earlier.openIndex < later.openIndex)
    (hnew : ∀ q ∈ found, q.openIndex ≠ p.openIndex) :
    (insertPair p found).Pairwise fun earlier later => earlier.openIndex < later.openIndex := by
  induction found with
  | nil => exact List.pairwise_singleton _ p
  | cons first later ih =>
      obtain ⟨hfirst, hlater⟩ := List.pairwise_cons.mp h
      have hne := hnew first List.mem_cons_self
      rw [insertPair]
      split
      · refine List.pairwise_cons.mpr ⟨fun q hq => ?_, h⟩
        rcases List.mem_cons.mp hq with rfl | hq
        · omega
        · have hbehind := hfirst q hq
          omega
      · refine List.pairwise_cons.mpr
          ⟨fun q hq => ?_, ih hlater fun q hq => hnew q (List.mem_cons_of_mem first hq)⟩
        rcases mem_insertPair.mp hq with rfl | hq
        · omega
        · exact hfirst q hq

/-- That some pairs are those of a text that close at position `index` or later, in the order of
their opening brackets. -/
structure FoundFrom (s : Text) (index : Nat) (found : List Pair) : Prop where
  sorted : found.Pairwise fun earlier later => earlier.openIndex < later.openIndex
  mem_iff : ∀ p : Pair, p ∈ found ↔ p.Describes s ∧ index ≤ p.closeIndex

/-- At a character that is no closing bracket no pair closes. -/
theorem FoundFrom.pass {before rest : Text} {c : Char} {found : List Pair}
    (h : FoundFrom (before ++ c :: rest) (before.length + 1) found)
    (hc : ∀ kind : Bracket, c ≠ kind.closing) :
    FoundFrom (before ++ c :: rest) before.length found := by
  refine ⟨h.sorted, fun p => ?_⟩
  rw [h.mem_iff]
  refine and_congr_right fun hp => ?_
  have hne : p.closeIndex ≠ before.length := by
    intro heq
    have hclosing := hp.matched.closing
    rw [heq, List.getElem?_append_right (Nat.le_refl _), Nat.sub_self] at hclosing
    exact hc p.kind (Option.some.inj hclosing)
  omega

/-- At a closing bracket that fits, exactly the pair of this bracket is added. -/
theorem FoundFrom.close {s : Text} {p : Pair} {found : List Pair} (hp : p.Describes s)
    (h : FoundFrom s (p.closeIndex + 1) found) :
    FoundFrom s p.closeIndex (insertPair p found) := by
  constructor
  · refine pairwise_insertPair h.sorted fun q hq heq => ?_
    -- an opening bracket that is closed here is not closed again later
    obtain ⟨hdescribes, hlate⟩ := (h.mem_iff q).mp hq
    have hmatched := hdescribes.matched
    rw [heq] at hmatched
    have hsame := hp.matched.closeIndex_unique hmatched
    omega
  · intro q
    rw [mem_insertPair, h.mem_iff]
    constructor
    · rintro (rfl | ⟨hq, hlate⟩)
      · exact ⟨hp, Nat.le_refl _⟩
      · exact ⟨hq, by omega⟩
    · rintro ⟨hq, hlate⟩
      rcases Nat.lt_or_ge p.closeIndex q.closeIndex with hlt | hge
      · exact .inr ⟨hq, hlt⟩
      · exact .inl (hq.unique hp (Nat.le_antisymm hge hlate))

/-- From any position on, a scan that does not fail finds the pairs that close there or later. -/
theorem foundFrom_scanFrom (rest : Text) {before : Text} {opened : List (Bracket × Nat)}
    (h : Unclosed before opened) {found : List Pair}
    (hscan : scanFrom before.length opened rest = .ok found) :
    FoundFrom (before ++ rest) before.length found := by
  induction rest generalizing before opened found with
  | nil =>
      cases hscan
      refine ⟨List.Pairwise.nil, fun p => ⟨fun hp => (List.not_mem_nil hp).elim, ?_⟩⟩
      rintro ⟨hp, hlate⟩
      have hinside := (List.getElem?_eq_some_iff.mp hp.matched.closing).1
      rw [List.append_nil] at hinside
      omega
  | cons c rest ih =>
      have hrest {next : List (Bracket × Nat)} (hnext : Unclosed (before ++ [c]) next)
          {later : List Pair} (hlater : scanFrom (before.length + 1) next rest = .ok later) :
          FoundFrom (before ++ c :: rest) (before.length + 1) later := by
        have hlength : (before ++ [c]).length = before.length + 1 := by simp
        rw [← hlength] at hlater ⊢
        have hfound := ih hnext hlater
        rw [List.append_assoc, List.singleton_append] at hfound
        exact hfound
      rcases bracket_cases c with ⟨kind, rfl⟩ | ⟨kind, rfl⟩ | hother
      · rw [scanFrom_opening] at hscan
        exact (hrest (h.open_bracket kind) hscan).pass (opening_ne_closing kind)
      · by_cases hblocked : Blocked opened kind
        · rw [scanFrom_blocked hblocked] at hscan
          cases hscan
        · obtain ⟨o, outer, rfl⟩ := exists_of_not_blocked hblocked
          rw [scanFrom_closing] at hscan
          cases hlater : scanFrom (before.length + 1) outer rest with
          | error fault =>
              rw [hlater] at hscan
              cases hscan
          | ok later =>
              rw [hlater] at hscan
              cases hscan
              exact (hrest h.close_bracket hlater).close (describes_close h rest)
      · rw [scanFrom_other hother] at hscan
        refine (hrest (h.append_balanced (.plain hother)) hscan).pass fun kind heq => ?_
        rw [heq, isBracket_closing] at hother
        cases hother

/-- A scan that succeeds finds the matching brackets. -/
theorem mem_scan {s : Text} {found : List Pair} (h : scan s = .ok found) :
    (found.Pairwise fun earlier later => earlier.openIndex < later.openIndex) ∧
      ∀ p : Pair, p ∈ found ↔ p.Describes s := by
  have hfound := foundFrom_scanFrom s (.balanced .nil) h
  refine ⟨hfound.sorted, fun p => ?_⟩
  have hmem := hfound.mem_iff p
  simpa using hmem

/-- Every matched pair of brackets is described by some pair, if the text can be extended. -/
theorem exists_describes {s : Text} (h : Extendable s) {kind : Bracket} {i j : Nat}
    (hmatched : Matched s kind i j) :
    ∃ p : Pair, p.Describes s ∧ p.openIndex = i ∧ p.closeIndex = j := by
  have hsplit : s = s.take i ++ s.drop i := (List.take_append_drop i s).symm
  rw [hsplit] at h
  obtain ⟨opened, hopened⟩ := extendable_iff.mp (extendable_of_append h)
  refine ⟨⟨kind, i, j, opened.length + 1⟩, ⟨hmatched, ?_⟩, rfl, rfl⟩
  show ((opened.length + 1 : Nat) : Int) = depth (s.take i) + 1
  rw [hopened.depth_eq]
  omega

/-! ## Every text -/

/-- That a fault names the closing bracket at position `i` of a text, and what is open in front of
it. -/
inductive Fault.Names (s : Text) (i : Nat) : Fault → Prop
  /-- No bracket is open. -/
  | unbalanced {kind : Bracket} (closing : s[i]? = some kind.closing)
      (hopen : ∀ o, ¬ OpenAt s i o) : Names s i (.unbalanced kind i)
  /-- The innermost open bracket is of another kind. -/
  | mismatched {kind opened : Bracket} {o : Nat} (closing : s[i]? = some kind.closing)
      (opening : s[o]? = some opened.opening) (hkind : opened ≠ kind) (hopen : OpenAt s i o)
      (hinnermost : ∀ other, OpenAt s i other → other ≤ o) :
      Names s i (.mismatched kind i opened o)

/-- The words in which a fault is reported: what is wrong, with each bracket between quotes and its
position. -/
def Fault.Words : Fault → String → Prop
  | .unbalanced kind i, message =>
    message = s!"Unbalanced close symbol '{kind.closing}' at index {i}"
  | .mismatched kind i opened o, message =>
    message = s!"Mismatched close symbol '{kind.closing}' at {i}; " ++
      s!"the open symbol is '{opened.opening}' at {o}"

theorem encode_bracket (kind : Bracket) :
    Text.Quoted.encode [kind.opening] = [Text.Quoted.single, kind.opening, Text.Quoted.single] ∧
    Text.Quoted.encode [kind.closing]
      = [Text.Quoted.single, kind.closing, Text.Quoted.single] := by
  cases kind <;> decide +kernel

/-- A bracket is shown as it is, between single quotes. -/
theorem quoted_bracket (kind : Bracket) :
    Text.quoted [kind.opening] = s!"'{kind.opening}'" ∧
      Text.quoted [kind.closing] = s!"'{kind.closing}'" := by
  have hquoted (c : Char) :
      String.ofList [Text.Quoted.single, c, Text.Quoted.single] = s!"'{c}'" :=
    String.toList_injective (by simp [toString, Text.Quoted.single])
  rw [Text.quoted, Text.quoted, (encode_bracket kind).1, (encode_bracket kind).2]
  exact ⟨hquoted _, hquoted _⟩

/-- A fault is worded as said, whatever brackets it names. -/
theorem Fault.message_words (fault : Fault) : fault.Words fault.message := by
  cases fault with
  | unbalanced kind i =>
      unfold Words message
      dsimp only
      rw [(quoted_bracket kind).2, ← String.toList_inj]
      simp [toString]
  | mismatched kind i opened o =>
      unfold Words message
      dsimp only
      rw [(quoted_bracket kind).2, (quoted_bracket opened).1, ← String.toList_inj]
      simp [toString]

theorem names_faultAt {s : Text} {opened : List (Bracket × Nat)} (h : Unclosed s opened)
    {kind : Bracket} (hblocked : Blocked opened kind) (rest : Text) :
    (faultAt kind s.length opened).Names (s ++ kind.closing :: rest) s.length := by
  have hclosing : (s ++ kind.closing :: rest)[s.length]? = some kind.closing := by simp
  cases opened with
  | nil =>
      refine .unbalanced hclosing fun o ho => ?_
      obtain ⟨openKind, hmem⟩ := (openAt_iff h _ o).mp ho
      cases hmem
  | cons innermost outer =>
      obtain ⟨openKind, o⟩ := innermost
      obtain ⟨hlt, hget, -⟩ := h.depth_above _ List.mem_cons_self
      obtain ⟨hopen, hinnermost⟩ := openAt_innermost h (kind.closing :: rest)
      refine .mismatched hclosing ?_ (fun heq => hblocked (congrArg some heq)) hopen hinnermost
      rw [List.getElem?_append_left hlt]
      exact hget

/-- A scan that fails does so at the least position up to which the text cannot be extended. -/
theorem scan_error_names {s : Text} {fault : Fault} (h : scan s = .error fault) :
    ∃ i, IsLeast {n | ¬ Extendable (s.take (n + 1))} i ∧ fault.Names s i := by
  rcases unclosed_or_blocked s with ⟨left, hleft⟩ | ⟨before, kind, after, left, rfl, hleft,
    hblocked⟩
  · obtain ⟨found, hfound⟩ := scan_eq_ok_iff.mpr (extendable_of_unclosed hleft)
    rw [hfound] at h
    cases h
  · rw [scan_blocked hleft hblocked] at h
    cases h
    refine ⟨before.length, ⟨?_, ?_⟩, names_faultAt hleft hblocked after⟩
    · show ¬ Extendable ((before ++ kind.closing :: after).take (before.length + 1))
      rw [List.take_length_add_append]
      exact not_extendable_of_blocked hleft hblocked []
    · intro n hn
      by_contra hless
      rw [Set.mem_ofPred_eq, List.take_append_of_le_length (by omega)] at hn
      have hbefore := extendable_of_unclosed hleft
      rw [← List.take_append_drop (n + 1) before] at hbefore
      exact hn (extendable_of_append hbefore)

/-- The scan of a text succeeds exactly if the brackets of the text are the beginning of a
well-nested word. Then it has no message and finds the matching brackets, each closing bracket in
one pair, in the order of their opening brackets; and each pair lies behind the pairs before it or
inside them. Otherwise it finds no pair and has one message, which speaks of the least position up
to which the text cannot be extended: it calls the bracket there unbalanced if no bracket is open,
and mismatched if the innermost open one, which it names, is of another kind. -/
theorem scan_finds_matches (s : Text) :
    (fault? s = none ↔ Extendable s) ∧
    (fault? s = none → failures s = [] ∧
      (∀ i j, (∃ p ∈ pairs s, p.openIndex = i ∧ p.closeIndex = j) ↔ ∃ kind, Matched s kind i j) ∧
      (∀ p ∈ pairs s, p.Describes s) ∧
      (∀ kind j, s[j]? = some (closing kind) → ∃! p, p ∈ pairs s ∧ p.closeIndex = j) ∧
      (pairs s).Pairwise fun earlier later => earlier.openIndex < later.openIndex ∧
        (earlier.closeIndex < later.openIndex ∨ later.closeIndex < earlier.closeIndex)) ∧
    ∀ fault, fault? s = some fault →
      pairs s = [] ∧ failures s = [fault.message] ∧ fault.Words fault.message ∧
      ∃ i, IsLeast {n | ¬ Extendable (s.take (n + 1))} i ∧ fault.Names s i := by
  rw [← scan_eq_ok_iff]
  cases hscan : scan s with
  | error fault =>
      have hfault : fault? s = some fault := by rw [fault?, hscan]
      have hpairs : pairs s = [] := by rw [pairs, hscan]
      have hfailures : failures s = [fault.message] := by rw [failures, hfault]; rfl
      rw [hfault, hpairs, hfailures]
      refine ⟨by simp, fun h => (Option.some_ne_none fault h).elim, fun other hother => ?_⟩
      cases hother
      exact ⟨rfl, rfl, fault.message_words, scan_error_names hscan⟩
  | ok found =>
      have hfault : fault? s = none := by rw [fault?, hscan]
      have hpairs : pairs s = found := by rw [pairs, hscan]
      have hextendable : Extendable s := scan_eq_ok_iff.mp ⟨found, hscan⟩
      obtain ⟨hsorted, hmem⟩ := mem_scan hscan
      have hfailures : failures s = [] := by rw [failures, hfault]; rfl
      rw [hfault, hpairs, hfailures]
      refine ⟨⟨fun _ => ⟨found, rfl⟩, fun _ => rfl⟩,
        fun _ => ⟨rfl, ?matched, ?describes, ?closing, ?order⟩,
        fun fault h => (Option.some_ne_none fault h.symm).elim⟩
      case matched =>
        intro i j
        constructor
        · rintro ⟨p, hp, rfl, rfl⟩
          exact ⟨p.kind, ((hmem p).mp hp).matched⟩
        · rintro ⟨kind, hmatched⟩
          obtain ⟨p, hp, hopen, hclose⟩ := exists_describes hextendable hmatched
          exact ⟨p, (hmem p).mpr hp, hopen, hclose⟩
      case describes =>
        exact fun p hp => (hmem p).mp hp
      case closing =>
        intro kind j hclosing
        obtain ⟨o, hmatched⟩ := exists_matched_of_extendable hextendable hclosing
        obtain ⟨p, hp, -, hclose⟩ := exists_describes hextendable hmatched
        refine ⟨p, ⟨(hmem p).mpr hp, hclose⟩, ?_⟩
        rintro q ⟨hq, hsame⟩
        exact ((hmem q).mp hq).unique hp (hsame.trans hclose.symm)
      case order =>
        refine hsorted.imp_of_mem fun hp hq hlt => ⟨hlt, ?_⟩
        exact ((hmem _).mp hp).matched.apart_or_inside ((hmem _).mp hq).matched hlt

example : pairs "a\x7bb[c]\x7d(d".toList = [⟨.curly, 1, 6, 1⟩, ⟨.square, 3, 5, 2⟩] := by
  decide

example : fault? "(ok) bool operator>(A const &)".toList = some (.unbalanced .angled 18) := by
  decide

end SymbolAtlas.Bracket
