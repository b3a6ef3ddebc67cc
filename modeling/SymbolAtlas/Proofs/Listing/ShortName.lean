/-
# SymbolAtlas.Proofs.Listing.ShortName — the bare name of a declared function

A declaration is read from its argument list backwards. The list is the first round pair on the
outside of the text, since the brackets in front of it are of other kinds or lie inside of those; the
template arguments are the angled pair that ends the rest; and the name is what then follows the last
`::` or the last blank. Inside of brackets there may be more of all of these, but none of the three
cuts falls there: `shortFunctionName_declaration` says that what remains is the name, whatever is
nested around it.
-/
import SymbolAtlas.Listing.ExportName
import SymbolAtlas.Proofs.Bracket.Balance
import SymbolAtlas.Proofs.Text.Words

namespace SymbolAtlas

open SymbolAtlas.Bracket

/-! ## The last scope -/

theorem afterLastScope?_cons_of_ne {c : Char} (hc : c ≠ ':') (s : Text) :
    afterLastScope? (c :: s) = afterLastScope? s := by
  rw [afterLastScope?]
  rintro rest rfl
  exact absurd rfl hc

/-- A single colon is no scope. -/
theorem afterLastScope?_colon {s : Text} (h : s.head? ≠ some ':') :
    afterLastScope? (':' :: s) = afterLastScope? s := by
  rw [afterLastScope?]
  rintro rest - rfl
  exact absurd rfl h

theorem afterLastScope?_colons (s : Text) :
    afterLastScope? (':' :: ':' :: s) = (afterLastScope? (':' :: s)).or (some s) := by
  rw [afterLastScope?]

theorem afterLastScope?_of_not_mem {s : Text} (h : ':' ∉ s) : afterLastScope? s = none := by
  induction s with
  | nil => rfl
  | cons c rest ih =>
      rw [List.mem_cons, not_or] at h
      rw [afterLastScope?_cons_of_ne (Ne.symm h.1), ih h.2]

/-- A scope that is found in a text is found behind any character in front of it. -/
theorem afterLastScope?_cons {s found : Text} (h : afterLastScope? s = some found) (c : Char) :
    afterLastScope? (c :: s) = some found := by
  by_cases hc : c = ':'
  · subst hc
    by_cases hhead : s.head? = some ':'
    · obtain ⟨rest, rfl⟩ := List.head?_eq_some_iff.mp hhead
      rw [afterLastScope?_colons, h]
      rfl
    · rw [afterLastScope?_colon hhead, h]
  · rw [afterLastScope?_cons_of_ne hc, h]

/-- A name without colons follows the last scope of the text that it ends. -/
theorem afterLastScope?_scope {name : Text} (h : ':' ∉ name) (scope : Text) :
    afterLastScope? (scope ++ ':' :: ':' :: name) = some name := by
  induction scope with
  | nil =>
      have hhead : name.head? ≠ some ':' := fun heq => h (List.mem_of_mem_head? heq)
      rw [List.nil_append, afterLastScope?_colons, afterLastScope?_colon hhead,
        afterLastScope?_of_not_mem h]
      rfl
  | cons c rest ih => exact afterLastScope?_cons ih c

/-- A text that ends in a name and no colon in front of it keeps both behind its last scope. -/
theorem exists_afterLastScope {c : Char} (hc : c ≠ ':') {name : Text} (h : ':' ∉ name)
    (front : Text) {found : Text} (hfound : afterLastScope? (front ++ c :: name) = some found) :
    ∃ left, found = left ++ c :: name := by
  induction front with
  | nil =>
      rw [List.nil_append, afterLastScope?_cons_of_ne hc, afterLastScope?_of_not_mem h] at hfound
      cases hfound
  | cons d rest ih =>
      rw [List.cons_append] at hfound
      by_cases hd : d = ':'
      · subst hd
        by_cases hhead : (rest ++ c :: name).head? = some ':'
        · cases rest with
          | nil => exact absurd (Option.some.inj hhead) hc
          | cons e more =>
              obtain rfl : e = ':' := Option.some.inj hhead
              rw [List.cons_append, afterLastScope?_colons, Option.or_eq_some_iff] at hfound
              rcases hfound with hlater | ⟨-, hhere⟩
              · exact ih hlater
              · exact ⟨more, (Option.some.inj hhere).symm⟩
        · rw [afterLastScope?_colon hhead] at hfound
          exact ih hfound
      · rw [afterLastScope?_cons_of_ne hd] at hfound
        exact ih hfound

/-! ## Template arguments -/

theorem getLast?_angled (front inner : Text) :
    (front ++ '<' :: (inner ++ ['>'])).getLast? = some '>' := by
  rw [← List.cons_append, ← List.append_assoc]
  exact List.getLast?_concat

/-- A head that ends in an angled pair loses it, with all that is between its brackets. -/
theorem withoutTemplate_angled {front inner : Text} (hfront : Balanced front)
    (hinner : Balanced inner) :
    withoutTemplate (front ++ '<' :: (inner ++ ['>'])) = front.trimEnd := by
  let head := front ++ '<' :: (inner ++ ['>'])
  have hbalanced : Balanced head := hfront.append (hinner.wrap .angled)
  have hextendable := extendable_of_balanced hbalanced
  have hlast : head.getLast? = some '>' := getLast?_angled front inner
  have hlength : head.length = front.length + 1 + inner.length + 1 := by
    simp only [head, List.length_append, List.length_cons, List.length_nil]
    omega
  obtain ⟨p, hp, hopen, hclose⟩ := exists_mem_pairs hextendable
    (matched_append .angled (wellNested_brackets hinner) front [])
  have hsome : ((pairs head).find? fun q => q.closeIndex + 1 == head.length).isSome := by
    rw [List.find?_isSome]
    refine ⟨p, hp, ?_⟩
    rw [hclose, hlength, beq_self_eq_true]
  obtain ⟨q, hq⟩ := Option.isSome_iff_exists.mp hsome
  have hqclose := List.find?_some hq
  rw [beq_iff_eq, hlength] at hqclose
  -- no other pair closes where the head ends
  have hsame : q = p := by
    refine (describes_of_mem (List.mem_of_find?_eq_some hq)).unique (describes_of_mem hp) ?_
    omega
  show withoutTemplate head = _
  rw [withoutTemplate, if_pos hlast, hq, hsame]
  show Text.trimEnd (head.take p.openIndex) = _
  rw [hopen, List.take_left]

/-! ## The argument list -/

/-- That no round bracket opens on the outside of a text. -/
def RoundInside (s : Text) : Prop := ∀ i, s[i]? = some '(' → 0 < depth (s.take i)

theorem RoundInside.append {s t : Text} (hbalanced : Balanced s) (hs : RoundInside s)
    (ht : RoundInside t) : RoundInside (s ++ t) := by
  intro i hi
  by_cases hlt : i < s.length
  · rw [List.getElem?_append_left hlt] at hi
    rw [List.take_append_of_le_length (Nat.le_of_lt hlt)]
    exact hs i hi
  · rw [List.getElem?_append_right (by omega)] at hi
    have hdepth := ht (i - s.length) hi
    rw [List.take_append, List.take_of_length_le (by omega), depth_append,
      (depth_of_balanced hbalanced).1]
    omega

theorem roundInside_of_plain {s : Text} (h : isPlain s = true) : RoundInside s := by
  intro i hi
  have hplain := List.all_eq_true.mp h '(' (List.mem_of_getElem? hi)
  exact absurd hplain (by decide)

/-- No blank is a bracket. -/
theorem isPlain_of_blank {s : Text} (h : s.isBlankText = true) : isPlain s = true := by
  rw [isPlain, List.all_eq_true]
  intro c hc
  have hblank := (Text.isBlankText_iff s).mp h c hc
  rcases bracket_cases c with ⟨kind, rfl⟩ | ⟨kind, rfl⟩ | hother
  · cases kind <;> cases hblank
  · cases kind <;> cases hblank
  · rw [hother]
    rfl

/-- Between brackets of another kind anything is inside. -/
theorem roundInside_angled {s : Text} (h : Balanced s) : RoundInside ('<' :: (s ++ ['>'])) := by
  intro i hi
  cases i with
  | zero => exact absurd (Option.some.inj hi) (by decide)
  | succ n =>
      rw [List.getElem?_cons_succ] at hi
      have hn : n < s.length := by
        by_contra hge
        rw [List.getElem?_append_right (by omega)] at hi
        have hmem := List.mem_of_getElem? hi
        exact absurd hmem (by decide)
      have hbegin := (depth_of_balanced h).2 n
      have hopening : weight '<' = 1 := rfl
      rw [List.take_succ_cons, List.take_append_of_le_length (Nat.le_of_lt hn), depth_cons]
      omega

/-- In a balanced text, what lies between matching brackets is inside. -/
theorem roundInside_of_matched {s : Text} (hs : Balanced s)
    (h : ∀ i, s[i]? = some '(' → ∃ kind j k, Matched s kind j k ∧ j < i ∧ i < k) :
    RoundInside s := by
  intro i hi
  obtain ⟨kind, j, k, hmatched, hj, hk⟩ := h i hi
  have hinside := hmatched.depth_spec.2 i hj (by omega)
  have hbefore := (depth_of_balanced hs).2 j
  omega

/-- Of pairs in the order of their opening brackets, a search finds the one that opens first. -/
theorem find?_eq_some_of_first {found : List Pair} {test : Pair → Bool}
    (hsorted : found.Pairwise fun earlier later => earlier.openIndex < later.openIndex)
    {p : Pair} (hp : p ∈ found) (htest : test p = true)
    (hfirst : ∀ q ∈ found, test q = true → p.openIndex ≤ q.openIndex) :
    found.find? test = some p := by
  cases hfind : found.find? test with
  | none =>
      have hnot := List.find?_eq_none.mp hfind p hp
      exact absurd htest hnot
  | some q =>
      obtain ⟨hq, before, after, hsplit, hbefore⟩ := List.find?_eq_some_iff_append.mp hfind
      have hmem : q ∈ found := List.mem_of_find?_eq_some hfind
      rw [hsplit] at hp hsorted
      rcases List.mem_append.mp hp with hp | hp
      · have hnot := hbefore p hp
        rw [htest] at hnot
        cases hnot
      · rcases List.mem_cons.mp hp with rfl | hp
        · rfl
        · -- a pair behind the one that is found does not open before it
          have hlater := (List.pairwise_cons.mp (List.pairwise_append.mp hsorted).2.1).1 p hp
          have hle := hfirst q hmem hq
          omega

/-- The argument list is found behind a text that has round brackets on its inside only. -/
theorem beforeArguments_of_roundInside {front arguments after : Text} (hfront : Balanced front)
    (hinside : RoundInside front) (harguments : Balanced arguments) (hafter : Balanced after) :
    beforeArguments (front ++ '(' :: (arguments ++ ')' :: after)) = front := by
  let text := front ++ '(' :: (arguments ++ ')' :: after)
  have hbalanced : Balanced text := by
    have hlist : Balanced ('(' :: (arguments ++ [')']) ++ after) :=
      (harguments.wrap .round).append hafter
    rw [List.cons_append, List.append_assoc] at hlist
    exact hfront.append hlist
  obtain ⟨-, hsorted, hmem⟩ := pairs_spec (extendable_of_balanced hbalanced)
  obtain ⟨p, hp, hopen, -⟩ := exists_mem_pairs (extendable_of_balanced hbalanced)
    (matched_append .round (wellNested_brackets harguments) front after)
  have hdescribes := (hmem p).mp hp
  have hround : p.kind = .round := by
    have hopening := hdescribes.matched.opening
    rw [hopen, List.getElem?_append_right (Nat.le_refl _), Nat.sub_self] at hopening
    exact opening_injective (Option.some.inj hopening).symm
  have hlevel : p.level = 1 := by
    have h := hdescribes.level
    rw [hopen, List.take_left, (depth_of_balanced hfront).1] at h
    omega
  have hfirst : ∀ q ∈ pairs text, (q.kind == .round && q.level == 1) = true →
      p.openIndex ≤ q.openIndex := by
    intro q hq htest
    rw [Bool.and_eq_true, beq_iff_eq, beq_iff_eq] at htest
    by_contra hlt
    -- a round pair of the front lies inside another pair, so its level is greater
    have hq' := (hmem q).mp hq
    have hopening := hq'.matched.opening
    have hle : q.openIndex ≤ front.length := by omega
    rw [htest.1, List.getElem?_append_left (by omega)] at hopening
    have hdepth := hinside q.openIndex hopening
    have h := hq'.level
    rw [List.take_append_of_le_length hle, htest.2] at h
    omega
  have hfind := find?_eq_some_of_first hsorted hp
    (by rw [hround, hlevel]; rfl : (p.kind == .round && p.level == 1) = true) hfirst
  show beforeArguments text = front
  rw [beforeArguments, hfind]
  show text.take p.openIndex = front
  rw [hopen, List.take_left]

/-! ## Declarations -/

/-- The declaration of a function, taken apart. In front of the name stand its type and its scopes,
behind it template arguments if there are any, then the argument list and whatever comes after
that. -/
structure Declaration where
  front : Text
  name : Text
  templateArguments : Option Text
  gap : Text
  arguments : Text
  after : Text
  front_balanced : Balanced front
  /-- A round bracket in front of the name lies between other brackets. -/
  front_round : ∀ i, front[i]? = some '(' → ∃ kind j k, Matched front kind j k ∧ j < i ∧ i < k
  front_end : front = [] ∨ (∃ c ∈ front.getLast?, Text.isBlank c = true) ∨ "::".toList <:+ front
  name_ne : name ≠ []
  name_blank : name.any Text.isBlank = false
  name_colon : ':' ∉ name
  name_plain : isPlain name = true
  templateArguments_balanced : ∀ t ∈ templateArguments, Balanced t
  gap_blank : gap.isBlankText = true
  arguments_balanced : Balanced arguments
  after_balanced : Balanced after

namespace Declaration

/-- The template arguments of a declaration between their brackets. -/
def templatePart (d : Declaration) : Text :=
  match d.templateArguments with
  | some t => '<' :: (t ++ ['>'])
  | none => []

/-- All of a declaration that stands before its argument list and the blanks in front of that. -/
def head (d : Declaration) : Text := d.front ++ d.name ++ d.templatePart

/-- The text of a declaration. -/
def text (d : Declaration) : Text :=
  d.head ++ d.gap ++ '(' :: (d.arguments ++ ')' :: d.after)

theorem name_word (d : Declaration) : ∀ c ∈ d.name, Text.isBlank c = false :=
  fun c hc => Bool.eq_false_iff.mpr (List.any_eq_false.mp d.name_blank c hc)

/-- A name ends with a character that is neither a blank nor a bracket. -/
theorem getLast?_name (d : Declaration) (front : Text) :
    ∃ c, (front ++ d.name).getLast? = some c ∧ Text.isBlank c = false ∧ isBracket c = false := by
  have hlast : d.name.getLast? = some (d.name.getLast d.name_ne) :=
    List.getLast?_eq_some_getLast d.name_ne
  have hmem := List.getLast_mem d.name_ne
  have hplain := List.all_eq_true.mp d.name_plain _ hmem
  refine ⟨_, ?_, d.name_word _ hmem, by simpa using hplain⟩
  rw [List.getLast?_append_of_ne_nil _ d.name_ne, hlast]

/-- The head is balanced, and a round bracket opens on its inside only. -/
theorem head_spec (d : Declaration) : Balanced d.head ∧ RoundInside d.head := by
  have hname := balanced_of_plain d.name_plain
  have hfront : Balanced (d.front ++ d.name) := d.front_balanced.append hname
  have hinside : RoundInside (d.front ++ d.name) :=
    (roundInside_of_matched d.front_balanced d.front_round).append d.front_balanced
      (roundInside_of_plain d.name_plain)
  have htemplate : Balanced d.templatePart ∧ RoundInside d.templatePart := by
    have hbalanced := d.templateArguments_balanced
    unfold templatePart
    cases harguments : d.templateArguments with
    | none => exact ⟨.nil, roundInside_of_plain rfl⟩
    | some t =>
        have ht := hbalanced t harguments
        exact ⟨ht.wrap .angled, roundInside_angled ht⟩
  exact ⟨hfront.append htemplate.1, hinside.append hfront htemplate.2⟩

/-- Without the blanks in front of the argument list, what stands before that is the head. -/
theorem trimEnd_before (d : Declaration) :
    (beforeArguments d.text).trimEnd = d.head := by
  obtain ⟨hbalanced, hinside⟩ := d.head_spec
  have hgap := isPlain_of_blank d.gap_blank
  have hbefore : beforeArguments d.text = d.head ++ d.gap :=
    beforeArguments_of_roundInside (hbalanced.append (balanced_of_plain hgap))
      (hinside.append hbalanced (roundInside_of_plain hgap)) d.arguments_balanced d.after_balanced
  rw [hbefore, Text.trimEnd_append d.gap_blank]
  apply Text.trimEnd_eq_self
  intro c hc
  unfold head templatePart at hc
  cases harguments : d.templateArguments with
  | none =>
      obtain ⟨last, hlast, hblank, -⟩ := d.getLast?_name d.front
      rw [harguments, List.append_nil, hlast] at hc
      cases hc
      exact hblank
  | some t =>
      rw [harguments] at hc
      cases (getLast?_angled (d.front ++ d.name) t).symm.trans hc
      rfl

/-- Without its template arguments, the head ends in the name. -/
theorem withoutTemplate_head (d : Declaration) : withoutTemplate d.head = d.front ++ d.name := by
  have hbalanced : Balanced (d.front ++ d.name) :=
    d.front_balanced.append (balanced_of_plain d.name_plain)
  obtain ⟨last, hlast, hblank, hbracket⟩ := d.getLast?_name d.front
  have hinner := d.templateArguments_balanced
  unfold head templatePart
  cases harguments : d.templateArguments with
  | none =>
      rw [List.append_nil, withoutTemplate, if_neg]
      rw [hlast]
      rintro heq
      rw [Option.some.inj heq] at hbracket
      cases hbracket
  | some t =>
      show withoutTemplate ((d.front ++ d.name) ++ '<' :: (t ++ ['>'])) = _
      rw [withoutTemplate_angled hbalanced (hinner t harguments)]
      apply Text.trimEnd_eq_self
      intro c hc
      rw [hlast] at hc
      cases hc
      exact hblank

/-- Behind its last scope, the last word of a front and a name is the name. -/
theorem getLast?_words (d : Declaration) :
    ((afterLastScope? (d.front ++ d.name)).getD (d.front ++ d.name)).words.getLast?
      = some d.name := by
  have hcolon := d.name_colon
  have hword := d.name_word
  have hname : d.name.words = [d.name] := Text.pieces_eq_singleton d.name_ne hword
  rcases d.front_end with hnil | ⟨blank, hlast, hblank⟩ | ⟨scope, hscope⟩
  · rw [hnil, List.nil_append, afterLastScope?_of_not_mem hcolon, Option.getD_none, hname]
    rfl
  · obtain ⟨left, hfront⟩ : ∃ left, d.front = left ++ [blank] :=
      ⟨_, (List.dropLast_append_getLast? blank hlast).symm⟩
    have hne : blank ≠ ':' := by
      rintro rfl
      cases hblank
    rw [hfront, List.append_assoc, List.singleton_append]
    cases hfound : afterLastScope? (left ++ blank :: d.name) with
    | none => exact Text.getLast?_words_append hblank d.name_ne hword left
    | some found =>
        obtain ⟨more, rfl⟩ := exists_afterLastScope hne hcolon left hfound
        exact Text.getLast?_words_append hblank d.name_ne hword more
  · have hsplit : d.front ++ d.name = scope ++ ':' :: ':' :: d.name := by
      rw [← hscope, List.append_assoc]
      rfl
    rw [hsplit, afterLastScope?_scope hcolon, Option.getD_some, hname]
    rfl

end Declaration

/-- The bare name of a declared function is its name, whatever stands in front of it and behind it.
-/
theorem shortFunctionName_declaration (d : Declaration) :
    shortFunctionName d.text = some d.name := by
  rw [shortFunctionName, d.trimEnd_before, d.withoutTemplate_head]
  exact d.getLast?_words

/-- A member of a class template, with scopes, blanks and round brackets inside of brackets. -/
def nestedDeclaration : Declaration where
  front := "std::set<(x)> __cdecl ns::A<int (*)(b::C)>::".toList
  name := "run".toList
  templateArguments := some "B<2> ".toList
  gap := " \t".toList
  arguments := "int (*)(B<2>)".toList
  after := "const ".toList
  front_balanced := by decide
  front_round := by
    let front := "std::set<(x)> __cdecl ns::A<int (*)(b::C)>::".toList
    have hpairs : ∀ i < front.length, front[i]? = some '(' →
        ∃ p ∈ pairs front, p.openIndex < i ∧ i < p.closeIndex := by
      decide
    intro i hi
    obtain ⟨p, hp, hopen, hclose⟩ := hpairs i (List.getElem?_eq_some_iff.mp hi).1 hi
    exact ⟨p.kind, p.openIndex, p.closeIndex, (describes_of_mem hp).matched, hopen, hclose⟩
  front_end := .inr (.inr (by decide))
  name_ne := by decide
  name_blank := by decide
  name_colon := by decide
  name_plain := by decide
  templateArguments_balanced := by decide
  gap_blank := by decide
  arguments_balanced := by decide
  after_balanced := by decide

theorem shortFunctionName_declaration_nested :
    nestedDeclaration.text
        = "std::set<(x)> __cdecl ns::A<int (*)(b::C)>::run<B<2> > \t(int (*)(B<2>))const ".toList ∧
      shortFunctionName nestedDeclaration.text = some "run".toList :=
  ⟨by decide +kernel, shortFunctionName_declaration nestedDeclaration⟩

end SymbolAtlas
