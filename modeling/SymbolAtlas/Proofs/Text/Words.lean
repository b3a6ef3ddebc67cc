/-
# SymbolAtlas.Proofs.Text.Words — margins, pieces and words of a text

A text is a left margin of blanks, its trimmed part and a right margin of blanks, and nothing that
is read from its words or its trimmed part depends on the margins. Everything about pieces follows
from one equation, that a text is cut at a separator; words are the case of blanks.
-/
import SymbolAtlas.Text.Basic
import Mathlib.Data.List.DropRight
import Mathlib.Data.List.TakeWhile

namespace SymbolAtlas.Text

theorem isBlankText_iff (s : Text) : s.isBlankText = true ↔ ∀ c ∈ s, isBlank c = true :=
  List.all_eq_true

theorem isBlankText_append (s t : Text) :
    isBlankText (s ++ t) = (isBlankText s && isBlankText t) :=
  List.all_append

/-- A text with a character that is no blank is not blank. -/
theorem not_blank_of_mem {s : Text} {c : Char} (hmem : c ∈ s) (hc : isBlank c = false) :
    s.isBlankText = false := by
  rw [isBlankText, List.all_eq_false]
  exact ⟨c, hmem, by rw [hc]; exact Bool.false_ne_true⟩

/-! ## Margins -/

theorem trimStart_append {margin : Text} (h : margin.isBlankText = true) (s : Text) :
    trimStart (margin ++ s) = trimStart s :=
  List.dropWhile_append_of_pos ((isBlankText_iff margin).mp h)

theorem trimEnd_append {margin : Text} (h : margin.isBlankText = true) (s : Text) :
    trimEnd (s ++ margin) = trimEnd s := by
  unfold trimEnd
  rw [List.reverse_append, List.dropWhile_append_of_pos]
  intro c hc
  exact (isBlankText_iff margin).mp h c (List.mem_reverse.mp hc)

theorem trimStart_eq_nil_iff (s : Text) : trimStart s = [] ↔ s.isBlankText = true := by
  rw [trimStart, List.dropWhile_eq_nil_iff, isBlankText_iff]

/-- Margins do not count. -/
theorem trim_append {left right : Text} (hleft : left.isBlankText = true)
    (hright : right.isBlankText = true) (s : Text) : trim (left ++ s ++ right) = trim s := by
  unfold trim
  rw [List.append_assoc, trimStart_append hleft]
  have hstart : trimStart (s ++ right)
      = if (trimStart s).isEmpty then trimStart right else trimStart s ++ right :=
    List.dropWhile_append
  rw [hstart]
  split
  · rename_i hempty
    rw [(trimStart_eq_nil_iff right).mpr hright, List.isEmpty_iff.mp hempty]
  · exact trimEnd_append hright _

theorem trim_append_left {margin : Text} (h : margin.isBlankText = true) (s : Text) :
    trim (margin ++ s) = trim s := by
  have htrim := trim_append h (rfl : isBlankText [] = true) s
  rwa [List.append_nil] at htrim

theorem trim_append_right {margin : Text} (h : margin.isBlankText = true) (s : Text) :
    trim (s ++ margin) = trim s :=
  trim_append (rfl : isBlankText [] = true) h s

/-- Only blanks precede what is left after trimming the start. -/
theorem exists_trimStart (s : Text) :
    ∃ left, s = left ++ trimStart s ∧ left.isBlankText = true := by
  refine ⟨s.takeWhile isBlank, List.takeWhile_append_dropWhile.symm, ?_⟩
  exact (isBlankText_iff _).mpr fun c hc => List.mem_takeWhile_imp hc

/-- Only blanks follow what is left after trimming the end. -/
theorem exists_trimEnd (s : Text) :
    ∃ right, s = trimEnd s ++ right ∧ right.isBlankText = true := by
  obtain ⟨left, hs, hleft⟩ := exists_trimStart s.reverse
  refine ⟨left.reverse, ?_, ?_⟩
  · have hwhole : s = (left ++ trimStart s.reverse).reverse := List.reverse_eq_iff.mp hs
    rw [List.reverse_append] at hwhole
    exact hwhole
  · rw [isBlankText, List.all_reverse]
    exact hleft

/-- A text is its trimmed part between two margins. -/
theorem exists_trim (s : Text) :
    ∃ left right, s = left ++ trim s ++ right ∧ left.isBlankText = true ∧
      right.isBlankText = true := by
  obtain ⟨left, hleft, hleftBlank⟩ := exists_trimStart s
  obtain ⟨right, hright, hrightBlank⟩ := exists_trimEnd (trimStart s)
  refine ⟨left, right, ?_, hleftBlank, hrightBlank⟩
  rw [List.append_assoc, trim, ← hright]
  exact hleft

theorem trim_eq_nil_iff (s : Text) : trim s = [] ↔ s.isBlankText = true := by
  constructor
  · intro h
    obtain ⟨left, right, hs, hleft, hright⟩ := exists_trim s
    rw [hs, h, List.append_nil, isBlankText_append, hleft, hright]
    rfl
  · intro h
    rw [trim, (trimStart_eq_nil_iff s).mpr h]
    rfl

/-! ## Trimmed texts -/

/-- A trimmed text that is not empty is not blank. -/
theorem not_blank_of_trim_eq {s : Text} (hne : s ≠ []) (htrim : s.trim = s) :
    s.isBlankText = false := by
  cases hblank : s.isBlankText with
  | false => rfl
  | true =>
      rw [(trim_eq_nil_iff s).mpr hblank] at htrim
      exact absurd htrim.symm hne

theorem head?_trimStart (s : Text) : ∀ c ∈ (trimStart s).head?, isBlank c = false := by
  intro c hc
  have h := List.head?_dropWhile_not isBlank s
  rw [trimStart] at hc
  rw [Option.mem_def.mp hc] at h
  exact h

theorem getLast?_trimEnd (s : Text) : ∀ c ∈ (trimEnd s).getLast?, isBlank c = false := by
  intro c hc
  rw [trimEnd, List.getLast?_reverse] at hc
  exact head?_trimStart s.reverse c hc

/-- A trimmed text does not begin with a blank. -/
theorem head?_trim (s : Text) : ∀ c ∈ (trim s).head?, isBlank c = false := by
  intro c hc
  obtain ⟨right, hright, -⟩ := exists_trimEnd (trimStart s)
  refine head?_trimStart s c ?_
  have hhead : (trimEnd (trimStart s)).head? = some c := hc
  rw [hright, List.head?_append, hhead]
  rfl

/-- A trimmed text does not end with a blank. -/
theorem getLast?_trim (s : Text) : ∀ c ∈ (trim s).getLast?, isBlank c = false :=
  getLast?_trimEnd (trimStart s)

theorem trimStart_eq_self {s : Text} (h : ∀ c ∈ s.head?, isBlank c = false) :
    trimStart s = s := by
  cases s with
  | nil => rfl
  | cons c rest =>
      have hc : isBlank c = false := h c rfl
      exact List.dropWhile_cons_of_neg (by rw [hc]; exact Bool.false_ne_true)

theorem trimEnd_eq_self {s : Text} (h : ∀ c ∈ s.getLast?, isBlank c = false) :
    trimEnd s = s := by
  have hreverse : trimStart s.reverse = s.reverse :=
    trimStart_eq_self fun c hc => h c (by rwa [List.head?_reverse] at hc)
  show (trimStart s.reverse).reverse = s
  rw [hreverse, List.reverse_reverse]

/-- A text with no blank at either end is trimmed. -/
theorem trim_eq_self {s : Text} (hhead : ∀ c ∈ s.head?, isBlank c = false)
    (hlast : ∀ c ∈ s.getLast?, isBlank c = false) : trim s = s := by
  rw [trim, trimStart_eq_self hhead, trimEnd_eq_self hlast]

theorem trim_trim (s : Text) : trim (trim s) = trim s :=
  trim_eq_self (head?_trim s) (getLast?_trim s)

/-- The end of a trimmed text is trimmed if it does not begin with a blank. -/
theorem trim_of_suffix {s part : Text} (hpart : part <:+ trim s) (hne : part ≠ [])
    (hhead : ∀ c ∈ part.head?, isBlank c = false) : trim part = part := by
  obtain ⟨front, hfront⟩ := hpart
  refine trim_eq_self hhead ?_
  intro c hc
  apply getLast?_trim s
  rw [← hfront, Option.mem_def, List.getLast?_append_of_ne_nil _ hne]
  exact hc

theorem trimStart_trim (s : Text) : trimStart (trim s) = trim s :=
  trimStart_eq_self (head?_trim s)

theorem trimEnd_trim (s : Text) : trimEnd (trim s) = trim s :=
  trimEnd_eq_self (getLast?_trim s)

/-- What is left after trimming the start is the trimmed text and a right margin. -/
theorem exists_trimStart_eq (s : Text) :
    ∃ right, trimStart s = trim s ++ right ∧ right.isBlankText = true :=
  exists_trimEnd (trimStart s)

/-- What is left after trimming the end is a left margin and the trimmed text. A blank text leaves
no margin either. -/
theorem exists_trimEnd_eq (s : Text) :
    ∃ left, trimEnd s = left ++ trim s ∧ left.isBlankText = true ∧ (trim s = [] → left = []) := by
  cases htrim : trim s with
  | nil =>
      refine ⟨[], ?_, rfl, fun _ => rfl⟩
      have hblank : s.isBlankText = true := (trim_eq_nil_iff s).mp htrim
      have hend : trimEnd ([] ++ s) = trimEnd [] := trimEnd_append hblank []
      exact hend
  | cons c rest =>
      obtain ⟨left, right, hs, hleft, hright⟩ := exists_trim s
      refine ⟨left, ?_, hleft, fun h => absurd h (List.cons_ne_nil c rest)⟩
      have hlast : (left ++ trim s).getLast? = (trim s).getLast? := by
        rw [htrim, List.getLast?_append_cons]
      rw [← htrim]
      calc trimEnd s = trimEnd (left ++ trim s ++ right) := congrArg trimEnd hs
        _ = trimEnd (left ++ trim s) := trimEnd_append hright _
        _ = left ++ trim s := trimEnd_eq_self fun d hd => getLast?_trim s d (hlast ▸ hd)

theorem isBlankText_trim (s : Text) : (trim s).isBlankText = s.isBlankText := by
  rw [Bool.eq_iff_iff, ← trim_eq_nil_iff, trim_trim, trim_eq_nil_iff]

/-! ## Pieces -/

variable {p : Char → Bool}

theorem pieces_nil : pieces p [] = [] := rfl

/-- A text is cut at a separator. -/
theorem pieces_append_cons {separator : Char} (h : p separator = true) (s t : Text) :
    pieces p (s ++ separator :: t) = pieces p s ++ pieces p t := by
  unfold pieces
  rw [List.splitOnP_append_cons s t h, List.filter_append]

theorem pieces_cons {separator : Char} (h : p separator = true) (t : Text) :
    pieces p (separator :: t) = pieces p t :=
  pieces_append_cons h [] t

/-- Separators in front of a text belong to no piece. -/
theorem pieces_append_left {gap : Text} (h : ∀ c ∈ gap, p c = true) (t : Text) :
    pieces p (gap ++ t) = pieces p t := by
  induction gap with
  | nil => rfl
  | cons c rest ih =>
      rw [List.cons_append, pieces_cons (h c List.mem_cons_self)]
      exact ih fun d hd => h d (List.mem_cons_of_mem c hd)

/-- Separators behind a text belong to no piece. -/
theorem pieces_append_right {gap : Text} (h : ∀ c ∈ gap, p c = true) (s : Text) :
    pieces p (s ++ gap) = pieces p s := by
  cases gap with
  | nil => rw [List.append_nil]
  | cons c rest =>
      have hrest : pieces p (rest ++ []) = pieces p [] :=
        pieces_append_left (fun d hd => h d (List.mem_cons_of_mem c hd)) []
      rw [List.append_nil] at hrest
      rw [pieces_append_cons (h c List.mem_cons_self), hrest, pieces_nil, List.append_nil]

/-- A text without separators is one piece. -/
theorem pieces_eq_singleton {piece : Text} (hne : piece ≠ []) (h : ∀ c ∈ piece, p c = false) :
    pieces p piece = [piece] := by
  rw [pieces, List.splitOnP_eq_singleton h]
  cases piece with
  | nil => exact absurd rfl hne
  | cons c rest => rfl

/-- A piece in front of a gap is the first one. -/
theorem pieces_append_gap {piece gap : Text} (hne : piece ≠ []) (hpiece : ∀ c ∈ piece, p c = false)
    (hgap : gap ≠ []) (hseparators : ∀ c ∈ gap, p c = true) (t : Text) :
    pieces p (piece ++ (gap ++ t)) = piece :: pieces p t := by
  cases gap with
  | nil => exact absurd rfl hgap
  | cons c rest =>
      have hrest : pieces p (rest ++ t) = pieces p t :=
        pieces_append_left (fun d hd => hseparators d (List.mem_cons_of_mem c hd)) t
      rw [List.cons_append, pieces_append_cons (hseparators c List.mem_cons_self), hrest,
        pieces_eq_singleton hne hpiece, List.singleton_append]

theorem not_mem_of_mem_splitOnP {s piece : Text} (h : piece ∈ s.splitOnP p) :
    ∀ c ∈ piece, p c = false := by
  induction s generalizing piece with
  | nil =>
      rw [List.splitOnP_nil, List.mem_singleton] at h
      subst h
      exact fun c hc => absurd hc List.not_mem_nil
  | cons d rest ih =>
      rw [List.splitOnP_cons_eq_if_modifyHead] at h
      split at h
      · rcases List.mem_cons.mp h with rfl | hrest
        · exact fun c hc => absurd hc List.not_mem_nil
        · exact ih hrest
      · rename_i hd
        -- the head of the split of `rest` gets `d` in front; the other pieces are pieces of `rest`
        cases hsplit : rest.splitOnP p with
        | nil => exact absurd hsplit (List.splitOnP_ne_nil p rest)
        | cons first others =>
            rw [hsplit, List.modifyHead_cons] at h
            rcases List.mem_cons.mp h with rfl | hothers
            · intro c hc
              rcases List.mem_cons.mp hc with rfl | hfirst
              · exact Bool.eq_false_iff.mpr hd
              · exact ih (hsplit ▸ List.mem_cons_self) c hfirst
            · exact ih (hsplit ▸ List.mem_cons_of_mem first hothers)

/-- A piece is not empty and holds no separator. -/
theorem mem_pieces {s piece : Text} (h : piece ∈ pieces p s) :
    piece ≠ [] ∧ ∀ c ∈ piece, p c = false := by
  obtain ⟨hsplit, hne⟩ := List.mem_filter.mp h
  refine ⟨?_, not_mem_of_mem_splitOnP hsplit⟩
  rintro rfl
  cases hne

/-- Only a text of separators has no pieces. -/
theorem pieces_eq_nil_iff {s : Text} : pieces p s = [] ↔ ∀ c ∈ s, p c = true := by
  constructor
  · intro h
    induction s with
    | nil => exact fun c hc => absurd hc List.not_mem_nil
    | cons d rest ih =>
        cases hd : p d with
        | true =>
            rw [pieces_cons hd] at h
            exact List.forall_mem_cons.mpr ⟨hd, ih h⟩
        | false =>
            rw [pieces, List.splitOnP_cons_eq_if_modifyHead, hd] at h
            cases hsplit : rest.splitOnP p with
            | nil => exact absurd hsplit (List.splitOnP_ne_nil p rest)
            | cons first others => rw [hsplit] at h; cases h
  · intro h
    have hnil := pieces_append_left h []
    rwa [List.append_nil, pieces_nil] at hnil

/-- A text with a first piece, taken apart at it: separators in front, the piece, and a rest that
holds the other pieces and does not continue this one. -/
theorem exists_first_piece {s first : Text} {others : List Text}
    (h : pieces p s = first :: others) :
    ∃ gap rest, s = gap ++ (first ++ rest) ∧ (∀ c ∈ gap, p c = true) ∧
      pieces p rest = others ∧ ∀ c ∈ rest.head?, p c = true := by
  let body := s.dropWhile p
  let run := body.takeWhile fun c => !p c
  let rest := body.dropWhile fun c => !p c
  have hs : s = s.takeWhile p ++ body := List.takeWhile_append_dropWhile.symm
  have hbody : body = run ++ rest := List.takeWhile_append_dropWhile.symm
  have hgap : ∀ c ∈ s.takeWhile p, p c = true := fun c hc => List.mem_takeWhile_imp hc
  have hrun : ∀ c ∈ run, p c = false := fun c hc => by
    simpa using List.mem_takeWhile_imp hc
  have hhead : ∀ c ∈ rest.head?, p c = true := by
    intro c hc
    have hnot := List.head?_dropWhile_not (fun c => !p c) body
    rw [Option.mem_def.mp hc] at hnot
    simpa using hnot
  rw [hs, pieces_append_left hgap] at h
  have hne : run ≠ [] := by
    intro hnil
    -- without a run the body is empty, since its first character is no separator
    have hfront := List.head?_dropWhile_not p s
    cases hcase : body with
    | nil =>
        rw [hcase] at h
        cases h
    | cons c tail =>
        have hc : p c = false := by
          rw [show s.dropWhile p = c :: tail from hcase] at hfront
          simpa using hfront
        have hfirst : run = c :: tail.takeWhile fun c => !p c := by
          show body.takeWhile _ = _
          rw [hcase, List.takeWhile_cons_of_pos (by rw [hc]; rfl)]
        rw [hfirst] at hnil
        cases hnil
  have hpieces : pieces p body = run :: pieces p rest := by
    cases hrest : rest with
    | nil =>
        rw [hbody, hrest, List.append_nil, pieces_eq_singleton hne hrun, pieces_nil]
    | cons c tail =>
        have hc : p c = true := hhead c (by rw [hrest]; rfl)
        rw [hbody, hrest, pieces_append_cons hc, pieces_eq_singleton hne hrun, pieces_cons hc,
          List.singleton_append]
  rw [hpieces] at h
  obtain ⟨rfl, hothers⟩ := List.cons.inj h
  refine ⟨s.takeWhile p, rest, ?_, hgap, hothers, hhead⟩
  rw [← hbody]
  exact hs

/-- The first piece of a text that does not begin with a separator is a prefix of it. -/
theorem pieces_prefix {s first : Text} {others : List Text} (h : pieces p s = first :: others)
    (hfront : ∀ c ∈ s.head?, p c = false) :
    ∃ rest, s = first ++ rest ∧ pieces p rest = others ∧ ∀ c ∈ rest.head?, p c = true := by
  obtain ⟨gap, rest, hs, hgap, hothers, hhead⟩ := exists_first_piece h
  cases gap with
  | nil => exact ⟨rest, hs, hothers, hhead⟩
  | cons c tail =>
      have hc := hfront c (by rw [hs]; rfl)
      rw [hgap c List.mem_cons_self] at hc
      cases hc

/-! ## Words -/

/-- Only a blank text has no words. -/
theorem words_eq_nil_iff (s : Text) : s.words = [] ↔ s.isBlankText = true :=
  pieces_eq_nil_iff.trans (isBlankText_iff s).symm

/-- The words of a text are those of its trimmed part. -/
theorem words_trim (s : Text) : (trim s).words = s.words := by
  obtain ⟨left, right, hs, hleft, hright⟩ := exists_trim s
  conv_rhs => rw [hs]
  unfold words
  rw [pieces_append_right ((isBlankText_iff right).mp hright),
    pieces_append_left ((isBlankText_iff left).mp hleft)]

/-- The only word of a text is its trimmed part. -/
theorem trim_of_words_eq_singleton {s word : Text} (h : s.words = [word]) : s.trim = word := by
  obtain ⟨left, rest, hs, hleft, hrest, -⟩ := exists_first_piece h
  have hblank : rest.isBlankText = true := (words_eq_nil_iff rest).mp hrest
  obtain ⟨-, hword⟩ := mem_pieces (h ▸ List.mem_cons_self : word ∈ s.words)
  rw [hs, trim_append_left ((isBlankText_iff left).mpr hleft), trim_append_right hblank]
  exact trim_eq_self (fun c hc => hword c (List.mem_of_mem_head? hc))
    fun c hc => hword c (List.mem_of_mem_getLast? hc)

/-- In a text that begins with a blank, a gap precedes the first word. -/
theorem exists_next_word {s word : Text} {others : List Text}
    (hblank : ∀ c ∈ s.head?, isBlank c = true) (h : s.words = word :: others) :
    ∃ gap rest, s = gap ++ (word ++ rest) ∧ (gap ≠ [] ∧ gap.isBlankText = true) ∧
      rest.words = others ∧ ∀ c ∈ rest.head?, isBlank c = true := by
  obtain ⟨gap, rest, hs, hgap, hothers, hhead⟩ := exists_first_piece h
  refine ⟨gap, rest, hs, ⟨?_, (isBlankText_iff gap).mpr hgap⟩, hothers, hhead⟩
  rintro rfl
  -- otherwise the word itself would begin with a blank
  have hmem : word ∈ s.words := by
    rw [h]
    exact List.mem_cons_self
  obtain ⟨hne, hword⟩ := mem_pieces hmem
  cases word with
  | nil => exact hne rfl
  | cons c tail =>
      have hc := hblank c (by rw [hs]; rfl)
      rw [hword c List.mem_cons_self] at hc
      cases hc

/-- A word behind a blank is the last one. -/
theorem getLast?_words_append {blank : Char} (hblank : isBlank blank = true) {word : Text}
    (hne : word ≠ []) (hword : ∀ c ∈ word, isBlank c = false) (front : Text) :
    (front ++ blank :: word).words.getLast? = some word := by
  rw [words, pieces_append_cons hblank, pieces_eq_singleton hne hword]
  exact List.getLast?_concat

end SymbolAtlas.Text
