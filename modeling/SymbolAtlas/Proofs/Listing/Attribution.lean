/-
# SymbolAtlas.Proofs.Listing.Attribution — to which file an imported function belongs

The import section names a file in a line of its own, and the functions imported from it in the lines
below. So reading it carries the file named last. What a line is depends on its words alone, although
the symbol is cut out of the text of the line. From one lemma on the next line follows what any number
of lines give: `read_by_rows` says which file each function comes from, without mentioning what is
carried, and which line is blamed if one of them does not follow the grammar.
-/
import Mathlib.Data.List.Forall2
import SymbolAtlas.Proofs.Listing.Bounds
import SymbolAtlas.Proofs.Listing.Defect
import SymbolAtlas.Proofs.Text.Search

namespace SymbolAtlas.Imports

/-! ## Lines by their words -/

/-- What a line with the given words is. -/
def Line.ofWords : List Text → Line
  | [] => .blank
  | [name] => .provider name
  | [number, named] => if Token.isHex number then .symbol named else .malformed
  | number :: _ :: _ :: _ => if Token.isHex number then .detail else .malformed

/-- A line is recognised by its words. Cutting off the text behind the number leaves the second word
of a line that has two, because the number is found where the first word is. -/
theorem ofText_eq_ofWords (line : Text) : Line.ofText line = Line.ofWords line.words := by
  unfold Line.ofText
  match hwords : line.words with
  | [] => rfl
  | [name] => rfl
  | [number, symbol] =>
      obtain ⟨gap, rest, hline, hgap, hrest, -⟩ := Text.exists_first_piece hwords
      obtain ⟨hne, hnumber⟩ := Text.mem_pieces (hwords ▸ List.mem_cons_self : number ∈ line.words)
      have hfirst : ∀ c ∈ gap, number.head? ≠ some c := by
        intro c hc hhead
        have hblank := hgap c hc
        rw [hnumber c (List.mem_of_mem_head? hhead)] at hblank
        cases hblank
      have hafter : Text.afterFirst number line = rest := by
        rw [hline]
        exact Text.afterFirst_append hne hfirst rest
      have hsymbol : rest.trim = symbol := Text.trim_of_words_eq_singleton hrest
      simp only [hafter, hsymbol, Line.ofWords]
      cases Token.isHex number <;> rfl
  | number :: second :: third :: others =>
      simp only [Line.ofWords]
      cases Token.isHex number <;> simp

/-- Whether the first word of a line is a number in base sixteen. -/
def hasNumber (line : Text) : Bool := line.words.head?.any Token.isHex

theorem hasNumber_eq {line number : Text} {others : List Text}
    (h : line.words = number :: others) : hasNumber line = Token.isHex number := by
  rw [hasNumber, h, List.head?_cons, Option.any_some]

/-- The file that a line names, if it has one word only. -/
def heading? (line : Text) : Option FileHint :=
  match line.words with
  | [name] => some ⟨name⟩
  | _ => none

theorem heading?_eq_some_iff {line : Text} {hint : FileHint} :
    heading? line = some hint ↔ line.words = [hint.name] := by
  unfold heading?
  split
  · rename_i name hwords
    rw [hwords, Option.some.injEq, List.cons.injEq]
    constructor
    · rintro rfl
      exact ⟨rfl, rfl⟩
    · rintro ⟨rfl, -⟩
      rfl
  · rename_i hother
    exact iff_of_false nofun (hother hint.name)

theorem heading?_eq_none_iff {line : Text} : heading? line = none ↔ line.words.length ≠ 1 := by
  rw [Ne, List.length_eq_one_iff, Option.eq_none_iff_forall_ne_some, not_exists]
  simp only [Ne, heading?_eq_some_iff]
  exact ⟨fun h name => h ⟨name⟩, fun h hint => h hint.name⟩

/-- What is wrong with a line: its first word is no number, or it names a function where no file has
been named. -/
def defect (line : Text) : Defect :=
  if hasNumber line then .importWithoutProvider else .importWithoutNumber

/-! ## The next line -/

/-- That a line cannot be read below the given file, if there is one. -/
def BadUnder (provider : Option FileHint) (line : Text) : Prop :=
  (2 ≤ line.words.length ∧ hasNumber line = false) ∨
    (line.words.length = 2 ∧ hasNumber line = true ∧ provider = none)

/-- A line of several words that can be read begins with a number. -/
theorem hasNumber_of_not_bad {provider : Option FileHint} {line : Text}
    (h : ¬ BadUnder provider line) (hwords : 2 ≤ line.words.length) : hasNumber line = true := by
  by_contra hno
  exact h (.inl ⟨hwords, Bool.eq_false_iff.mpr hno⟩)

/-- The function that a line names below the given file. -/
def imported? (caller : FilePath) (provider : Option FileHint) (line : Text) : Option ImportEntry :=
  match provider, line.words with
  | some hint, [_, symbol] => some ⟨caller, hint, symbol, symbol⟩
  | _, _ => none

/-- A line that can be read gives the function that it names, and the lines below it are read below
the file that it names or, if it names none, below the same file. -/
theorem readBody_good {caller : FilePath} {provider : Option FileHint} {index : Nat} {line : Text}
    (h : ¬ BadUnder provider line) (rest : List (Nat × Text)) :
    readBody caller provider ((index, line) :: rest)
      = (readBody caller ((heading? line).or provider) rest).map
          ((imported? caller provider line).toList ++ ·) := by
  have hskip (reading : Attempt (List ImportEntry)) :
      reading = reading.map (([] : List ImportEntry) ++ ·) := by
    cases reading <;> rfl
  rw [readBody, ofText_eq_ofWords]
  unfold heading? imported?
  rcases hwords : line.words with _ | ⟨number, _ | ⟨symbol, _ | ⟨third, others⟩⟩⟩
  · cases provider <;> exact hskip _
  · cases provider <;> exact hskip _
  · have hlength : line.words.length = 2 := by rw [hwords]; rfl
    have hnumber := hasNumber_of_not_bad h hlength.ge
    cases provider with
    | none => exact absurd (.inr ⟨hlength, hnumber, rfl⟩) h
    | some hint =>
        rw [hasNumber_eq hwords] at hnumber
        simp only [Line.ofWords, hnumber, if_true]
        rfl
  · have hnumber := hasNumber_of_not_bad h (by rw [hwords]; exact Nat.le_add_left 2 _)
    rw [hasNumber_eq hwords] at hnumber
    simp only [Line.ofWords, hnumber, if_true]
    cases provider <;> exact hskip _

/-- A line that cannot be read ends the reading. -/
theorem readBody_bad {caller : FilePath} {provider : Option FileHint} {index : Nat} {line : Text}
    (h : BadUnder provider line) (rest : List (Nat × Text)) :
    readBody caller provider ((index, line) :: rest) = fail (defect line) index line := by
  rw [readBody, ofText_eq_ofWords]
  unfold defect
  rcases hwords : line.words with _ | ⟨number, _ | ⟨symbol, _ | ⟨third, others⟩⟩⟩
  · simp [BadUnder, hwords] at h
  · simp [BadUnder, hwords] at h
  · rw [BadUnder, hasNumber_eq hwords] at h
    rw [hasNumber_eq hwords]
    rcases h with ⟨-, hno⟩ | ⟨-, hnumber, rfl⟩
    · simp [Line.ofWords, hno]
    · simp [Line.ofWords, hnumber]
  · rw [BadUnder, hasNumber_eq hwords] at h
    rw [hasNumber_eq hwords]
    rcases h with ⟨-, hno⟩ | ⟨htwo, -⟩
    · simp [Line.ofWords, hno]
    · simp [hwords] at htwo

/-! ## Rows of a body -/

/-- That no row of a body above an index names a file. -/
def Unnamed (body : List (Nat × Text)) (k : Nat) : Prop :=
  ∀ above ∈ body, above.1 < k → above.2.words.length ≠ 1

instance (body : List (Nat × Text)) (k : Nat) : Decidable (Unnamed body k) :=
  inferInstanceAs (Decidable (∀ above ∈ body, above.1 < k → above.2.words.length ≠ 1))

/-- That a file is named above an index of a body, and no other one between. -/
def NamedAbove (body : List (Nat × Text)) (k : Nat) (name : Text) : Prop :=
  ∃ above ∈ body, above.1 < k ∧ above.2.words = [name] ∧
    ∀ between ∈ body, above.1 < between.1 → between.1 < k → between.2.words.length ≠ 1

/-- That a row of a body does not follow the grammar: it has several words and the first one is no
number, or it names a function and no file is named above it. -/
def IsBad (body : List (Nat × Text)) (row : Nat × Text) : Prop :=
  (2 ≤ row.2.words.length ∧ hasNumber row.2 = false) ∨
    (row.2.words.length = 2 ∧ hasNumber row.2 = true ∧ Unnamed body row.1)

instance (body : List (Nat × Text)) (row : Nat × Text) : Decidable (IsBad body row) :=
  inferInstanceAs (Decidable (_ ∨ _))

/-- That an entry is the function that a row names: its second word, imported from the file that is
named nearest above it. -/
def Gives (caller : FilePath) (body : List (Nat × Text)) (row : Nat × Text)
    (entry : ImportEntry) : Prop :=
  ∃ number symbol name, row.2.words = [number, symbol] ∧ NamedAbove body row.1 name ∧
    entry = ⟨caller, ⟨name⟩, symbol, symbol⟩

/-! ## What is carried -/

/-- The file that the row below some rows is read below: the one that was named last. -/
def provider? (above : List (Nat × Text)) : Option FileHint :=
  above.reverse.findSome? fun row => heading? row.2

theorem provider?_concat (above : List (Nat × Text)) (row : Nat × Text) :
    provider? (above ++ [row]) = (heading? row.2).or (provider? above) := by
  rw [provider?, List.reverse_append, List.reverse_singleton, List.singleton_append,
    List.findSome?_cons]
  cases heading? row.2 <;> rfl

section Split

variable {above below : List (Nat × Text)} {row : Nat × Text}
  (hsorted : (above ++ row :: below).Pairwise fun earlier later => earlier.1 < later.1)

include hsorted

/-- In a body the rows above a row are those with a lesser index. -/
theorem mem_above_iff (other : Nat × Text) :
    other ∈ above ↔ other ∈ above ++ row :: below ∧ other.1 < row.1 := by
  obtain ⟨-, hbelow, hcross⟩ := List.pairwise_append.mp hsorted
  constructor
  · intro h
    exact ⟨List.mem_append_left _ h, hcross other h row List.mem_cons_self⟩
  · rintro ⟨hmem, hlt⟩
    rcases List.mem_append.mp hmem with h | h
    · exact h
    · rcases List.mem_cons.mp h with rfl | h
      · exact absurd hlt (Nat.lt_irrefl _)
      · exact absurd hlt (Nat.lt_asymm ((List.pairwise_cons.mp hbelow).1 other h))

/-- No file is carried to a row exactly if none is named above it. -/
theorem provider?_eq_none_iff :
    provider? above = none ↔ Unnamed (above ++ row :: below) row.1 := by
  simp only [provider?, List.findSome?_eq_none_iff, List.mem_reverse, heading?_eq_none_iff,
    mem_above_iff hsorted]
  exact ⟨fun h other hmem hlt => h other ⟨hmem, hlt⟩, fun h other hother =>
    h other hother.1 hother.2⟩

/-- The file that is carried to a row is the one named nearest above it. -/
theorem namedAbove_of_provider? {hint : FileHint} (h : provider? above = some hint) :
    NamedAbove (above ++ row :: below) row.1 hint.name := by
  obtain ⟨between, named, before, hreverse, hnamed, hnone⟩ := List.findSome?_eq_some_iff.mp h
  have habove : above = before.reverse ++ named :: between.reverse := by
    rw [← List.reverse_reverse above, hreverse]
    simp
  have hmem : named ∈ above := by simp [habove]
  obtain ⟨hbody, hlt⟩ := (mem_above_iff hsorted named).mp hmem
  refine ⟨named, hbody, hlt, heading?_eq_some_iff.mp hnamed, fun other hother hgt hlt => ?_⟩
  have hother := (mem_above_iff hsorted other).mpr ⟨hother, hlt⟩
  have habove_sorted := (List.pairwise_append.mp hsorted).1
  rw [habove] at hother habove_sorted
  -- a row above the named one has a lesser index, so the other row stands below it
  have hbetween : other ∈ between := by
    by_contra hnot
    have hle : other ∈ before.reverse ∨ other = named := by
      simpa [hnot, or_assoc] using hother
    rcases hle with hbefore | rfl
    · have hless := ((mem_above_iff habove_sorted other).mp hbefore).2
      exact Nat.lt_asymm hgt hless
    · exact Nat.lt_irrefl _ hgt
  exact heading?_eq_none_iff.mp (hnone other hbetween)

theorem badUnder_iff_isBad :
    BadUnder (provider? above) row.2 ↔ IsBad (above ++ row :: below) row := by
  rw [BadUnder, IsBad, provider?_eq_none_iff hsorted]

/-- A row that can be read gives its function if it has two words, and otherwise nothing. -/
theorem gives_imported? (caller : FilePath) (h : ¬ BadUnder (provider? above) row.2) :
    List.Forall₂ (Gives caller (above ++ row :: below))
      ([row].filter fun row => row.2.words.length = 2)
      (imported? caller (provider? above) row.2).toList := by
  by_cases htwo : row.2.words.length = 2
  · obtain ⟨number, symbol, hwords⟩ := List.length_eq_two.mp htwo
    cases hprovider : provider? above with
    | none =>
        exact absurd (.inr ⟨htwo, hasNumber_of_not_bad h htwo.ge, hprovider⟩) h
    | some hint =>
        have hgives : Gives caller (above ++ row :: below) row ⟨caller, hint, symbol, symbol⟩ :=
          ⟨number, symbol, hint.name, hwords, namedAbove_of_provider? hsorted hprovider, rfl⟩
        simpa [imported?, hwords] using hgives
  · have hnone : imported? caller (provider? above) row.2 = none := by
      unfold imported?
      split
      · rename_i hwords
        exact absurd (congrArg List.length hwords) htwo
      · rfl
    simp [hnone, htwo]

end Split

/-! ## Any number of lines -/

/-- Reading goes through rows that follow the grammar: those of two words give their functions, in
order, and the file named last is carried on. -/
theorem readBody_append (caller : FilePath) {body above : List (Nat × Text)}
    (hsorted : body.Pairwise fun earlier later => earlier.1 < later.1)
    (hgood : ∀ row ∈ above, ¬ IsBad body row) (below : List (Nat × Text))
    (hbody : body = above ++ below) :
    ∃ entries,
      List.Forall₂ (Gives caller body) (above.filter fun row => row.2.words.length = 2) entries ∧
      readBody caller none body
        = (readBody caller (provider? above) below).map (entries ++ ·) := by
  induction above using List.reverseRecOn generalizing below with
  | nil =>
      refine ⟨[], .nil, ?_⟩
      rw [hbody, List.nil_append]
      show _ = (readBody caller none below).map id
      cases readBody caller none below <;> rfl
  | append_singleton above row ih =>
      have hsplit : body = above ++ row :: below := by
        rw [hbody, List.append_assoc, List.singleton_append]
      obtain ⟨entries, hgives, hread⟩ := ih
        (fun other hother => hgood other (List.mem_append_left _ hother)) (row :: below) hsplit
      have hrow : ¬ IsBad body row := hgood row (by simp)
      rw [hsplit] at hsorted hrow
      rw [← badUnder_iff_isBad hsorted] at hrow
      refine ⟨entries ++ (imported? caller (provider? above) row.2).toList, ?_, ?_⟩
      · have hlast := gives_imported? hsorted caller hrow
        rw [← hsplit] at hlast
        rw [List.filter_append]
        exact List.rel_append hgives hlast
      · rw [hread, readBody_good hrow, provider?_concat]
        cases readBody caller ((heading? row.2).or (provider? above)) below with
        | error failure => rfl
        | ok later => simp [Except.map]

theorem read_eq_rows (lines : List Text) (caller : FilePath) :
    read lines caller = readBody caller none (Listing.importsSection.rows lines) := by
  obtain ⟨bounds, hbounds⟩ :=
    SectionSpec.find_optional (rfl : Listing.importsSection.required = false) lines
  rw [read, SectionSpec.rows, hbounds]
  rfl

/-- The import section is read line by line, from the line below its header up to the first
terminator. If all lines follow the grammar, then each line of two words gives one entry, in order,
for its second word and the file named nearest above it, and no other line gives anything. Otherwise
the first line that does not is the one that the error names, as it stands in the listing. What
stands below a terminator behind the header is never read. -/
theorem read_by_rows (lines : List Text) (caller : FilePath) :
    ((Listing.importsSection.rows lines).Pairwise (fun earlier later => earlier.1 < later.1) ∧
      ∀ k line, (k, line) ∈ Listing.importsSection.rows lines
        ↔ lines[k]? = some line ∧ Listing.importsSection.InBody lines k) ∧
    ((∀ row ∈ Listing.importsSection.rows lines,
        ¬ IsBad (Listing.importsSection.rows lines) row) →
      ∃ entries, read lines caller = .ok entries ∧
        List.Forall₂ (Gives caller (Listing.importsSection.rows lines))
          ((Listing.importsSection.rows lines).filter fun row => row.2.words.length = 2)
          entries) ∧
    (∀ row ∈ Listing.importsSection.rows lines, IsBad (Listing.importsSection.rows lines) row →
      (∀ earlier ∈ Listing.importsSection.rows lines, earlier.1 < row.1 →
        ¬ IsBad (Listing.importsSection.rows lines) earlier) →
      read lines caller
        = .error (.parse ⟨"imports".toList, defect row.2, some row.1, some row.2⟩)) ∧
    ∀ header k, lines.findIdx? (Listing.isLine Listing.importsHeader) = some header → header < k →
      Listing.importsSection.isTerminatorAt lines k = true →
        ∀ below, read (lines.take (k + 1) ++ below) caller = read lines caller := by
  have hone : Listing.importsSection.headerLines = 1 := rfl
  have hsorted := Listing.importsSection.pairwise_rows lines
  refine ⟨⟨hsorted, fun k line => SectionSpec.mem_rows_iff hone⟩, fun hgood => ?good,
    fun row hrow hbad hfirst => ?bad, fun header k hheader hk hterminator below => ?below⟩
  case good =>
    obtain ⟨entries, hgives, hread⟩ := readBody_append caller hsorted hgood []
      (List.append_nil _).symm
    refine ⟨entries, ?_, hgives⟩
    rw [read_eq_rows, hread]
    simp [readBody, Except.map]
  case bad =>
    obtain ⟨above, below, hsplit⟩ := List.append_of_mem hrow
    have hgood : ∀ earlier ∈ above, ¬ IsBad (Listing.importsSection.rows lines) earlier := by
      intro earlier hearlier
      rw [hsplit] at hsorted
      obtain ⟨hmem, hlt⟩ := (mem_above_iff hsorted earlier).mp hearlier
      exact hfirst earlier (hsplit ▸ hmem) hlt
    obtain ⟨entries, -, hread⟩ := readBody_append caller hsorted hgood (row :: below) hsplit
    rw [hsplit] at hsorted hbad
    rw [read_eq_rows, hread, readBody_bad ((badUnder_iff_isBad hsorted).mpr hbad)]
    rfl
  case below =>
    rw [read_eq_rows, read_eq_rows,
      SectionSpec.rows_take_append hone hheader hk hterminator below]

/-- A section of two files, with a line that describes the first one, a symbol whose text is its
number, and a line below the section that could not be read. -/
def twoLibraries : List Text :=
  ["stray.dll".toList, " Section contains the following imports:".toList, "".toList,
    "    KERNEL32.dll".toList, "  1A0 Import Address Table".toList, "     4F 4F".toList,
    "    USER32.dll".toList, "   4F MessageBoxW".toList, "  Summary".toList, "zz unread".toList]

/-- The functions are those of lines 5 and 7, line 9 may be any other line, and a line 6 without a
number is blamed. -/
theorem read_by_rows_twoLibraries :
    read twoLibraries default
      = .ok [⟨default, ⟨"KERNEL32.dll".toList⟩, "4F".toList, "4F".toList⟩,
        ⟨default, ⟨"USER32.dll".toList⟩, "MessageBoxW".toList, "MessageBoxW".toList⟩] ∧
    List.Forall₂ (Gives default (Listing.importsSection.rows twoLibraries))
      [(5, "     4F 4F".toList), (7, "   4F MessageBoxW".toList)]
      [⟨default, ⟨"KERNEL32.dll".toList⟩, "4F".toList, "4F".toList⟩,
        ⟨default, ⟨"USER32.dll".toList⟩, "MessageBoxW".toList, "MessageBoxW".toList⟩] ∧
    read (twoLibraries.take 9 ++ ["zz".toList]) default = read twoLibraries default ∧
    read (twoLibraries.set 6 " USER32.dll 1".toList) default
      = .error (.parse ⟨"imports".toList, .importWithoutNumber, some 6,
          some " USER32.dll 1".toList⟩) := by
  obtain ⟨-, hgood, -, hbelow⟩ := read_by_rows twoLibraries default
  obtain ⟨-, -, hbad, -⟩ := read_by_rows (twoLibraries.set 6 " USER32.dll 1".toList) default
  obtain ⟨entries, hread, hgives⟩ := hgood (by decide)
  have hrun : read twoLibraries default
      = .ok [⟨default, ⟨"KERNEL32.dll".toList⟩, "4F".toList, "4F".toList⟩,
        ⟨default, ⟨"USER32.dll".toList⟩, "MessageBoxW".toList, "MessageBoxW".toList⟩] := by
    rfl
  have hrows : ((Listing.importsSection.rows twoLibraries).filter fun row =>
      row.2.words.length = 2)
      = [(5, "     4F 4F".toList), (7, "   4F MessageBoxW".toList)] := by
    decide
  rw [hrun, Except.ok.injEq] at hread
  rw [hrows, ← hread] at hgives
  exact ⟨hrun, hgives, hbelow 1 8 (by decide) (by decide) (by decide) _,
    (hbad (6, " USER32.dll 1".toList) (by decide) (by decide) (by decide)).trans rfl⟩

end SymbolAtlas.Imports
