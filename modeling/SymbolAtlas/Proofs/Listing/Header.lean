/-
# SymbolAtlas.Proofs.Listing.Header — where the body of a section begins and ends

The scan of a listing keeps no more than a count of header lines, so the bounds of a section are a
closed formula: the body begins below the header line that brings the count to what the section
needs, and runs to the first terminator from there on.

The disassembly needs two header lines, one that names the file and one that tells its type, and
its section counts them as lines of one kind. So a sentinel that is repeated completes the header
without the other one. `find_disassembly` says what the scan does with any listing, and that this
is what `documentedBounds` describes exactly as long as the first two header lines are of different
kinds.
-/
import SymbolAtlas.Proofs.Listing.Section
import Mathlib.Data.List.Basic

namespace SymbolAtlas

namespace SectionSpec

/-! ## The bounds in closed form -/

/-- Where a scan stands that has seen some header lines: behind the header line that completes the
count, or still counting. -/
theorem scan_seeking_eq (spec : SectionSpec) (lines : List Text) (index seen : Nat) :
    spec.scan index (.seeking seen) lines
      = match (lines.findIdxs spec.isHeader index)[(spec.headerLines - 1 - seen).toNat]? with
        | some header =>
          spec.scan (header + 1) (.body (header + 1)) (lines.drop (header + 1 - index))
        | none => .seeking (seen + lines.countP spec.isHeader) := by
  induction lines generalizing index seen with
  | nil => simp [scan]
  | cons line rest ih =>
      rw [scan, List.findIdxs_cons, List.countP_cons]
      -- below this line the indexes are larger, so one line less is dropped
      have hdrop : ∀ header ∈ rest.findIdxs spec.isHeader (index + 1),
          (line :: rest).drop (header + 1 - index) = rest.drop (header + 1 - (index + 1)) := by
        intro header hheader
        have hle : index + 1 ≤ header := List.ge_of_mem_findIdxs header hheader
        have hsucc : header + 1 - index = header + 1 - (index + 1) + 1 := by omega
        rw [hsucc, List.drop_succ_cons]
      cases hline : spec.isHeader line with
      | false =>
          have hstep : spec.step index line (.seeking seen) = .seeking seen := by
            simp [step, hline]
          simp only [hstep, ih, Bool.false_eq_true, if_false, Nat.add_zero]
          split
          · rename_i header hheader
            rw [hdrop header (List.mem_of_getElem? hheader)]
          · rfl
      | true =>
          by_cases hlast : spec.headerLines ≤ seen + 1
          · have hstep : spec.step index line (.seeking seen) = .body (index + 1) := by
              simp [step, hline, hlast]
            have hzero : (spec.headerLines - 1 - seen).toNat = 0 := by omega
            have hone : index + 1 - index = 1 := by omega
            simp only [hstep, hzero, if_true, List.getElem?_cons_zero, hone, List.drop_one,
              List.tail_cons]
          · have hstep : spec.step index line (.seeking seen) = .seeking (seen + 1) := by
              simp [step, hline, hlast]
            have hsucc : (spec.headerLines - 1 - seen).toNat
                = (spec.headerLines - 1 - (seen + 1 : Nat)).toNat + 1 := by omega
            have hcount : seen + 1 + rest.countP spec.isHeader
                = seen + (rest.countP spec.isHeader + 1) := by omega
            simp only [hstep, ih, hsucc, if_true, List.getElem?_cons_succ, hcount]
            split
            · rename_i header hheader
              rw [hdrop header (List.mem_of_getElem? hheader)]
            · rfl

/-- The body goes on to the first terminator, or to the end of the lines. -/
theorem scan_body_eq (spec : SectionSpec) (lines : List Text) (index start : Nat) :
    spec.scan index (.body start) lines
      = match lines.findIdx? fun line => line.trim ∈ spec.terminators with
        | some length => .closed start (index + length)
        | none => .body start := by
  induction lines generalizing index with
  | nil => rfl
  | cons line rest ih =>
      rw [scan, List.findIdx?_cons]
      by_cases hline : line.trim ∈ spec.terminators
      · have hstep : spec.step index line (.body start) = .closed start index := by
          simp [step, hline]
        rw [hstep, scan_closed]
        simp [hline]
      · have hstep : spec.step index line (.body start) = .body start := by
          simp [step, hline]
        rw [hstep, ih]
        cases h : rest.findIdx? fun line => line.trim ∈ spec.terminators with
        | none => simp [hline]
        | some length => simp [hline]; omega

/-- The index of the header line that completes the header of a section, if it is complete. A
section that asks for no header line still needs one. -/
def lastHeader? (spec : SectionSpec) (lines : List Text) : Option Nat :=
  (lines.findIdxs spec.isHeader)[(spec.headerLines - 1).toNat]?

/-- The index at which a body that starts below the given line ends. -/
def bodyEnd (spec : SectionSpec) (lines : List Text) (header : Nat) : Nat :=
  match (lines.drop (header + 1)).findIdx? fun line => spec.terminators.contains line.trim with
  | some length => header + 1 + length
  | none => lines.length

/-- The bounds of a section in closed form. -/
theorem find_eq (spec : SectionSpec) (lines : List Text) :
    spec.find lines
      = match spec.lastHeader? lines with
        | some header => .ok ⟨spec.name, some (header + 1), spec.bodyEnd lines header⟩
        | none =>
          if spec.required then
            .error (.parse ⟨spec.name,
              .incompleteHeader (lines.countP spec.isHeader) spec.headerLines,
              some lines.length, none⟩)
          else .ok ⟨spec.name, none, lines.length⟩ := by
  rw [find, scan_seeking_eq, lastHeader?]
  have hneeded : (spec.headerLines - 1 - (0 : Nat)).toNat = (spec.headerLines - 1).toNat := by
    omega
  rw [hneeded]
  cases (lines.findIdxs spec.isHeader)[(spec.headerLines - 1).toNat]? with
  | none => simp only [Nat.zero_add]
  | some header =>
      simp only [scan_body_eq, bodyEnd, Nat.sub_zero, List.contains_eq_mem]
      cases (lines.drop (header + 1)).findIdx? fun line => line.trim ∈ spec.terminators <;> rfl

/-! ## The lines of a body -/

/-- A section that needs one header line begins below the first. -/
theorem lastHeader?_of_one {spec : SectionSpec} (h : spec.headerLines = 1) (lines : List Text) :
    spec.lastHeader? lines = lines.findIdx? spec.isHeader := by
  have hfirst (start : Nat) : (lines.findIdxs spec.isHeader start)[0]?
      = (lines.findIdx? spec.isHeader).map (· + start) := by
    induction lines generalizing start with
    | nil => rfl
    | cons line rest ih =>
        rw [List.findIdxs_cons, List.findIdx?_cons]
        cases hline : spec.isHeader line with
        | true => simp
        | false =>
            simp only [Bool.false_eq_true, if_false, ih, Option.map_map]
            congr 1
            funext n
            show n + (start + 1) = n + 1 + start
            omega
  rw [lastHeader?, h]
  show (lines.findIdxs spec.isHeader 0)[0]? = _
  rw [hfirst]
  simp

/-- A line lies above the end of the body if no line from the header down to it is a terminator. -/
theorem lt_bodyEnd_iff (spec : SectionSpec) {lines : List Text} {k : Nat}
    (hk : k < lines.length) (header : Nat) :
    k < spec.bodyEnd lines header ↔ ∀ j line, header < j → j ≤ k → lines[j]? = some line →
      line.trim ∉ spec.terminators := by
  have hdrop (n : Nat) : (lines.drop (header + 1))[n]? = lines[header + 1 + n]? :=
    List.getElem?_drop
  unfold bodyEnd
  cases hfind : (lines.drop (header + 1)).findIdx? fun line =>
      spec.terminators.contains line.trim with
  | none =>
      refine iff_of_true hk fun j line hj _ hline => ?_
      obtain ⟨n, rfl⟩ : ∃ n, j = header + 1 + n := ⟨j - (header + 1), by omega⟩
      rw [← hdrop] at hline
      have hnone := List.findIdx?_eq_none_iff.mp hfind line (List.mem_of_getElem? hline)
      simpa using hnone
  | some length =>
      obtain ⟨hlt, hterminator, hbefore⟩ := List.findIdx?_eq_some_iff_getElem.mp hfind
      show k < header + 1 + length ↔ _
      constructor
      · intro hinside j line hj hjk hline
        obtain ⟨n, rfl⟩ : ∃ n, j = header + 1 + n := ⟨j - (header + 1), by omega⟩
        rw [← hdrop] at hline
        obtain ⟨hn, rfl⟩ := List.getElem?_eq_some_iff.mp hline
        have hnot := hbefore n (by omega)
        simpa using hnot
      · intro hclear
        by_contra hend
        have hget := hdrop length
        rw [List.getElem?_eq_getElem hlt] at hget
        exact hclear (header + 1 + length) _ (by omega) (by omega) hget.symm
          (by simpa using hterminator)

/-- The body of a section that was found holds the lines behind its header, each with its index, as
long as no terminator has come. -/
theorem mem_body_iff {spec : SectionSpec} {lines : List Text} {bounds : SectionBounds}
    (h : spec.find lines = .ok bounds) (k : Nat) (line : Text) :
    (k, line) ∈ bounds.body lines ↔ lines[k]? = some line ∧
      ∃ header, spec.lastHeader? lines = some header ∧ header < k ∧
        ∀ j other, header < j → j ≤ k → lines[j]? = some other →
          other.trim ∉ spec.terminators := by
  have hbody : (k, line) ∈ bounds.body lines
      ↔ (bounds.range.1 ≤ k ∧ k < bounds.range.2) ∧ lines[k]? = some line := by
    simp only [SectionBounds.body, List.mem_map, Prod.exists, Prod.mk.injEq,
      List.mk_mem_zipIdx_iff_le_and_getElem?_sub, List.getElem?_drop, List.getElem?_take]
    constructor
    · rintro ⟨other, j, ⟨hstart, hget⟩, rfl, rfl⟩
      rw [Nat.add_sub_cancel' hstart] at hget
      split at hget
      · rename_i hstop
        exact ⟨⟨hstart, hstop⟩, hget⟩
      · cases hget
    · rintro ⟨⟨hstart, hstop⟩, hget⟩
      refine ⟨line, k, ⟨hstart, ?_⟩, rfl, rfl⟩
      rw [Nat.add_sub_cancel' hstart, if_pos hstop]
      exact hget
  rw [hbody, and_comm]
  refine and_congr_right fun hget => ?_
  have hk := (List.getElem?_eq_some_iff.mp hget).1
  rw [find_eq] at h
  split at h
  · rename_i header hheader
    cases h
    simp only [SectionBounds.range, hheader, Option.some.injEq, exists_eq_left',
      Nat.succ_le_iff]
    exact and_congr_right fun _ => spec.lt_bodyEnd_iff hk header
  · rename_i hheader
    split at h
    · cases h
    · cases h
      simp [SectionBounds.range, hheader]

/-- The lines of a body are in the order of the listing. -/
theorem pairwise_body (bounds : SectionBounds) (lines : List Text) :
    (bounds.body lines).Pairwise fun earlier later => earlier.1 < later.1 := by
  show (List.map _ (List.zipIdx _ bounds.range.1)).Pairwise _
  rw [List.pairwise_map]
  apply List.pairwise_map.mp
  rw [List.zipIdx_map_snd]
  exact List.pairwise_lt_range'

end SectionSpec

/-! ## The header of a disassembly -/

namespace Listing

open SectionSpec

/-- Whether a line names the file that was dumped, in any case. -/
def isDumpLine (line : Text) : Bool := "dump of file".toList.isPrefixOf line.trimStart.lower

/-- Whether a line tells the type of the file, in any case. -/
def isTypeLine (line : Text) : Bool := "file type:".toList.isPrefixOf line.trimStart.lower

theorem isDisassemblyHeader_iff (line : Text) :
    isDisassemblyHeader line = true ↔ isDumpLine line = true ∨ isTypeLine line = true :=
  Bool.or_eq_true_iff

/-- No line is of both kinds, because the two texts begin with different letters. -/
theorem isTypeLine_of_isDumpLine {line : Text} (h : isDumpLine line = true) :
    isTypeLine line = false := by
  unfold isDumpLine at h
  unfold isTypeLine
  cases hlowered : line.trimStart.lower with
  | nil => rfl
  | cons c rest =>
      rw [hlowered] at h
      have hc : 'd' = c := by
        have hprefix := List.isPrefixOf_iff_prefix.mp h
        exact (List.cons_prefix_cons.mp hprefix).1
      subst hc
      rfl

/-- A header line is of exactly one kind. -/
theorem isTypeLine_eq_not {line : Text} (h : isDisassemblyHeader line = true) :
    isTypeLine line = !isDumpLine line := by
  cases hdump : isDumpLine line with
  | true => exact isTypeLine_of_isDumpLine hdump
  | false =>
      rcases (isDisassemblyHeader_iff line).mp h with hd | ht
      · rw [hd] at hdump
        cases hdump
      · exact ht

/-- How many of the two sentinels a listing shows. -/
def sentinelsSeen (lines : List Text) : Nat :=
  (lines.any isDumpLine).toNat + (lines.any isTypeLine).toNat

/-- The bounds that the description of a disassembly gives: both sentinels are needed, in any order
and each as often as it occurs, and the body starts below the later one of their first lines. -/
def documentedBounds (lines : List Text) : Attempt SectionBounds :=
  if sentinelsSeen lines = 2 then
    .ok ⟨"disassembly".toList,
      some (max (lines.findIdx isDumpLine) (lines.findIdx isTypeLine) + 1), lines.length⟩
  else
    .error (.parse ⟨"disassembly".toList, .incompleteHeader (sentinelsSeen lines) 2,
      some lines.length, none⟩)

/-- Sentinels are looked for among the header lines. -/
theorem sentinelsSeen_eq (lines : List Text) :
    sentinelsSeen lines = ((lines.filter isDisassemblyHeader).any isDumpLine).toNat
      + ((lines.filter isDisassemblyHeader).any isTypeLine).toNat := by
  have hdump (line : Text) : (isDisassemblyHeader line && isDumpLine line) = isDumpLine line := by
    cases h : isDumpLine line with
    | false => exact Bool.and_false _
    | true => rw [(isDisassemblyHeader_iff line).mpr (.inl h)]; rfl
  have htype (line : Text) : (isDisassemblyHeader line && isTypeLine line) = isTypeLine line := by
    cases h : isTypeLine line with
    | false => exact Bool.and_false _
    | true => rw [(isDisassemblyHeader_iff line).mpr (.inr h)]; rfl
  rw [sentinelsSeen, List.any_filter, List.any_filter, funext hdump, funext htype]

/-- Behind lines that do not satisfy a test, the search goes on with the next line. -/
theorem findIdx_append_cons {test : Text → Bool} {above : List Text}
    (habove : ∀ line ∈ above, test line = false) (line : Text) (below : List Text) :
    (above ++ line :: below).findIdx test
      = above.length + if test line then 0 else below.findIdx test + 1 := by
  have hlength : above.findIdx test = above.length := List.findIdx_eq_length.mpr habove
  rw [List.findIdx_append, hlength, if_neg (Nat.lt_irrefl _), List.findIdx_cons, Nat.add_comm]
  cases test line <;> rfl

/-- A listing with two header lines, taken apart at the first two. -/
theorem exists_two_headers {lines rest : List Text} {first second : Text}
    (h : lines.filter isDisassemblyHeader = first :: second :: rest) :
    ∃ above between below, lines = above ++ first :: (between ++ second :: below) ∧
      (∀ line ∈ above, isDisassemblyHeader line = false) ∧
      (∀ line ∈ between, isDisassemblyHeader line = false) ∧
      isDisassemblyHeader first = true ∧ isDisassemblyHeader second = true := by
  obtain ⟨above, tail, hlines, habove, hfirst, htail⟩ := List.filter_eq_cons_iff.mp h
  obtain ⟨between, below, hbelow, hbetween, hsecond, -⟩ := List.filter_eq_cons_iff.mp htail
  refine ⟨above, between, below, by rw [hlines, hbelow], ?_, ?_, hfirst, hsecond⟩
  · exact fun line hline => Bool.eq_false_iff.mpr (habove line hline)
  · exact fun line hline => Bool.eq_false_iff.mpr (hbetween line hline)

/-- A line that is no header line is of neither kind. -/
theorem not_sentinel {line : Text} (h : isDisassemblyHeader line = false) :
    isDumpLine line = false ∧ isTypeLine line = false :=
  Bool.or_eq_false_iff.mp h

section TwoHeaders

variable {above between : List Text} {first second : Text} (below : List Text)
  (habove : ∀ line ∈ above, isDisassemblyHeader line = false)
  (hbetween : ∀ line ∈ between, isDisassemblyHeader line = false)
  (hfirst : isDisassemblyHeader first = true) (hsecond : isDisassemblyHeader second = true)

include habove hbetween hfirst hsecond

/-- The second header line is the one that completes the header. -/
theorem secondHeader_eq :
    ((above ++ first :: (between ++ second :: below)).findIdxs isDisassemblyHeader)[1]?
      = some (above.length + between.length + 1) := by
  have hnone {lines : List Text} (h : ∀ line ∈ lines, isDisassemblyHeader line = false)
      (start : Nat) : lines.findIdxs isDisassemblyHeader start = [] :=
    List.findIdxs_eq_nil_iff.mpr h
  rw [List.findIdxs_append, hnone habove, List.findIdxs_cons, if_pos hfirst, List.findIdxs_append,
    hnone hbetween, List.findIdxs_cons, if_pos hsecond]
  simp only [List.nil_append, List.getElem?_cons_succ, List.getElem?_cons_zero, Option.some.injEq]
  omega

/-- Where the first line of each kind stands: at the first header line or, if that is of the other
kind, at the second one, or else below both. -/
theorem findIdx_sentinels :
    ((above ++ first :: (between ++ second :: below)).findIdx isDumpLine
      = above.length + if isDumpLine first then 0
          else between.length + (if isDumpLine second then 0 else below.findIdx isDumpLine + 1) + 1) ∧
    ((above ++ first :: (between ++ second :: below)).findIdx isTypeLine
      = above.length + if isDumpLine first then
          between.length + (if isDumpLine second then below.findIdx isTypeLine + 1 else 0) + 1
          else 0) := by
  constructor
  · rw [findIdx_append_cons fun line hline => (not_sentinel (habove line hline)).1,
      findIdx_append_cons fun line hline => (not_sentinel (hbetween line hline)).1]
  · rw [findIdx_append_cons fun line hline => (not_sentinel (habove line hline)).2,
      findIdx_append_cons fun line hline => (not_sentinel (hbetween line hline)).2,
      isTypeLine_eq_not hfirst, isTypeLine_eq_not hsecond]
    cases isDumpLine first <;> cases isDumpLine second <;> rfl

/-- The later one of the two first sentinels is the second header line, if the first two header
lines are of different kinds, and comes below it otherwise. -/
theorem laterSentinel_spec :
    (isDumpLine first ≠ isDumpLine second →
      max ((above ++ first :: (between ++ second :: below)).findIdx isDumpLine)
        ((above ++ first :: (between ++ second :: below)).findIdx isTypeLine)
        = above.length + between.length + 1) ∧
    (isDumpLine first = isDumpLine second →
      above.length + between.length + 1
        < max ((above ++ first :: (between ++ second :: below)).findIdx isDumpLine)
            ((above ++ first :: (between ++ second :: below)).findIdx isTypeLine)) := by
  obtain ⟨hdump, htype⟩ := findIdx_sentinels below habove hbetween hfirst hsecond
  rw [hdump, htype]
  cases isDumpLine first <;> cases isDumpLine second <;>
    simp only [ne_eq, not_true_eq_false, not_false_eq_true, reduceCtorEq, Bool.false_eq_true,
      if_true, if_false, false_imp_iff, true_imp_iff, true_and, and_true] <;>
    omega

/-- The description agrees with the second header line exactly if that is of another kind than the
first: otherwise the sentinel that it waits for comes later or not at all. -/
theorem documentedBounds_eq_iff :
    documentedBounds (above ++ first :: (between ++ second :: below))
        = .ok ⟨"disassembly".toList, some (above.length + between.length + 1 + 1),
            (above ++ first :: (between ++ second :: below)).length⟩
      ↔ isDumpLine first ≠ isDumpLine second := by
  obtain ⟨hne, heq⟩ := laterSentinel_spec below habove hbetween hfirst hsecond
  have hkind := isTypeLine_eq_not hfirst
  have hkind' := isTypeLine_eq_not hsecond
  have hmem : first ∈ above ++ first :: (between ++ second :: below) ∧
      second ∈ above ++ first :: (between ++ second :: below) := by simp
  generalize above ++ first :: (between ++ second :: below) = lines at hne heq hmem ⊢
  unfold documentedBounds
  constructor
  · intro h hsame
    split at h
    · have hlater := heq hsame
      simp only [Except.ok.injEq, SectionBounds.mk.injEq, Option.some.injEq] at h
      omega
    · cases h
  · intro hdiffer
    have hsentinels : lines.any isDumpLine = true ∧ lines.any isTypeLine = true := by
      rw [List.any_eq_true, List.any_eq_true]
      cases hdump : isDumpLine first with
      | true =>
          have htype : isTypeLine second = true := by
            rw [hkind']
            simpa [hdump] using hdiffer
          exact ⟨⟨first, hmem.1, hdump⟩, second, hmem.2, htype⟩
      | false =>
          have hdump' : isDumpLine second = true := by simpa [hdump] using hdiffer
          have htype : isTypeLine first = true := by rw [hkind, hdump]; rfl
          exact ⟨⟨second, hmem.2, hdump'⟩, first, hmem.1, htype⟩
    have hseen : sentinelsSeen lines = 2 := by
      rw [sentinelsSeen, hsentinels.1, hsentinels.2]
      rfl
    rw [if_pos hseen, hne hdiffer]

end TwoHeaders

/-- With fewer than two header lines, the description gives the failure that counts them. -/
theorem documentedBounds_of_few {lines : List Text}
    (h : (lines.filter isDisassemblyHeader).length < 2) :
    documentedBounds lines = .error (.parse ⟨"disassembly".toList,
      .incompleteHeader (lines.countP isDisassemblyHeader) 2, some lines.length, none⟩) := by
  have hseen : sentinelsSeen lines = lines.countP isDisassemblyHeader := by
    rw [sentinelsSeen_eq, List.countP_eq_length_filter]
    match hheaders : lines.filter isDisassemblyHeader with
    | [] => rfl
    | [header] =>
        -- one header line shows one sentinel
        have hheader : isDisassemblyHeader header = true := by
          have hmem : header ∈ lines.filter isDisassemblyHeader := by rw [hheaders]; simp
          exact (List.mem_filter.mp hmem).2
        simp only [List.any_cons, List.any_nil, Bool.or_false, isTypeLine_eq_not hheader]
        cases isDumpLine header <;> rfl
    | first :: second :: rest =>
        rw [hheaders, List.length_cons, List.length_cons] at h
        omega
  have hfew : ¬ sentinelsSeen lines = 2 := by
    rw [hseen, List.countP_eq_length_filter]
    omega
  rw [documentedBounds, if_neg hfew, hseen]

/-- Nothing ends a disassembly but the end of the listing. -/
theorem bodyEnd_disassembly (lines : List Text) (header : Nat) :
    disassemblySection.bodyEnd lines header = lines.length := by
  have hnone : ((lines.drop (header + 1)).findIdx? fun line =>
      disassemblySection.terminators.contains line.trim) = none :=
    List.findIdx?_eq_none_iff.mpr fun line _ => rfl
  rw [SectionSpec.bodyEnd, hnone]

/-- The scan for a disassembly stops below the second header line of whatever kind, and fails with
the number of lines if there is none. This is what its description says, both sentinels being needed,
exactly as long as the first two header lines are of different kinds. -/
theorem find_disassembly (lines : List Text) :
    (disassemblySection.find lines
      = match (lines.findIdxs isDisassemblyHeader)[1]? with
        | some second => .ok ⟨"disassembly".toList, some (second + 1), lines.length⟩
        | none => .error (.parse ⟨"disassembly".toList,
            .incompleteHeader (lines.countP isDisassemblyHeader) 2, some lines.length, none⟩)) ∧
    (disassemblySection.find lines = documentedBounds lines ↔
      ∀ first second rest, lines.filter isDisassemblyHeader = first :: second :: rest →
        isDumpLine first ≠ isDumpLine second) := by
  have hfind : disassemblySection.find lines
      = match (lines.findIdxs isDisassemblyHeader)[1]? with
        | some second => .ok ⟨"disassembly".toList, some (second + 1), lines.length⟩
        | none => .error (.parse ⟨"disassembly".toList,
            .incompleteHeader (lines.countP isDisassemblyHeader) 2, some lines.length, none⟩) := by
    rw [find_eq]
    simp only [bodyEnd_disassembly]
    rfl
  refine ⟨hfind, ?_⟩
  rw [hfind]
  match hheaders : lines.filter isDisassemblyHeader with
  | first :: second :: rest =>
      obtain ⟨above, between, below, rfl, habove, hbetween, hfirst, hsecond⟩ :=
        exists_two_headers hheaders
      rw [secondHeader_eq below habove hbetween hfirst hsecond, eq_comm,
        documentedBounds_eq_iff below habove hbetween hfirst hsecond]
      simp only [List.cons.injEq]
      constructor
      · rintro hdiffer first' second' rest' ⟨rfl, rfl, -⟩
        exact hdiffer
      · exact fun h => h first second rest ⟨rfl, rfl, rfl⟩
  | [] | [header] =>
      have hfew : (lines.filter isDisassemblyHeader).length < 2 := by rw [hheaders]; simp
      have hnone : (lines.findIdxs isDisassemblyHeader)[1]? = none := by
        rw [List.getElem?_eq_none_iff, List.length_findIdxs, List.countP_eq_length_filter]
        omega
      rw [hnone, documentedBounds_of_few hfew]
      simp

/-- Two lines that name a file complete the header, although none tells a type. -/
theorem find_disassembly_two_dumps :
    disassemblySection.find ["Dump of file a".toList, "Dump of file b".toList]
        = .ok ⟨"disassembly".toList, some 2, 2⟩ ∧
      documentedBounds ["Dump of file a".toList, "Dump of file b".toList]
        = .error (.parse ⟨"disassembly".toList, .incompleteHeader 1 2, some 2, none⟩) :=
  ⟨rfl, rfl⟩

end Listing

end SymbolAtlas
