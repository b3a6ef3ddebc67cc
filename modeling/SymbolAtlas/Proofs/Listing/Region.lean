/-
# SymbolAtlas.Proofs.Listing.Region — the regions of a listing in closed form

A scan of numbered lines patches the end of a region after the region was opened. The closed form
`spans` needs no patching: a label line opens a region that holds exactly the lines of code right
below it, where a line of code is neither a label nor blank. The invariant that carries the scan is
`close_foldIndexed`: what is complete, what is open and what is still to come make up the result,
whenever the scan is stopped.
-/
import SymbolAtlas.Listing.Region
import SymbolAtlas.Proofs.Listing.Token
import SymbolAtlas.Proofs.Sequence
import Mathlib.Tactic.Ring

namespace SymbolAtlas.Region

/-! ## Labels -/

/-- The name that a line gives as a label: what precedes the colon at its end, if the line does not
begin with an address and the name is not empty. -/
def label? (line : Text) : Option Text :=
  if line.trimEnd.getLast? = some ':' ∧ line.trimEnd.words.head?.any Token.isAddress = false then
    (some (Text.trim line.trimEnd.dropLast)).filter fun name => !name.isEmpty
  else none

/-- Recognising a label never fails: a line that ends in a colon has a first word. -/
theorem labelName_eq (line : Text) : labelName line = .ok (label? line) := by
  unfold labelName label?
  by_cases hcolon : line.trimEnd.getLast? = some ':'
  · have hblank : line.trimEnd.isBlankText = false :=
      Text.not_blank_of_mem (List.mem_of_getLast? hcolon) (by decide)
    obtain ⟨word, rest, hwords, hword⟩ := Token.firstWord_of_not_blank hblank
    simp only [hcolon, hwords, hword, if_true, true_and, List.head?_cons, Option.any_some]
    show (if Token.isAddress word = true then _ else _) = _
    cases Token.isAddress word with
    | true => rfl
    | false =>
        simp only [Bool.false_eq_true, if_false, if_true, Option.filter_some]
        cases (Text.trim line.trimEnd.dropLast).isEmpty <;> rfl
  · simp only [hcolon, if_false, false_and]

/-- The name of a label is trimmed and not empty, and a label line is not blank. -/
theorem label?_spec {line name : Text} (h : label? line = some name) :
    name ≠ [] ∧ name.trim = name ∧ line.isBlankText = false := by
  unfold label? at h
  split at h
  · rename_i hlabel
    obtain ⟨hname, hne⟩ := Option.filter_eq_some_iff.mp h
    rw [Option.some.injEq] at hname
    subst hname
    refine ⟨?_, Text.trim_trim _, ?_⟩
    · intro hnil
      rw [hnil] at hne
      cases hne
    · refine Text.not_blank_of_mem ?_ (by decide : Text.isBlank ':' = false)
      obtain ⟨right, hline, -⟩ := Text.exists_trimEnd line
      rw [hline]
      exact List.mem_append_left _ (List.mem_of_getLast? hlabel.1)
  · cases h

/-- The name of a label is not blank, so it has a first word. -/
theorem label?_not_blank {line name : Text} (h : label? line = some name) :
    name.isBlankText = false := by
  obtain ⟨hne, htrim, -⟩ := label?_spec h
  exact Text.not_blank_of_trim_eq hne htrim

/-! ## Regions in closed form -/

/-- Whether a line belongs to the region that is open above it: it is neither a label nor blank. -/
def isCode (line : Text) : Bool := (label? line).isNone && !line.isBlankText

/-- The region that a label at an index opens above the given lines. -/
def opening (name : Text) (index : Nat) (below : List Text) : Region where
  name := name
  lineStart := index
  lineEnd := index + 1 + (below.takeWhile isCode).length

/-- The regions of numbered lines: one for each label, with the lines of code right below it. -/
def spans (index : Nat) : List Text → List Region
  | [] => []
  | line :: below =>
    match label? line with
    | some name => opening name index below :: spans (index + 1) below
    | none => spans (index + 1) below

theorem spans_of_label {line name : Text} (h : label? line = some name) (index : Nat)
    (below : List Text) :
    spans index (line :: below) = opening name index below :: spans (index + 1) below := by
  rw [spans, h]

theorem spans_of_none {line : Text} (h : label? line = none) (index : Nat) (below : List Text) :
    spans index (line :: below) = spans (index + 1) below := by
  rw [spans, h]

/-! ## The scan -/

/-- One step of the scan, which never fails. -/
def advance (p : Partition) (index : Int) (line : Text) : Partition :=
  match label? line with
  | some name => { p.close index with opened := some { name := name, lineStart := index } }
  | none => if line.isBlankText then p.close index else p

theorem step_eq_advance (p : Partition) (index : Int) (line : Text) :
    p.step index line = .ok (advance p index line) := by
  unfold Partition.step advance
  rw [labelName_eq]
  cases label? line <;> rfl

/-- What an open region becomes if the given lines follow. -/
def extend (index : Nat) (lines : List Text) (r : Region) : Region :=
  { r with lineEnd := index + (lines.takeWhile isCode).length }

theorem extend_of_not_code {line : Text} (h : isCode line = false) (index : Nat)
    (below : List Text) : extend index (line :: below) = fun r => { r with lineEnd := index } := by
  have hno : ¬ isCode line = true := by rw [h]; exact Bool.false_ne_true
  funext r
  rw [extend, List.takeWhile_cons_of_neg hno, List.length_nil, Nat.cast_zero, add_zero]

theorem extend_of_code {line : Text} (h : isCode line = true) (index : Nat) (below : List Text) :
    extend index (line :: below) = extend (index + 1) below := by
  funext r
  rw [extend, extend, List.takeWhile_cons_of_pos h, List.length_cons]
  push_cast
  rw [add_right_comm, add_assoc]

theorem opening_eq_extend (name : Text) (index : Nat) (below : List Text) :
    opening name index below = extend (index + 1) below { name := name, lineStart := index } := by
  rw [opening, extend, Nat.cast_succ]

/-- The invariant of the scan: wherever it is stopped, the complete regions, the open one and the
regions of the lines still to come are the result. -/
theorem close_foldIndexed (lines : List Text) (index : Nat) (p : Partition) :
    ((foldIndexed advance index lines p).close (index + lines.length)).complete
      = p.complete ++ (p.opened.map (extend index lines)).toList ++ spans index lines := by
  induction lines generalizing index p with
  | nil =>
      simp only [foldIndexed, Partition.close, spans, List.append_nil, List.length_nil]
      rfl
  | cons line below ih =>
      have hstop : (index : Int) + (line :: below).length
          = ((index + 1 : Nat) : Int) + below.length := by
        rw [List.length_cons]
        push_cast
        ring
      rw [foldIndexed, hstop]
      refine (ih (index + 1) (advance p index line)).trans ?_
      rw [advance]
      cases hlabel : label? line with
      | some name =>
          -- the label closes the open region at its own index and opens the next one
          have hcode : isCode line = false := by rw [isCode, hlabel]; rfl
          rw [extend_of_not_code hcode, spans_of_label hlabel, opening_eq_extend]
          simp only [Partition.close, Option.map_some, Option.toList_some, List.append_assoc,
            List.singleton_append]
      | none =>
          rw [spans_of_none hlabel]
          cases hblank : line.isBlankText with
          | true =>
              have hcode : isCode line = false := by
                rw [isCode, hblank, Bool.not_true, Bool.and_false]
              rw [extend_of_not_code hcode]
              simp only [if_true, Partition.close, Option.map_none, Option.toList_none,
                List.append_nil]
          | false =>
              have hcode : isCode line = true := by rw [isCode, hlabel, hblank]; rfl
              rw [extend_of_code hcode]
              simp only [Bool.false_eq_true, if_false]

/-- A scan of a stretch of a listing gives the regions of that stretch. -/
theorem scan_eq_spans {lines : List Text} {start stop : Nat} (hstart : start ≤ stop)
    (hstop : stop ≤ lines.length) :
    scan lines start stop = .ok (spans start (slice lines start stop)) := by
  have hlength : (stop : Int) = start + (slice lines start stop).length := by
    rw [length_slice hstop]
    omega
  rw [scan, foldRange_eq_foldIndexed step_eq_advance hstart hstop]
  show Except.ok ((foldIndexed advance start (slice lines start stop) {}).close stop).complete = _
  rw [hlength, close_foldIndexed]
  rfl

/-! ## What a region holds -/

/-- The lines of a region: those below its label and before its end. -/
def code (lines : List Text) (r : Region) : List Text :=
  slice lines (r.lineStart + 1).toNat r.lineEnd.toNat

/-- Each region of numbered lines is opened by a label among them. -/
theorem mem_spans {r : Region} {index : Nat} {lines : List Text} (h : r ∈ spans index lines) :
    ∃ above label name below, lines = above ++ label :: below ∧ label? label = some name ∧
      r = opening name (index + above.length) below := by
  induction lines generalizing index with
  | nil => cases h
  | cons line rest ih =>
      have hrest (hmem : r ∈ spans (index + 1) rest) : ∃ above label name below,
          line :: rest = above ++ label :: below ∧ label? label = some name ∧
            r = opening name (index + above.length) below := by
        obtain ⟨above, label, name, below, hlines, hlabel, hr⟩ := ih hmem
        refine ⟨line :: above, label, name, below, by rw [hlines]; rfl, hlabel, ?_⟩
        rw [hr, List.length_cons, Nat.add_right_comm, Nat.add_assoc]
      cases hlabel : label? line with
      | none =>
          rw [spans_of_none hlabel] at h
          exact hrest h
      | some name =>
          rw [spans_of_label hlabel] at h
          rcases List.mem_cons.mp h with rfl | hmem
          · exact ⟨[], line, name, rest, rfl, hlabel, rfl⟩
          · exact hrest hmem

/-- The lines of a region of a listing are the lines of code right below its label. -/
theorem code_opening {lines above below : List Text} {start stop : Nat} {label name : Text}
    (hstop : stop ≤ lines.length) (h : slice lines start stop = above ++ label :: below) :
    (opening name (start + above.length) below).code lines = below.takeWhile isCode := by
  have hlength : (slice lines start stop).length = stop - start := length_slice hstop
  rw [h, List.length_append, List.length_cons] at hlength
  have hcount : (below.takeWhile isCode).length ≤ below.length :=
    List.Sublist.length_le (List.takeWhile_sublist isCode)
  have hfirst : ((opening name (start + above.length) below).lineStart + 1).toNat
      = start + (above.length + 1) := by
    simp only [opening]
    omega
  have hlast : (opening name (start + above.length) below).lineEnd.toNat
      = start + (above.length + 1) + (below.takeWhile isCode).length := by
    simp only [opening]
    omega
  have hdrop : (above ++ label :: below).drop (above.length + 1) = below := by
    rw [← List.drop_drop, List.drop_left]
    rfl
  have hpart : slice lines (start + (above.length + 1))
      (start + (above.length + 1) + (below.takeWhile isCode).length)
      = ((slice lines start stop).drop (above.length + 1)).take (below.takeWhile isCode).length :=
    slice_slice (by omega)
  rw [code, hfirst, hlast, hpart, h, hdrop]
  exact (List.prefix_iff_eq_take.mp (List.takeWhile_prefix isCode)).symm

/-- No line of a region is blank, and none is a label. -/
theorem isCode_of_mem_code {lines : List Text} {start stop : Nat} (hstop : stop ≤ lines.length)
    {r : Region} (hr : r ∈ spans start (slice lines start stop)) {line : Text}
    (hline : line ∈ r.code lines) : line.isBlankText = false ∧ label? line = none := by
  obtain ⟨above, label, name, below, hlines, -, rfl⟩ := mem_spans hr
  rw [code_opening hstop hlines] at hline
  have hcode : isCode line = true := List.mem_takeWhile_imp hline
  rw [isCode, Bool.and_eq_true, Option.isNone_iff_eq_none] at hcode
  exact ⟨by simpa using hcode.2, hcode.1⟩

end SymbolAtlas.Region
