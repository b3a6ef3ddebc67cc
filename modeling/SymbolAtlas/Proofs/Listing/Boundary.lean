/-
# SymbolAtlas.Proofs.Listing.Boundary — where the functions of a listing begin and end

The regions of a stretch of a listing, said by index: each label line opens one region, and the
region goes on to the next line that is a label or blank, or to the end of the stretch. Everything
else about regions follows from these two facts: they are apart, none is empty, two neighbours touch
unless a blank line stands between their labels, and an index lies in a region exactly if there is a
label at or above it from which no blank line separates it.
-/
import SymbolAtlas.Proofs.Listing.Region
import Mathlib.Data.List.Chain

namespace SymbolAtlas

/-! ## Slices from their first item -/

theorem slice_cons {α : Type} {items : List α} {start stop : Nat} (h : start < stop)
    (hstop : stop ≤ items.length) :
    ∃ item, items[start]? = some item ∧
      slice items start stop = item :: slice items (start + 1) stop := by
  have hstart : start < items.length := by omega
  refine ⟨items[start], List.getElem?_eq_getElem hstart, ?_⟩
  have htake : start < (items.take stop).length := by
    rw [List.length_take]
    omega
  rw [slice, List.drop_eq_getElem_cons htake, List.getElem_take]
  rfl

theorem slice_eq_nil {α : Type} {items : List α} {start stop : Nat} (h : stop ≤ start) :
    slice items start stop = [] := by
  apply List.drop_eq_nil_of_le
  rw [List.length_take]
  omega

namespace Region

/-! ## Lines by index -/

/-- The name of the label at an index of a listing, if the line there is a label. -/
def labelAt? (lines : List Text) (index : Nat) : Option Text := lines[index]?.bind label?

/-- Whether the line at an index is blank. -/
def isBlankAt (lines : List Text) (index : Nat) : Bool := lines[index]?.any Text.isBlankText

/-- Whether the line at an index ends a region that is open above it: it is a label or blank. -/
def isEndAt (lines : List Text) (index : Nat) : Bool :=
  (labelAt? lines index).isSome || isBlankAt lines index

theorem labelAt?_eq_some_iff {lines : List Text} {index : Nat} {name : Text} :
    labelAt? lines index = some name
      ↔ ∃ line, lines[index]? = some line ∧ labelName line = .ok (some name) := by
  rw [labelAt?, Option.bind_eq_some_iff]
  simp only [labelName_eq, Except.ok.injEq]

theorem isEndAt_of_label {lines : List Text} {index : Nat}
    (h : (labelAt? lines index).isSome = true) : isEndAt lines index = true := by
  rw [isEndAt, h, Bool.true_or]

theorem isEndAt_eq_false_iff {lines : List Text} {index : Nat} :
    isEndAt lines index = false
      ↔ (labelAt? lines index).isSome = false ∧ isBlankAt lines index = false :=
  Bool.or_eq_false_iff

theorem isEndAt_eq_not_isCode {lines : List Text} {index : Nat} {line : Text}
    (h : lines[index]? = some line) : isEndAt lines index = !isCode line := by
  rw [isEndAt, labelAt?, isBlankAt, h, isCode]
  cases hlabel : label? line <;> cases hblank : line.isBlankText <;> simp [hlabel, hblank]

/-! ## Where code ends -/

/-- That code which begins at index `first` ends at index `last`: there is neither a label nor a
blank line before `last`, and there is one at `last` unless the stretch stops there. -/
structure EndsAt (lines : List Text) (stop first last : Nat) : Prop where
  first_le : first ≤ last
  le_stop : last ≤ stop
  code : ∀ index, first ≤ index → index < last → isEndAt lines index = false
  ends : last < stop → isEndAt lines last = true

/-- Code ends at one index only. -/
theorem EndsAt.unique {lines : List Text} {stop first last last' : Nat}
    (h : EndsAt lines stop first last) (h' : EndsAt lines stop first last') : last = last' := by
  rcases Nat.lt_trichotomy last last' with hlt | heq | hgt
  · have hend := h.ends (Nat.lt_of_lt_of_le hlt h'.le_stop)
    rw [h'.code last h.first_le hlt] at hend
    cases hend
  · exact heq
  · have hend := h'.ends (Nat.lt_of_lt_of_le hgt h.le_stop)
    rw [h.code last' h'.first_le hgt] at hend
    cases hend

/-- Where code that begins at index `first` ends. -/
def endFrom (lines : List Text) (stop first : Nat) : Nat :=
  ((List.range' first (stop - first)).find? (isEndAt lines)).getD stop

theorem endsAt_endFrom (lines : List Text) {stop first : Nat} (h : first ≤ stop) :
    EndsAt lines stop first (endFrom lines stop first) := by
  unfold endFrom
  cases hfind : (List.range' first (stop - first)).find? (isEndAt lines) with
  | none =>
      refine ⟨h, Nat.le_refl stop, fun index hfirst hlast => ?_, fun hlt => ?_⟩
      · have hmem : index ∈ List.range' first (stop - first) := by
          rw [List.mem_range'_1]
          exact ⟨hfirst, by simp only [Option.getD_none] at hlast; omega⟩
        exact Bool.eq_false_iff.mpr (List.find?_eq_none.mp hfind index hmem)
      · exact absurd hlt (Nat.lt_irrefl stop)
  | some last =>
      rw [List.find?_range'_eq_some] at hfind
      obtain ⟨hend, hmem, hcode⟩ := hfind
      rw [List.mem_range'_1] at hmem
      refine ⟨hmem.1, ?_, fun index hfirst hlast => ?_, fun _ => hend⟩
      · show last ≤ stop
        omega
      · have hno := hcode index hfirst hlast
        simpa using hno

/-- Where code ends depends only on the lines up to there. -/
theorem endFrom_congr {lines lines' : List Text} {stop first : Nat} (h : first ≤ stop)
    (hsame : ∀ index, first ≤ index → index ≤ endFrom lines stop first → index < stop →
      isEndAt lines' index = isEndAt lines index) :
    endFrom lines' stop first = endFrom lines stop first := by
  have hends := endsAt_endFrom lines h
  have hends' : EndsAt lines' stop first (endFrom lines stop first) := by
    refine ⟨hends.first_le, hends.le_stop, fun index hfirst hlast => ?_, fun hlt => ?_⟩
    · rw [hsame index hfirst (Nat.le_of_lt hlast) (Nat.lt_of_lt_of_le hlast hends.le_stop)]
      exact hends.code index hfirst hlast
    · rw [hsame _ hends.first_le (Nat.le_refl _) hlt]
      exact hends.ends hlt
  exact (endsAt_endFrom lines' h).unique hends'

/-- Reading on from a line, code ends there or goes on to where the code below it ends. -/
theorem endFrom_eq_of_lt (lines : List Text) {stop first : Nat} (h : first < stop) :
    endFrom lines stop first
      = if isEndAt lines first then first else endFrom lines stop (first + 1) := by
  have hcount : stop - first = stop - (first + 1) + 1 := by omega
  rw [endFrom, hcount, List.range'_succ, List.find?_cons]
  cases isEndAt lines first <;> rfl

/-- The lines of code at the begin of a stretch, counted. -/
theorem endFrom_eq_add_length {lines : List Text} {stop : Nat} (hstop : stop ≤ lines.length)
    {first : Nat} (h : first ≤ stop) :
    endFrom lines stop first = first + ((slice lines first stop).takeWhile isCode).length := by
  induction hcount : stop - first generalizing first with
  | zero =>
      have hfirst : first = stop := by omega
      rw [endFrom, hcount, slice_eq_nil (Nat.le_of_eq hfirst.symm)]
      exact hfirst.symm
  | succ count ih =>
      have hnext : first + 1 ≤ stop := by omega
      obtain ⟨line, hline, hslice⟩ := slice_cons hnext hstop
      rw [endFrom_eq_of_lt lines hnext, isEndAt_eq_not_isCode hline, hslice, List.takeWhile_cons]
      cases isCode line with
      | false => rfl
      | true =>
          have hrest := ih hnext (by omega)
          simp only [Bool.not_true, Bool.false_eq_true, if_false, if_true, List.length_cons, hrest]
          omega

/-! ## Regions by the index of their label -/

/-- The region that the line at an index opens, if it is a label. -/
def regionAt? (lines : List Text) (stop index : Nat) : Option Region :=
  (labelAt? lines index).map fun name =>
    { name := name, lineStart := index, lineEnd := endFrom lines stop (index + 1) }

/-- The regions of a stretch are those that its lines open, in order. -/
theorem spans_eq_filterMap {lines : List Text} {stop : Nat} (hstop : stop ≤ lines.length)
    {start : Nat} (h : start ≤ stop) :
    spans start (slice lines start stop)
      = (List.range' start (stop - start)).filterMap (regionAt? lines stop) := by
  induction hcount : stop - start generalizing start with
  | zero =>
      rw [slice_eq_nil (by omega)]
      rfl
  | succ count ih =>
      have hnext : start + 1 ≤ stop := by omega
      obtain ⟨line, hline, hslice⟩ := slice_cons hnext hstop
      have hrest := ih hnext (by omega)
      rw [hslice, List.range'_succ, List.filterMap_cons, regionAt?, labelAt?, hline,
        Option.bind_some]
      cases hlabel : label? line with
      | none => rw [spans_of_none hlabel, hrest, Option.map_none]
      | some name =>
          have hopening : opening name start (slice lines (start + 1) stop)
              = { name := name, lineStart := start, lineEnd := endFrom lines stop (start + 1) } := by
            rw [opening, endFrom_eq_add_length hstop hnext]
            push_cast
            rfl
          rw [spans_of_label hlabel, hrest, hopening, Option.map_some]

/-- What it means that a line opens a region. -/
theorem regionAt?_eq_some {lines : List Text} {stop index : Nat} {r : Region} (h : index < stop)
    (hr : regionAt? lines stop index = some r) :
    ∃ name last, labelAt? lines index = some name ∧ EndsAt lines stop (index + 1) last ∧
      r = { name := name, lineStart := index, lineEnd := last } := by
  obtain ⟨name, hname, rfl⟩ := Option.map_eq_some_iff.mp hr
  exact ⟨name, endFrom lines stop (index + 1), hname,
    endsAt_endFrom lines (Nat.succ_le_of_lt h), rfl⟩

/-- The regions of a stretch: each is opened by a line of the stretch. -/
theorem mem_filterMap_regionAt? {lines : List Text} {start stop : Nat} {r : Region} :
    r ∈ (List.range' start (stop - start)).filterMap (regionAt? lines stop)
      ↔ ∃ index, start ≤ index ∧ index < stop ∧ regionAt? lines stop index = some r := by
  rw [List.mem_filterMap]
  refine exists_congr fun index => ?_
  rw [List.mem_range'_1, and_assoc]
  constructor
  · rintro ⟨hstart, hlt, hr⟩
    exact ⟨hstart, by omega, hr⟩
  · rintro ⟨hstart, hlt, hr⟩
    exact ⟨hstart, by omega, hr⟩

/-! ## Regions among each other -/

/-- Code that begins at or above a label or blank line ends there at the latest. -/
theorem EndsAt.le_of_isEndAt {lines : List Text} {stop first last index : Nat}
    (h : EndsAt lines stop first last) (hfirst : first ≤ index)
    (hindex : isEndAt lines index = true) : last ≤ index := by
  by_contra hlt
  rw [h.code index hfirst (by omega)] at hindex
  cases hindex

/-- One region for each label, in the order of the labels. -/
theorem lineStart_filterMap_regionAt? (lines : List Text) (stop : Nat) (indexes : List Nat) :
    (indexes.filterMap (regionAt? lines stop)).map (·.lineStart)
      = (indexes.filter fun index => (labelAt? lines index).isSome).map Nat.cast := by
  induction indexes with
  | nil => rfl
  | cons index rest ih =>
      rw [List.filterMap_cons, List.filter_cons, regionAt?]
      cases labelAt? lines index with
      | none => exact ih
      | some name =>
          show (index : Int) :: _ = (index : Int) :: _
          rw [ih]

/-- Neighbours in a list of what some indexes give: nothing comes from the indexes between. -/
theorem isChain_filterMap_range' {α : Type} {f : Nat → Option α} {Next : α → α → Prop}
    {start count : Nat}
    (h : ∀ i j a b, start ≤ i → i < j → j < start + count → f i = some a → f j = some b →
      (∀ k, i < k → k < j → f k = none) → Next a b) :
    ((List.range' start count).filterMap f).IsChain Next := by
  induction count generalizing start with
  | zero => exact List.IsChain.nil
  | succ count ih =>
      have hrest : ((List.range' (start + 1) count).filterMap f).IsChain Next :=
        ih fun i j a b hi hij hj => h i j a b (by omega) hij (by omega)
      rw [List.range'_succ, List.filterMap_cons]
      cases ha : f start with
      | none => exact hrest
      | some a =>
          refine List.isChain_cons.mpr ⟨fun b hb => ?_, hrest⟩
          rw [List.head?_filterMap, Option.mem_def, List.findSome?_eq_some_iff] at hb
          obtain ⟨between, j, later, hrange, hj, hnone⟩ := hb
          obtain ⟨skipped, hskipped, rfl, htail⟩ := List.range'_eq_append_iff.mp hrange
          -- the next index that gives something comes right behind the indexes skipped
          have hj' : j = start + 1 + skipped ∧ skipped < count := by
            cases hleft : count - skipped with
            | zero =>
                rw [hleft] at htail
                cases htail
            | succ left =>
                rw [hleft, List.range'_succ, List.cons.injEq, Nat.mul_one] at htail
                exact ⟨htail.1, by omega⟩
          refine h start j a b (Nat.le_refl start) (by omega) (by omega) ha hj fun k hk hkj => ?_
          exact hnone k (List.mem_range'_1.mpr ⟨by omega, by omega⟩)

/-- That an index is that of a line of the region, its label included. -/
def Holds (r : Region) (index : Nat) : Prop := r.lineStart ≤ index ∧ index < r.lineEnd

instance (r : Region) (index : Nat) : Decidable (r.Holds index) :=
  inferInstanceAs (Decidable (r.lineStart ≤ index ∧ index < r.lineEnd))

/-- The open region of a line: a line lies in a region if no blank line separates it from a label at
or above it. -/
theorem exists_holds {lines : List Text} {stop label index : Nat} (hindex : label ≤ index)
    (hstop : index < stop) (hlabel : (labelAt? lines label).isSome = true)
    (hblank : ∀ other, label < other → other ≤ index → isBlankAt lines other = false) :
    ∃ opener r, label ≤ opener ∧ opener < stop ∧ regionAt? lines stop opener = some r ∧
      r.Holds index := by
  induction hgap : index - label using Nat.strong_induction_on generalizing label with
  | _ gap ih =>
      obtain ⟨name, hname⟩ := Option.isSome_iff_exists.mp hlabel
      have hends := endsAt_endFrom lines (by omega : label + 1 ≤ stop)
      have hfirst := hends.first_le
      by_cases hlast : endFrom lines stop (label + 1) ≤ index
      · -- a region that ends above the line ends at a label, because no blank line is there
        have hend : isEndAt lines (endFrom lines stop (label + 1)) = true :=
          hends.ends (by omega)
        have hnext : (labelAt? lines (endFrom lines stop (label + 1))).isSome = true := by
          rwa [isEndAt, hblank _ (by omega) hlast, Bool.or_false] at hend
        obtain ⟨opener, r, hopener, hr⟩ :=
          ih _ (by omega) hlast hnext (fun other hother => hblank other (by omega)) rfl
        exact ⟨opener, r, by omega, hr⟩
      · refine ⟨label, { name := name, lineStart := label, lineEnd := _ }, Nat.le_refl label,
          by omega, by rw [regionAt?, hname, Option.map_some], ?_⟩
        show (label : Int) ≤ index ∧ (index : Int) < endFrom lines stop (label + 1)
        omega

/-- Below its label, a region holds no label and no blank line. -/
theorem isEndAt_of_holds {lines : List Text} {stop opener : Nat} {r : Region}
    (hopener : opener < stop) (hr : regionAt? lines stop opener = some r) {index : Nat}
    (hindex : r.Holds index) :
    opener ≤ index ∧ index < stop ∧
      ∀ other, opener < other → other ≤ index → isEndAt lines other = false := by
  obtain ⟨name, last, -, hends, rfl⟩ := regionAt?_eq_some hopener hr
  have hstart : (opener : Int) ≤ index := hindex.1
  have hlast : (index : Int) < last := hindex.2
  have hstop := hends.le_stop
  exact ⟨by omega, by omega, fun other hother hle => hends.code other hother (by omega)⟩

/-- Some region of a stretch holds a line exactly if no blank line separates the line from some label
at or above it. -/
theorem exists_mem_holds_iff {lines : List Text} {start stop index : Nat} :
    (∃ r ∈ (List.range' start (stop - start)).filterMap (regionAt? lines stop), r.Holds index)
      ↔ index < stop ∧ ∃ label, start ≤ label ∧ label ≤ index ∧
          (labelAt? lines label).isSome = true ∧
          ∀ other, label < other → other ≤ index → isBlankAt lines other = false := by
  constructor
  · rintro ⟨r, hr, hholds⟩
    obtain ⟨opener, hopener, hlt, hr⟩ := mem_filterMap_regionAt?.mp hr
    obtain ⟨hle, hindex, hcode⟩ := isEndAt_of_holds hlt hr hholds
    obtain ⟨name, last, hname, -, -⟩ := regionAt?_eq_some hlt hr
    refine ⟨hindex, opener, hopener, hle, by rw [hname]; rfl, fun other hother hother' => ?_⟩
    exact (isEndAt_eq_false_iff.mp (hcode other hother hother')).2
  · rintro ⟨hindex, label, hlabel, hle, hsome, hblank⟩
    obtain ⟨opener, r, hopener, hlt, hr, hholds⟩ := exists_holds hle hindex hsome hblank
    exact ⟨r, mem_filterMap_regionAt?.mpr ⟨opener, by omega, hlt, hr⟩, hholds⟩

section Later

variable {lines : List Text} {stop opener later : Nat} {r r' : Region} (hlt : opener < later)
  (hlater : later < stop) (hr : regionAt? lines stop opener = some r)
  (hr' : regionAt? lines stop later = some r')

include hlt hlater hr hr'

/-- A region ends at the label of a later one, or above it. -/
theorem lineEnd_le_lineStart : r.lineEnd ≤ r'.lineStart := by
  obtain ⟨name, last, -, hends, rfl⟩ := regionAt?_eq_some (by omega) hr
  obtain ⟨name', last', hname', -, rfl⟩ := regionAt?_eq_some hlater hr'
  have hlabel : (labelAt? lines later).isSome = true := by rw [hname']; rfl
  have hle : last ≤ later := hends.le_of_isEndAt hlt (isEndAt_of_label hlabel)
  show (last : Int) ≤ later
  omega

/-- If no label stands between two labels, their regions touch exactly if no blank line stands there
either. -/
theorem lineEnd_eq_lineStart_iff
    (hnone : ∀ between, opener < between → between < later → regionAt? lines stop between = none) :
    r.lineEnd = r'.lineStart ↔ ∀ index : Nat, r.lineStart < (index : Int) →
      (index : Int) < r'.lineStart → isBlankAt lines index = false := by
  have hle := lineEnd_le_lineStart hlt hlater hr hr'
  obtain ⟨name, last, -, hends, rfl⟩ := regionAt?_eq_some (by omega) hr
  obtain ⟨name', last', -, -, rfl⟩ := regionAt?_eq_some hlater hr'
  have hfirst := hends.first_le
  have hle : (last : Int) ≤ later := hle
  show (last : Int) = later ↔ ∀ index : Nat, (opener : Int) < index → (index : Int) < later →
    isBlankAt lines index = false
  constructor
  · intro htouch index hopener hbefore
    exact (isEndAt_eq_false_iff.mp (hends.code index (by omega) (by omega))).2
  · intro hblank
    by_contra hne
    -- between the labels there is no label, so the region could only end at a blank line
    have hnolabel : (labelAt? lines last).isSome = false := by
      have hno := hnone last (by omega) (by omega)
      rw [regionAt?, Option.map_eq_none_iff] at hno
      rw [hno]
      rfl
    have hend := hends.ends (by omega)
    rw [isEndAt, hnolabel, hblank last (by omega) (by omega)] at hend
    cases hend

end Later

/-! ## The regions of a stretch -/

/-- The scan of a stretch of a listing gives one region for each label line of the stretch, in the
order of the labels. A region has the name of its label and goes on from there to the next line of
the stretch that is a label or blank. So the regions are parts of the stretch that are not empty and
do not meet; two neighbours touch exactly if no blank line stands between their labels; and a line
lies in a region exactly if no blank line separates it from some label at or above it. -/
theorem scan_partition {lines : List Text} {start stop : Nat} (hstart : start ≤ stop)
    (hstop : stop ≤ lines.length) :
    ∃ regions, scan lines start stop = .ok regions ∧
      regions.map (·.lineStart)
        = ((List.range' start (stop - start)).filter fun index =>
            (labelAt? lines index).isSome).map Nat.cast ∧
      (∀ r ∈ regions, ∃ (index last : Nat) (line : Text), start ≤ index ∧ index < stop ∧
        lines[index]? = some line ∧ labelName line = .ok (some r.name) ∧
        EndsAt lines stop (index + 1) last ∧
        r = { name := r.name, lineStart := index, lineEnd := last }) ∧
      (∀ r ∈ regions, start ≤ r.lineStart ∧ r.lineStart < r.lineEnd ∧ r.lineEnd ≤ stop) ∧
      regions.Pairwise (fun r later => r.lineEnd ≤ later.lineStart) ∧
      regions.IsChain (fun r next => r.lineEnd = next.lineStart ↔
        ∀ index : Nat, r.lineStart < (index : Int) → (index : Int) < next.lineStart →
          isBlankAt lines index = false) ∧
      ∀ index : Nat, (∃ r ∈ regions, r.Holds index) ↔
        index < stop ∧ ∃ label, start ≤ label ∧ label ≤ index ∧
          (labelAt? lines label).isSome = true ∧
          ∀ other, label < other → other ≤ index → isBlankAt lines other = false := by
  have hregions := (scan_eq_spans hstart hstop).trans
    (congrArg Except.ok (spans_eq_filterMap hstop hstart))
  refine ⟨_, hregions, lineStart_filterMap_regionAt? lines stop _, ?labels, ?extents, ?apart,
    ?neighbours, fun index => exists_mem_holds_iff⟩
  case labels =>
    intro r hr
    obtain ⟨index, hindex, hlt, hr⟩ := mem_filterMap_regionAt?.mp hr
    obtain ⟨name, last, hname, hends, rfl⟩ := regionAt?_eq_some hlt hr
    obtain ⟨line, hline, hlabel⟩ := labelAt?_eq_some_iff.mp hname
    exact ⟨index, last, line, hindex, hlt, hline, hlabel, hends, rfl⟩
  case extents =>
    intro r hr
    obtain ⟨index, hindex, hlt, hr⟩ := mem_filterMap_regionAt?.mp hr
    obtain ⟨name, last, -, hends, rfl⟩ := regionAt?_eq_some hlt hr
    have hfirst := hends.first_le
    have hlast := hends.le_stop
    show (start : Int) ≤ index ∧ (index : Int) < last ∧ (last : Int) ≤ stop
    omega
  case apart =>
    rw [List.pairwise_filterMap]
    have hincreasing : (List.range' start (stop - start)).Pairwise (· < ·) :=
      List.pairwise_lt_range'
    refine hincreasing.imp_of_mem fun {index later} _ hlater hlt r hr r' hr' => ?_
    rw [List.mem_range'_1] at hlater
    exact lineEnd_le_lineStart hlt (by omega) hr hr'
  case neighbours =>
    refine isChain_filterMap_range' fun index next r r' _ hlt hnext hr hr' hnone => ?_
    exact lineEnd_eq_lineStart_iff hlt (by omega) hr hr' hnone

/-- Two functions that touch, lines that no function holds, and a label on the last line. -/
def gappedListing : List Text :=
  ["preamble".toList, "first:".toList, "  00401000: C3  ret".toList, "second:".toList,
    ":".toList, "".toList, "  00401001: C3  ret".toList, "".toList, "third:".toList]

theorem scan_partition_gappedListing :
    1 ≤ 9 ∧ 9 ≤ gappedListing.length ∧
      ∃ regions, scan gappedListing 1 9 = .ok regions ∧
        regions.map (·.lineStart) = [1, 3, 8] ∧
        (∃ r ∈ regions, r.Holds 4) ∧ ¬ ∃ r ∈ regions, r.Holds 6 := by
  have hlength : 9 ≤ gappedListing.length := by decide
  obtain ⟨regions, hscan, hstarts, -, -, -, -, hlines⟩ :=
    scan_partition (by decide : 1 ≤ 9) hlength
  refine ⟨by decide, hlength, regions, hscan, hstarts.trans (by rfl), ?_, ?_⟩
  · -- the lone colon is no label, and there is no blank line between it and the label above
    refine (hlines 4).mpr ⟨by decide, 3, by decide, by decide, by rfl, fun other hlt hle => ?_⟩
    obtain rfl : other = 4 := by omega
    rfl
  · -- the blank line 5 comes after every label above line 6
    rw [hlines 6]
    rintro ⟨-, label, -, hle, hlabel, hblank⟩
    have hlow : label < 5 ∨ label = 5 ∨ label = 6 := by omega
    rcases hlow with hlt | rfl | rfl
    · exact Bool.noConfusion (hblank 5 hlt (by decide))
    · exact Bool.noConfusion hlabel
    · exact Bool.noConfusion hlabel

example : scan gappedListing 0 9 = .ok
    [{ name := "first".toList, lineStart := 1, lineEnd := 3 },
      { name := "second".toList, lineStart := 3, lineEnd := 5 },
      { name := "third".toList, lineStart := 8, lineEnd := 9 }] := by
  rfl

end Region

end SymbolAtlas
