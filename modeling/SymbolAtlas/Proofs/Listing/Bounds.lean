/-
# SymbolAtlas.Proofs.Listing.Bounds — what decides the bounds of a section

A section waits for a number of header lines, at least one, and its body begins below the line that
makes the number full. From there on only terminators count: the body ends at the first of them, or
with the listing. `find_by_index` says so of every section and every listing. It also says what does
not count, which is a terminator above the body and a header line in it. That the body of a section
is known by index is what the readers of imports and dependencies start from.
-/
import SymbolAtlas.Proofs.Listing.Header

namespace SymbolAtlas.SectionSpec

/-! ## Lines by index -/

/-- Whether the line at an index is a header line. -/
def isHeaderAt (spec : SectionSpec) (lines : List Text) (index : Nat) : Bool :=
  lines[index]?.any spec.isHeader

/-- Whether the line at an index is a terminator. -/
def isTerminatorAt (spec : SectionSpec) (lines : List Text) (index : Nat) : Bool :=
  lines[index]?.any fun line => spec.terminators.contains line.trim

theorem isTerminatorAt_eq_false_iff {spec : SectionSpec} {lines : List Text} {index : Nat} :
    spec.isTerminatorAt lines index = false
      ↔ ∀ line, lines[index]? = some line → line.trim ∉ spec.terminators := by
  rw [isTerminatorAt]
  cases lines[index]? <;> simp

/-- The number of header lines that a section waits for. -/
def neededHeaders (spec : SectionSpec) : Nat := max 1 spec.headerLines.toNat

/-- That the header of a section is complete with the line at an index: this is a header line, and
with those above it the number is full. -/
structure CompletesAt (spec : SectionSpec) (lines : List Text) (header : Nat) : Prop where
  isHeader : spec.isHeaderAt lines header = true
  above : (lines.take header).countP spec.isHeader + 1 = spec.neededHeaders

/-- That a body which begins at index `start` ends at index `stop`: there is no terminator before
`stop`, and there is one at `stop` unless the listing ends there. -/
structure BodyEndsAt (spec : SectionSpec) (lines : List Text) (start stop : Nat) : Prop where
  start_le : start ≤ stop
  le_length : stop ≤ lines.length
  inside : ∀ index, start ≤ index → index < stop → spec.isTerminatorAt lines index = false
  ends : stop < lines.length → spec.isTerminatorAt lines stop = true

/-! ## The last header line -/

variable {spec : SectionSpec} {lines lines' : List Text} {header start stop : Nat}

/-- The scan stops counting at the line that completes the header. -/
theorem lastHeader?_eq_some_iff :
    spec.lastHeader? lines = some header ↔ spec.CompletesAt lines header := by
  have hneeded : spec.neededHeaders = (spec.headerLines - 1).toNat + 1 := by
    unfold neededHeaders
    omega
  unfold lastHeader?
  constructor
  · intro h
    obtain ⟨hcount, hheader⟩ := List.getElem?_eq_some_iff.mp h
    rw [List.getElem_findIdxs_eq_findIdxNth] at hheader
    rw [List.length_findIdxs] at hcount
    subst hheader
    refine ⟨?_, ?_⟩
    · have hlength := List.findIdxNth_lt_length_of_lt_countP hcount
      rw [isHeaderAt, List.getElem?_eq_getElem hlength]
      exact List.pos_findIdxNth_getElem
    · rw [← List.countPBefore_eq_countP_take, List.countPBefore_findIdxNth_of_lt_countP hcount,
        hneeded]
  · rintro ⟨hheader, habove⟩
    obtain ⟨line, hline, hheader⟩ := (Option.any_eq_true _ _).mp hheader
    obtain ⟨hlength, rfl⟩ := List.getElem?_eq_some_iff.mp hline
    rw [← List.countPBefore_eq_countP_take, hneeded, Nat.add_right_cancel_iff] at habove
    have hcount := List.countPBefore_lt_countP_of_lt_length_of_pos hheader
    rw [habove] at hcount
    rw [List.getElem?_eq_getElem (by rwa [List.length_findIdxs]),
      List.getElem_findIdxs_eq_findIdxNth, ← habove,
      List.findIdxNth_countPBefore_of_lt_length_of_pos hheader]

theorem CompletesAt.lt_length (h : spec.CompletesAt lines header) : header < lines.length := by
  obtain ⟨line, hline, -⟩ := (Option.any_eq_true _ _).mp h.isHeader
  exact (List.getElem?_eq_some_iff.mp hline).1

/-- With too few header lines the header stays incomplete. -/
theorem lastHeader?_eq_none_iff :
    spec.lastHeader? lines = none ↔ lines.countP spec.isHeader < spec.neededHeaders := by
  rw [lastHeader?, List.getElem?_eq_none_iff, List.length_findIdxs]
  unfold neededHeaders
  omega

/-- The header lines among the first ones, counted by index. -/
theorem countP_take_eq (spec : SectionSpec) (lines : List Text) (count : Nat) :
    (lines.take count).countP spec.isHeader
      = (List.range count).countP (spec.isHeaderAt lines) := by
  induction count with
  | zero => rfl
  | succ count ih =>
      rw [List.take_add_one, List.countP_append, ih, List.range_succ, List.countP_append]
      congr 1
      rw [List.countP_singleton, isHeaderAt]
      cases lines[count]? <;> simp

/-- Only header lines down to the last one decide where the header is complete. -/
theorem CompletesAt.congr (h : spec.CompletesAt lines header)
    (hsame : ∀ index ≤ header, spec.isHeaderAt lines' index = spec.isHeaderAt lines index) :
    spec.CompletesAt lines' header := by
  refine ⟨(hsame header (Nat.le_refl header)).trans h.isHeader, ?_⟩
  have hcount : (List.range header).countP (spec.isHeaderAt lines')
      = (List.range header).countP (spec.isHeaderAt lines) := by
    refine List.countP_congr fun index hindex => ?_
    rw [hsame index (Nat.le_of_lt (List.mem_range.mp hindex))]
  rw [countP_take_eq, hcount, ← countP_take_eq]
  exact h.above

/-! ## The end of the body -/

/-- A body is over at each terminator below its start. -/
theorem BodyEndsAt.stop_le {k : Nat} (h : spec.BodyEndsAt lines start stop) (hk : start ≤ k)
    (hterminator : spec.isTerminatorAt lines k = true) : stop ≤ k := by
  by_contra hlt
  rw [h.inside k hk (Nat.lt_of_not_le hlt)] at hterminator
  cases hterminator

/-- A body ends at one index only. -/
theorem BodyEndsAt.unique {stop' : Nat} (h : spec.BodyEndsAt lines start stop)
    (h' : spec.BodyEndsAt lines start stop') : stop = stop' := by
  have hle {one other : Nat} (hone : spec.BodyEndsAt lines start one)
      (hother : spec.BodyEndsAt lines start other) : one ≤ other := by
    rcases Nat.lt_or_eq_of_le hother.le_length with hlt | heq
    · exact hone.stop_le hother.start_le (hother.ends hlt)
    · exact heq ▸ hone.le_length
  exact Nat.le_antisymm (hle h h') (hle h' h)

/-- Below the header, the body ends where the scan says. -/
theorem bodyEndsAt_bodyEnd (h : header < lines.length) :
    spec.BodyEndsAt lines (header + 1) (spec.bodyEnd lines header) := by
  have hinside (index : Nat) (hfirst : header + 1 ≤ index)
      (hlast : index < spec.bodyEnd lines header) :
      spec.isTerminatorAt lines index = false := by
    rw [isTerminatorAt_eq_false_iff]
    intro line hline
    have hindex := (List.getElem?_eq_some_iff.mp hline).1
    exact (spec.lt_bodyEnd_iff hindex header).mp hlast index line hfirst (Nat.le_refl _) hline
  refine ⟨?_, ?_, hinside, ?_⟩
  · unfold bodyEnd
    split <;> omega
  · unfold bodyEnd
    split
    · rename_i length hfind
      have hlength := (List.findIdx?_eq_some_iff_getElem.mp hfind).1
      rw [List.length_drop] at hlength
      omega
    · exact Nat.le_refl _
  · intro hstop
    -- otherwise the body would hold this line too
    by_contra hend
    rw [Bool.not_eq_true, isTerminatorAt_eq_false_iff] at hend
    have hlt : spec.bodyEnd lines header < spec.bodyEnd lines header := by
      refine (spec.lt_bodyEnd_iff hstop header).mpr fun index line hfirst hlast hline => ?_
      rcases Nat.lt_or_eq_of_le hlast with hlt | rfl
      · exact isTerminatorAt_eq_false_iff.mp (hinside index hfirst hlt) line hline
      · exact hend line hline
    exact Nat.lt_irrefl _ hlt

/-- Only terminators of the body and the one at its end decide where it ends. -/
theorem BodyEndsAt.congr (h : spec.BodyEndsAt lines start stop) (hle : stop ≤ lines'.length)
    (hlt : stop < lines'.length → stop < lines.length)
    (hsame : ∀ index, start ≤ index → index ≤ stop →
      spec.isTerminatorAt lines' index = spec.isTerminatorAt lines index) :
    spec.BodyEndsAt lines' start stop := by
  refine ⟨h.start_le, hle, fun index hfirst hlast => ?_, fun hstop => ?_⟩
  · rw [hsame index hfirst (Nat.le_of_lt hlast)]
    exact h.inside index hfirst hlast
  · rw [hsame stop h.start_le (Nat.le_refl stop)]
    exact h.ends (hlt hstop)

/-! ## The bounds -/

/-- A section whose header and end are known is found there. -/
theorem find_of_completesAt (hheader : spec.CompletesAt lines header)
    (hend : spec.BodyEndsAt lines (header + 1) stop) :
    spec.find lines = .ok ⟨spec.name, some (header + 1), stop⟩ := by
  rw [find_eq, lastHeader?_eq_some_iff.mpr hheader]
  simp only [(bodyEndsAt_bodyEnd hheader.lt_length).unique hend]

theorem exists_completesAt (h : spec.neededHeaders ≤ lines.countP spec.isHeader) :
    ∃ header stop, spec.CompletesAt lines header ∧ spec.BodyEndsAt lines (header + 1) stop := by
  cases hlast : spec.lastHeader? lines with
  | none => exact absurd (lastHeader?_eq_none_iff.mp hlast) (Nat.not_lt.mpr h)
  | some header =>
      have hheader := lastHeader?_eq_some_iff.mp hlast
      exact ⟨header, _, hheader, bodyEndsAt_bodyEnd hheader.lt_length⟩

/-- A section with too few header lines is missed or absent. -/
theorem find_of_few (h : lines.countP spec.isHeader < spec.neededHeaders) :
    spec.find lines
      = if spec.required then
          .error (.parse ⟨spec.name, .incompleteHeader (lines.countP spec.isHeader) spec.headerLines,
            some lines.length, none⟩)
        else .ok ⟨spec.name, none, lines.length⟩ := by
  rw [find_eq, lastHeader?_eq_none_iff.mpr h]

/-- Only a section that is required is missed, and only for too few header lines. -/
theorem find_eq_error_iff {failure : Failure} :
    spec.find lines = .error failure
      ↔ lines.countP spec.isHeader < spec.neededHeaders ∧ spec.required = true ∧
        failure = .parse ⟨spec.name,
          .incompleteHeader (lines.countP spec.isHeader) spec.headerLines, some lines.length,
          none⟩ := by
  constructor
  · intro h
    rcases Nat.lt_or_ge (lines.countP spec.isHeader) spec.neededHeaders with hfew | hcount
    · rw [find_of_few hfew] at h
      split at h
      · rename_i hrequired
        cases h
        exact ⟨hfew, hrequired, rfl⟩
      · cases h
    · obtain ⟨header, stop, hheader, hend⟩ := exists_completesAt hcount
      rw [find_of_completesAt hheader hend] at h
      cases h
  · rintro ⟨hfew, hrequired, rfl⟩
    rw [find_of_few hfew, if_pos hrequired]

/-- What it means that a section was looked for without failure: either it was found below its
header, or it has too few header lines and is not required. -/
theorem find_eq_ok_cases {bounds : SectionBounds} (h : spec.find lines = .ok bounds) :
    (∃ header stop, spec.CompletesAt lines header ∧ spec.BodyEndsAt lines (header + 1) stop ∧
      bounds = ⟨spec.name, some (header + 1), stop⟩) ∨
    (lines.countP spec.isHeader < spec.neededHeaders ∧ spec.required = false ∧
      bounds = ⟨spec.name, none, lines.length⟩) := by
  rcases Nat.lt_or_ge (lines.countP spec.isHeader) spec.neededHeaders with hfew | hcount
  · rw [find_of_few hfew] at h
    split at h
    · cases h
    · rename_i hoptional
      cases h
      exact .inr ⟨hfew, Bool.eq_false_iff.mpr hoptional, rfl⟩
  · obtain ⟨header, stop, hheader, hend⟩ := exists_completesAt hcount
    rw [find_of_completesAt hheader hend] at h
    cases h
    exact .inl ⟨header, stop, hheader, hend, rfl⟩

/-! ## The body of a section with one header line -/

/-- The lines of the body of a section, with their indexes. A section that is absent has none. -/
def rows (spec : SectionSpec) (lines : List Text) : List (Nat × Text) :=
  match spec.find lines with
  | .ok bounds => bounds.body lines
  | .error _ => []

/-- That the line at an index stands in the body of a section with one header line: the first header
line stands above it, and neither the line itself nor one between them is a terminator. -/
def InBody (spec : SectionSpec) (lines : List Text) (k : Nat) : Prop :=
  ∃ header, lines.findIdx? spec.isHeader = some header ∧ header < k ∧
    ∀ j, header < j → j ≤ k → spec.isTerminatorAt lines j = false

theorem pairwise_rows (spec : SectionSpec) (lines : List Text) :
    (spec.rows lines).Pairwise fun earlier later => earlier.1 < later.1 := by
  unfold rows
  split
  · exact pairwise_body _ lines
  · exact List.Pairwise.nil

section OneHeader

variable (hone : spec.headerLines = 1)

include hone

/-- One header line completes the header, so it is the first one. -/
theorem completesAt_iff_of_one :
    spec.CompletesAt lines header ↔ lines.findIdx? spec.isHeader = some header := by
  rw [← lastHeader?_eq_some_iff, lastHeader?_of_one hone]

theorem mem_rows_iff {k : Nat} {line : Text} :
    (k, line) ∈ spec.rows lines ↔ lines[k]? = some line ∧ spec.InBody lines k := by
  unfold rows
  cases hfind : spec.find lines with
  | ok bounds =>
      simp only [mem_body_iff hfind, lastHeader?_of_one hone, InBody,
        isTerminatorAt_eq_false_iff]
      refine and_congr_right fun _ => exists_congr fun header => and_congr_right fun _ =>
        and_congr_right fun _ => forall_congr' fun j => ?_
      exact ⟨fun h hj hjk other => h other hj hjk, fun h other hj hjk => h hj hjk other⟩
  | error failure =>
      -- without a header there is no body
      have hnone : lines.findIdx? spec.isHeader = none := by
        rw [← lastHeader?_of_one hone]
        rw [find_eq] at hfind
        split at hfind
        · cases hfind
        · assumption
      simp [InBody, hnone]

/-- Without its header line a section has no body. -/
theorem rows_eq_nil (h : lines.findIdx? spec.isHeader = none) : spec.rows lines = [] := by
  refine List.eq_nil_iff_forall_not_mem.mpr fun row hrow => ?_
  obtain ⟨-, header, hheader, -⟩ := (mem_rows_iff hone).mp hrow
  rw [h] at hheader
  cases hheader

/-- Below a terminator that follows the header line, lines may come and go. -/
theorem rows_take_append {k : Nat} (hheader : lines.findIdx? spec.isHeader = some header)
    (hk : header < k) (hterminator : spec.isTerminatorAt lines k = true) (below : List Text) :
    spec.rows (lines.take (k + 1) ++ below) = spec.rows lines := by
  have hlength : k < lines.length := by
    obtain ⟨line, hline, -⟩ := (Option.any_eq_true _ _).mp hterminator
    exact (List.getElem?_eq_some_iff.mp hline).1
  have hcomplete := (completesAt_iff_of_one hone).mpr hheader
  have hend := spec.bodyEndsAt_bodyEnd hcomplete.lt_length
  obtain ⟨stop, hstop⟩ : ∃ stop, spec.bodyEnd lines header = stop := ⟨_, rfl⟩
  rw [hstop] at hend
  have hle : stop ≤ k := hend.stop_le hk hterminator
  -- the two listings agree down to the terminator
  have hsame : ∀ index ≤ k, (lines.take (k + 1) ++ below)[index]? = lines[index]? := by
    intro index hindex
    rw [List.getElem?_append_left (by rw [List.length_take]; omega),
      List.getElem?_take_of_lt (by omega)]
  have hcomplete' : spec.CompletesAt (lines.take (k + 1) ++ below) header :=
    hcomplete.congr fun index hindex => by
      rw [isHeaderAt, isHeaderAt, hsame index (by omega)]
  have hend' : spec.BodyEndsAt (lines.take (k + 1) ++ below) (header + 1) stop := by
    refine hend.congr ?_ (fun _ => by omega) fun index _ hindex => ?_
    · rw [List.length_append, List.length_take]
      omega
    · rw [isTerminatorAt, isTerminatorAt, hsame index (by omega)]
  have htake : (lines.take (k + 1) ++ below).take stop = lines.take stop := by
    rw [List.take_append_of_le_length (by rw [List.length_take]; omega), List.take_take,
      Nat.min_eq_left (by omega)]
  simp only [rows, find_of_completesAt hcomplete hend, find_of_completesAt hcomplete' hend',
    SectionBounds.body, SectionBounds.range, htake]

end OneHeader

/-! ## Any section -/

/-- If a listing has the header lines that a section needs, then the body of the section begins below
the line that completes the header and goes on to the first terminator from there on, or to the end
of the listing; terminators above the body and header lines in it may come and go. If it has fewer,
then a section that is required is missed at the end of the listing, and any other one is absent.
So a body that was found lies in the listing and holds no terminator. -/
theorem find_by_index (spec : SectionSpec) (lines : List Text) :
    (spec.neededHeaders ≤ lines.countP spec.isHeader →
      ∃ header stop, spec.find lines = .ok ⟨spec.name, some (header + 1), stop⟩ ∧
        spec.CompletesAt lines header ∧ spec.BodyEndsAt lines (header + 1) stop ∧
        ∀ lines' : List Text, lines'.length = lines.length →
          (∀ index ≤ header, spec.isHeaderAt lines' index = spec.isHeaderAt lines index) →
          (∀ index > header, spec.isTerminatorAt lines' index = spec.isTerminatorAt lines index) →
          spec.find lines' = spec.find lines) ∧
    (lines.countP spec.isHeader < spec.neededHeaders →
      (spec.required = true → spec.find lines = .error (.parse ⟨spec.name,
        .incompleteHeader (lines.countP spec.isHeader) spec.headerLines, some lines.length, none⟩)) ∧
      (spec.required = false → spec.find lines = .ok ⟨spec.name, none, lines.length⟩)) ∧
    ∀ bounds, spec.find lines = .ok bounds →
      (bounds.start = none → bounds.range = (0, 0) ∧ bounds.stop = lines.length) ∧
      (∀ start, bounds.start = some start →
        1 ≤ start ∧ start ≤ bounds.stop ∧ bounds.stop ≤ lines.length) ∧
      ∀ row ∈ bounds.body lines, row.2.trim ∉ spec.terminators := by
  refine ⟨fun hcount => ?found, fun hfew => ?missed, fun bounds hbounds => ?bounds⟩
  case found =>
    obtain ⟨header, stop, hheader, hend⟩ := exists_completesAt hcount
    have hfind := find_of_completesAt hheader hend
    refine ⟨header, stop, hfind, hheader, hend, fun lines' hlength habove hbelow => ?_⟩
    rw [hfind]
    refine find_of_completesAt (hheader.congr habove) (hend.congr ?_ ?_ ?_)
    · rw [hlength]
      exact hend.le_length
    · rw [hlength]
      exact id
    · exact fun index hindex _ => hbelow index hindex
  case missed =>
    rw [find_of_few hfew]
    exact ⟨fun hrequired => if_pos hrequired,
      fun hoptional => if_neg (Bool.eq_false_iff.mp hoptional)⟩
  case bounds =>
    have hterminators : ∀ row ∈ bounds.body lines, row.2.trim ∉ spec.terminators := by
      intro row hrow
      obtain ⟨hline, header, -, hbelow, hclear⟩ := (mem_body_iff hbounds row.1 row.2).mp hrow
      exact hclear row.1 row.2 hbelow (Nat.le_refl _) hline
    rcases find_eq_ok_cases hbounds with ⟨header, stop, -, hend, rfl⟩ | ⟨-, -, rfl⟩
    · refine ⟨nofun, ?_, hterminators⟩
      rintro start ⟨⟩
      exact ⟨Nat.le_add_left 1 header, hend.start_le, hend.le_length⟩
    · exact ⟨fun _ => ⟨rfl, rfl⟩, nofun, hterminators⟩

/-- A section that needs two lines `head`, and a listing with a terminator above each of them and
with a third one below. -/
def pairedSection : SectionSpec where
  name := "paired".toList
  isHeader := Listing.isLine "head".toList
  terminators := ["end".toList]
  headerLines := 2

def pairedListing : List Text :=
  ["end".toList, "head".toList, "end".toList, " head".toList, "head".toList, "tail".toList,
    " end ".toList, "end".toList]

/-- The body is that of lines 4 and 5. It stays if the terminators above and the third line `head`
are exchanged. -/
theorem find_by_index_pairedListing :
    pairedSection.neededHeaders ≤ pairedListing.countP pairedSection.isHeader ∧
      pairedSection.find pairedListing = .ok ⟨"paired".toList, some 4, 6⟩ ∧
      pairedSection.find (((pairedListing.set 0 []).set 2 []).set 4 [])
        = .ok ⟨"paired".toList, some 4, 6⟩ := by
  have hcount : pairedSection.neededHeaders ≤ pairedListing.countP pairedSection.isHeader := by
    decide
  have hrun : pairedSection.find pairedListing = .ok ⟨"paired".toList, some 4, 6⟩ := by
    decide
  obtain ⟨hfound, -, -⟩ := find_by_index pairedSection pairedListing
  obtain ⟨header, stop, hfind, -, -, hframe⟩ := hfound hcount
  rw [hrun] at hfind
  cases hfind
  refine ⟨hcount, hrun, (hframe _ rfl (by decide) fun index hindex => ?_).trans hrun⟩
  match index, hindex with
  | 4, _ => rfl
  | 5, _ => rfl
  | 6, _ => rfl
  | 7, _ => rfl
  | _ + 8, _ => rfl

end SymbolAtlas.SectionSpec
