/-
# SymbolAtlas.Proofs.Listing.Inert — text outside the functions of a disassembly is inert

Below the header of a disassembly, a line that no region holds and that ends none is never read but
to see whether it is a label. So it may be exchanged for any text that is no label, be it blank or a
full instruction: the bounds, the regions with their counts and the call edges stay as they are. The
argument goes stage by stage: the header is complete above the line, every region ends before the
line or begins below it, and the lines of a region are read nowhere else.
-/
import SymbolAtlas.Proofs.Listing.Boundary
import SymbolAtlas.Proofs.Listing.Calls
import SymbolAtlas.Proofs.Listing.Header

namespace SymbolAtlas

/-- A slice does not see an item that is exchanged outside of it. -/
theorem slice_set {α : Type} {items : List α} {start stop index : Nat}
    (h : index < start ∨ stop ≤ index) (item : α) :
    slice (items.set index item) start stop = slice items start stop := by
  rw [slice, slice, List.take_set]
  rcases h with habove | hbelow
  · exact List.drop_set_of_lt habove
  · rw [List.set_eq_of_length_le]
    rw [List.length_take]
    omega

/-! ## The header -/

namespace SectionSpec

variable {spec : SectionSpec}

/-- Lines below the header line that completes a header do not matter to it. -/
theorem lastHeader?_append {above below : List Text} {header : Nat}
    (h : spec.lastHeader? (above ++ below) = some header) (habove : header < above.length)
    (below' : List Text) : spec.lastHeader? (above ++ below') = some header := by
  rw [lastHeader?, List.findIdxs_append, List.getElem?_append] at h
  rw [lastHeader?, List.findIdxs_append, List.getElem?_append]
  split at h
  · rename_i hcount
    rw [if_pos hcount]
    exact h
  · -- an index found among the lines below is none of the lines above
    have hge := List.ge_of_mem_findIdxs header (List.mem_of_getElem? h)
    omega

theorem lastHeader?_set {lines : List Text} {header index : Nat}
    (h : spec.lastHeader? lines = some header) (hindex : header < index) (text : Text) :
    spec.lastHeader? (lines.set index text) = some header := by
  rw [List.set_eq_take_append_cons_drop]
  split
  · rename_i hlength
    rw [← List.take_append_drop index lines] at h
    refine lastHeader?_append h ?_ _
    rw [List.length_take]
    omega
  · exact h

end SectionSpec

/-- A disassembly lies where it lay if a line of its body is exchanged. -/
theorem Listing.find_set {lines : List Text} {bounds : SectionBounds} {start index : Nat}
    (h : disassemblySection.find lines = .ok bounds) (hstart : bounds.start = some start)
    (hindex : start ≤ index) (text : Text) :
    disassemblySection.find (lines.set index text) = .ok bounds := by
  rw [SectionSpec.find_eq] at h ⊢
  cases hheader : disassemblySection.lastHeader? lines with
  | none =>
      rw [hheader] at h
      cases h
  | some header =>
      rw [hheader] at h
      cases h
      have hbelow : header + 1 ≤ index := by
        cases hstart
        exact hindex
      rw [SectionSpec.lastHeader?_set hheader hbelow]
      simp only [bodyEnd_disassembly, List.length_set]

/-! ## The regions -/

namespace Region

theorem labelAt?_set_of_ne {lines : List Text} {index other : Nat} (h : other ≠ index)
    (text : Text) : labelAt? (lines.set index text) other = labelAt? lines other := by
  rw [labelAt?, labelAt?, List.getElem?_set_ne (Ne.symm h)]

theorem isEndAt_set_of_ne {lines : List Text} {index other : Nat} (h : other ≠ index)
    (text : Text) : isEndAt (lines.set index text) other = isEndAt lines other := by
  rw [isEndAt, isEndAt, labelAt?_set_of_ne h, isBlankAt, isBlankAt,
    List.getElem?_set_ne (Ne.symm h)]

/-- A text that is no label makes no label of the line that it replaces. -/
theorem labelAt?_set_self {text : Text} (h : label? text = none) (lines : List Text)
    (index : Nat) : labelAt? (lines.set index text) index = none := by
  rw [labelAt?, List.getElem?_set]
  by_cases hlength : index < lines.length
  · simpa [hlength] using h
  · simp [hlength]

/-- A line opens the region that it opened, if the line that is exchanged is neither held by that
region nor its end. -/
theorem regionAt?_set {lines : List Text} {stop opener index : Nat} {text : Text}
    (hopener : opener < stop) (htext : label? text = none)
    (hout : ∀ r, regionAt? lines stop opener = some r → ¬ r.Holds index ∧ r.lineEnd ≠ index) :
    regionAt? (lines.set index text) stop opener = regionAt? lines stop opener := by
  cases hlabel : labelAt? lines opener with
  | none =>
      have hlabel' : labelAt? (lines.set index text) opener = none := by
        by_cases heq : opener = index
        · rw [heq, labelAt?_set_self htext]
        · rw [labelAt?_set_of_ne heq, hlabel]
      rw [regionAt?, regionAt?, hlabel, hlabel']
      rfl
  | some name =>
      have hends := endsAt_endFrom lines (Nat.succ_le_of_lt hopener)
      obtain ⟨hholds, hend⟩ := hout { name := name, lineStart := opener, lineEnd := _ }
        (by rw [regionAt?, hlabel, Option.map_some])
      have hholds : ¬ ((opener : Int) ≤ index ∧ (index : Int) < endFrom lines stop (opener + 1)) :=
        hholds
      have hend : (endFrom lines stop (opener + 1) : Int) ≠ index := hend
      have hfirst : opener + 1 ≤ endFrom lines stop (opener + 1) := hends.first_le
      have hne : opener ≠ index := by omega
      have hsame : endFrom (lines.set index text) stop (opener + 1)
          = endFrom lines stop (opener + 1) :=
        endFrom_congr (Nat.succ_le_of_lt hopener) fun other hlow hhigh _ =>
          isEndAt_set_of_ne (by omega) text
      rw [regionAt?, regionAt?, labelAt?_set_of_ne hne, hsame]

/-- The regions of a stretch stay as they are if a line is exchanged that none of them holds and that
ends none of them. -/
theorem spans_set {lines : List Text} {start stop index : Nat} {text : Text}
    (hstart : start ≤ stop) (hstop : stop ≤ lines.length) (htext : label? text = none)
    (hout : ∀ r ∈ spans start (slice lines start stop), ¬ r.Holds index ∧ r.lineEnd ≠ index) :
    spans start (slice (lines.set index text) start stop)
      = spans start (slice lines start stop) := by
  have hstop' : stop ≤ (lines.set index text).length := by rwa [List.length_set]
  rw [spans_eq_filterMap hstop hstart] at hout ⊢
  rw [spans_eq_filterMap hstop' hstart]
  refine List.filterMap_congr fun opener hopener => ?_
  rw [List.mem_range'_1] at hopener
  have hlt : opener < stop := by omega
  exact regionAt?_set hlt htext fun r hr =>
    hout r (mem_filterMap_regionAt?.mpr ⟨opener, hopener.1, hlt, hr⟩)

/-- Which lines a region holds is part of its outline. -/
theorem outline_eq_iff {r r' : Region} :
    r.outline = r'.outline
      ↔ r.name = r'.name ∧ r.lineStart = r'.lineStart ∧ r.lineEnd = r'.lineEnd := by
  rw [outline, outline, Prod.mk.injEq, Prod.mk.injEq]

/-- The code of a region does not see a line that the region does not hold. -/
theorem code_set {lines : List Text} {r : Region} {index : Nat} (h : ¬ r.Holds index)
    (text : Text) : r.code (lines.set index text) = r.code lines := by
  have hout : ¬ (r.lineStart ≤ index ∧ (index : Int) < r.lineEnd) := h
  exact slice_set (by omega) text

end Region

/-! ## Reading a disassembly -/

namespace Disassembly

/-- A line of the body that lies in no region and ends none may become any text that is no label:
the disassembly is read as before. -/
theorem read_set_outside {lines : List Text} {file : FilePath} {imported : List Text}
    {aliases : List (Text × Text)} {d : Disassembly} (h : read lines file imported aliases = .ok d)
    {start index : Nat} (hstart : d.bounds.start = some start) (hindex : start ≤ index)
    (hout : ∀ r ∈ d.regions, ¬ r.Holds index ∧ r.lineEnd ≠ index)
    {text : Text} (htext : Region.labelName text = .ok none) :
    read (lines.set index text) file imported aliases = .ok d := by
  have hlabel : Region.label? text = none := by
    rwa [Region.labelName_eq, Except.ok.injEq] at htext
  obtain ⟨bounds, hbounds, -⟩ := bind_eq_ok.mp h
  obtain ⟨horder, hlength⟩ := SectionSpec.range_of_find hbounds
  obtain ⟨regions, hregions⟩ : ∃ regions, Region.spans bounds.range.1
      (slice lines bounds.range.1 bounds.range.2) = regions := ⟨_, rfl⟩
  rw [read_eq hbounds hregions] at h
  cases hresolver : Resolver.build (regions.map (·.name)) imported aliases with
  | error failure =>
      rw [hresolver] at h
      cases h
  | ok resolver =>
      rw [hresolver] at h
      cases h
      -- reading a region moves neither its label nor its end, so the line is outside when scanned
      have hscanned : ∀ r ∈ regions, ¬ r.Holds index ∧ r.lineEnd ≠ index := by
        intro r hr
        have hread := hout _ (List.mem_map_of_mem hr)
        obtain ⟨-, hfirst, hlast⟩ :=
          Region.outline_eq_iff.mp (RegionReader.outline_readRegion resolver lines r)
        rwa [Region.Holds, hfirst, hlast] at hread
      have hregions' : Region.spans bounds.range.1
          (slice (lines.set index text) bounds.range.1 bounds.range.2) = regions := by
        rw [Region.spans_set horder hlength hlabel (by rwa [hregions]), hregions]
      have hreaders : ∀ r ∈ regions, RegionReader.readRegion resolver (lines.set index text) r
          = RegionReader.readRegion resolver lines r := by
        intro r hr
        rw [RegionReader.readRegion, RegionReader.readRegion, Region.code_set (hscanned r hr).1]
      have hfind := Listing.find_set hbounds hstart hindex text
      have hshown := List.map_congr_left fun r hr => congrArg (·.region) (hreaders r hr)
      have hcalls := List.flatMap_congr fun r hr => congrArg (·.calls file) (hreaders r hr)
      rw [read_eq hfind hregions', hresolver]
      show Except.ok (Disassembly.mk bounds _ _) = Except.ok (Disassembly.mk bounds _ _)
      rw [hshown, hcalls]

/-- What the listing of two functions that refer to each other says. -/
def mutualReading : Disassembly where
  bounds := ⟨"disassembly".toList, some 2, 8⟩
  regions :=
    [{ name := "ping".toList, lineStart := 2, lineEnd := 4, firstAddress := some 0x401000,
        lastAddress := some 0x401002, opcodeByteCount := 2, codeByteCount := 2 },
      { name := "pong".toList, lineStart := 4, lineEnd := 6, firstAddress := some 0x401002,
        lastAddress := some 0x401004, opcodeByteCount := 2, codeByteCount := 2 }]
  calls := [⟨default, "ping".toList, "pong".toList⟩, ⟨default, "pong".toList, "ping".toList⟩]

/-- The line behind the blank one becomes an instruction that refers to a function. -/
theorem read_set_outside_mutualListing :
    read mutualListing default [] [] = .ok mutualReading ∧ mutualReading.bounds.start = some 2 ∧
      2 ≤ 7 ∧ (∀ r ∈ mutualReading.regions, ¬ r.Holds 7 ∧ r.lineEnd ≠ ((7 : Nat) : Int)) ∧
      Region.labelName "  00401004: E8 00  call pong".toList = .ok none ∧
      read (mutualListing.set 7 "  00401004: E8 00  call pong".toList) default [] []
        = .ok mutualReading := by
  have hread : read mutualListing default [] [] = .ok mutualReading := by rfl
  have hout : ∀ r ∈ mutualReading.regions, ¬ r.Holds 7 ∧ r.lineEnd ≠ ((7 : Nat) : Int) := by
    decide
  have htext : Region.labelName "  00401004: E8 00  call pong".toList = .ok none := by rfl
  exact ⟨hread, rfl, by decide, hout, htext, read_set_outside hread rfl (by decide) hout htext⟩

end Disassembly

end SymbolAtlas
