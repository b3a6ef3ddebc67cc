/-
# SymbolAtlas.Proofs.Listing.Calls — the call edges of a disassembly as one flat sequence

Reading a disassembly takes two passes: the labels give the regions and, with the imported symbols,
the resolver; the resolver then drives the reading of each region. The main statement composes both
into one formula for the edges: regions in order, lines of a region in order, and for each line the
symbols that its instruction refers to. It also says that the reading succeeds as soon as the header
of the listing is complete.
-/
import SymbolAtlas.Proofs.Listing.CodeLine
import SymbolAtlas.Proofs.Listing.Precedence
import SymbolAtlas.Proofs.Listing.Region
import SymbolAtlas.Proofs.Listing.Section

namespace SymbolAtlas

/-! ## Reading one region -/

namespace Region

/-- What a scan says of a region: its name and its lines. -/
def outline (r : Region) : Text × Int × Int := (r.name, r.lineStart, r.lineEnd)

end Region

namespace RegionReader

open CodeLine

theorem countBytes_frame (seen : Nat) (tokens : List Text) (r : RegionReader) :
    (countBytes seen tokens r).callees = r.callees ∧
      (countBytes seen tokens r).region.outline = r.region.outline := by
  induction tokens generalizing seen r with
  | nil => exact ⟨rfl, rfl⟩
  | cons token rest ih => exact ih (seen + 1) (r.opcodeByte token seen)

theorem setAddress_frame (r : RegionReader) (token : Option Text) :
    (r.setAddress token).callees = r.callees ∧
      (r.setAddress token).region.outline = r.region.outline := by
  cases token <;> exact ⟨rfl, rfl⟩

/-- Reading a line adds the symbols that it refers to, and changes neither name nor place of the
region. -/
theorem readLine_frame (resolver : Resolver) (r : RegionReader) (line : Text) :
    (readLine resolver r line).callees = r.callees ++ references resolver line ∧
      (readLine resolver r line).region.outline = r.region.outline := by
  obtain ⟨hcallees, houtline⟩ := setAddress_frame r (address? line)
  obtain ⟨hcallees', houtline'⟩ := countBytes_frame 0 (bytes line) (r.setAddress (address? line))
  exact ⟨congrArg (· ++ references resolver line) (hcallees'.trans hcallees),
    houtline'.trans houtline⟩

theorem foldl_readLine_frame (resolver : Resolver) (lines : List Text) (r : RegionReader) :
    (lines.foldl (readLine resolver) r).callees
        = r.callees ++ lines.flatMap (references resolver) ∧
      (lines.foldl (readLine resolver) r).region.outline = r.region.outline := by
  induction lines generalizing r with
  | nil => exact ⟨(List.append_nil _).symm, rfl⟩
  | cons line rest ih =>
      obtain ⟨hcallees, houtline⟩ := readLine_frame resolver r line
      obtain ⟨hrest, hrestOutline⟩ := ih (readLine resolver r line)
      rw [hcallees, List.append_assoc, ← List.flatMap_cons] at hrest
      exact ⟨hrest, hrestOutline.trans houtline⟩

/-- The reading of a region, line by line. -/
def readRegion (resolver : Resolver) (lines : List Text) (region : Region) : RegionReader :=
  ((region.code lines).foldl (readLine resolver) { region := region }).finish

/-- Reading a region whose lines lie in the listing reads its lines of code, and never fails. -/
theorem run_eq_readRegion (resolver : Resolver) {lines : List Text} {region : Region}
    {first last : Nat} (hfirst : region.lineStart + 1 = first) (hlast : region.lineEnd = last)
    (horder : first ≤ last) (hlength : last ≤ lines.length) :
    run resolver lines region = .ok (readRegion resolver lines region) := by
  have hfeed (reader : RegionReader) (_ : Int) (line : Text) :
      feed resolver reader line = .ok (readLine resolver reader line) :=
    feed_spec resolver reader line
  have hcode : region.code lines = slice lines first last := by
    rw [Region.code, hfirst, hlast]
    rfl
  unfold run
  rw [hfirst, hlast]
  simp only [foldRange_eq_foldIndexed hfeed horder hlength]
  rw [readRegion, hcode, foldIndexed_eq_foldl]
  rfl

/-- The call edges of a region: what its lines of code refer to, in order. -/
theorem calls_readRegion (resolver : Resolver) (lines : List Text) (region : Region)
    (file : FilePath) :
    (readRegion resolver lines region).calls file
      = (region.code lines).flatMap fun line =>
          (references resolver line).map fun callee => ⟨file, region.name, callee⟩ := by
  obtain ⟨hcallees, houtline⟩ :=
    foldl_readLine_frame resolver (region.code lines) { region := region }
  have hname : (readRegion resolver lines region).region.name = region.name :=
    congrArg Prod.fst houtline
  have hfinished : (readRegion resolver lines region).callees
      = (region.code lines).flatMap (references resolver) := hcallees
  rw [calls, hname, hfinished, List.map_flatMap]

theorem outline_readRegion (resolver : Resolver) (lines : List Text) (region : Region) :
    (readRegion resolver lines region).region.outline = region.outline :=
  (foldl_readLine_frame resolver (region.code lines) { region := region }).2

end RegionReader

namespace Region

/-- The lines of a region depend on its place only. -/
theorem code_congr {r r' : Region} (h : r.outline = r'.outline) (lines : List Text) :
    r.code lines = r'.code lines := by
  rw [outline, outline, Prod.mk.injEq, Prod.mk.injEq] at h
  rw [code, code, h.2.1, h.2.2]

end Region

/-! ## Reading a disassembly -/

namespace Disassembly

/-- The call edges of the given regions: regions in order, lines of a region in order, and for each
line the symbols that its instruction refers to, in order and with repetitions. -/
def edges (file : FilePath) (resolver : Resolver) (lines : List Text) (regions : List Region) :
    List CallEntry :=
  regions.flatMap fun region =>
    (region.code lines).flatMap fun line =>
      (CodeLine.references resolver line).map fun callee => ⟨file, region.name, callee⟩

/-- Reading the regions one by one gives their edges. -/
theorem flatMap_calls (resolver : Resolver) (lines : List Text) (file : FilePath)
    (regions : List Region) :
    (regions.map (RegionReader.readRegion resolver lines)).flatMap (RegionReader.calls · file)
      = edges file resolver lines regions := by
  rw [List.flatMap_map, edges]
  congr 1
  funext region
  exact RegionReader.calls_readRegion resolver lines region file

/-- Edges depend on the outlines of the regions only. -/
theorem edges_congr (file : FilePath) (resolver : Resolver) (lines : List Text)
    {regions regions' : List Region}
    (h : regions.map Region.outline = regions'.map Region.outline) :
    edges file resolver lines regions = edges file resolver lines regions' := by
  induction regions generalizing regions' with
  | nil =>
      cases regions' with
      | nil => rfl
      | cons region' rest' => cases h
  | cons region rest ih =>
      cases regions' with
      | nil => cases h
      | cons region' rest' =>
          rw [List.map_cons, List.map_cons, List.cons.injEq] at h
          have hname : region.name = region'.name := congrArg Prod.fst h.1
          have hrest : edges file resolver lines rest = edges file resolver lines rest' := ih h.2
          rw [edges, edges, List.flatMap_cons, List.flatMap_cons, hname,
            Region.code_congr h.1 lines]
          exact congrArg _ hrest

/-- Reading the regions of a stretch of a listing never fails. -/
theorem mapM_run (resolver : Resolver) {lines : List Text} {start stop : Nat}
    (hstop : stop ≤ lines.length) :
    (Region.spans start (slice lines start stop)).mapM (RegionReader.run resolver lines)
      = .ok ((Region.spans start (slice lines start stop)).map
          (RegionReader.readRegion resolver lines)) := by
  refine mapM_eq_map fun region hregion => ?_
  obtain ⟨above, label, name, below, hlines, -, rfl⟩ := Region.mem_spans hregion
  have hlength : (slice lines start stop).length = stop - start := length_slice hstop
  rw [hlines, List.length_append, List.length_cons] at hlength
  have hcount : (below.takeWhile Region.isCode).length ≤ below.length :=
    List.Sublist.length_le (List.takeWhile_sublist Region.isCode)
  have hfirst : (Region.opening name (start + above.length) below).lineStart + 1
      = (start + above.length + 1 : Nat) := by
    rw [Region.opening, Nat.cast_succ]
  have hlast : (Region.opening name (start + above.length) below).lineEnd
      = (start + above.length + 1 + (below.takeWhile Region.isCode).length : Nat) := by
    rw [Region.opening]
    push_cast
    rfl
  exact RegionReader.run_eq_readRegion resolver hfirst hlast (Nat.le_add_right _ _) (by omega)

/-- Below a complete header the two passes read the regions one by one, and nothing but the resolver
could fail. -/
theorem read_eq {lines : List Text} {bounds : SectionBounds}
    (h : Listing.disassemblySection.find lines = .ok bounds) {regions : List Region}
    (hregions : Region.spans bounds.range.1 (slice lines bounds.range.1 bounds.range.2) = regions)
    (file : FilePath) (imported : List Text) (aliases : List (Text × Text)) :
    read lines file imported aliases
      = (Resolver.build (regions.map (·.name)) imported aliases).map fun resolver =>
          { bounds := bounds
            regions := regions.map fun region =>
              (RegionReader.readRegion resolver lines region).region
            calls := regions.flatMap fun region =>
              (RegionReader.readRegion resolver lines region).calls file } := by
  obtain ⟨horder, hlength⟩ := SectionSpec.range_of_find h
  subst hregions
  simp only [read, h, Region.scan_eq_spans horder hlength, bind, Except.bind]
  cases Resolver.build ((Region.spans bounds.range.1
      (slice lines bounds.range.1 bounds.range.2)).map (·.name)) imported aliases with
  | error failure => rfl
  | ok resolver =>
      simp only [mapM_run resolver hlength, pure, Except.pure, Except.map, List.map_map,
        List.flatMap_map]
      rfl

/-- If the header of the disassembly is complete, then the listing is read without failure. The
regions are those of the lines below the header, the resolver is that of their names, the imported
symbols and the aliases, and the calls are the edges of the regions: there is none from a label, a
blank line or a line outside the regions. -/
theorem read_calls {lines : List Text} {bounds : SectionBounds}
    (h : Listing.disassemblySection.find lines = .ok bounds) (file : FilePath)
    (imported : List Text) (aliases : List (Text × Text)) :
    ∃ d resolver, read lines file imported aliases = .ok d ∧ d.bounds = bounds ∧
      d.regions.map Region.outline
        = (Region.spans bounds.range.1 (slice lines bounds.range.1 bounds.range.2)).map
            Region.outline ∧
      Resolver.build d.functionNames imported aliases = .ok resolver ∧
      d.calls = edges file resolver lines d.regions ∧
      ∀ region ∈ d.regions, ∀ line ∈ region.code lines,
        line.isBlankText = false ∧ Region.labelName line = .ok none := by
  obtain ⟨horder, hlength⟩ := SectionSpec.range_of_find h
  let regions := Region.spans bounds.range.1 (slice lines bounds.range.1 bounds.range.2)
  have hscan : Region.scan lines bounds.range.1 bounds.range.2 = .ok regions :=
    Region.scan_eq_spans horder hlength
  have hnames : ∀ name ∈ regions.map (·.name), name.isBlankText = false := by
    intro name hname
    obtain ⟨region, hregion, rfl⟩ := List.mem_map.mp hname
    obtain ⟨above, label, name, below, -, hlabel, rfl⟩ := Region.mem_spans hregion
    exact Region.label?_not_blank hlabel
  obtain ⟨resolver, hbuild⟩ := Resolver.build_total hnames imported aliases
  let readers := regions.map (RegionReader.readRegion resolver lines)
  have hreaders : regions.mapM (RegionReader.run resolver lines) = .ok readers :=
    mapM_run resolver hlength
  have houtlines : (readers.map (·.region)).map Region.outline
      = regions.map Region.outline := by
    rw [List.map_map, List.map_map]
    exact List.map_congr_left fun region _ =>
      RegionReader.outline_readRegion resolver lines region
  -- reading a region does not rename it, so the resolver is that of the functions reported
  have hfunctions : (readers.map (·.region)).map (·.name) = regions.map (·.name) := by
    have hfirst := congrArg (List.map Prod.fst) houtlines
    simp only [List.map_map] at hfirst ⊢
    exact hfirst
  refine ⟨⟨bounds, readers.map (·.region), readers.flatMap (·.calls file)⟩, resolver, ?_, rfl,
    houtlines, ?_, ?_, ?_⟩
  · unfold read
    rw [h]
    show (Region.scan lines bounds.range.1 bounds.range.2 >>= _) = _
    rw [hscan]
    show (Resolver.build (regions.map (·.name)) imported aliases >>= _) = _
    rw [hbuild]
    show (regions.mapM (RegionReader.run resolver lines) >>= _) = _
    rw [hreaders]
    rfl
  · rw [functionNames, hfunctions, hbuild]
  · rw [edges_congr file resolver lines houtlines]
    exact flatMap_calls resolver lines file regions
  · intro region hregion line hline
    obtain ⟨reader, hreader, rfl⟩ := List.mem_map.mp hregion
    obtain ⟨scanned, hscanned, rfl⟩ := List.mem_map.mp hreader
    rw [Region.code_congr (RegionReader.outline_readRegion resolver lines scanned)] at hline
    obtain ⟨hblank, hlabel⟩ := Region.isCode_of_mem_code hlength hscanned hline
    exact ⟨hblank, by rw [Region.labelName_eq, hlabel]⟩

/-- Two functions that refer to each other, and a line that no region holds. -/
def mutualListing : List Text :=
  ["Dump of file a.dll".toList, "File Type: DLL".toList,
    "ping:".toList, "  00401000: E8 00  call pong".toList,
    "pong:".toList, "  00401002: E8 00  call [ping+8]".toList,
    "".toList, "call ping".toList]

theorem read_calls_mutualListing :
    Listing.disassemblySection.find mutualListing = .ok ⟨"disassembly".toList, some 2, 8⟩ ∧
      ∃ d resolver, read mutualListing default [] [] = .ok d ∧
        Resolver.build d.functionNames [] [] = .ok resolver ∧
        d.calls = edges default resolver mutualListing d.regions := by
  have hfind : Listing.disassemblySection.find mutualListing
      = .ok ⟨"disassembly".toList, some 2, 8⟩ := by decide
  obtain ⟨d, resolver, hread, -, -, hresolver, hcalls, -⟩ := read_calls hfind default [] []
  exact ⟨hfind, d, resolver, hread, hresolver, hcalls⟩

example (file : FilePath) : (read mutualListing file [] []).map (·.calls)
    = .ok [⟨file, "ping".toList, "pong".toList⟩, ⟨file, "pong".toList, "ping".toList⟩] := by
  rfl

end Disassembly

end SymbolAtlas
