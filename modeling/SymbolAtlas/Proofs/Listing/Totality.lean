/-
# SymbolAtlas.Proofs.Listing.Totality — a disassembly can be read as soon as its header is complete

Five operations on the way fail for some arguments: taking the first word of a line, that of the name
of a function, the first character of a part of an operand, the number of an address, and the line at
an index. None of them is guarded where it stands; that its argument is a good one is known from
another place. A line that ends in a colon is not blank; the names that labels give are names
(`IsName`); cutting an operand leaves no empty parts; an address column has digits and one colon at
most; and the regions of a scan lie in the listing (`Region.LiesIn`).
-/
import SymbolAtlas.Proofs.Listing.Bounds
import SymbolAtlas.Proofs.Listing.Defect

namespace SymbolAtlas

/-! ## Names -/

/-- That a text can be the name of a function: it shows something and is trimmed. -/
structure IsName (name : Text) : Prop where
  ne_nil : name ≠ []
  trimmed : name.trim = name

theorem IsName.not_blank {name : Text} (h : IsName name) : name.isBlankText = false :=
  Text.not_blank_of_trim_eq h.ne_nil h.trimmed

/-- The first word of a name can be taken, so the name can be entered into any resolver. -/
theorem IsName.enterLabel {name : Text} (h : IsName name) (resolver : Resolver) :
    (∃ word, Token.firstWord name = .ok word) ∧
      ∃ resolver', Resolver.enterLabel resolver name = .ok resolver' := by
  obtain ⟨word, -, -, hword⟩ := Token.firstWord_of_not_blank h.not_blank
  exact ⟨⟨word, hword⟩, _, Resolver.enterLabel_of_not_blank resolver h.not_blank⟩

/-- A line that ends in a colon has a first word. -/
theorem Token.firstWord_of_colon {line : Text} (h : line.trimEnd.getLast? = some ':') :
    ∃ word, Token.firstWord line.trimEnd = .ok word := by
  have hblank : line.trimEnd.isBlankText = false :=
    Text.not_blank_of_mem (List.mem_of_getLast? h) (by decide)
  obtain ⟨word, -, -, hword⟩ := Token.firstWord_of_not_blank hblank
  exact ⟨word, hword⟩

/-- What a label gives is a name. -/
theorem Region.isName_of_label? {line name : Text} (h : Region.label? line = some name) :
    IsName name := by
  obtain ⟨hne, htrim, -⟩ := Region.label?_spec h
  exact ⟨hne, htrim⟩

/-! ## Regions -/

/-- An index below the length of a list has an item. -/
theorem exists_itemAt {α : Type} {items : List α} {position : Nat}
    (h : position < items.length) : ∃ item, itemAt items position = .ok item :=
  ⟨items[position], itemAt_of_getElem? (List.getElem?_eq_getElem h)⟩

namespace Region

/-- That a region lies in a listing: its label and the lines below it are lines of the listing. -/
structure LiesIn (r : Region) (lines : List Text) : Prop where
  zero_le : 0 ≤ r.lineStart
  start_lt : r.lineStart < r.lineEnd
  end_le : r.lineEnd ≤ lines.length

variable {r : Region} {lines : List Text}

/-- There is a line at each index from the label down to the end of a region. -/
theorem LiesIn.itemAt (h : r.LiesIn lines) {index : Int} (hfirst : r.lineStart ≤ index)
    (hlast : index < r.lineEnd) : ∃ line, itemAt lines index = .ok line := by
  obtain ⟨position, rfl⟩ := Int.eq_ofNat_of_zero_le (h.zero_le.trans hfirst)
  exact exists_itemAt (Int.ofNat_lt.mp (hlast.trans_le h.end_le))

/-- The lines of a region that lies in the listing can be read. -/
theorem LiesIn.run (h : r.LiesIn lines) (resolver : Resolver) :
    ∃ reader, RegionReader.run resolver lines r = .ok reader := by
  obtain ⟨first, hfirst⟩ := Int.eq_ofNat_of_zero_le h.zero_le
  obtain ⟨last, hlast⟩ := Int.eq_ofNat_of_zero_le (h.zero_le.trans h.start_lt.le)
  have hstart := h.start_lt
  have hend := h.end_le
  rw [hfirst, hlast] at hstart
  rw [hlast] at hend
  have hbelow : r.lineStart + 1 = (first + 1 : Nat) := by
    rw [hfirst]
    rfl
  exact ⟨_, RegionReader.run_eq_readRegion resolver hbelow hlast (Int.ofNat_lt.mp hstart)
    (Int.ofNat_le.mp hend)⟩

/-- The regions of a stretch of a listing lie in the listing, and what they are called is a name. -/
theorem spans_spec {start stop : Nat} (hstop : stop ≤ lines.length) :
    ∀ r ∈ spans start (slice lines start stop), r.LiesIn lines ∧ IsName r.name := by
  intro r hr
  obtain ⟨above, label, name, below, hlines, hlabel, rfl⟩ := mem_spans hr
  have hlength : (slice lines start stop).length = stop - start := length_slice hstop
  rw [hlines, List.length_append, List.length_cons] at hlength
  have hcount : (below.takeWhile isCode).length ≤ below.length :=
    List.Sublist.length_le (List.takeWhile_sublist isCode)
  refine ⟨⟨?_, ?_, ?_⟩, isName_of_label? hlabel⟩ <;> simp only [opening] <;> omega

end Region

/-! ## The whole reading -/

namespace Disassembly

/-- Reading a disassembly fails exactly if the listing has fewer than two header lines, and then at
its end. No operation on the way fails where it is made: the first word of a line that ends in a
colon, and that of each name a label gives, which shows something and is trimmed; the number of a
token that is taken for an address; the first character of a part of an operand; the line at an index
of the body or of a region of it. -/
theorem read_fails_at_header_only (lines : List Text) (file : FilePath) (imported : List Text)
    (aliases : List (Text × Text)) :
    (∀ failure, read lines file imported aliases = .error failure ↔
      lines.countP Listing.isDisassemblyHeader < 2 ∧
        failure = .parse ⟨"disassembly".toList,
          .incompleteHeader (lines.countP Listing.isDisassemblyHeader) 2, some lines.length,
          none⟩) ∧
    (∀ line : Text, line.trimEnd.getLast? = some ':' →
      ∃ word, Token.firstWord line.trimEnd = .ok word) ∧
    (∀ line, ∃ name?, Region.labelName line = .ok name? ∧ ∀ name, name? = some name →
      name ≠ [] ∧ name.trim = name ∧ (∃ word, Token.firstWord name = .ok word) ∧
        ∀ resolver, ∃ resolver', Resolver.enterLabel resolver name = .ok resolver') ∧
    (∀ token, Token.isAddress token = true →
      Token.addressValue token = .ok (Hexadecimal.value (Token.withoutColon token))) ∧
    (∀ resolver token, ∀ part ∈ Token.operands token,
      part ≠ [] ∧ ∃ callee?, RegionReader.calleeOf resolver part = .ok callee?) ∧
    ∀ bounds, Listing.disassemblySection.find lines = .ok bounds →
      (∀ index : Nat, bounds.range.1 ≤ index → index < bounds.range.2 →
        ∃ line, itemAt lines index = .ok line) ∧
      ∃ regions resolver, Region.scan lines bounds.range.1 bounds.range.2 = .ok regions ∧
        Resolver.build (regions.map (·.name)) imported aliases = .ok resolver ∧
        ∀ region ∈ regions,
          (∃ reader, RegionReader.run resolver lines region = .ok reader) ∧
          ∀ index : Int, region.lineStart < index → index < region.lineEnd →
            ∃ line, itemAt lines index = .ok line := by
  refine ⟨fun failure => ?header, fun line => Token.firstWord_of_colon, fun line => ?label,
    fun token => Token.addressValue_of_isAddress, fun resolver token part hpart => ?operand,
    fun bounds hbounds => ?body⟩
  case header =>
    rw [read_error_iff, SectionSpec.find_eq_error_iff]
    exact ⟨fun ⟨hfew, _, hfailure⟩ => ⟨hfew, hfailure⟩,
      fun ⟨hfew, hfailure⟩ => ⟨hfew, rfl, hfailure⟩⟩
  case label =>
    refine ⟨_, Region.labelName_eq line, fun name hname => ?_⟩
    have hisName := Region.isName_of_label? hname
    exact ⟨hisName.ne_nil, hisName.trimmed, (hisName.enterLabel []).1,
      fun resolver => (hisName.enterLabel resolver).2⟩
  case operand =>
    exact ⟨(Token.mem_operands hpart).1, _, RegionReader.calleeOf_operand resolver hpart⟩
  case body =>
    obtain ⟨horder, hlength⟩ := SectionSpec.range_of_find hbounds
    have hscan := Region.scan_eq_spans horder hlength
    have hspec : ∀ region ∈ Region.spans bounds.range.1
        (slice lines bounds.range.1 bounds.range.2), region.LiesIn lines ∧ IsName region.name :=
      Region.spans_spec hlength
    generalize Region.spans bounds.range.1 (slice lines bounds.range.1 bounds.range.2) = regions
      at hscan hspec
    have hnames : ∀ name ∈ regions.map (·.name), name.isBlankText = false := by
      intro name hname
      obtain ⟨region, hregion, rfl⟩ := List.mem_map.mp hname
      exact (hspec region hregion).2.not_blank
    obtain ⟨resolver, hresolver⟩ := Resolver.build_total hnames imported aliases
    refine ⟨fun index _ hlast => exists_itemAt (hlast.trans_le hlength), regions, resolver, hscan,
      hresolver, fun region hregion => ?_⟩
    have hlies := (hspec region hregion).1
    exact ⟨hlies.run resolver, fun index hfirst => hlies.itemAt hfirst.le⟩

/-- A listing with a colon on its own, a label between wide blanks, operands of nothing but
delimiters, and an address that ends in a colon at the end of a line. -/
def crookedListing : List Text :=
  ["Dump of file a.dll".toList, "File Type: DLL".toList, " : ".toList,
    "\u3000g (int)\u2003:\u00a0".toList, "  00401000: CC +,-[] ,g+".toList,
    "0040100A:".toList]

/-- The listing can be read. What it shows are the arguments that the five operations are near to
failing at. -/
theorem read_fails_at_header_only_crookedListing :
    (∃ d, read crookedListing default [] [] = .ok d) ∧
    Region.labelName " : ".toList = .ok none ∧
    (∃ word, Token.firstWord " :".toList = .ok word) ∧
    (∀ resolver, ∃ resolver', Resolver.enterLabel resolver "g (int)".toList = .ok resolver') ∧
    Token.addressValue "0040100A:".toList = .ok 0x40100A ∧
    Token.operands "+,-[]".toList = [] ∧
    (∃ callee?, RegionReader.calleeOf [] "g".toList = .ok callee?) ∧
    ∃ line, itemAt crookedListing 5 = .ok line := by
  obtain ⟨hfail, hcolon, hlabel, haddress, hoperand, hbody⟩ :=
    read_fails_at_header_only crookedListing default [] []
  have hread : ∃ d, read crookedListing default [] [] = .ok d := by
    cases hresult : read crookedListing default [] [] with
    | ok d => exact ⟨d, rfl⟩
    | error failure => exact absurd ((hfail failure).mp hresult).1 (by decide)
  obtain ⟨name?, hname, hspec⟩ := hlabel "\u3000g (int)\u2003:\u00a0".toList
  have hg : name? = some "g (int)".toList := by
    have hrun : Region.labelName "\u3000g (int)\u2003:\u00a0".toList
        = .ok (some "g (int)".toList) := by
      rfl
    rw [hrun, Except.ok.injEq] at hname
    exact hname.symm
  have hfind : Listing.disassemblySection.find crookedListing
      = .ok ⟨"disassembly".toList, some 2, 6⟩ := by
    decide
  exact ⟨hread, rfl, hcolon " : ".toList (by decide), (hspec _ hg).2.2.2,
    (haddress "0040100A:".toList (by decide)).trans rfl, by decide,
    (hoperand [] ",g+".toList "g".toList (by decide)).2,
    (hbody _ hfind).1 5 (by decide) (by decide)⟩

end Disassembly

end SymbolAtlas
