/-
# SymbolAtlas.Proofs.Analysis.CallGraph — the call graph of an analysis is closed and exact

The edges of an analysis come from the disassembly of its file, read with the imported symbols that
the analysis has stored, and go through a table that drops duplicates. All edges are those of one
file, so dropping by the key of the table is dropping by caller and callee: the edges stored are the
first occurrences among those read, none is lost and none is new, and both of their ends are known
to the analysis.
-/
import SymbolAtlas.Analysis
import SymbolAtlas.Proofs.Listing.Reference
import SymbolAtlas.Proofs.Table.Columns

namespace SymbolAtlas

open Table

/-! ## Imported symbols -/

/-- The symbols of a table of imports are those of its entries, each where it first occurs. -/
theorem ImportTable.symbolTexts_after (history : List (Table.Step ImportEntry)) :
    ImportTable.symbolTexts (empty.after history)
      = ((empty.after history).entries.map (·.symbol)).eraseDups := by
  have hcolumns := agrees_after_empty (ε := ImportEntry) (by decide) history
  simp only [Entity.columns, List.forall_mem_cons] at hcolumns
  have hvalues : ImportTable.symbols (empty.after history)
      = fieldValues (fun e => some (.text e.symbol)) (empty.after history).entries := by
    unfold ImportTable.symbols valuesOf
    rw [hcolumns.1.values]
  -- texts are compared as texts, and every value of the column is one
  have htexts (texts : List Text) :
      ((texts.map Value.text).eraseDups).filterMap Value.text? = texts.eraseDups := by
    have hmap : (texts.map Value.text).eraseDups = texts.eraseDups.map Value.text :=
      map_eraseDupsBy (fun _ _ => rfl) texts
    rw [hmap, List.filterMap_map]
    exact List.filterMap_some
  have hfield : ((empty.after history).entries.filterMap fun e : ImportEntry =>
        some (Value.text e.symbol))
      = ((empty.after history).entries.map (·.symbol)).map Value.text := by
    rw [List.map_map, ← List.filterMap_eq_map]
    rfl
  rw [ImportTable.symbolTexts, hvalues, fieldValues, hfield, htexts]

/-! ## The call edges of one file -/

/-- Among the calls of one file, the key of the table is the pair of caller and callee. -/
theorem CallEntry.sameKey_of_file {file : FilePath} {a b : CallEntry} (ha : a.calledFrom = file)
    (hb : b.calledFrom = file) :
    sameKey a b = ((a.caller, a.callee) == (b.caller, b.callee)) := by
  refine Bool.eq_iff_iff.mpr (beq_iff_eq.trans ?_)
  show CallEntry.key a = CallEntry.key b ↔ _
  rw [CallEntry.key, CallEntry.key, ha, hb, Prod.mk.injEq, beq_iff_eq]
  exact and_iff_right rfl

/-- The calls of one file are stored in order, each pair of caller and callee where it first
occurs. -/
theorem entries_addRange_calls {file : FilePath} {calls : List CallEntry}
    (h : ∀ call ∈ calls, call.calledFrom = file) :
    ((empty : CallTable).addRange calls).entries
      = calls.eraseDupsBy fun a b => (a.caller, a.callee) == (b.caller, b.callee) := by
  rw [addRange_empty]
  exact eraseDupsBy_congr fun a ha b hb => CallEntry.sameKey_of_file (h a ha) (h b hb)

namespace Analysis

/-! ## Analyses with a disassembly -/

/-- An analysis with a disassembly as one step after the other. -/
theorem ofDumps_eq {file : FilePath} {dumps : Dumps} {lines : List Text}
    (hlines : dumps.disassembly = some lines) :
    ofDumps file dumps = (do
      let exported ← (Exports.read dumps.exports file).entries
      let imported ← Imports.read dumps.imports file
      let dependents ← dumps.dependents.elim (.ok []) Dependents.direct
      let d ← Disassembly.read lines file (ImportTable.symbolTexts (empty.addRange imported)) []
      return {
        files := (empty.add file).2
        exports := empty.addRange exported
        imports := empty.addRange imported
        calls := empty.addRange d.calls
        regions := d.regions
        dependents := empty.addRange dependents
        anomalies := (Exports.read dumps.exports file).anomalies }) := by
  have hsome (read : Attempt Disassembly) (rest : Option Disassembly → Attempt Analysis) :
      read.map some >>= rest = read >>= fun d => rest (some d) := by
    cases read <;> rfl
  rw [ofDumps, hlines]
  cases dumps.dependents <;> simp only [hsome] <;> rfl

/-- The analysis of a file of which the imports and the disassembly were read, and nothing else was
dumped. -/
def ofReadings (file : FilePath) (imported : List ImportEntry) (d : Disassembly) : Analysis where
  files := (empty.add file).2
  imports := empty.addRange imported
  calls := empty.addRange d.calls
  regions := d.regions

theorem ofDumps_eq_ok {file : FilePath} {imports code : List Text} {a : Analysis} :
    ofDumps file { imports := imports, disassembly := some code } = .ok a
      ↔ ∃ imported d, Imports.read imports file = .ok imported ∧
        Disassembly.read code file (ImportTable.symbolTexts (empty.addRange imported)) [] = .ok d ∧
        a = ofReadings file imported d := by
  -- without a dump of exports there is nothing to read in it
  have hnothing : (Exports.read [] file).entries = .ok [] := rfl
  rw [ofDumps_eq rfl]
  constructor
  · intro h
    obtain ⟨exported, hexported, h⟩ := bind_eq_ok.mp h
    cases hexported
    obtain ⟨imported, himported, h⟩ := bind_eq_ok.mp h
    obtain ⟨dependents, hdependents, h⟩ := bind_eq_ok.mp h
    cases hdependents
    obtain ⟨d, hd, h⟩ := bind_eq_ok.mp h
    cases h
    exact ⟨imported, d, himported, hd, rfl⟩
  · rintro ⟨imported, d, himported, hd, rfl⟩
    refine bind_eq_ok.mpr ⟨[], hnothing, bind_eq_ok.mpr ⟨imported, himported, ?_⟩⟩
    exact bind_eq_ok.mpr ⟨[], rfl, bind_eq_ok.mpr ⟨d, hd, rfl⟩⟩

/-- Where the functions and call edges of an analysis come from. -/
theorem ofDumps_disassembly {file : FilePath} {dumps : Dumps} {lines : List Text} {a : Analysis}
    (hlines : dumps.disassembly = some lines) (h : ofDumps file dumps = .ok a) :
    ∃ imported d, a.imports = empty.addRange imported ∧
      Disassembly.read lines file (ImportTable.symbolTexts a.imports) [] = .ok d ∧
      a.regions = d.regions ∧ a.calls = empty.addRange d.calls := by
  rw [ofDumps_eq hlines] at h
  obtain ⟨exported, -, h⟩ := bind_eq_ok.mp h
  obtain ⟨imported, -, h⟩ := bind_eq_ok.mp h
  obtain ⟨dependents, -, h⟩ := bind_eq_ok.mp h
  obtain ⟨d, hread, h⟩ := bind_eq_ok.mp h
  cases h
  exact ⟨imported, d, rfl, hread, rfl, rfl⟩

/-- In an analysis with a disassembly, every call edge is one of the analysed file, from one of the
functions of the analysis to one of its functions or to the symbol of one of its imports. No two
edges have the same caller and callee, and they are, in order, the first occurrences of these pairs
among the edges of the disassembly, read with the distinct symbols of the imports. -/
theorem ofDumps_callGraph {file : FilePath} {dumps : Dumps} {lines : List Text} {a : Analysis}
    (hlines : dumps.disassembly = some lines) (h : ofDumps file dumps = .ok a) :
    (∀ call ∈ a.calls.entries, call.calledFrom = file ∧
      (∃ region ∈ a.regions, region.name = call.caller) ∧
      ((∃ region ∈ a.regions, region.name = call.callee) ∨
        ∃ entry ∈ a.imports.entries, entry.symbol = call.callee)) ∧
    (a.calls.entries.map fun call => (call.caller, call.callee)).Nodup ∧
    ImportTable.symbolTexts a.imports = (a.imports.entries.map (·.symbol)).eraseDups ∧
    ∃ d, Disassembly.read lines file (ImportTable.symbolTexts a.imports) [] = .ok d ∧
      a.regions = d.regions ∧
      a.calls.entries = d.calls.eraseDupsBy fun call earlier =>
        (call.caller, call.callee) == (earlier.caller, earlier.callee) := by
  obtain ⟨imported, d, himports, hread, hregions, hcalls⟩ := ofDumps_disassembly hlines h
  have hmem : ∀ call ∈ d.calls, call.calledFrom = file ∧ call.caller ∈ d.functionNames ∧
      (call.callee ∈ d.functionNames ∨ call.callee ∈ ImportTable.symbolTexts a.imports ∨
        call.callee ∈ ([] : List (Text × Text)).map (·.2)) :=
    fun call hcall => Disassembly.mem_calls hread hcall
  have hentries := entries_addRange_calls fun call hcall => (hmem call hcall).1
  rw [← hcalls] at hentries
  have hsymbols : ImportTable.symbolTexts a.imports
      = (a.imports.entries.map (·.symbol)).eraseDups := by
    rw [himports]
    exact ImportTable.symbolTexts_after [.addRange imported]
  have hfunction {name : Text} (hname : name ∈ d.functionNames) :
      ∃ region ∈ a.regions, region.name = name := by
    rw [hregions]
    exact List.mem_map.mp hname
  refine ⟨?_, ?_, hsymbols, d, hread, hregions, hentries⟩
  · intro call hcall
    rw [hentries] at hcall
    obtain ⟨hfile, hcaller, hcallee⟩ := hmem call (eraseDupsBy_subset _ _ hcall)
    refine ⟨hfile, hfunction hcaller, ?_⟩
    rcases hcallee with hname | himported | halias
    · exact .inl (hfunction hname)
    · rw [hsymbols] at himported
      exact .inr (List.mem_map.mp (eraseDupsBy_subset _ _ himported))
    · cases halias
  · rw [hentries]
    refine List.pairwise_map.mpr ((pairwise_eraseDupsBy _ d.calls).imp ?_)
    intro earlier later hne
    exact (beq_eq_false_iff_ne.mp hne).symm

/-- A file with two functions, one of which refers twice to the other and to an imported symbol
through its thunk. -/
def pingPong : Dumps where
  imports := ["Section contains the following imports:".toList, "KERNEL32.dll".toList,
    "2B5 Sleep".toList]
  disassembly := some ["Dump of file a.dll".toList, "File Type: DLL".toList,
    "ping:".toList, "  00401000: E8 00  call pong".toList, "  call [__imp_Sleep]".toList,
    "  jmp pong+4".toList, "pong:".toList, "  call ping".toList]

theorem ofDumps_callGraph_pingPong :
    ∃ lines a, pingPong.disassembly = some lines ∧ ofDumps default pingPong = .ok a ∧
      (∀ call ∈ a.calls.entries, ∃ region ∈ a.regions, region.name = call.caller) ∧
      ∃ d, Disassembly.read lines default (ImportTable.symbolTexts a.imports) [] = .ok d ∧
        a.calls.entries = d.calls.eraseDupsBy fun call earlier =>
          (call.caller, call.callee) == (earlier.caller, earlier.callee) := by
  obtain ⟨a, ha⟩ : ∃ a, ofDumps default pingPong = .ok a := ⟨_, rfl⟩
  obtain ⟨lines, hlines⟩ : ∃ lines, pingPong.disassembly = some lines := ⟨_, rfl⟩
  obtain ⟨hclosed, -, -, d, hread, -, hcalls⟩ := ofDumps_callGraph hlines ha
  exact ⟨lines, a, hlines, ha, fun call hcall => (hclosed call hcall).2.1, d, hread, hcalls⟩

end Analysis

end SymbolAtlas
