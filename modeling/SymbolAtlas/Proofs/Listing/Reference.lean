/-
# SymbolAtlas.Proofs.Listing.Reference — every call edge joins symbols that are known

A resolver is filled in several passes that overwrite one another, and the operands of a listing are
arbitrary text. Whatever they are, a text can only stand for a symbol that some pass has entered:
an imported symbol, the name of a function or the symbol of an alias. Reading a region keeps its name
and collects nothing but symbols of the resolver, so the edges of a disassembly go from its functions
to its functions and to the symbols it was given.
-/
import SymbolAtlas.Proofs.Listing.CodeLine
import SymbolAtlas.Proofs.Listing.Calls

namespace SymbolAtlas

/-! ## The symbols of a resolver -/

namespace Resolver

/-- The symbols that texts stand for. -/
def symbols (r : Resolver) : List Text := r.map (·.2)

/-- What a text stands for is a symbol of the resolver. -/
theorem mem_symbols_of_resolve? {r : Resolver} {text symbol : Text}
    (h : r.resolve? text = some symbol) : symbol ∈ r.symbols := by
  obtain ⟨above, below, hr, -⟩ := List.lookup_eq_some_iff.mp h
  rw [symbols, hr]
  simp

theorem symbols_enter (text symbol : Text) (r : Resolver) :
    (enter text symbol r).symbols ⊆ symbol :: r.symbols := by
  induction r with
  | nil => exact List.Subset.refl _
  | cons entry rest ih =>
      obtain ⟨known, old⟩ := entry
      rw [enter]
      split
      · -- the old symbol is overwritten
        intro s hs
        rcases List.mem_cons.mp hs with rfl | hrest
        · exact List.mem_cons_self
        · exact List.mem_cons_of_mem _ (List.mem_cons_of_mem _ hrest)
      · intro s hs
        rcases List.mem_cons.mp hs with rfl | hrest
        · exact List.mem_cons_of_mem _ List.mem_cons_self
        · rcases List.mem_cons.mp (ih hrest) with rfl | hold
          · exact List.mem_cons_self
          · exact List.mem_cons_of_mem _ (List.mem_cons_of_mem _ hold)

theorem symbols_enterNew (text symbol : Text) (r : Resolver) :
    (enterNew text symbol r).symbols ⊆ symbol :: r.symbols := by
  rw [enterNew]
  split
  · exact List.subset_cons_self _ _
  · exact symbols_enter text symbol r

theorem symbols_enterLabel {r next : Resolver} {name : Text} (h : enterLabel r name = .ok next) :
    next.symbols ⊆ name :: r.symbols := by
  rw [enterLabel, bind_eq_ok] at h
  obtain ⟨word, -, h⟩ := h
  cases h
  split
  · exact List.subset_cons_self _ _
  · exact symbols_enterNew word name r

/-- A pass over some items that enters at most one symbol for each. -/
theorem symbols_foldl {α : Type} {pass : Resolver → α → Resolver} (symbolOf : α → Text)
    (hpass : ∀ r item, (pass r item).symbols ⊆ symbolOf item :: r.symbols) (items : List α)
    (r : Resolver) : (items.foldl pass r).symbols ⊆ items.map symbolOf ++ r.symbols := by
  induction items generalizing r with
  | nil => exact List.Subset.refl _
  | cons item rest ih =>
      intro symbol hsymbol
      rcases List.mem_append.mp (ih (pass r item) hsymbol) with hrest | hpassed
      · exact List.mem_append_left _ (List.mem_cons_of_mem _ hrest)
      · rcases List.mem_cons.mp (hpass r item hpassed) with rfl | hr
        · exact List.mem_append_left _ List.mem_cons_self
        · exact List.mem_append_right _ hr

theorem symbols_enterLabels {names : List Text} {r next : Resolver}
    (h : names.foldlM enterLabel r = .ok next) : next.symbols ⊆ names ++ r.symbols := by
  induction names generalizing r with
  | nil =>
      cases h
      exact List.Subset.refl _
  | cons name rest ih =>
      rw [List.foldlM_cons, bind_eq_ok] at h
      obtain ⟨labelled, hlabel, h⟩ := h
      intro symbol hsymbol
      rcases List.mem_append.mp (ih h hsymbol) with hrest | hlabelled
      · exact List.mem_append_left _ (List.mem_cons_of_mem _ hrest)
      · rcases List.mem_cons.mp (symbols_enterLabel hlabel hlabelled) with rfl | hr
        · exact List.mem_append_left _ List.mem_cons_self
        · exact List.mem_append_right _ hr

/-- The symbols of a resolver are those that it was built from. -/
theorem symbols_build {names imported : List Text} {aliases : List (Text × Text)} {r : Resolver}
    (h : build names imported aliases = .ok r) :
    ∀ symbol ∈ r.symbols, symbol ∈ names ∨ symbol ∈ imported ∨ symbol ∈ aliases.map (·.2) := by
  rw [build, bind_eq_ok] at h
  obtain ⟨labels, hlabels, h⟩ := h
  cases h
  intro symbol hsymbol
  -- from the last pass back to the first
  have hexact := symbols_foldl id
    (fun r symbol => symbols_enter symbol symbol r) _ _ hsymbol
  rw [List.map_id, List.mem_append, List.mem_append] at hexact
  rcases hexact with (himported | hname) | hgiven
  · exact .inr (.inl himported)
  · exact .inl hname
  · have haliases := symbols_foldl Prod.snd
      (fun r (entry : Text × Text) => symbols_enter entry.1 entry.2 r) _ _ hgiven
    rcases List.mem_append.mp haliases with halias | hlabelled
    · exact .inr (.inr halias)
    · rcases List.mem_append.mp (symbols_enterLabels hlabels hlabelled) with hname | hthunk
      · exact .inl hname
      · have hthunks := symbols_foldl id
          (fun r symbol => symbols_enterNew (thunkMark ++ symbol) symbol r) _ _ hthunk
        rw [List.map_id, symbols, List.map_nil, List.append_nil] at hthunks
        exact .inr (.inl hthunks)

end Resolver

/-! ## Reading regions -/

/-- A line refers to symbols of the resolver only. -/
theorem CodeLine.references_subset (resolver : Resolver) (line : Text) :
    CodeLine.references resolver line ⊆ resolver.symbols := by
  intro symbol hsymbol
  obtain ⟨part, -, hpart⟩ := List.mem_filterMap.mp hsymbol
  unfold CodeLine.reference? at hpart
  split at hpart
  · cases hpart
  · exact Resolver.mem_symbols_of_resolve? hpart

/-- What a reader never loses: the name of its region, and that it has collected symbols of the
resolver only. -/
structure RegionReader.Reads (resolver : Resolver) (name : Text) (r : RegionReader) : Prop where
  name_eq : r.region.name = name
  callees : r.callees ⊆ resolver.symbols

theorem RegionReader.Reads.feed {resolver : Resolver} {name : Text} {r next : RegionReader}
    {line : Text} (h : r.Reads resolver name) (hfeed : feed resolver r line = .ok next) :
    next.Reads resolver name := by
  rw [feed_spec] at hfeed
  cases hfeed
  obtain ⟨hcallees, houtline⟩ := readLine_frame resolver r line
  have hname : (readLine resolver r line).region.name = r.region.name :=
    congrArg Prod.fst houtline
  refine ⟨hname.trans h.name_eq, ?_⟩
  rw [hcallees]
  exact List.append_subset.mpr ⟨h.callees, CodeLine.references_subset resolver line⟩

/-- Whatever the lines are, reading a region keeps its name and collects symbols of the resolver. -/
theorem RegionReader.reads_run {resolver : Resolver} {lines : List Text} {region : Region}
    {reader : RegionReader} (h : run resolver lines region = .ok reader) :
    reader.Reads resolver region.name := by
  rw [run, bind_eq_ok] at h
  obtain ⟨fed, hfed, h⟩ := h
  cases h
  have hstart : Reads resolver region.name { region := region } :=
    ⟨rfl, List.nil_subset _⟩
  have hreads : fed.Reads resolver region.name :=
    foldRange_preserves (fun _ _ _ _ hstate hstep => hstate.feed hstep) hstart hfed
  -- completing the region changes its counts only
  exact ⟨hreads.name_eq, hreads.callees⟩

/-- Every edge of a disassembly is an edge of its file, from one of its functions to one of its
functions, an imported symbol or the symbol of an alias. -/
theorem Disassembly.mem_calls {lines : List Text} {file : FilePath} {imported : List Text}
    {aliases : List (Text × Text)} {d : Disassembly} (h : read lines file imported aliases = .ok d)
    {call : CallEntry} (hcall : call ∈ d.calls) :
    call.calledFrom = file ∧ call.caller ∈ d.functionNames ∧
      (call.callee ∈ d.functionNames ∨ call.callee ∈ imported ∨
        call.callee ∈ aliases.map (·.2)) := by
  rw [read, bind_eq_ok] at h
  obtain ⟨bounds, -, h⟩ := h
  obtain ⟨regions, -, h⟩ := bind_eq_ok.mp h
  obtain ⟨resolver, hresolver, h⟩ := bind_eq_ok.mp h
  obtain ⟨readers, hreaders, h⟩ := bind_eq_ok.mp h
  cases h
  have hnames : (readers.map (·.region)).map (·.name) = regions.map (·.name) := by
    rw [List.map_map]
    exact map_of_mapM hreaders fun region reader hrun => (RegionReader.reads_run hrun).name_eq
  obtain ⟨reader, hreader, hcall⟩ := List.mem_flatMap.mp hcall
  obtain ⟨callee, hcallee, rfl⟩ := List.mem_map.mp hcall
  obtain ⟨region, -, hrun⟩ := mem_of_mapM hreaders reader hreader
  have hsymbol := (RegionReader.reads_run hrun).callees hcallee
  refine ⟨rfl, List.mem_map_of_mem (List.mem_map_of_mem hreader), ?_⟩
  rw [functionNames, hnames]
  exact Resolver.symbols_build hresolver callee hsymbol

end SymbolAtlas
