/-
# SymbolAtlas.Proofs.Report.MostCalled — the callees with the most callers

A report on the calls of a binary counts the edges to each callee. An edge is stored once for each
pair of caller and callee, so what is counted are callers: a function that refers to a symbol many
times is one of them, and so are all regions of one name together. Counting passes over the edges in
order and keeps a callee where it first appears; the ranking by these numbers is stable, and is cut
at a limit.
-/
import SymbolAtlas.Proofs.Analysis.CallGraph
import SymbolAtlas.Proofs.Report.Interference
import SymbolAtlas.Proofs.Report.Ranking
import SymbolAtlas.Proofs.Session
import Mathlib.Algebra.BigOperators.Group.List.Lemmas
import Mathlib.Data.Finset.Card

namespace SymbolAtlas

open Table

variable {σ : Type}

namespace CallGraph

/-! ## Counting -/

section Count

variable {known : List Text} {text : Text} (number : Text → Nat)

/-- One more occurrence of a text that was counted before changes its number only. -/
theorem count_of_mem (hknown : known.Nodup) (h : text ∈ known) :
    count text (known.map fun t => (t, number t))
      = known.map fun t => (t, if t = text then number t + 1 else number t) := by
  induction known with
  | nil => cases h
  | cons other rest ih =>
      obtain ⟨hother, hrest⟩ := List.nodup_cons.mp hknown
      simp only [List.map_cons, count]
      by_cases heq : other = text
      · subst heq
        have hsame : ∀ t ∈ rest, (t, number t)
            = (t, if t = other then number t + 1 else number t) := by
          intro t ht
          rw [if_neg fun heq : t = other => hother (heq ▸ ht)]
        rw [if_pos rfl, if_pos rfl, List.map_congr_left hsame]
      · have hmem : text ∈ rest := by
          rcases List.mem_cons.mp h with heq' | hmem
          · exact absurd heq'.symm heq
          · exact hmem
        rw [if_neg heq, if_neg heq, ih hrest hmem]

/-- The first occurrence of a text is counted behind all others. -/
theorem count_of_notMem (h : text ∉ known) :
    count text (known.map fun t => (t, number t))
      = known.map (fun t => (t, number t)) ++ [(text, 1)] := by
  induction known with
  | nil => rfl
  | cons other rest ih =>
      rw [List.mem_cons, not_or] at h
      simp only [List.map_cons, count, List.cons_append]
      rw [if_neg (Ne.symm h.1), ih h.2]

end Count

/-- Counting texts one by one gives each of them where it first occurs, with its number. -/
theorem foldl_count (texts : List Text) :
    texts.foldl (fun counts text => count text counts) []
      = texts.eraseDups.map fun text => (text, texts.count text) := by
  induction texts using List.reverseRecOn with
  | nil => rfl
  | append_singleton texts last ih =>
      have hcount (text : Text) : (texts ++ [last]).count text
          = if text = last then texts.count text + 1 else texts.count text := by
        rw [List.count_append, List.count_singleton]
        by_cases heq : text = last
        · rw [if_pos heq, if_pos (beq_iff_eq.mpr heq.symm)]
        · rw [if_neg heq, if_neg fun h => heq (beq_iff_eq.mp h).symm, Nat.add_zero]
      rw [List.foldl_concat, ih, List.eraseDups, List.eraseDups, eraseDupsBy_concat]
      by_cases hmem : last ∈ texts.eraseDups
      · have hany : (texts.eraseDupsBy (· == ·)).any (last == ·) = true :=
          List.any_eq_true.mpr ⟨last, hmem, beq_self_eq_true last⟩
        rw [if_pos hany]
        simp only [hcount]
        exact count_of_mem _ (nodup_eraseDups texts) hmem
      · have hany : ¬ (texts.eraseDupsBy (· == ·)).any (last == ·) = true := by
          intro hany
          obtain ⟨text, htext, heq⟩ := List.any_eq_true.mp hany
          exact hmem (beq_iff_eq.mp heq ▸ htext)
        have hsame : ∀ text ∈ texts.eraseDups,
            (text, texts.count text) = (text, (texts ++ [last]).count text) := by
          intro text htext
          rw [hcount, if_neg fun heq : text = last => hmem (heq ▸ htext)]
        have hlast : (texts ++ [last]).count last = 1 := by
          have hnone : texts.count last = 0 :=
            List.count_eq_zero_of_not_mem fun h => hmem (List.mem_eraseDups.mpr h)
          rw [hcount, if_pos rfl, hnone]
        rw [if_neg hany, List.map_append, List.map_singleton, hlast]
        rw [← List.eraseDups, ← List.map_congr_left hsame]
        exact count_of_notMem _ hmem

/-- The fan-ins of a table of calls: each callee where it first appears, with the number of its
edges. -/
theorem fanIn_eq (calls : CallTable) :
    fanIn calls = (calls.entries.map (·.callee)).eraseDups.map fun callee =>
      (callee, (calls.entries.map (·.callee)).count callee) := by
  rw [← foldl_count, List.foldl_map]
  rfl

/-- The numbers of all texts make up the length of the list. -/
theorem sum_counts (texts : List Text) :
    (texts.eraseDups.map fun text => texts.count text).sum = texts.length := by
  have hperm : texts.eraseDups.Perm texts.dedup := by
    refine (List.perm_ext_iff_of_nodup (nodup_eraseDups texts) (List.nodup_dedup texts)).mpr ?_
    intro text
    rw [List.mem_eraseDups, List.mem_dedup]
  rw [(hperm.map _).sum_eq]
  refine Eq.trans (congrArg List.sum (List.map_congr_left fun text _ => ?_))
    (List.sum_map_count_dedup_eq_length texts)
  simp only [List.count_eq_countP, beq_eq_decide]

/-! ## Edges and callers -/

/-- Some call edges without repetition: a pair of caller and callee stands where it first occurs. -/
def distinct (calls : List CallEntry) : List CallEntry :=
  calls.eraseDupsBy fun a b => (a.caller, a.callee) == (b.caller, b.callee)

/-- The names of the functions that refer to a symbol. -/
def callersOf (calls : List CallEntry) (symbol : Text) : Finset Text :=
  ((calls.filter (·.callee = symbol)).map (·.caller)).toFinset

theorem mem_callersOf {calls : List CallEntry} {symbol caller : Text} :
    caller ∈ callersOf calls symbol
      ↔ ∃ call ∈ calls, (call.caller, call.callee) = (caller, symbol) := by
  simp only [callersOf, List.mem_toFinset, List.mem_map, List.mem_filter, decide_eq_true_eq,
    Prod.mk.injEq]
  refine exists_congr fun call => ?_
  rw [and_assoc, and_comm (a := call.callee = symbol)]

theorem exists_mem_distinct {calls : List CallEntry} {pair : Text × Text} :
    (∃ call ∈ distinct calls, (call.caller, call.callee) = pair)
      ↔ ∃ call ∈ calls, (call.caller, call.callee) = pair := by
  constructor
  · rintro ⟨call, hcall, heq⟩
    exact ⟨call, eraseDupsBy_subset _ _ hcall, heq⟩
  · rintro ⟨call, hcall, rfl⟩
    obtain ⟨first, hfirst, heq⟩ := exists_agreeing_first
      (fun a b : CallEntry => (a.caller, a.callee) == (b.caller, b.callee))
      (fun _ => beq_self_eq_true _) BEq.trans hcall
    exact ⟨first, hfirst, (beq_iff_eq.mp heq).symm⟩

/-- The edges to a symbol, without repetition, are as many as its callers. -/
theorem count_callee (calls : List CallEntry) (symbol : Text) :
    ((distinct calls).map (·.callee)).count symbol = (callersOf calls symbol).card := by
  have hcallers : callersOf calls symbol = callersOf (distinct calls) symbol := by
    ext caller
    rw [mem_callersOf, mem_callersOf, exists_mem_distinct]
  -- two edges to one symbol differ in their callers
  have hnodup : (((distinct calls).filter (·.callee = symbol)).map (·.caller)).Nodup := by
    refine List.pairwise_map.mpr (List.Pairwise.imp_of_mem ?_
      ((pairwise_eraseDupsBy _ calls).filter _))
    intro earlier later hearlier hlater hne hcaller
    have hcallee : earlier.callee = symbol := by simpa using (List.mem_filter.mp hearlier).2
    have hcallee' : later.callee = symbol := by simpa using (List.mem_filter.mp hlater).2
    exact beq_eq_false_iff_ne.mp hne (Prod.ext hcaller.symm (hcallee'.trans hcallee.symm))
  rw [hcallers, callersOf, List.toFinset_card_of_nodup hnodup, List.length_map,
    List.count_eq_countP, List.countP_map, List.countP_eq_length_filter]
  simp only [Function.comp_def, beq_eq_decide]

/-! ## The ranking -/

/-- That a list ranks the callees of some calls by the numbers of their callers. -/
structure Ranks (calls : List CallEntry) (ranking : List Text) : Prop where
  /-- All callees are ranked, and nothing else. -/
  callees : ∀ symbol, symbol ∈ ranking ↔ ∃ call ∈ calls, call.callee = symbol
  /-- No callee is ranked twice. -/
  nodup : ranking.Nodup
  /-- A callee stands before those with fewer callers, and before those with as many that appear
  later among the edges. -/
  order : ranking.Pairwise fun symbol later =>
    (callersOf calls later).card < (callersOf calls symbol).card ∨
      (callersOf calls later).card = (callersOf calls symbol).card ∧
        ((distinct calls).map (·.callee)).idxOf symbol
          < ((distinct calls).map (·.callee)).idxOf later
  /-- Wherever the ranking is cut, no callee that is left out has more callers than one that is
  not. -/
  cut : ∀ limit, ∀ symbol ∈ ranking.take limit, ∀ other ∈ ranking.drop limit,
    (callersOf calls other).card ≤ (callersOf calls symbol).card
  /-- The numbers of callers of all callees make up the number of edges. -/
  total : (ranking.map fun symbol => (callersOf calls symbol).card).sum = (distinct calls).length

/-- The callees of some calls by the numbers of their callers. -/
def ranking (calls : List CallEntry) : List Text :=
  rankByWeight (fun symbol => ((callersOf calls symbol).card : Int))
    ((distinct calls).map (·.callee)).eraseDups

theorem ranks_ranking (calls : List CallEntry) : Ranks calls (ranking calls) := by
  let callees := (distinct calls).map (·.callee)
  have hperm : (ranking calls).Perm callees.eraseDups := rankByWeight_perm _ _
  have hpairwise := pairwise_rankByWeight
    (fun symbol => ((callersOf calls symbol).card : Int)) (pairwise_idxOf_eraseDups callees)
  constructor
  case callees =>
    intro symbol
    rw [hperm.mem_iff, List.mem_eraseDups, List.mem_map]
    constructor
    · rintro ⟨call, hcall, heq⟩
      exact ⟨call, eraseDupsBy_subset _ _ hcall, heq⟩
    · rintro ⟨call, hcall, rfl⟩
      obtain ⟨first, hfirst, heq⟩ := exists_mem_distinct.mpr ⟨call, hcall, rfl⟩
      exact ⟨first, hfirst, congrArg Prod.snd heq⟩
  case nodup => exact hperm.nodup_iff.mpr (nodup_eraseDups callees)
  case order =>
    refine hpairwise.imp ?_
    intro symbol later hbefore
    rcases hbefore with hlt | ⟨heq, hfirst⟩
    · exact .inl (Int.ofNat_lt.mp hlt)
    · exact .inr ⟨Int.ofNat_inj.mp heq, hfirst⟩
  case cut =>
    intro limit symbol hsymbol other hother
    exact Int.ofNat_le.mp (weight_le_of_cut hpairwise limit symbol hsymbol other hother)
  case total =>
    rw [(hperm.map _).sum_eq]
    simp only [← count_callee]
    exact (sum_counts callees).trans (List.length_map _)

/-- What a report shows of the callees of a table: the begin of the ranking, with the numbers of
callers. -/
theorem mostCalled_eq {table : CallTable} {calls : List CallEntry}
    (h : table.entries = distinct calls) :
    mostCalled table = ((ranking calls).take rankLimit).map fun symbol =>
      (symbol, (callersOf calls symbol).card) := by
  rw [mostCalled, fanIn_eq, h]
  simp only [count_callee]
  rw [rankByWeight_map, ← List.map_take]
  rfl

/-! ## Imported callees -/

/-- A symbol is imported if one of the imports that were read has it. -/
theorem isImported_eq {a : Analysis} {imported : List ImportEntry}
    (h : a.imports = empty.addRange imported) (symbol : Text) :
    isImported a symbol = decide (∃ entry ∈ imported, entry.symbol = symbol) := by
  have hsymbols : ImportTable.symbolTexts a.imports
      = ((imported.eraseDupsBy sameKey).map (·.symbol)).eraseDups := by
    have hentries : ((empty : ImportTable).addRange imported).entries
        = imported.eraseDupsBy sameKey := by
      rw [addRange_empty]
      rfl
    rw [h, ← hentries]
    exact ImportTable.symbolTexts_after [.addRange imported]
  rw [isImported, hsymbols, Bool.eq_iff_iff, List.contains_iff_mem, List.mem_eraseDups,
    List.mem_map, decide_eq_true_iff]
  constructor
  · rintro ⟨entry, hentry, heq⟩
    exact ⟨entry, eraseDupsBy_subset _ _ hentry, heq⟩
  · rintro ⟨entry, hentry, rfl⟩
    obtain ⟨first, hfirst, hsame⟩ :=
      exists_agreeing_first sameKey (fun _ => BEq.rfl) BEq.trans hentry
    have hkey : ImportEntry.key entry = ImportEntry.key first := eq_of_beq hsame
    exact ⟨first, hfirst, (congrArg (fun key => key.2.2) hkey).symm⟩

end CallGraph

/-! ## The analysis of calls -/

namespace Analysis

/-- The analysis of calls dumps the imports and the disassembly, and reads both. -/
theorem ofCalls_eq_ok {host : Host σ} {file : FilePath} {state last : Invoker × σ} {a : Analysis} :
    (ofCalls host file).run.run state = (.ok a, last)
      ↔ ∃ imports dumped code,
        (Invoker.dump host .imports file.fullName).run.run state = (.ok imports, dumped) ∧
        (Invoker.dump host .disassembly file.fullName).run.run dumped = (.ok code, last) ∧
        ofDumps file { imports := imports, disassembly := some code } = .ok a := by
  constructor
  · intro h
    obtain ⟨exports, before, hexports, h⟩ := Step.run_bind_eq_ok.mp h
    cases hexports
    obtain ⟨imports, dumped, himports, h⟩ := Step.run_bind_eq_ok.mp h
    obtain ⟨disassembly, next, hdisassembly, h⟩ := Step.run_bind_eq_ok.mp h
    obtain ⟨code, after, hcode, hsome⟩ := Step.run_bind_eq_ok.mp hdisassembly
    cases hsome
    obtain ⟨dependents, final, hdependents, h⟩ := Step.run_bind_eq_ok.mp h
    cases hdependents
    obtain ⟨hread, rfl⟩ := Prod.mk.inj h
    exact ⟨imports, dumped, code, himports, hcode, hread⟩
  · rintro ⟨imports, dumped, code, himports, hcode, hread⟩
    refine Step.run_bind_eq_ok.mpr ⟨none, state, rfl, ?_⟩
    refine Step.run_bind_eq_ok.mpr ⟨imports, dumped, himports, ?_⟩
    refine Step.run_bind_eq_ok.mpr ⟨some code, last, ?_, ?_⟩
    · exact Step.run_bind_eq_ok.mpr ⟨code, last, hcode, rfl⟩
    · refine Step.run_bind_eq_ok.mpr ⟨none, last, rfl, ?_⟩
      exact congrArg (·, last) hread

end Analysis

/-! ## The report of a tool -/

namespace CallGraph

/-- The report on the calls of a file, whose edges are all its own. -/
theorem toJson_ofReadings {file : FilePath} {imported : List ImportEntry} {d : Disassembly}
    (hfile : ∀ call ∈ d.calls, call.calledFrom = file) {edges : List CallEntry}
    (hedges : edges = distinct d.calls) {toImports : Nat}
    (htoImports : toImports
      = edges.countP fun call => ∃ entry ∈ imported, entry.symbol = call.callee) :
    toJson (Analysis.ofReadings file imported d) = .obj [
      ("calls", .arr (edges.map CallEntry.toJson)),
      ("most_called", .arr (((ranking d.calls).take rankLimit).map fun symbol => .obj [
        ("callee", .text symbol), ("callers", .int (callersOf d.calls symbol).card),
        ("imported", .bool (∃ entry ∈ imported, entry.symbol = symbol))])),
      ("anomalies", .arr []),
      ("summary", .str (s!"{edges.length} call edge(s) between {d.regions.length} function(s); " ++
        s!"{toImports} target imported APIs."))] := by
  let a := Analysis.ofReadings file imported d
  have hentries : a.calls.entries = distinct d.calls := entries_addRange_calls hfile
  have himported (symbol : Text) :
      isImported a symbol = decide (∃ entry ∈ imported, entry.symbol = symbol) :=
    isImported_eq rfl symbol
  have hcalls : a.calls.toJson = .arr (edges.map CallEntry.toJson) := by
    rw [Table.toJson, hentries, hedges]
    rfl
  have hcount : (a.calls.entries.countP fun call => isImported a call.callee) = toImports := by
    simp only [hentries, himported, htoImports, hedges]
  have hsummary : summary a
      = s!"{edges.length} call edge(s) between {d.regions.length} function(s); " ++
        s!"{toImports} target imported APIs." := by
    rw [summary, hcount, Table.size, hentries, hedges]
    rfl
  show toJson a = _
  rw [toJson, hcalls, mostCalled_eq hentries, hsummary, List.map_map]
  simp only [Function.comp_def, himported]
  rfl

/-- That the binary at a path is found, its imports and its disassembly are dumped, and both dumps
are read. -/
def Reads (host : Host σ) (path : Text) (state : Invoker × σ) (binary : Target)
    (imported : List ImportEntry) (d : Disassembly) (last : Invoker × σ) : Prop :=
  ∃ found dumped imports code,
    (Session.onHost (target host path)).run.run state = (.ok binary, found) ∧
    (Invoker.dump host .imports binary.file.fullName).run.run found = (.ok imports, dumped) ∧
    (Invoker.dump host .disassembly binary.file.fullName).run.run dumped = (.ok code, last) ∧
    Imports.read imports binary.file = .ok imported ∧
    Disassembly.read code binary.file (ImportTable.symbolTexts (empty.addRange imported)) []
      = .ok d

/-- A report on the calls of a binary is made exactly if imports and disassembly can be dumped and
read. It lists each edge once, and the first twenty callees of the ranking by callers, in which
callees with as many callers stand as they first appear. Beside each callee stands the number of
different functions that refer to it, and whether it is the symbol of an import; the summary counts
the edges to such callees. -/
theorem reported_callees_ranked (host : Host σ) (path : Text) (state last : Invoker × σ) :
    (∀ json, (Tool.call host path .extractCallGraph).run.run state = (.ok json, last) →
      ∃ binary imported d, Reads host path state binary imported d last) ∧
    ∀ binary imported d, Reads host path state binary imported d last →
      ∃ edges ranking toImports, edges = distinct d.calls ∧ Ranks d.calls ranking ∧
        toImports = edges.countP (fun call => ∃ entry ∈ imported, entry.symbol = call.callee) ∧
        (Tool.call host path .extractCallGraph).run.run state = (.ok (.obj [
          ("calls", .arr (edges.map CallEntry.toJson)),
          ("most_called", .arr ((ranking.take 20).map fun symbol => .obj [
            ("callee", .text symbol), ("callers", .int (callersOf d.calls symbol).card),
            ("imported", .bool (∃ entry ∈ imported, entry.symbol = symbol))])),
          ("anomalies", .arr []),
          ("summary", .str (s!"{edges.length} call edge(s) between {d.regions.length} function(s); "
            ++ s!"{toImports} target imported APIs."))]), last) := by
  refine ⟨?accepted, ?shown⟩
  case accepted =>
    intro json h
    obtain ⟨binary, found, hbinary, h⟩ := Step.run_bind_eq_ok.mp h
    obtain ⟨a, next, ha, h⟩ := Step.run_bind_eq_ok.mp h
    cases h
    obtain ⟨imports, dumped, code, himports, hcode, hread⟩ := Analysis.ofCalls_eq_ok.mp ha
    obtain ⟨imported, d, himported, hd, -⟩ := Analysis.ofDumps_eq_ok.mp hread
    exact ⟨binary, imported, d, found, dumped, imports, code, hbinary, himports, hcode,
      himported, hd⟩
  case shown =>
    rintro binary imported d ⟨found, dumped, imports, code, hbinary, himports, hcode, himported, hd⟩
    have hread := Analysis.ofDumps_eq_ok.mpr ⟨imported, d, himported, hd, rfl⟩
    have ha := Analysis.ofCalls_eq_ok.mpr ⟨imports, dumped, code, himports, hcode, hread⟩
    have hfile : ∀ call ∈ d.calls, call.calledFrom = binary.file :=
      fun call hcall => (Disassembly.mem_calls hd hcall).1
    refine ⟨_, ranking d.calls, _, rfl, ranks_ranking d.calls, rfl, ?_⟩
    refine Step.run_bind_eq_ok.mpr ⟨binary, found, hbinary, ?_⟩
    refine Step.run_bind_eq_ok.mpr ⟨_, last, ha, ?_⟩
    rw [toJson_ofReadings hfile rfl rfl]
    rfl

/-- A dumper that knows one import and two functions that refer to it, one of them three times and
in two regions. -/
def splitDumper (command : List Text) : ProcessResult where
  lines :=
    if command[1]? = some Dump.imports.option then
      ["Section contains the following imports:".toList, "KERNEL32.dll".toList, "2B5 Sleep".toList]
    else
      ["Dump of file a.dll".toList, "File Type: DLL".toList, "run:".toList,
        "  call stop".toList, "  call [__imp_Sleep]".toList, "  call [__imp_Sleep]".toList,
        "stop:".toList, "  call [__imp_Sleep]".toList, "run:".toList,
        "  call [__imp_Sleep]".toList]
  exitStatus := 0
  errorLines := []

theorem reported_callees_ranked_splitDumper :
    ∃ binary imported d ranking,
      Reads (Host.answering splitDumper) "a.dll".toList (Invoker.new {} "dumpbin.exe".toList, ())
        binary imported d (Invoker.new {} "dumpbin.exe".toList, ()) ∧
      d.calls.length = 5 ∧ (distinct d.calls).length = 3 ∧ Ranks d.calls ranking ∧
      (ranking.map fun symbol => (callersOf d.calls symbol).card).sum = 3 := by
  obtain ⟨binary, imported, d, hreads, hcalls, hedges⟩ : ∃ binary imported d,
      Reads (Host.answering splitDumper) "a.dll".toList (Invoker.new {} "dumpbin.exe".toList, ())
        binary imported d (Invoker.new {} "dumpbin.exe".toList, ()) ∧
      d.calls.length = 5 ∧ (distinct d.calls).length = 3 :=
    ⟨_, _, _, ⟨_, _, _, _, rfl, rfl, rfl, rfl, rfl⟩, rfl, rfl⟩
  obtain ⟨edges, ranking, -, -, hranks, -⟩ :=
    (reported_callees_ranked _ _ _ _).2 binary imported d hreads
  exact ⟨binary, imported, d, ranking, hreads, hcalls, hedges, hranks, hranks.total.trans hedges⟩

example : (Disassembly.read (splitDumper []).lines default ["Sleep".toList] []).map
      (fun d => mostCalled (empty.addRange d.calls))
    = .ok [("Sleep".toList, 2), ("stop".toList, 1)] := by
  rfl

end CallGraph

end SymbolAtlas
