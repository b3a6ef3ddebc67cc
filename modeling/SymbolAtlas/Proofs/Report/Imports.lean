/-
# SymbolAtlas.Proofs.Report.Imports — a report on imports shows each of them once

An import passes through three equalities on its way to a report: the table drops it if its file, in
any case, and its symbol were seen before; the column of providers lists a file once, in the
spelling seen first; and the report is an object whose members are told apart by that spelling. The
groups of `Groups` divide what the table holds. Here they are followed to the report of a tool, in
which no member hides another, each import is found under one member, and the two numbers count what
is shown.
-/
import SymbolAtlas.Proofs.Report.Groups
import SymbolAtlas.Proofs.Report.Interference
import SymbolAtlas.Proofs.Session
import Mathlib.Algebra.Ring.Nat

namespace SymbolAtlas

open Table

variable {σ : Type}

/-! ## The imports of one file -/

namespace Imports

/-- All functions of a listing are imported by the file that the listing is of. -/
theorem calledFrom_of_readBody {caller : FilePath} {provider : Option FileHint}
    {rows : List (Nat × Text)} {imported : List ImportEntry}
    (h : readBody caller provider rows = .ok imported) :
    ∀ entry ∈ imported, entry.calledFrom = caller := by
  induction rows generalizing provider imported with
  | nil =>
      cases h
      simp
  | cons row rest ih =>
      unfold readBody at h
      split at h
      · exact ih h
      · exact ih h
      · exact ih h
      · cases h
      · -- only a line that names a function below a file adds an entry
        split at h
        · cases h
        · obtain ⟨below, hbelow, rfl⟩ := map_eq_ok.mp h
          intro entry hentry
          rcases List.mem_cons.mp hentry with rfl | hentry
          · rfl
          · exact ih hbelow entry hentry

theorem calledFrom_of_read {caller : FilePath} {lines : List Text} {imported : List ImportEntry}
    (h : read lines caller = .ok imported) : ∀ entry ∈ imported, entry.calledFrom = caller := by
  obtain ⟨bounds, -, hbody⟩ := bind_eq_ok.mp h
  exact calledFrom_of_readBody hbody

end Imports

/-- Among the imports of one file, the key of the table is the name of the provider in lower case
and the symbol. -/
theorem ImportEntry.sameKey_of_file {file : FilePath} {a b : ImportEntry} (ha : a.calledFrom = file)
    (hb : b.calledFrom = file) :
    sameKey a b = ((a.provider.name.lower, a.symbol) == (b.provider.name.lower, b.symbol)) := by
  refine Bool.eq_iff_iff.mpr (beq_iff_eq.trans ?_)
  show ImportEntry.key a = ImportEntry.key b ↔ _
  rw [ImportEntry.key, ImportEntry.key, ha, hb, Prod.mk.injEq, beq_iff_eq]
  exact and_iff_right rfl

/-- Some imports without repetition: those with one provider, in any case, and one symbol are one
import, which stands where the first of them does. -/
def ImportReport.distinct (imported : List ImportEntry) : List ImportEntry :=
  imported.eraseDupsBy fun a b =>
    (a.provider.name.lower, a.symbol) == (b.provider.name.lower, b.symbol)

theorem entries_addRange_imports {file : FilePath} {imported : List ImportEntry}
    (h : ∀ entry ∈ imported, entry.calledFrom = file) :
    ((empty : ImportTable).addRange imported).entries = ImportReport.distinct imported := by
  rw [addRange_empty]
  exact eraseDupsBy_congr fun a ha b hb => ImportEntry.sameKey_of_file (h a ha) (h b hb)

/-! ## The groups as members of a report -/

namespace ImportReport

theorem nodup_distinct (imported : List ImportEntry) :
    ((distinct imported).map fun e => (e.provider.name.lower, e.symbol)).Nodup := by
  refine List.pairwise_map.mpr ((pairwise_eraseDupsBy _ imported).imp ?_)
  intro earlier later hne
  exact (beq_eq_false_iff_ne.mp hne).symm

/-- That groups show some imports, each under the name of its provider and no other. -/
structure Shows (entries : List ImportEntry) (groups : List (Text × List Text)) : Prop
    extends Divides entries groups where
  /-- The name of a group is spelled as the first import of its file spells it. -/
  spelled : ∀ group ∈ groups, ∃ first,
    (entries.find? fun e => e.provider.name.lower = group.1.lower) = some first ∧
      first.provider.name = group.1
  /-- As members of an object, no group hides another. -/
  named : ∀ group ∈ groups, groups.lookup group.1 = some group.2
  /-- An import is shown once, in the only group of its file. -/
  once : ∀ e ∈ entries, ∃ group ∈ groups, group.1.lower = e.provider.name.lower ∧
    group.2.count e.symbol = 1 ∧
    ∀ other ∈ groups, other.1.lower = e.provider.name.lower → other = group

theorem Divides.sum_symbols {entries : List ImportEntry} {groups : List (Text × List Text)}
    (h : Divides entries groups) : (groups.map (·.2.length)).sum = entries.length := by
  have hlength := h.whole.length_eq
  simpa only [List.length_flatMap, List.length_map] using hlength

variable {entries : List ImportEntry}

theorem mem_providersOf {provider : FileHint} (h : provider ∈ providersOf entries) :
    ∃ first, (entries.find? fun e => e.provider.name.lower = provider.name.lower) = some first ∧
      first.provider = provider := by
  have hfirst := find?_of_mem_eraseDupsBy (fun a b : FileHint => a.key == b.key)
    (fun _ => beq_self_eq_true _) BEq.trans h
  rw [List.find?_map, Option.map_eq_some_iff] at hfirst
  obtain ⟨first, hfind, hprovider⟩ := hfirst
  refine ⟨first, ?_, hprovider⟩
  rw [← hfind]
  congr 1
  funext e
  rw [Bool.eq_iff_iff, decide_eq_true_iff, Function.comp_apply, beq_iff_eq]
  exact eq_comm

theorem exists_providersOf {e : ImportEntry} (h : e ∈ entries) :
    ∃ provider ∈ providersOf entries, provider.name.lower = e.provider.name.lower := by
  obtain ⟨provider, hmem, hkey⟩ := exists_agreeing_first
    (fun a b : FileHint => a.key == b.key) (fun _ => beq_self_eq_true _) BEq.trans
    (List.mem_map_of_mem (f := (·.provider)) h)
  exact ⟨provider, hmem, (beq_iff_eq.mp hkey).symm⟩

/-- Of one file, no symbol is imported twice. -/
theorem nodup_groupOf (h : (entries.map fun e => (e.provider.name.lower, e.symbol)).Nodup)
    (provider : FileHint) : (groupOf entries provider).2.Nodup := by
  refine List.pairwise_map.mpr (List.Pairwise.imp_of_mem ?_
    ((List.pairwise_map.mp h).filter _))
  intro a b ha hb hne hsymbol
  have hfile (e : ImportEntry) (he : e ∈ entries.filter fun e =>
      e.provider.name.lower = provider.name.lower) :
      e.provider.name.lower = provider.name.lower := by
    simpa using (List.mem_filter.mp he).2
  exact hne (Prod.ext ((hfile a ha).trans (hfile b hb).symm) hsymbol)

/-- Imports that are distinct are shown by groups that divide them, one for each provider. -/
theorem Shows.of_divides (h : (entries.map fun e => (e.provider.name.lower, e.symbol)).Nodup)
    (hdivides : Divides entries ((providersOf entries).map (groupOf entries))) :
    Shows entries ((providersOf entries).map (groupOf entries)) where
  toDivides := hdivides
  spelled := by
    intro group hgroup
    obtain ⟨provider, hprovider, rfl⟩ := List.mem_map.mp hgroup
    obtain ⟨first, hfind, heq⟩ := mem_providersOf hprovider
    exact ⟨first, hfind, congrArg FileHint.name heq⟩
  named := by
    intro group hgroup
    obtain ⟨above, below, hsplit⟩ := List.append_of_mem hgroup
    refine List.lookup_eq_some_iff.mpr ⟨above, below, hsplit, ?_⟩
    intro other hother
    have hapart := hdivides.apart
    rw [hsplit, List.map_append, List.map_cons] at hapart
    have hne := (List.pairwise_append.mp hapart).2.2 _ (List.mem_map_of_mem hother) _
      List.mem_cons_self
    simp only [bne_iff_ne]
    intro heq
    exact hne (congrArg Text.lower heq.symm)
  once := by
    intro e he
    obtain ⟨provider, hprovider, hfile⟩ := exists_providersOf he
    have hgroup := List.mem_map_of_mem (f := groupOf entries) hprovider
    refine ⟨groupOf entries provider, hgroup, hfile, ?_, ?_⟩
    · refine List.count_eq_one_of_mem (nodup_groupOf h provider) ?_
      exact List.mem_map_of_mem (List.mem_filter.mpr ⟨he, by simpa using hfile.symm⟩)
    · intro other hother hlower
      exact List.inj_on_of_nodup_map hdivides.apart hother hgroup (hlower.trans hfile.symm)

/-! ## The report of a tool -/

/-- Grouping the imports of a dump never fails, and each import is shown once. -/
theorem ofLines_shows {file : FilePath} {lines : List Text} {imported : List ImportEntry}
    (h : Imports.read lines file = .ok imported) :
    ∃ report, ofLines file lines = .ok report ∧ report.file = file ∧
      Shows (distinct imported) report.groups ∧
      report.table.size = (report.groups.map (·.2.length)).sum := by
  let table : ImportTable := empty.addRange imported
  have hentries : table.entries = distinct imported :=
    entries_addRange_imports (Imports.calledFrom_of_read h)
  have hproviders := agrees_provider imported
  let groups := (providersOf table.entries).map (groupOf table.entries)
  have hgroups : groupsOf table = .ok groups := groupsOf_eq hproviders
  have hdivides : Divides table.entries groups := divides_groups hproviders
  have hnodup : (table.entries.map fun e => (e.provider.name.lower, e.symbol)).Nodup := by
    rw [hentries]
    exact nodup_distinct imported
  refine ⟨⟨file, table, groups⟩, ?_, rfl, ?_, ?_⟩
  · rw [ofLines, h]
    show (groupsOf table >>= _) = _
    rw [hgroups]
    rfl
  · rw [← hentries]
    exact Shows.of_divides hnodup hdivides
  · exact hdivides.sum_symbols.symm

/-- That the binary at a path is found, its imports are dumped, and the dump is read. -/
def Reads (host : Host σ) (path : Text) (state : Invoker × σ) (binary : Target)
    (imported : List ImportEntry) (last : Invoker × σ) : Prop :=
  ∃ found lines, (Session.onHost (target host path)).run.run state = (.ok binary, found) ∧
    (Invoker.dump host .imports binary.file.fullName).run.run found = (.ok lines, last) ∧
    Imports.read lines binary.file = .ok imported

/-- Whatever the imports of a binary are, they are reported if they can be read at all. The report
has a member for each providing file, in any case, named as the first import from there spells it;
no member hides another. Each import, without repetitions, stands once in the member of its file,
and members keep the order of the listing. The summary counts the symbols of all members, and the
members. -/
theorem each_import_shown_once (host : Host σ) (path : Text) (state last : Invoker × σ) :
    (∀ json, (Tool.call host path .listImports).run.run state = (.ok json, last) →
      ∃ binary imported, Reads host path state binary imported last) ∧
    ∀ binary imported, Reads host path state binary imported last →
      ∃ groups shown, Shows (distinct imported) groups ∧ shown = (groups.map (·.2.length)).sum ∧
        (Tool.call host path .listImports).run.run state = (.ok (.obj [
          ("file", binary.file.toJson),
          ("imports", .obj (groups.map fun group => (Text.str group.1, .texts group.2))),
          ("summary", .str s!"{shown} imported function(s) from {groups.length} provider(s).")]),
          last) := by
  refine ⟨?accepted, ?shown⟩
  case accepted =>
    intro json h
    obtain ⟨binary, found, hbinary, h⟩ := Step.run_bind_eq_ok.mp h
    obtain ⟨report, next, hreport, h⟩ := Step.run_bind_eq_ok.mp h
    obtain ⟨lines, dumped, hdump, hlines⟩ := Step.run_bind_eq_ok.mp hreport
    obtain ⟨hread, rfl⟩ := Prod.mk.inj hlines
    cases h
    obtain ⟨imported, himported, -⟩ := bind_eq_ok.mp hread
    exact ⟨binary, imported, found, lines, hbinary, hdump, himported⟩
  case shown =>
    rintro binary imported ⟨found, lines, hbinary, hdump, hread⟩
    obtain ⟨report, hreport, hfile, hshows, hsize⟩ := ofLines_shows hread
    have hmade : (ofBinary host binary.file).run.run found = (.ok report, last) :=
      Step.run_bind_eq_ok.mpr ⟨lines, last, hdump, by rw [hreport]; rfl⟩
    refine ⟨report.groups, report.table.size, hshows, hsize, ?_⟩
    refine Step.run_bind_eq_ok.mpr ⟨binary, found, hbinary, ?_⟩
    refine Step.run_bind_eq_ok.mpr ⟨report, last, hmade, ?_⟩
    rw [← hfile]
    rfl

/-- A dumper that names one file twice, in different cases, with one of its functions twice. -/
def mixedCaseDumper (_ : List Text) : ProcessResult where
  lines := ["Section contains the following imports:".toList, "KERNEL32.dll".toList,
    "2B5 Sleep".toList, "1A ExitThread".toList, "USER32.dll".toList, "7 Sleep".toList,
    "kernel32.DLL".toList, "2B5 Sleep".toList, "3C Beep".toList]
  exitStatus := 0
  errorLines := []

theorem each_import_shown_once_mixedCaseDumper :
    ∃ binary imported groups,
      Reads (Host.answering mixedCaseDumper) "a.dll".toList
        (Invoker.new {} "dumpbin.exe".toList, ()) binary imported
        (Invoker.new {} "dumpbin.exe".toList, ()) ∧
      imported.length = 5 ∧ (distinct imported).length = 4 ∧
      Shows (distinct imported) groups ∧ (groups.map (·.2.length)).sum = 4 := by
  obtain ⟨binary, imported, hreads, hlength, hdistinct⟩ : ∃ binary imported,
      Reads (Host.answering mixedCaseDumper) "a.dll".toList
        (Invoker.new {} "dumpbin.exe".toList, ()) binary imported
        (Invoker.new {} "dumpbin.exe".toList, ()) ∧
      imported.length = 5 ∧ (distinct imported).length = 4 :=
    ⟨_, _, ⟨_, _, rfl, rfl, rfl⟩, rfl, rfl⟩
  obtain ⟨groups, -, hshows, -⟩ := (each_import_shown_once _ _ _ _).2 binary imported hreads
  exact ⟨binary, imported, groups, hreads, hlength, hdistinct, hshows,
    hshows.sum_symbols.trans hdistinct⟩

example : (ofLines default (mixedCaseDumper []).lines).map (·.groups)
    = .ok [("KERNEL32.dll".toList, ["Sleep".toList, "ExitThread".toList, "Beep".toList]),
      ("USER32.dll".toList, ["Sleep".toList])] := by
  rfl

end ImportReport

end SymbolAtlas
