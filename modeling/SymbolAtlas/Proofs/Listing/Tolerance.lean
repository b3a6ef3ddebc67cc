/-
# SymbolAtlas.Proofs.Listing.Tolerance — what brackets that do not match cost an export section

Brackets that do not match in a name text are meant to be soft: the line still gives an export, but
without a prototype, and an anomaly is noted. That a name text names something is decided elsewhere,
after the prototype is dropped. So the reading goes on past such a line exactly if its text has a
decorated name; a line that had nothing but its brackets ends the reading, and its anomaly is not
noted. `readLogged_tolerates` says so of every section whose lines have their columns.
-/
import SymbolAtlas.Proofs.Listing.ExportPass

namespace SymbolAtlas

open SymbolAtlas.Bracket

/-! ## Names -/

namespace ExportName

/-- The decorated name in front of the first mark of a name text, if there is one. -/
def decoratedName? (text : Text) : Option Text :=
  nonEmpty ((Text.beforeFirst? '=' text).map Text.trim)

/-- Without pairs a text names something exactly if it has a decorated name. -/
theorem ofText?_eq_none_iff {text : Text} (h : fault? text ≠ none) :
    ofText? text = none ↔ decoratedName? text = none := by
  obtain ⟨fault, hfault⟩ := Option.ne_none_iff_exists'.mp h
  have hprototype :
      nonEmpty ((pairs text).head?.map fun p => p.content text) = none := by
    rw [pairs_of_fault hfault]
    rfl
  simp only [ofText?, hprototype]
  unfold decoratedName?
  cases nonEmpty ((Text.beforeFirst? '=' text).map Text.trim) with
  | none => simp
  | some name => simp

end ExportName

namespace Exports

/-- A row that names nothing ends the reading. -/
theorem readBody_nameless {provider : FilePath} {row : Nat × Text}
    (hnotBlank : row.2.isBlankText = false) (hcolumns : hasColumns row.2 = true)
    (hnone : ExportName.ofText? (nameOf row.2) = none) (rest : List (Nat × Text)) :
    readBody provider (row :: rest)
      = ⟨[], fail .namelessExport (some row.1) row.2⟩ := by
  have hlacks : ¬ LacksColumn row.2 := by
    rw [lacksColumn_iff, hcolumns]
    exact Bool.noConfusion
  rw [readBody_bad hnotBlank (.inr hnone), defect, if_neg hlacks]

/-! ## Sections -/

/-- That the brackets in the name text of a row do not match, and that there is no decorated name in
front of them either. -/
def IsSpoilt (row : Nat × Text) : Prop :=
  fault? (nameOf row.2) ≠ none ∧ ExportName.decoratedName? (nameOf row.2) = none

instance (row : Nat × Text) : Decidable (IsSpoilt row) := inferInstanceAs (Decidable (_ ∧ _))

section Section

variable {lines : List Text}
  (hcolumns : ∀ row ∈ rows lines, hasColumns row.2 = true)
  (haccepted : ∀ row ∈ rows lines, fault? (nameOf row.2) = none →
    ExportName.ofText? (nameOf row.2) ≠ none)

include hcolumns haccepted

theorem isNamed_of_not_spoilt {row : Nat × Text} (h : row ∈ rows lines) (hrow : ¬ IsSpoilt row) :
    IsNamed row := by
  refine ⟨not_blank_of_mem_rows h, hcolumns row h, ?_⟩
  by_cases hfault : fault? (nameOf row.2) = none
  · exact haccepted row h hfault
  · intro hnone
    exact hrow ⟨hfault, (ExportName.ofText?_eq_none_iff hfault).mp hnone⟩

/-- In a section whose lines all have their columns, and whose name texts with matching brackets all
name something: if no line is spoilt, each line gives one entry, without a prototype where the
brackets do not match, and the lines with an anomaly are exactly those. Otherwise the first spoilt
line ends the reading with an error, and the anomalies noted are those of the lines before it. -/
theorem readLogged_tolerates (provider : FilePath) (log : Option (List Anomaly)) :
    ((∀ row ∈ rows lines, ¬ IsSpoilt row) →
      ∃ entries, readLogged lines provider log
          = (log.map (· ++ (rows lines).filterMap anomaly?), .ok entries) ∧
        List.Forall₂ (Gives provider) (rows lines) entries ∧
        ((rows lines).filterMap anomaly?).map Anomaly.message
          = (rows lines).filterMap fun row => (fault? (nameOf row.2)).map fun fault =>
            s!"line {row.1}: {fault.message}") ∧
    ∀ before row after, rows lines = before ++ row :: after →
      (∀ earlier ∈ before, ¬ IsSpoilt earlier) → IsSpoilt row →
      readLogged lines provider log = (log.map (· ++ before.filterMap anomaly?),
        .error (.parse ⟨"exports".toList, .namelessExport, some row.1, some row.2⟩)) := by
  constructor
  · intro hclean
    have hnamed : ∀ row ∈ rows lines, IsNamed row := by
      intro row hrow
      exact isNamed_of_not_spoilt hcolumns haccepted hrow (hclean row hrow)
    obtain ⟨entries, hgives, hread⟩ := readBody_append provider hnamed
    have hall := hread []
    rw [List.append_nil, ← read_eq_rows] at hall
    refine ⟨entries, ?_, hgives, ?_⟩
    · rw [readLogged, hall]
      simp [readBody, Except.map]
    · rw [List.map_filterMap]
      refine congrArg (List.filterMap · (rows lines)) (funext fun row => ?_)
      rw [anomaly?, Option.map_map]
      rfl
  · intro before row after hrows hbefore hrow
    have hmem : row ∈ rows lines := by
      rw [hrows]
      exact List.mem_append_right before List.mem_cons_self
    have hnamed : ∀ earlier ∈ before, IsNamed earlier := by
      intro earlier hearlier
      refine isNamed_of_not_spoilt hcolumns haccepted ?_ (hbefore earlier hearlier)
      rw [hrows]
      exact List.mem_append_left _ hearlier
    obtain ⟨entries, -, hread⟩ := readBody_append provider hnamed
    have hnone := (ExportName.ofText?_eq_none_iff hrow.1).mpr hrow.2
    rw [readLogged, read_eq_rows, hrows, hread,
      readBody_nameless (not_blank_of_mem_rows hmem) (hcolumns row hmem) hnone, List.append_nil]
    rfl

end Section

/-- A section with an operator, whose brackets do not match, and a plain name. -/
def operatorListing : List Text :=
  ["ordinal hint RVA name".toList, "".toList,
    " 1 0 00001000 ?a@@X = ?a@@X (bool operator>(int))".toList, " 2 1 00001010 b=?b@@YAXXZ".toList]

theorem rows_operatorListing :
    rows operatorListing
      = [(2, " 1 0 00001000 ?a@@X = ?a@@X (bool operator>(int))".toList),
        (3, " 2 1 00001010 b=?b@@YAXXZ".toList)] := by
  decide

theorem readLogged_tolerates_operator :
    (∀ row ∈ rows operatorListing, hasColumns row.2 = true) ∧
    (∀ row ∈ rows operatorListing, fault? (nameOf row.2) = none →
      ExportName.ofText? (nameOf row.2) ≠ none) ∧
    (∀ row ∈ rows operatorListing, ¬ IsSpoilt row) ∧
    ∃ entries, readLogged operatorListing default (some [])
        = (some [⟨2, .mismatched .angled 28 .round 14⟩], .ok entries) ∧
      List.Forall₂ (Gives default) (rows operatorListing) entries := by
  have hcolumns : ∀ row ∈ rows operatorListing, hasColumns row.2 = true := by
    rw [rows_operatorListing]
    decide
  have haccepted : ∀ row ∈ rows operatorListing, fault? (nameOf row.2) = none →
      ExportName.ofText? (nameOf row.2) ≠ none := by
    rw [rows_operatorListing]
    decide
  have hclean : ∀ row ∈ rows operatorListing, ¬ IsSpoilt row := by
    rw [rows_operatorListing]
    decide
  obtain ⟨entries, hread, hgives, -⟩ :=
    (readLogged_tolerates hcolumns haccepted default (some [])).1 hclean
  refine ⟨hcolumns, haccepted, hclean, entries, hread.trans ?_, hgives⟩
  rw [rows_operatorListing]
  rfl

/-- The same operator without a decorated name ends the reading, and its anomaly is lost. -/
theorem readLogged_spoilt :
    (∀ row ∈ rows ["ordinal hint RVA name".toList,
        " 1 0 00001000 exported (bool operator>(int))".toList],
      hasColumns row.2 = true ∧ fault? (nameOf row.2) ≠ none) ∧
    readLogged ["ordinal hint RVA name".toList,
        " 1 0 00001000 exported (bool operator>(int))".toList] default (some [])
      = (some [], .error (.parse ⟨"exports".toList, .namelessExport, some 1,
          some " 1 0 00001000 exported (bool operator>(int))".toList⟩)) :=
  ⟨by decide, rfl⟩

end Exports

end SymbolAtlas
