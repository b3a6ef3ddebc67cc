/-
# SymbolAtlas.Proofs.Listing.ExportLine — the columns of an export line, and what follows them

The name text of an export line is what stands from its fourth column on. It is not found by
counting columns: the text of each number column is searched for behind the one before it, and those
digits may occur again anywhere in the line. But each search begins at a gap, where nothing can match
before the column does. So reading the columns undoes laying them out, for every line that has
them: `nameText_columns` says which lines these are, and that the result is the last part of a row.
-/
import SymbolAtlas.Proofs.Listing.Exports

namespace SymbolAtlas

/-! ## Numbers -/

namespace Token

theorem isHex_eq_false_iff {token : Text} (hne : token ≠ []) :
    isHex token = false ↔ ∃ c ∈ token, Text.isHexDigit c = false := by
  have hempty : token.isEmpty = false := List.isEmpty_eq_false_iff.mpr hne
  simp [isHex, hempty, List.all_eq_false]

theorem isDecimal_eq_false_iff {token : Text} (hne : token ≠ []) :
    isDecimal token = false ↔ ∃ c ∈ token, Text.isDecimalDigit c = false := by
  have hempty : token.isEmpty = false := List.isEmpty_eq_false_iff.mpr hne
  simp [isDecimal, hempty, List.all_eq_false]

end Token

namespace Exports

/-! ## Lines with their columns -/

/-- Whether a line has the columns of an export: a decimal number, two hexadecimal ones, and
something behind them. -/
def hasColumns (line : Text) : Bool :=
  match line.trim.words with
  | ordinal :: hint :: address :: _ :: _ =>
    Token.isDecimal ordinal && Token.isHex hint && Token.isHex address
  | _ => false

/-- That a line lacks a column of an export: it has fewer than four, or a character of the first is
no decimal digit, or one of the second or of the third is no hexadecimal digit. -/
def LacksColumn (line : Text) : Prop :=
  line.words.length < 4 ∨
    (∃ ordinal, line.words[0]? = some ordinal ∧ ∃ c ∈ ordinal, Text.isDecimalDigit c = false) ∨
    ∃ number, (line.words[1]? = some number ∨ line.words[2]? = some number) ∧
      ∃ c ∈ number, Text.isHexDigit c = false

theorem lacksColumn_iff (line : Text) : LacksColumn line ↔ hasColumns line = false := by
  have hword : ∀ word ∈ line.words, word ≠ [] := fun word h => (Text.mem_pieces h).1
  unfold LacksColumn hasColumns
  rw [Text.words_trim]
  match hwords : line.words with
  | [] | [_] | [_, _] | [_, _, _] => simp
  | ordinal :: hint :: address :: name :: others =>
      rw [hwords] at hword
      have hordinal := Token.isDecimal_eq_false_iff (hword ordinal (by simp))
      have hhint := Token.isHex_eq_false_iff (hword hint (by simp))
      have haddress := Token.isHex_eq_false_iff (hword address (by simp))
      have hmany : ¬ (ordinal :: hint :: address :: name :: others).length < 4 := by
        simp only [List.length_cons]
        omega
      simp only [hmany, false_or, List.getElem?_cons_zero, List.getElem?_cons_succ,
        Option.some.injEq, Bool.and_eq_false_iff, hordinal, hhint, haddress]
      constructor
      · rintro (⟨_, rfl, h⟩ | ⟨_, rfl | rfl, h⟩)
        · exact .inl (.inl h)
        · exact .inl (.inr h)
        · exact .inr h
      · rintro ((h | h) | h)
        · exact .inl ⟨ordinal, rfl, h⟩
        · exact .inr ⟨hint, .inl rfl, h⟩
        · exact .inr ⟨address, .inr rfl, h⟩

instance (line : Text) : Decidable (LacksColumn line) :=
  decidable_of_iff (hasColumns line = false) (lacksColumn_iff line).symm

/-- The name text of a line; the empty text if the line lacks a column. -/
def nameOf (line : Text) : Text := (nameText line none).toOption.getD []

/-- A line with its columns has a name text, wherever it stands. -/
theorem nameText_of_hasColumns {line : Text} (h : hasColumns line = true)
    (lineIndex : Option Int) : nameText line lineIndex = .ok (nameOf line) := by
  unfold hasColumns at h
  unfold nameOf nameText
  split at h
  · rename_i hwords
    simp only [hwords, h, if_true]
    rfl
  · cases h

/-- A line that lacks a column is rejected as a whole. -/
theorem nameText_of_not_hasColumns {line : Text} (h : hasColumns line = false)
    (lineIndex : Option Int) :
    nameText line lineIndex = fail .unrecognizedExport lineIndex line := by
  unfold hasColumns at h
  simp only [nameText]
  generalize line.trim.words = columns at h
  rcases columns with _ | ⟨ordinal, _ | ⟨hint, _ | ⟨address, _ | ⟨first, others⟩⟩⟩⟩
  · rfl
  · rfl
  · rfl
  · rfl
  · have hnumbers : (Token.isDecimal ordinal && Token.isHex hint && Token.isHex address) = false :=
      h
    simp only [hnumbers, Bool.false_eq_true, if_false]

/-! ## Lines as rows -/

theorem Row.suffix_content (row : Row) (name : Text) : name <:+ row.content name := by
  simp only [Row.content, ← List.append_assoc]
  exact List.suffix_append _ name

/-- A line with its columns is a row: the gaps between the columns are those between its words. -/
theorem exists_row {line : Text} (h : hasColumns line = true) :
    ∃ (row : Row) (name : Text), line = row.line name ∧ name ≠ [] ∧ name.trim = name := by
  unfold hasColumns at h
  split at h
  case h_2 => cases h
  case h_1 ordinal hint address first others hwords =>
    rw [Bool.and_eq_true, Bool.and_eq_true] at h
    obtain ⟨⟨hordinal, hhint⟩, haddress⟩ := h
    obtain ⟨indent, tail, hline, hindent, htail⟩ := Text.exists_trim line
    -- the first column begins the trimmed line, and a gap precedes each of the others
    obtain ⟨behind₁, htrimmed, hwords₁, hblank₁⟩ :=
      Text.pieces_prefix hwords (Text.head?_trim line)
    obtain ⟨gap₁, behind₂, hbehind₁, hgap₁, hwords₂, hblank₂⟩ :=
      Text.exists_next_word hblank₁ hwords₁
    obtain ⟨gap₂, behind₃, hbehind₂, hgap₂, hwords₃, hblank₃⟩ :=
      Text.exists_next_word hblank₂ hwords₂
    obtain ⟨gap₃, behind₄, hbehind₃, hgap₃, -, -⟩ := Text.exists_next_word hblank₃ hwords₃
    let name := first ++ behind₄
    let row : Row :=
      ⟨indent, ordinal, gap₁, hint, gap₂, address, gap₃, tail, hindent, hordinal, hgap₁, hhint,
        hgap₂, haddress, hgap₃, htail⟩
    have hcontent : line.trim = row.content name := by
      rw [htrimmed, hbehind₁, hbehind₂, hbehind₃]
      rfl
    have hfirst : first ≠ [] ∧ ∀ c ∈ first, Text.isBlank c = false := by
      refine Text.mem_pieces (s := behind₃) ?_
      rw [show Text.pieces Text.isBlank behind₃ = _ from hwords₃]
      exact List.mem_cons_self
    have hne : name ≠ [] := List.append_ne_nil_of_left_ne_nil hfirst.1 behind₄
    have hsuffix : name <:+ line.trim := by
      rw [hcontent]
      exact row.suffix_content name
    refine ⟨row, name, ?_, hne, Text.trim_of_suffix hsuffix hne ?_⟩
    · rw [Row.line, ← hcontent]
      exact hline
    · intro c hc
      rw [List.head?_append_of_ne_nil _ hfirst.1] at hc
      exact hfirst.2 c (List.mem_of_mem_head? hc)

/-- What is read from a row ends the trimmed line, and the words of the line are the three number
columns and the words of the name text. -/
theorem Row.line_spec (row : Row) {name : Text} (hne : name ≠ []) (htrim : name.trim = name) :
    name <:+ (row.line name).trim ∧
      (row.line name).words = row.ordinal :: row.hint :: row.address :: name.words := by
  constructor
  · rw [row.trim_line hne htrim]
    exact row.suffix_content name
  · rw [← Text.words_trim, row.trim_line hne htrim, row.words_content]

/-- A line fails to be an export line exactly if it lacks a column, and the failure names the line.
Every other line is a row: three number columns with gaps behind them, and a name text that neither
begins nor ends with a blank, between blank margins. The name text is what is read. -/
theorem nameText_columns (line : Text) (lineIndex : Option Int) :
    (∀ failure, nameText line lineIndex = .error failure ↔
      LacksColumn line ∧
        failure = .parse ⟨"exports".toList, .unrecognizedExport, lineIndex, some line⟩) ∧
    (∀ name, nameText line lineIndex = .ok name ↔
      name ≠ [] ∧ name.trim = name ∧ ∃ row : Row, line = row.line name) ∧
    ∀ name, nameText line lineIndex = .ok name →
      name ≠ [] ∧ name <:+ line.trim ∧ name.words = line.words.drop 3 := by
  have hrow (name : Text) (h : nameText line lineIndex = .ok name) :
      name ≠ [] ∧ name.trim = name ∧ ∃ row : Row, line = row.line name := by
    cases hcolumns : hasColumns line with
    | false =>
        rw [nameText_of_not_hasColumns hcolumns] at h
        cases h
    | true =>
        obtain ⟨row, other, rfl, hne, htrim⟩ := exists_row hcolumns
        rw [row.nameText_line hne htrim] at h
        cases h
        exact ⟨hne, htrim, row, rfl⟩
  refine ⟨fun failure => ?fails, fun name => ⟨hrow name, ?reads⟩, fun name h => ?part⟩
  case fails =>
    rw [lacksColumn_iff]
    cases hcolumns : hasColumns line with
    | false =>
        rw [nameText_of_not_hasColumns hcolumns]
        simp [fail, eq_comm]
    | true =>
        rw [nameText_of_hasColumns hcolumns]
        simp
  case reads =>
    rintro ⟨hne, htrim, row, rfl⟩
    exact row.nameText_line hne htrim lineIndex
  case part =>
    obtain ⟨hne, htrim, row, rfl⟩ := hrow name h
    obtain ⟨hsuffix, hwords⟩ := row.line_spec hne htrim
    refine ⟨hne, hsuffix, ?_⟩
    rw [hwords]
    rfl

example : nameText "  1 1 11\t1 11  =1 ".toList none = .ok "1 11  =1".toList := by
  rfl

end Exports

end SymbolAtlas
