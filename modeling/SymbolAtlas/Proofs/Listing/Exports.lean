/-
# SymbolAtlas.Proofs.Listing.Exports — reading an export section is the inverse of laying it out

A row of the section is laid out by blanks of any width between and around its columns. Reading
works on positions in the line, but the position behind each column is found at a gap, where a
column cannot begin too early, so the widths and the digits of the columns do not matter. The main
statement composes the layers: section, rows, columns and name text give back the records from which
they were made, and no anomaly.
-/
import SymbolAtlas.Listing.Exports
import SymbolAtlas.Proofs.Listing.ExportName
import SymbolAtlas.Proofs.Listing.Section
import SymbolAtlas.Proofs.Listing.Token

namespace SymbolAtlas.Exports

/-! ## Rows -/

/-- The columns of a row in front of its name text, and the blanks around them. -/
structure Row where
  indent : Text
  ordinal : Text
  ordinalGap : Text
  hint : Text
  hintGap : Text
  address : Text
  addressGap : Text
  tail : Text
  indent_blank : indent.isBlankText = true
  ordinal_decimal : Token.isDecimal ordinal = true
  ordinalGap_blank : ordinalGap ≠ [] ∧ ordinalGap.isBlankText = true
  hint_hex : Token.isHex hint = true
  hintGap_blank : hintGap ≠ [] ∧ hintGap.isBlankText = true
  address_hex : Token.isHex address = true
  addressGap_blank : addressGap ≠ [] ∧ addressGap.isBlankText = true
  tail_blank : tail.isBlankText = true

namespace Row

/-- A row with its name text, without the blanks around it. -/
def content (row : Row) (name : Text) : Text :=
  row.ordinal ++ (row.ordinalGap ++ (row.hint ++ (row.hintGap ++ (row.address ++
    (row.addressGap ++ name)))))

/-- The line of a row with its name text. -/
def line (row : Row) (name : Text) : Text := row.indent ++ row.content name ++ row.tail

/-- A row begins with a decimal digit. -/
theorem head?_content (row : Row) (name : Text) :
    ∃ c, (row.content name).head? = some c ∧ Text.isDecimalDigit c = true := by
  have hdecimal := row.ordinal_decimal
  rw [Token.isDecimal, Bool.and_eq_true, List.all_eq_true] at hdecimal
  cases hordinal : row.ordinal with
  | nil => rw [hordinal] at hdecimal; cases hdecimal.1
  | cons c rest =>
      rw [hordinal] at hdecimal
      refine ⟨c, ?_, hdecimal.2 c List.mem_cons_self⟩
      rw [content, hordinal]
      rfl

variable {name : Text}

/-- The blanks around a row do not count. -/
theorem trim_line (row : Row) (hne : name ≠ []) (htrim : name.trim = name) :
    (row.line name).trim = row.content name := by
  rw [line, Text.trim_append row.indent_blank row.tail_blank]
  refine Text.trim_eq_self ?_ ?_
  · intro c hc
    obtain ⟨d, hd, hdigit⟩ := row.head?_content name
    rw [Option.mem_def, hd, Option.some.injEq] at hc
    subst hc
    exact (Text.hexDigit_spec (Text.isHexDigit_of_isDecimalDigit hdigit)).1
  · intro c hc
    refine Text.getLast?_trim name c ?_
    rw [htrim]
    have hlast : (row.content name).getLast? = name.getLast? := by
      simp only [content, ← List.append_assoc]
      exact List.getLast?_append_of_ne_nil _ hne
    rwa [hlast] at hc

/-- The words of a row: the three columns, and those of the name text. -/
theorem words_content (row : Row) (name : Text) :
    (row.content name).words = row.ordinal :: row.hint :: row.address :: name.words := by
  obtain ⟨hordinal, hordinalWord⟩ :=
    Token.word_of_isHex (Token.isHex_of_isDecimal row.ordinal_decimal)
  obtain ⟨hhint, hhintWord⟩ := Token.word_of_isHex row.hint_hex
  obtain ⟨haddress, haddressWord⟩ := Token.word_of_isHex row.address_hex
  obtain ⟨hgap₁, hblank₁⟩ := row.ordinalGap_blank
  obtain ⟨hgap₂, hblank₂⟩ := row.hintGap_blank
  obtain ⟨hgap₃, hblank₃⟩ := row.addressGap_blank
  rw [content, Text.words,
    Text.pieces_append_gap hordinal hordinalWord hgap₁ ((Text.isBlankText_iff _).mp hblank₁),
    Text.pieces_append_gap hhint hhintWord hgap₂ ((Text.isBlankText_iff _).mp hblank₂),
    Text.pieces_append_gap haddress haddressWord hgap₃ ((Text.isBlankText_iff _).mp hblank₃)]
  rfl

/-- A column is found behind a blank gap, whatever the characters of other columns are. -/
theorem afterFirst_column {column gap : Text} (hcolumn : Token.isHex column = true)
    (hgap : gap.isBlankText = true) (rest : Text) :
    Text.afterFirst column (gap ++ (column ++ rest)) = rest := by
  obtain ⟨hne, hword⟩ := Token.word_of_isHex hcolumn
  refine Text.afterFirst_append hne (fun c hc hhead => ?_) rest
  have hblank : Text.isBlank c = true := (Text.isBlankText_iff gap).mp hgap c hc
  rw [hword c (List.mem_of_head? hhead)] at hblank
  cases hblank

/-- Reading the columns of a row gives its name text. -/
theorem nameText_line (row : Row) (hne : name ≠ []) (htrim : name.trim = name)
    (lineIndex : Option Int) : nameText (row.line name) lineIndex = .ok name := by
  obtain ⟨word, others, hwords, -⟩ :=
    Token.firstWord_of_not_blank (Text.not_blank_of_trim_eq hne htrim)
  -- no gap precedes the first column: the trimmed line begins with it
  have hempty : Text.isBlankText [] = true := rfl
  have hordinal : Text.afterFirst row.ordinal (row.content name) = _ :=
    afterFirst_column (Token.isHex_of_isDecimal row.ordinal_decimal) hempty _
  have hhint := afterFirst_column row.hint_hex row.ordinalGap_blank.2
    (row.hintGap ++ (row.address ++ (row.addressGap ++ name)))
  have haddress := afterFirst_column row.address_hex row.hintGap_blank.2 (row.addressGap ++ name)
  have hname : Text.trim (row.addressGap ++ name) = name :=
    (Text.trim_append_left row.addressGap_blank.2 name).trans htrim
  simp only [nameText, row.trim_line hne htrim, words_content, hwords, row.ordinal_decimal,
    row.hint_hex, row.address_hex, Bool.and_self, if_true, hordinal, hhint, haddress, hname]

/-- The line of a row is not blank and does not end the section: it begins with a digit. -/
theorem line_in_body (row : Row) (hne : name ≠ []) (htrim : name.trim = name) :
    (row.line name).isBlankText = false ∧ (row.line name).trim ≠ Listing.summaryLine := by
  obtain ⟨c, hhead, hdigit⟩ := row.head?_content name
  constructor
  · rw [← Bool.not_eq_true, ← Text.trim_eq_nil_iff, row.trim_line hne htrim]
    intro hnil
    rw [hnil] at hhead
    cases hhead
  · intro hsummary
    rw [row.trim_line hne htrim] at hsummary
    rw [hsummary] at hhead
    have hc : c = 'S' := (Option.some.inj hhead).symm
    rw [hc] at hdigit
    exact absurd hdigit (by decide)

end Row

/-! ## Records -/

/-- What an export section says of one function: its decorated name, what it is declared to be, and
its prototype if that is shown. -/
structure Record where
  symbol : Text
  declared : Text
  prototype : Option Text
  symbol_ne : symbol ≠ []
  symbol_trim : symbol.trim = symbol
  symbol_mark : '=' ∉ symbol
  symbol_plain : Bracket.isPlain symbol = true
  declared_trim : declared.trim = declared
  declared_plain : Bracket.isPlain declared = true
  prototype_balanced : ∀ p ∈ prototype, p ≠ [] ∧ Bracket.Balanced p

namespace Record

/-- The name text of a record. -/
def nameText (r : Record) : Text :=
  match r.prototype with
  | some p => r.symbol ++ " = ".toList ++ r.declared ++ " (".toList ++ p ++ ")".toList
  | none => r.symbol ++ "=".toList ++ r.declared

/-- The entry of a record. -/
def entry (provider : FilePath) (r : Record) : ExportEntry where
  provider := provider
  prototype := r.prototype
  symbol := r.symbol
  shortName := (r.prototype.bind shortFunctionName).getD r.symbol

/-- What stands in front of the `=` of a record is its symbol, up to a blank. -/
theorem before_spec (r : Record) {gap : Text} (hgap : gap.isBlankText = true) :
    '=' ∉ r.symbol ++ gap ∧ Text.trim (r.symbol ++ gap) = r.symbol := by
  constructor
  · intro hmem
    rcases List.mem_append.mp hmem with hsymbol | hblank
    · exact r.symbol_mark hsymbol
    · have h := (Text.isBlankText_iff gap).mp hgap '=' hblank
      exact absurd h (by decide)
  · exact (Text.trim_append_right hgap r.symbol).trans r.symbol_trim

/-- The name text of a record names what the record says, and its brackets match. -/
theorem ofText?_nameText (r : Record) :
    ExportName.ofText? r.nameText = some (ExportName.decorated r.symbol r.prototype none) := by
  have hbalanced := r.prototype_balanced
  unfold nameText
  cases hprototype : r.prototype with
  | some p =>
      obtain ⟨hp, hpBalanced⟩ := hbalanced p hprototype
      obtain ⟨hmark, htrim⟩ := r.before_spec (by decide : Text.isBlankText [' '] = true)
      have hne : Text.trim (r.symbol ++ [' ']) ≠ [] := by rw [htrim]; exact r.symbol_ne
      -- all in front of the bracket is one text without brackets, with the mark inside it
      have hplain :
          Bracket.isPlain (r.symbol ++ [' '] ++ '=' :: (' ' :: r.declared ++ [' '])) = true := by
        simp only [Bracket.isPlain_append, Bracket.isPlain_cons, r.symbol_plain, r.declared_plain]
        decide
      have h := ExportName.ofText?_enclosed hmark hne hplain hp hpBalanced .round
      rw [htrim] at h
      rw [← h]
      congr 1
      simp [Bracket.opening, Bracket.closing]
  | none =>
      have hplain : Bracket.isPlain (r.symbol ++ '=' :: r.declared) = true := by
        simp only [Bracket.isPlain_append, Bracket.isPlain_cons, r.symbol_plain, r.declared_plain]
        decide
      have hne : Text.trim r.symbol ≠ [] := by rw [r.symbol_trim]; exact r.symbol_ne
      have h := ExportName.ofText?_plain r.symbol_mark hne hplain
      rw [r.symbol_trim] at h
      rw [← h]
      congr 1
      simp

/-- Behind the symbol of a record there is more, and it does not end with a blank. -/
theorem exists_nameText (r : Record) :
    ∃ rest, r.nameText = r.symbol ++ rest ∧ rest ≠ [] ∧
      ∀ c ∈ rest.getLast?, Text.isBlank c = false := by
  unfold nameText
  cases r.prototype with
  | some p =>
      let rest := " = ".toList ++ r.declared ++ " (".toList ++ p ++ ")".toList
      have hlast : rest.getLast? = some ')' := List.getLast?_append_of_ne_nil _ (by decide)
      refine ⟨rest, by simp only [rest, List.append_assoc], ?_, ?_⟩
      · intro hnil
        rw [hnil] at hlast
        cases hlast
      · intro c hc
        rw [hlast] at hc
        cases hc
        decide
  | none =>
      refine ⟨'=' :: r.declared, by simp, List.cons_ne_nil _ _, ?_⟩
      intro c hc
      -- what is declared may be empty, and then the mark itself is the last character
      cases hdeclared : r.declared with
      | nil =>
          rw [hdeclared] at hc
          cases hc
          decide
      | cons d others =>
          refine Text.getLast?_trim r.declared c ?_
          rw [r.declared_trim]
          rw [hdeclared] at hc ⊢
          exact hc

/-- The name text of a record is not empty and has no blanks around it. -/
theorem nameText_trim (r : Record) : r.nameText ≠ [] ∧ r.nameText.trim = r.nameText := by
  obtain ⟨rest, htext, hne, hlast⟩ := r.exists_nameText
  rw [htext]
  refine ⟨List.append_ne_nil_of_right_ne_nil r.symbol hne, Text.trim_eq_self ?_ ?_⟩
  · intro c hc
    refine Text.head?_trim r.symbol c ?_
    rw [r.symbol_trim]
    rwa [List.head?_append_of_ne_nil r.symbol r.symbol_ne] at hc
  · intro c hc
    rw [List.getLast?_append_of_ne_nil r.symbol hne] at hc
    exact hlast c hc

end Record

/-! ## Sections -/

/-- The body of an export section: rows of records in order, and blank lines anywhere. -/
inductive Layout : List Record → List Text → Prop
  /-- The end of the body. -/
  | done : Layout [] []
  /-- A blank line, which stands for no record. -/
  | blank {records : List Record} {body : List Text} {line : Text}
      (h : line.isBlankText = true) (rest : Layout records body) : Layout records (line :: body)
  /-- The row of a record. -/
  | record {records : List Record} {body : List Text} (row : Row) (r : Record)
      (rest : Layout records body) : Layout (r :: records) (row.line r.nameText :: body)

/-- Reading the row of a record gives its entry, and no anomaly. -/
theorem readLine_record (provider : FilePath) (index : Nat) (row : Row) (r : Record) :
    readLine provider index (row.line r.nameText) = .ok (r.entry provider, none) := by
  obtain ⟨hne, htrim⟩ := r.nameText_trim
  simp only [readLine, row.nameText_line hne htrim, bind, Except.bind, r.ofText?_nameText]
  rfl

/-- Reading the layout of some records gives their entries in order, and no anomaly. -/
theorem readBody_layout {records : List Record} {body : List Text} (h : Layout records body)
    (provider : FilePath) (index : Nat) :
    readBody provider ((body.zipIdx index).map Prod.swap)
      = ⟨[], .ok (records.map (Record.entry provider))⟩ := by
  induction h generalizing index with
  | done => rfl
  | @blank records body line hblank _ ih =>
      rw [List.zipIdx_cons, List.map_cons, Prod.swap_prod_mk, readBody, if_pos hblank]
      exact ih (index + 1)
  | @record records body row r _ ih =>
      obtain ⟨hne, htrim⟩ := r.nameText_trim
      obtain ⟨hnotBlank, -⟩ := row.line_in_body hne htrim
      have hno : ¬ (row.line r.nameText).isBlankText = true := by
        rw [hnotBlank]
        exact Bool.false_ne_true
      simp only [List.zipIdx_cons, List.map_cons, Prod.swap_prod_mk, readBody, if_neg hno,
        readLine_record, ih (index + 1)]
      rfl

/-- No line of a layout ends the section. -/
theorem layout_in_body {records : List Record} {body : List Text} (h : Layout records body) :
    ∀ line ∈ body, line.trim ∉ Listing.exportsSection.terminators := by
  induction h with
  | done => exact fun line hline => absurd hline List.not_mem_nil
  | @blank records body line hblank _ ih =>
      refine List.forall_mem_cons.mpr ⟨fun hmem => ?_, ih⟩
      have hsummary : line.trim = Listing.summaryLine := List.mem_singleton.mp hmem
      rw [(Text.trim_eq_nil_iff line).mpr hblank] at hsummary
      cases hsummary
  | @record records body row r _ ih =>
      obtain ⟨hne, htrim⟩ := r.nameText_trim
      obtain ⟨-, hsummary⟩ := row.line_in_body hne htrim
      exact List.forall_mem_cons.mpr ⟨fun hmem => hsummary (List.mem_singleton.mp hmem), ih⟩

/-- Reading an export section is the inverse of laying it out: whatever the widths of the rows, the
blank lines between them and the lines around the section are, the records come back in order, and
the log of anomalies stays as it was. -/
theorem readLogged_layout {preamble body : List Text} {header terminator : Text}
    {records : List Record} (hpreamble : ∀ line ∈ preamble, Listing.isExportHeader line = false)
    (hheader : Listing.isExportHeader header = true) (hbody : Layout records body)
    (hterminator : terminator.trim = Listing.summaryLine) (after : List Text)
    (provider : FilePath) (log : Option (List Anomaly)) :
    readLogged (preamble ++ header :: (body ++ terminator :: after)) provider log
      = (log, .ok (records.map (Record.entry provider))) := by
  have hone : Listing.exportsSection.headerLines = 1 := rfl
  have hfind := SectionSpec.find_enclosed hone hpreamble hheader (layout_in_body hbody)
    (List.mem_singleton.mpr hterminator) after
  -- the header belongs to what is above the body
  have hlines : preamble ++ header :: (body ++ terminator :: after)
      = (preamble ++ [header]) ++ (body ++ terminator :: after) := by
    rw [List.append_assoc, List.singleton_append]
  have hcount : preamble.length + 1 = (preamble ++ [header]).length := by
    rw [List.length_append, List.length_singleton]
  rw [hlines, hcount] at hfind
  have hread : read ((preamble ++ [header]) ++ (body ++ terminator :: after)) provider
      = ⟨[], .ok (records.map (Record.entry provider))⟩ := by
    simp only [read, hfind, SectionSpec.body_enclosed]
    exact readBody_layout hbody provider _
  rw [hlines, readLogged, hread]
  cases log with
  | none => rfl
  | some noted => simp only [Option.map_some, List.append_nil]

/-- A row whose columns share their digits. -/
def zeroRow : Row where
  indent := "  ".toList
  ordinal := "0".toList
  ordinalGap := "    ".toList
  hint := "0".toList
  hintGap := " ".toList
  address := "00".toList
  addressGap := "\t".toList
  tail := " ".toList
  indent_blank := by decide
  ordinal_decimal := by decide
  ordinalGap_blank := by decide
  hint_hex := by decide
  hintGap_blank := by decide
  address_hex := by decide
  addressGap_blank := by decide
  tail_blank := by decide

/-- A comparison operator, which has the mark in its prototype. -/
def equalRecord : Record where
  symbol := "??8@YA_NXZ".toList
  declared := "??8@YA_NXZ".toList
  prototype := some "bool operator==(int)".toList
  symbol_ne := by decide
  symbol_trim := by decide
  symbol_mark := by decide
  symbol_plain := by decide
  declared_trim := by decide
  declared_plain := by decide
  prototype_balanced := by
    intro p hp
    obtain rfl := Option.mem_some.mp hp
    have hhead : Bracket.Balanced "bool operator==".toList :=
      Bracket.balanced_of_plain (by decide)
    have harguments : Bracket.Balanced "int".toList := Bracket.balanced_of_plain (by decide)
    exact ⟨by decide, hhead.append (harguments.wrap .round)⟩

/-- A forwarder, which has no prototype. -/
def forwardRecord : Record where
  symbol := "Alloc".toList
  declared := "NTDLL.RtlAlloc".toList
  prototype := none
  symbol_ne := by decide
  symbol_trim := by decide
  symbol_mark := by decide
  symbol_plain := by decide
  declared_trim := by decide
  declared_plain := by decide
  prototype_balanced := by
    intro p hp
    cases hp

theorem readLogged_layout_two_records :
    Listing.isExportHeader "ordinal hint RVA name".toList = true ∧
      readLogged ("Dump".toList :: "ordinal hint RVA name".toList ::
          (["".toList, "  0    0 00\t??8@YA_NXZ = ??8@YA_NXZ (bool operator==(int)) ".toList,
            "  0    0 00\tAlloc=NTDLL.RtlAlloc ".toList] ++ ["  Summary".toList, "1000".toList]))
          default (some [])
        = (some [], .ok [⟨default, some "bool operator==(int)".toList, "??8@YA_NXZ".toList,
            "operator==".toList⟩, ⟨default, none, "Alloc".toList, "Alloc".toList⟩]) := by
  have hheader : Listing.isExportHeader "ordinal hint RVA name".toList = true := by decide
  have hbody : Layout [equalRecord, forwardRecord]
      ["".toList, zeroRow.line equalRecord.nameText, zeroRow.line forwardRecord.nameText] :=
    .blank (by decide) (.record zeroRow equalRecord (.record zeroRow forwardRecord .done))
  have hpreamble : ∀ line ∈ ["Dump".toList], Listing.isExportHeader line = false :=
    List.forall_mem_singleton.mpr (by decide)
  exact ⟨hheader, readLogged_layout hpreamble hheader hbody (by decide) ["1000".toList] default
    (some [])⟩

end SymbolAtlas.Exports
