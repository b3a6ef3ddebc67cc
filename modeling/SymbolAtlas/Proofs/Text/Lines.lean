/-
# SymbolAtlas.Proofs.Text.Lines — the lines of output, damaged or not

The lines of a text are found from its end: what lies behind a line feed is divided before the line
feed is looked at, and nothing in front of it changes that division. A carriage return looks one
character ahead, but never past a line feed. Since the decoder reads a line feed as itself in
whatever state it is, bytes that are damaged on one line leave all other lines as they are.
-/
import SymbolAtlas.Host
import SymbolAtlas.Proofs.Text.Utf8

namespace SymbolAtlas

namespace Text

/-! ## Cutting behind a line feed -/

/-- A division with more lines behind it. -/
def LineScan.before (scan : LineScan) (rest : List Text) : LineScan :=
  { scan with lines := scan.lines ++ rest }

/-- A character in front of a division that has a line changes the first lines only. -/
theorem push_before {scan : LineScan} (h : scan.lines ≠ []) (c : Char) (rest : List Text) :
    LineScan.push c (scan.before rest) = (LineScan.push c scan).before rest ∧
      (LineScan.push c scan).lines ≠ [] := by
  obtain ⟨lines, startsWithLineFeed⟩ := scan
  cases lines with
  | nil => exact absurd rfl h
  | cons line others =>
      by_cases hjoin : (c == '\r' && startsWithLineFeed) = true
      · simp [LineScan.push, LineScan.before, hjoin]
      · by_cases hbreak : isLineBreak c = true
        · simp [LineScan.push, LineScan.before, hjoin, hbreak]
        · simp [LineScan.push, LineScan.before, hjoin, hbreak]

theorem foldr_push_before (s : Text) {scan : LineScan} (h : scan.lines ≠ []) (rest : List Text) :
    s.foldr LineScan.push (scan.before rest) = (s.foldr LineScan.push scan).before rest ∧
      (s.foldr LineScan.push scan).lines ≠ [] := by
  induction s with
  | nil => exact ⟨rfl, h⟩
  | cons c others ih =>
      obtain ⟨heq, hne⟩ := ih
      rw [List.foldr_cons, List.foldr_cons, heq]
      exact push_before hne c rest

/-- A line feed opens a line before whatever was divided. -/
theorem push_lineFeed (scan : LineScan) :
    LineScan.push '\n' scan = LineScan.before ⟨[[]], true⟩ scan.lines := rfl

/-- The lines of a text up to a line feed, and those of the text behind it. -/
theorem lines_append_lineFeed (above below : Text) :
    lines (above ++ '\n' :: below) = lines (above ++ ['\n']) ++ lines below := by
  have hcut (scan : LineScan) :
      (above.foldr LineScan.push (LineScan.push '\n' scan)).lines
        = (above.foldr LineScan.push ⟨[[]], true⟩).lines ++ scan.lines := by
    rw [push_lineFeed, (foldr_push_before above (List.cons_ne_nil _ _) scan.lines).1]
    rfl
  unfold lines
  rw [List.foldr_append, List.foldr_append, List.foldr_cons, List.foldr_cons, List.foldr_nil, hcut,
    hcut, List.append_nil]

/-! ## Lines that were put together -/

/-- The characters that end a line. -/
def lineBreaks : List Char :=
  [0x0A, 0x0D, 0x0B, 0x0C, 0x1C, 0x1D, 0x1E, 0x85, 0x2028, 0x2029].map Char.ofNat

theorem isLineBreak_eq_false {c : Char} (h : c ∉ lineBreaks) : isLineBreak c = false := by
  rw [Bool.eq_false_iff]
  intro hbreak
  apply h
  have hrange : (10 ≤ c.toNat ∧ c.toNat ≤ 13) ∨ (28 ≤ c.toNat ∧ c.toNat ≤ 30) ∨ c.toNat = 0x85 ∨
      c.toNat = 0x2028 ∨ c.toNat = 0x2029 := by
    simpa [isLineBreak, or_assoc] using hbreak
  rw [← Char.ofNat_toNat c]
  generalize c.toNat = n at hrange
  refine List.mem_map_of_mem ?_
  simp only [List.mem_cons, List.not_mem_nil, or_false]
  omega

/-- A text without line breaks goes in front of the first line. -/
theorem lines_foldr_push {line : Text} (h : ∀ c ∈ line, c ∉ lineBreaks) {scan : LineScan}
    {first : Text} {rest : List Text} (hscan : scan.lines = first :: rest) :
    (line.foldr LineScan.push scan).lines = (line ++ first) :: rest := by
  induction line with
  | nil => exact hscan
  | cons c others ih =>
      have hothers := ih fun d hd => h d (List.mem_cons_of_mem c hd)
      have hc := h c List.mem_cons_self
      have hreturn : (c == '\r') = false := by
        refine beq_eq_false_iff_ne.mpr ?_
        rintro rfl
        exact hc (by decide)
      simp only [List.foldr_cons, LineScan.push, hreturn, isLineBreak_eq_false hc, hothers,
        Bool.false_and, Bool.false_eq_true, if_false, List.cons_append]

/-- A carriage return with a line feed behind it ends one line. -/
theorem lines_append_return {line : Text} (h : ∀ c ∈ line, c ∉ lineBreaks) (below : Text) :
    lines (line ++ '\r' :: '\n' :: below) = line :: lines below := by
  unfold lines
  rw [List.foldr_append, List.foldr_cons, List.foldr_cons]
  have hbreak : (LineScan.push '\r' (LineScan.push '\n' (below.foldr LineScan.push {}))).lines
      = [] :: (below.foldr LineScan.push {}).lines := rfl
  rw [lines_foldr_push h hbreak, List.append_nil]

/-- Lines that are each ended by carriage return and line feed are found again. -/
theorem lines_flatMap_return {items : List Text} (h : ∀ line ∈ items, ∀ c ∈ line, c ∉ lineBreaks) :
    lines (items.flatMap (· ++ ['\r', '\n'])) = items := by
  induction items with
  | nil => rfl
  | cons line rest ih =>
      rw [List.flatMap_cons, List.append_assoc, List.cons_append, List.singleton_append,
        lines_append_return (h line List.mem_cons_self),
        ih fun other hother => h other (List.mem_cons_of_mem line hother)]

end Text

/-! ## Captured output -/

/-- Output is read line by line: whatever bytes stand before a line feed and behind it, well formed
or not, the lines of both parts are those of the whole. And the encoded bytes of any lines, each
ended by carriage return and line feed, are read as just these lines. -/
theorem capturedLines_by_line :
    (∀ above below : List UInt8, capturedLines (some (above ++ 0x0A :: below))
      = capturedLines (some (above ++ [0x0A])) ++ capturedLines (some below)) ∧
    ∀ items : List Text, (∀ line ∈ items, ∀ c ∈ line, c ∉ Text.lineBreaks) →
      capturedLines (some ((items.flatMap (· ++ ['\r', '\n'])).flatMap String.utf8EncodeChar))
        = items := by
  constructor
  · intro above below
    have hcut (rest : List UInt8) : Text.Utf8.decode (above ++ 0x0A :: rest)
        = Text.Utf8.decode above ++ '\n' :: Text.Utf8.decode rest :=
      Text.Utf8.decode_ascii above (by decide) rest
    show Text.lines (Text.Utf8.decode (above ++ 0x0A :: below))
      = Text.lines (Text.Utf8.decode (above ++ 0x0A :: [])) ++ Text.lines (Text.Utf8.decode below)
    rw [hcut, hcut]
    exact Text.lines_append_lineFeed _ _
  · intro items hitems
    rw [← Text.Utf8.encode_eq]
    show Text.lines (Text.Utf8.decode (Text.Utf8.encode _)) = items
    rw [Text.Utf8.decode_encode, Text.lines_flatMap_return hitems]

/-- A euro sign that is cut by a line feed damages the first line only; and lines with characters of
one to four bytes, one of them empty, are read again. -/
theorem capturedLines_by_line_euro :
    capturedLines (some [0x41, 0xE2, 0x82, 0x0A, 0xAC, 0x42, 0x0A, 0x43])
      = ["A\uFFFD".toList] ++ ["\uFFFDB".toList, "C".toList] ∧
    (∀ line ∈ ["a\té€".toList, [], "😀".toList], ∀ c ∈ line, c ∉ Text.lineBreaks) ∧
    capturedLines (some ((["a\té€".toList, [], "😀".toList].flatMap
        (· ++ ['\r', '\n'])).flatMap String.utf8EncodeChar))
      = ["a\té€".toList, [], "😀".toList] := by
  have hall : (["a\té€".toList, [], "😀".toList].all fun line => line.all fun c =>
      decide (c ∉ Text.lineBreaks)) = true := by decide
  have hplain : ∀ line ∈ ["a\té€".toList, [], "😀".toList], ∀ c ∈ line,
      c ∉ Text.lineBreaks := by
    simpa only [List.all_eq_true, decide_eq_true_eq] using hall
  refine ⟨?_, hplain, capturedLines_by_line.2 _ hplain⟩
  exact (capturedLines_by_line.1 [0x41, 0xE2, 0x82] [0xAC, 0x42, 0x0A, 0x43]).trans (by decide)

end SymbolAtlas
