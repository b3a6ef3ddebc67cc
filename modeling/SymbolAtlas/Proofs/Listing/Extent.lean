/-
# SymbolAtlas.Proofs.Listing.Extent — how far the code of a region goes

The words of a line divide in exactly one way into an address, opcode bytes and an instruction, and
only the first two columns measure code. What the reader of a region has counted after any lines is a
closed formula of these columns: all opcode bytes, the first address, and the last address moved on
by the bytes from its line on. The reader works from the top down and moves its last address with
every byte; `reached?` looks at the lines from the bottom up and adds bytes once.
-/
import SymbolAtlas.Proofs.Listing.CodeLine

namespace SymbolAtlas

/-! ## The columns of a line -/

namespace CodeLine

/-- The columns of a line: perhaps an address, opcode bytes, and the words of an instruction. -/
structure Columns where
  address? : Option Text
  bytes : List Text
  instruction : List Text
  deriving DecidableEq, Repr

/-- That some words divide into the given columns. -/
structure Columns.Divide (c : Columns) (words : List Text) : Prop where
  words_eq : c.address?.toList ++ c.bytes ++ c.instruction = words
  /-- The address has the shape of one. -/
  address : ∀ token, c.address? = some token → Token.isAddress token = true
  /-- A first word with the shape of an address is the address. -/
  unaddressed : c.address? = none → ∀ token ∈ words.head?, Token.isAddress token = false
  /-- Each byte has the shape of one. -/
  bytes : ∀ token ∈ c.bytes, Token.isOpcodeByte token = true
  /-- The bytes go on as long as words have the shape of one. -/
  maximal : ∀ token ∈ c.instruction.head?, Token.isOpcodeByte token = false

/-- The columns that a line is read by. -/
def columns (line : Text) : Columns := ⟨address? line, bytes line, instruction line⟩

theorem columns_divide (line : Text) : (columns line).Divide line.words := by
  have hbehind : bytes line ++ instruction line = behindAddress line :=
    List.takeWhile_append_dropWhile
  refine ⟨?_, fun token htoken => ?_, fun hnone token htoken => ?_,
    fun token htoken => List.mem_takeWhile_imp htoken, fun token htoken => ?_⟩
  · show (address? line).toList ++ bytes line ++ instruction line = line.words
    rw [List.append_assoc, hbehind, behindAddress]
    cases haddress : address? line with
    | none => rfl
    | some token =>
        obtain ⟨hhead, -⟩ := Option.filter_eq_some_iff.mp haddress
        exact List.cons_head?_tail hhead
  · exact (Option.filter_eq_some_iff.mp htoken).2
  · have hno := Option.filter_eq_none_iff.mp hnone token htoken
    exact Bool.eq_false_iff.mpr hno
  · have hhead := List.head?_dropWhile_not Token.isOpcodeByte (behindAddress line)
    have htoken : (List.dropWhile Token.isOpcodeByte (behindAddress line)).head? = some token :=
      htoken
    rw [htoken] at hhead
    simpa using hhead

/-- A run that ends before an item without the property is all that is taken of a list. -/
theorem span_append {α : Type} {p : α → Bool} {first second : List α}
    (hfirst : ∀ item ∈ first, p item = true) (hsecond : ∀ item ∈ second.head?, p item = false) :
    (first ++ second).takeWhile p = first ∧ (first ++ second).dropWhile p = second := by
  rw [List.takeWhile_append_of_pos hfirst, List.dropWhile_append_of_pos hfirst]
  cases second with
  | nil => exact ⟨List.append_nil first, rfl⟩
  | cons item rest =>
      have hno : ¬ p item = true := Bool.eq_false_iff.mp (hsecond item rfl)
      rw [List.takeWhile_cons_of_neg hno, List.dropWhile_cons_of_neg hno, List.append_nil]
      exact ⟨rfl, rfl⟩

/-- There is only one way to divide the words of a line into columns. -/
theorem eq_columns_of_divide {c : Columns} {line : Text} (h : c.Divide line.words) :
    c = columns line := by
  obtain ⟨hbytes, hinstruction⟩ := span_append h.bytes h.maximal
  have haddress : address? line = c.address? ∧ behindAddress line = c.bytes ++ c.instruction := by
    have hwords := h.words_eq
    cases hc : c.address? with
    | none =>
        rw [hc, Option.toList_none, List.nil_append] at hwords
        have hnone : address? line = none :=
          Option.filter_eq_none_iff.mpr fun token htoken =>
            Bool.eq_false_iff.mp (h.unaddressed hc token htoken)
        rw [behindAddress, hnone]
        exact ⟨rfl, hwords.symm⟩
    | some token =>
        rw [hc, Option.toList_some, List.append_assoc, List.singleton_append] at hwords
        have hsome : address? line = some token := by
          rw [address?, ← hwords, List.head?_cons, Option.filter_some, h.address token hc, if_pos rfl]
        rw [behindAddress, hsome, ← hwords]
        exact ⟨rfl, rfl⟩
  rw [columns, bytes, instruction, haddress.1, haddress.2, hbytes, hinstruction]

/-! ## What columns say about the code -/

/-- The number that the address of a line spells, if the line has an address. -/
def addressValue? (line : Text) : Option Int :=
  (address? line).map fun token => (Hexadecimal.value (Token.withoutColon token) : Int)

theorem addressValue?_eq_none_iff {line : Text} :
    addressValue? line = none ↔ address? line = none := Option.map_eq_none_iff

theorem addressValue?_of_address {line token : Text} (h : address? line = some token) :
    ∃ value, Token.addressValue token = .ok value ∧ addressValue? line = some value := by
  obtain ⟨-, haddress⟩ := Option.filter_eq_some_iff.mp h
  exact ⟨_, Token.addressValue_of_isAddress haddress, by rw [addressValue?, h, Option.map_some]⟩

/-- The number of opcode bytes on some lines. -/
def byteCount (lines : List Text) : Int := (lines.map fun line => ((bytes line).length : Int)).sum

theorem byteCount_cons (line : Text) (rest : List Text) :
    byteCount (line :: rest) = (bytes line).length + byteCount rest := by
  rw [byteCount, List.map_cons, List.sum_cons]
  rfl

/-- The address that some lines reach: the last one that they show, moved on by the opcode bytes
from its line on. -/
def reached? : List Text → Option Int
  | [] => none
  | line :: below => (reached? below).or ((addressValue? line).map (· + byteCount (line :: below)))

theorem reached?_eq_none {lines : List Text} (h : ∀ line ∈ lines, address? line = none) :
    reached? lines = none := by
  induction lines with
  | nil => rfl
  | cons line below ih =>
      rw [reached?, ih fun other hother => h other (List.mem_cons_of_mem line hother),
        addressValue?_eq_none_iff.mpr (h line List.mem_cons_self)]
      rfl

/-- Lines above an address do not matter. -/
theorem reached?_append_of_some {below : List Text} {value : Int} (h : reached? below = some value)
    (above : List Text) : reached? (above ++ below) = some value := by
  induction above with
  | nil => exact h
  | cons line rest ih => rw [List.cons_append, reached?, ih, Option.some_or]

/-- Lines without an address do not matter to what the lines below them reach. -/
theorem reached?_append_of_unaddressed {above : List Text}
    (h : ∀ line ∈ above, address? line = none) (below : List Text) :
    reached? (above ++ below) = reached? below := by
  induction above with
  | nil => rfl
  | cons line rest ih =>
      rw [List.cons_append, reached?, addressValue?_eq_none_iff.mpr (h line List.mem_cons_self),
        Option.map_none, Option.or_none]
      exact ih fun other hother => h other (List.mem_cons_of_mem line hother)

theorem exists_reached? {lines : List Text} (h : ∃ line ∈ lines, (address? line).isSome = true) :
    ∃ value, reached? lines = some value := by
  obtain ⟨line, hline, hsome⟩ := h
  obtain ⟨above, below, rfl⟩ := List.append_of_mem hline
  obtain ⟨token, htoken⟩ := Option.isSome_iff_exists.mp hsome
  obtain ⟨value, -, hvalue⟩ := addressValue?_of_address htoken
  have hfrom : ∃ reached, reached? (line :: below) = some reached := by
    rw [reached?, hvalue, Option.map_some]
    cases reached? below with
    | none => exact ⟨_, rfl⟩
    | some later => exact ⟨later, rfl⟩
  obtain ⟨reached, hreached⟩ := hfrom
  exact ⟨reached, reached?_append_of_some hreached above⟩

theorem exists_findSome?_addressValue? {lines : List Text}
    (h : ∃ line ∈ lines, (address? line).isSome = true) :
    ∃ value, lines.findSome? addressValue? = some value := by
  obtain ⟨line, hline, hsome⟩ := h
  rw [← Option.isSome_iff_exists, List.findSome?_isSome_iff]
  exact ⟨line, hline, by rwa [addressValue?, Option.isSome_map]⟩

theorem findSome?_addressValue?_eq_none {lines : List Text}
    (h : ∀ line ∈ lines, address? line = none) : lines.findSome? addressValue? = none :=
  List.findSome?_eq_none_iff.mpr fun line hline => addressValue?_eq_none_iff.mpr (h line hline)

end CodeLine

/-! ## What the reader of a region has counted -/

namespace RegionReader

open CodeLine

/-- The reader of a region of which nothing was read yet. -/
def fresh (name : Text) (lineStart lineEnd : Int) : RegionReader :=
  { region := { name := name, lineStart := lineStart, lineEnd := lineEnd } }

/-- Feeding lines never fails. -/
theorem foldlM_feed (resolver : Resolver) (lines : List Text) (r : RegionReader) :
    lines.foldlM (feed resolver) r = .ok (lines.foldl (readLine resolver) r) := by
  induction lines generalizing r with
  | nil => rfl
  | cons line rest ih =>
      rw [List.foldlM_cons, feed_spec]
      exact ih (readLine resolver r line)

/-- Bytes are counted, and move the last address if there is one. -/
theorem countBytes_region (seen : Nat) (tokens : List Text) (r : RegionReader) :
    (countBytes seen tokens r).region
      = { r.region with
          opcodeByteCount := r.region.opcodeByteCount + tokens.length
          lastAddress := r.region.lastAddress.map (· + (tokens.length : Int)) } := by
  induction tokens generalizing seen r with
  | nil =>
      have hlast : r.region.lastAddress.map (· + ((0 : Nat) : Int)) = r.region.lastAddress := by
        cases r.region.lastAddress <;> simp
      rw [List.length_nil, hlast]
      simp [countBytes]
  | cons token rest ih =>
      rw [countBytes, ih, List.length_cons]
      have hlast : (r.region.lastAddress.map (· + 1)).map (· + (rest.length : Int))
          = r.region.lastAddress.map (· + ((rest.length + 1 : Nat) : Int)) := by
        rw [Option.map_map]
        congr 1
        funext last
        simp only [Function.comp]
        omega
      have hcount : r.region.opcodeByteCount + 1 + (rest.length : Int)
          = r.region.opcodeByteCount + ((rest.length + 1 : Nat) : Int) := by omega
      simp only [opcodeByte, hlast, hcount]

/-- What a line does to the counts of a region. -/
theorem readLine_region (resolver : Resolver) (r : RegionReader) (line : Text) :
    (readLine resolver r line).region
      = { r.region with
          firstAddress := r.region.firstAddress.or (addressValue? line)
          lastAddress := ((addressValue? line).or r.region.lastAddress).map
            (· + ((bytes line).length : Int))
          opcodeByteCount := r.region.opcodeByteCount + (bytes line).length } := by
  show (countBytes 0 (bytes line) (r.setAddress (address? line))).region = _
  rw [countBytes_region, addressValue?]
  cases address? line with
  | none => simp only [setAddress, Option.map_none, Option.or_none, Option.none_or]
  | some token =>
      have hfirst (value : Int) : some (r.region.firstAddress.getD value)
          = r.region.firstAddress.or (some value) := by
        cases r.region.firstAddress <;> rfl
      simp only [setAddress, address, hfirst, Option.map_some, Option.some_or]

/-- The counts after any lines in closed form, whatever was counted before. -/
theorem foldl_readLine_region (resolver : Resolver) (lines : List Text) (r : RegionReader) :
    (lines.foldl (readLine resolver) r).region
      = { r.region with
          firstAddress := r.region.firstAddress.or (lines.findSome? addressValue?)
          lastAddress := (reached? lines).or (r.region.lastAddress.map (· + byteCount lines))
          opcodeByteCount := r.region.opcodeByteCount + byteCount lines } := by
  induction lines generalizing r with
  | nil =>
      have hlast : r.region.lastAddress.map (· + byteCount []) = r.region.lastAddress := by
        cases r.region.lastAddress <;> simp [byteCount]
      simp only [List.foldl_nil, List.findSome?_nil, reached?, hlast, Option.or_none,
        Option.none_or]
      simp [byteCount]
  | cons line rest ih =>
      have hfirst : (r.region.firstAddress.or (addressValue? line)).or
            (rest.findSome? addressValue?)
          = r.region.firstAddress.or ((line :: rest).findSome? addressValue?) := by
        rw [List.findSome?_cons, Option.or_assoc]
        cases addressValue? line <;> rfl
      -- the bytes of this line and of the lines below it are added at once
      have hmove (reachedBefore : Option Int) :
          (reachedBefore.map (· + ((bytes line).length : Int))).map (· + byteCount rest)
            = reachedBefore.map (· + byteCount (line :: rest)) := by
        rw [Option.map_map, byteCount_cons]
        congr 1
        funext last
        exact add_assoc last _ _
      have hlast : (reached? rest).or ((((addressValue? line).or r.region.lastAddress).map
            (· + ((bytes line).length : Int))).map (· + byteCount rest))
          = (reached? (line :: rest)).or
              (r.region.lastAddress.map (· + byteCount (line :: rest))) := by
        rw [hmove, reached?, Option.or_assoc]
        cases addressValue? line <;> rfl
      rw [List.foldl_cons, ih, readLine_region]
      simp only [hfirst, hlast, byteCount_cons, add_assoc]

/-! ## The extent of the code -/

/-- What some lines say about the code of their region. -/
structure Extent (lines : List Text) (r : Region) : Prop where
  /-- All opcode bytes are counted. -/
  opcodeByteCount : r.opcodeByteCount = byteCount lines
  /-- Without an address on any line the code has no place. -/
  unaddressed : (∀ line ∈ lines, address? line = none) →
    r.firstAddress = none ∧ r.lastAddress = none
  /-- The code begins at the first address. -/
  firstAddress : ∀ above line below token, lines = above ++ line :: below →
    (∀ other ∈ above, address? other = none) → address? line = some token →
      ∃ value, Token.addressValue token = .ok value ∧ r.firstAddress = some value
  /-- The code ends behind the bytes from the last address on. -/
  lastAddress : ∀ above line below token, lines = above ++ line :: below →
    address? line = some token → (∀ other ∈ below, address? other = none) →
      ∃ value, Token.addressValue token = .ok value ∧
        r.lastAddress = some (value + byteCount (line :: below))

theorem extent_of_closed {lines : List Text} {r : Region}
    (hcount : r.opcodeByteCount = byteCount lines)
    (hfirst : r.firstAddress = lines.findSome? addressValue?)
    (hlast : r.lastAddress = reached? lines) : Extent lines r where
  opcodeByteCount := hcount
  unaddressed h := by
    rw [hfirst, hlast]
    exact ⟨findSome?_addressValue?_eq_none h, reached?_eq_none h⟩
  firstAddress := by
    rintro above line below token rfl habove haddress
    obtain ⟨value, hvalue, hline⟩ := addressValue?_of_address haddress
    refine ⟨value, hvalue, ?_⟩
    rw [hfirst, List.findSome?_append, findSome?_addressValue?_eq_none habove, Option.none_or,
      List.findSome?_cons, hline]
  lastAddress := by
    rintro above line below token rfl haddress hbelow
    obtain ⟨value, hvalue, hline⟩ := addressValue?_of_address haddress
    have hreached : reached? (line :: below) = some (value + byteCount (line :: below)) := by
      rw [reached?, reached?_eq_none hbelow, hline, Option.none_or, Option.map_some]
    exact ⟨value, hvalue, by rw [hlast, reached?_append_of_some hreached]⟩

/-- That two readers have counted the same. -/
structure SameCounts (r r' : RegionReader) : Prop where
  region_eq : r.region = r'.region
  fillerRun_eq : r.fillerRun = r'.fillerRun

theorem countBytes_sameCounts (tokens : List Text) {r r' : RegionReader} (h : SameCounts r r')
    (seen : Nat) : SameCounts (countBytes seen tokens r) (countBytes seen tokens r') := by
  induction tokens generalizing seen r r' with
  | nil => exact h
  | cons token rest ih =>
      refine ih ⟨?_, ?_⟩ (seen + 1)
      · simp only [opcodeByte, h.region_eq]
      · simp only [opcodeByte, h.fillerRun_eq]

/-- Two lines with the same address and the same bytes are counted alike, whatever instructions they
hold. -/
theorem readLine_sameCounts (resolver : Resolver) {r r' : RegionReader} (h : SameCounts r r')
    {line line' : Text} (haddress : address? line = address? line')
    (hbytes : bytes line = bytes line') :
    SameCounts (readLine resolver r line) (readLine resolver r' line') := by
  have hset : SameCounts (r.setAddress (address? line)) (r'.setAddress (address? line')) := by
    rw [haddress]
    cases address? line' with
    | none => exact h
    | some token =>
        refine ⟨?_, h.fillerRun_eq⟩
        simp only [setAddress, address, h.region_eq]
  have hcounted := countBytes_sameCounts (bytes line) hset 0
  rw [readLine, readLine, ← hbytes]
  exact ⟨hcounted.region_eq, hcounted.fillerRun_eq⟩

theorem foldl_readLine_sameCounts (resolver : Resolver) {lines lines' : List Text}
    (h : lines.map (fun line => (address? line, bytes line))
      = lines'.map fun line => (address? line, bytes line))
    {r r' : RegionReader} (hr : SameCounts r r') :
    SameCounts (lines.foldl (readLine resolver) r) (lines'.foldl (readLine resolver) r') := by
  induction lines generalizing lines' r r' with
  | nil =>
      cases lines' with
      | nil => exact hr
      | cons line' rest' => cases h
  | cons line rest ih =>
      cases lines' with
      | nil => cases h
      | cons line' rest' =>
          rw [List.map_cons, List.map_cons, List.cons.injEq, Prod.mk.injEq] at h
          exact ih h.2 (readLine_sameCounts resolver hr h.1.1 h.1.2)

/-- Every line divides into columns in exactly one way, and after any lines the reader of a region
has counted what the columns say: the opcode bytes, the first address and the address reached. Bytes
above the first address do not move it. Completing the region takes the padding off the code, which
has no bytes if it has no place. Instructions never count, whatever their words look like. -/
theorem fed_extent (resolver : Resolver) (name : Text) (lineStart lineEnd : Int)
    (lines : List Text) :
    (∀ line, (columns line).Divide line.words ∧
      ∀ c : Columns, c.Divide line.words → c = columns line) ∧
    ∃ reader, lines.foldlM (feed resolver) (fresh name lineStart lineEnd) = .ok reader ∧
      Extent lines reader.region ∧ Extent lines reader.finish.region ∧
      (∀ above below, lines = above ++ below → (∀ line ∈ above, address? line = none) →
        ∃ later, below.foldlM (feed resolver) (fresh name lineStart lineEnd) = .ok later ∧
          reader.region.lastAddress = later.region.lastAddress) ∧
      ((∀ line ∈ lines, address? line = none) → reader.finish.region.codeByteCount = 0) ∧
      ((∃ line ∈ lines, (address? line).isSome = true) → ∃ first last,
        reader.finish.region.firstAddress = some first ∧
        reader.finish.region.lastAddress = some last ∧
        reader.finish.region.codeByteCount
          = last - reader.finish.region.fillerByteCount - first) ∧
      ∀ others : List Text,
        (others.map fun line => ((columns line).address?, (columns line).bytes))
            = (lines.map fun line => ((columns line).address?, (columns line).bytes)) →
          ∃ other, others.foldlM (feed resolver) (fresh name lineStart lineEnd) = .ok other ∧
            other.finish.region = reader.finish.region := by
  have hcounts (fed : List Text) :
      (fed.foldl (readLine resolver) (fresh name lineStart lineEnd)).region
        = { name := name, lineStart := lineStart, lineEnd := lineEnd,
            firstAddress := fed.findSome? addressValue?, lastAddress := reached? fed,
            opcodeByteCount := byteCount fed } := by
    rw [foldl_readLine_region]
    simp [fresh]
  refine ⟨fun line => ⟨columns_divide line, fun c => eq_columns_of_divide⟩, _,
    foldlM_feed resolver lines _, ?fed, ?finished, ?early, ?unaddressed, ?addressed,
    ?instructions⟩
  case fed =>
    exact extent_of_closed (by rw [hcounts]) (by rw [hcounts]) (by rw [hcounts])
  case finished =>
    refine extent_of_closed ?_ ?_ ?_ <;> simp only [finish, hcounts]
  case early =>
    rintro above below rfl habove
    refine ⟨_, foldlM_feed resolver below _, ?_⟩
    rw [hcounts, hcounts]
    exact reached?_append_of_unaddressed habove below
  case unaddressed =>
    intro hnone
    simp only [finish, hcounts, findSome?_addressValue?_eq_none hnone]
  case addressed =>
    intro hsome
    obtain ⟨first, hfirst⟩ := exists_findSome?_addressValue? hsome
    obtain ⟨last, hlast⟩ := exists_reached? hsome
    refine ⟨first, last, ?_, ?_, ?_⟩ <;> simp only [finish, hcounts, hfirst, hlast]
  case instructions =>
    intro others hothers
    have hsame := foldl_readLine_sameCounts resolver hothers
      (⟨rfl, rfl⟩ : SameCounts (fresh name lineStart lineEnd) (fresh name lineStart lineEnd))
    refine ⟨_, foldlM_feed resolver others _, ?_⟩
    simp only [finish, hsame.region_eq, hsame.fillerRun_eq]

end RegionReader

end SymbolAtlas
