/-
# SymbolAtlas.Proofs.Listing.Padding — the run of padding that a region ends in

The reader of a region keeps one number for its padding. A byte `CC` makes it larger if the byte
starts its line or if the number is not zero, and every other byte sets it back, so what it is at
the end depends on the whole history of a run. Seen from the end there is no history: among the
opcode bytes of all lines, the padding is the last run of bytes `CC` from the first of them on that
starts a line. The main statement says so for all lines. A second one is about regions that show no
address: such a region has no code, but its padding is counted all the same.
-/
import SymbolAtlas.Proofs.Listing.Extent
import Mathlib.Data.List.DropRight

namespace SymbolAtlas

/-! ## Padding, seen from the end -/

namespace CodeLine

/-- An opcode byte with a mark that says whether it is the first one of its line. -/
structure MarkedByte where
  token : Text
  startsLine : Bool
  deriving DecidableEq, Repr

/-- Marks the bytes of one line. -/
def marked : List Text → List MarkedByte
  | [] => []
  | first :: others => ⟨first, true⟩ :: others.map fun token => ⟨token, false⟩

/-- The opcode bytes of some lines in order. -/
def markedBytes (lines : List Text) : List MarkedByte :=
  lines.flatMap fun line => marked (bytes line)

/-- The longest run of bytes `CC`, in either case, that some bytes end in. -/
def lastRun (read : List MarkedByte) : List MarkedByte :=
  read.rtakeWhile fun byte => Token.isFiller byte.token

/-- The last run of bytes `CC` from the first of them on that starts a line. -/
def padding (read : List MarkedByte) : List MarkedByte :=
  (lastRun read).dropWhile fun byte => !byte.startsLine

/-- A byte `CC` lengthens the padding if it starts a line or if there is padding already; any other
byte leaves none. -/
theorem padding_concat (read : List MarkedByte) (byte : MarkedByte) :
    padding (read ++ [byte])
      = if Token.isFiller byte.token && (byte.startsLine || !(padding read).isEmpty) then
          padding read ++ [byte]
        else [] := by
  unfold padding lastRun
  rw [List.rtakeWhile_concat]
  by_cases hfiller : Token.isFiller byte.token = true
  · rw [if_pos hfiller, List.dropWhile_append]
    -- without padding the run so far starts no line, and it is the byte itself that decides
    cases hpadding : (List.dropWhile (fun byte => !byte.startsLine)
        (read.rtakeWhile fun byte => Token.isFiller byte.token)).isEmpty with
    | true =>
        rw [List.isEmpty_iff] at hpadding
        cases hstart : byte.startsLine <;> simp [hfiller, hpadding, hstart]
    | false => simp [hfiller]
  · rw [if_neg hfiller]
    simp [hfiller]

theorem padding_eq_nil_iff {read : List MarkedByte} :
    padding read = [] ↔ ∀ byte ∈ lastRun read, byte.startsLine = false := by
  simp [padding, List.dropWhile_eq_nil_iff]

theorem markedBytes_cons (line : Text) (below : List Text) :
    markedBytes (line :: below) = marked (bytes line) ++ markedBytes below := rfl

/-- Lines without opcode bytes contribute nothing. -/
theorem markedBytes_eq_flatMap (lines : List Text) :
    markedBytes lines = ((lines.map bytes).filter (!·.isEmpty)).flatMap marked := by
  induction lines with
  | nil => rfl
  | cons line below ih =>
      rw [markedBytes_cons, ih, List.map_cons]
      cases hbytes : bytes line with
      | nil => rfl
      | cons first others => rfl

end CodeLine

/-! ## The run that the reader of a region counts -/

namespace RegionReader

open CodeLine

/-- One byte keeps the number of the reader in step with the padding. -/
theorem fillerRun_opcodeByte {r : RegionReader} {read : List MarkedByte}
    (h : r.fillerRun = (padding read).length) (token : Text) (seen : Nat) :
    (r.opcodeByte token seen).fillerRun
      = (padding (read ++ [⟨token, seen == 0⟩])).length := by
  have hrun : (decide (r.fillerRun > 0)) = !(padding read).isEmpty := by
    rw [h]
    cases padding read <;> simp
  show (if Token.isFiller token && (seen == 0 || decide (r.fillerRun > 0)) then r.fillerRun + 1
    else 0) = _
  rw [padding_concat, hrun]
  split
  · rw [List.length_append, List.length_singleton, h]
  · rfl

/-- So do the bytes behind the first one of a line. -/
theorem fillerRun_countBytes_succ {r : RegionReader} {read : List MarkedByte}
    (h : r.fillerRun = (padding read).length) (tokens : List Text) (seen : Nat) :
    (countBytes (seen + 1) tokens r).fillerRun
      = (padding (read ++ tokens.map fun token => ⟨token, false⟩)).length := by
  induction tokens generalizing r read seen with
  | nil =>
      rw [List.map_nil, List.append_nil]
      exact h
  | cons token others ih =>
      have hbyte : (r.opcodeByte token (seen + 1)).fillerRun
          = (padding (read ++ [⟨token, false⟩])).length := fillerRun_opcodeByte h token (seen + 1)
      have hothers := ih hbyte (seen + 1)
      rw [List.append_assoc, List.singleton_append] at hothers
      exact hothers

/-- A line adds its own bytes to those that the padding is found in. -/
theorem fillerRun_readLine_eq (resolver : Resolver) {r : RegionReader} {read : List MarkedByte}
    (h : r.fillerRun = (padding read).length) (line : Text) :
    (readLine resolver r line).fillerRun = (padding (read ++ marked (bytes line))).length := by
  have hset : (r.setAddress (address? line)).fillerRun = (padding read).length := by
    cases address? line <;> exact h
  show (countBytes 0 (bytes line) (r.setAddress (address? line))).fillerRun = _
  cases bytes line with
  | nil =>
      rw [marked, List.append_nil]
      exact hset
  | cons first others =>
      have hothers := fillerRun_countBytes_succ (fillerRun_opcodeByte hset first 0) others 0
      rw [List.append_assoc, List.singleton_append] at hothers
      exact hothers

/-- After any lines, the number of the reader is the length of the padding in all bytes read. -/
theorem fillerRun_foldl (resolver : Resolver) (lines : List Text) {r : RegionReader}
    {read : List MarkedByte} (h : r.fillerRun = (padding read).length) :
    (lines.foldl (readLine resolver) r).fillerRun
      = (padding (read ++ markedBytes lines)).length := by
  induction lines generalizing r read with
  | nil =>
      rw [markedBytes, List.flatMap_nil, List.append_nil]
      exact h
  | cons line below ih =>
      have hbelow := ih (fillerRun_readLine_eq resolver h line)
      rw [List.append_assoc, ← markedBytes_cons] at hbelow
      exact hbelow

/-- The padding of a region is counted from nothing, whatever the region shows before. -/
theorem fillerRun_fed (resolver : Resolver) (lines : List Text) (region : Region) :
    (lines.foldl (readLine resolver) { region := region }).fillerRun
      = (padding (markedBytes lines)).length := by
  have hnone : ({ region := region } : RegionReader).fillerRun = (padding []).length := rfl
  have hall := fillerRun_foldl resolver lines hnone
  rwa [List.nil_append] at hall

/-- The padding of a region is the last run of bytes `CC` of its lines, from the first of them on
that starts a line. Lines without opcode bytes, addresses and instructions have no part in it:
whatever lines show the same bytes in the same groups give the same padding, in any region and with
any resolver. -/
theorem fed_padding (resolver : Resolver) (region : Region) (lines : List Text) :
    ∃ reader, lines.foldlM (feed resolver) { region := region } = .ok reader ∧
      reader.finish.region.fillerByteCount = (padding (markedBytes lines)).length ∧
      ∀ (resolver' : Resolver) (region' : Region) (others : List Text),
        (others.map bytes).filter (!·.isEmpty) = (lines.map bytes).filter (!·.isEmpty) →
          ∃ other, others.foldlM (feed resolver') { region := region' } = .ok other ∧
            other.finish.region.fillerByteCount = reader.finish.region.fillerByteCount := by
  have hcount (resolver : Resolver) (region : Region) (fed : List Text) :
      (fed.foldl (readLine resolver) { region := region }).finish.region.fillerByteCount
        = (padding (markedBytes fed)).length :=
    congrArg Int.ofNat (fillerRun_fed resolver fed region)
  refine ⟨_, foldlM_feed resolver lines _, hcount resolver region lines, ?_⟩
  intro resolver' region' others hothers
  refine ⟨_, foldlM_feed resolver' others _, ?_⟩
  rw [hcount, hcount, markedBytes_eq_flatMap, markedBytes_eq_flatMap, hothers]

/-- A run that begins inside a line becomes padding on the next one. -/
example : (padding (markedBytes ["  00401000: 48 CC  mov eax,ecx".toList, "  cc CC  int 3".toList,
    "  ; end of f".toList])).length = 2 := by
  rfl

/-! ## Regions without an address -/

/-- That a region shows no address, and so no code. -/
structure Unplaced (region : Region) : Prop where
  firstAddress : region.firstAddress = none
  lastAddress : region.lastAddress = none
  codeByteCount : region.codeByteCount = 0

/-- If no line starts with an address, then a region that shows none before shows none when it is
complete, and it has no code. Its bytes are counted, and the bytes `CC` at its end are padding all
the same: it has no padding only if none of them starts a line. -/
theorem fed_unaddressed (resolver : Resolver) {region : Region} (hregion : Unplaced region)
    {lines : List Text} (hlines : ∀ line ∈ lines, address? line = none) :
    ∃ reader, lines.foldlM (feed resolver) { region := region } = .ok reader ∧
      Unplaced reader.finish.region ∧
      reader.finish.region.opcodeByteCount = region.opcodeByteCount + byteCount lines ∧
      reader.finish.region.fillerByteCount = (padding (markedBytes lines)).length ∧
      (reader.finish.region.fillerByteCount = 0
        ↔ ∀ byte ∈ lastRun (markedBytes lines), byte.startsLine = false) := by
  refine ⟨_, foldlM_feed resolver lines _, ?_⟩
  have hread := foldl_readLine_region resolver lines { region := region }
  have hrun := fillerRun_fed resolver lines region
  generalize lines.foldl (readLine resolver) { region := region } = reader at hread hrun ⊢
  -- no line gives the region an address, so completing it cannot measure its code
  rw [findSome?_addressValue?_eq_none hlines, reached?_eq_none hlines, hregion.firstAddress,
    hregion.lastAddress] at hread
  have hfiller : reader.finish.region.fillerByteCount = (padding (markedBytes lines)).length :=
    congrArg Int.ofNat hrun
  refine ⟨⟨?_, ?_, ?_⟩, ?_, hfiller, ?_⟩
  · show reader.region.firstAddress = none
    rw [hread]
    rfl
  · show reader.region.lastAddress = none
    rw [hread]
    rfl
  · simp [finish, hread, hregion.codeByteCount]
  · show reader.region.opcodeByteCount = _
    rw [hread]
  · rw [hfiller, Int.natCast_eq_zero, List.length_eq_zero_iff]
    exact padding_eq_nil_iff

theorem fed_unaddressed_mov :
    Unplaced { name := "f".toList, lineStart := 0 } ∧
      (∀ line ∈ ["  48 CC  mov eax,ecx".toList], address? line = none) ∧
      ∃ reader, ["  48 CC  mov eax,ecx".toList].foldlM (feed [])
          { region := { name := "f".toList, lineStart := 0 } } = .ok reader ∧
        Unplaced reader.finish.region ∧ reader.finish.region.fillerByteCount = 0 := by
  have hregion : Unplaced { name := "f".toList, lineStart := 0 } := ⟨rfl, rfl, rfl⟩
  have hlines : ∀ line ∈ ["  48 CC  mov eax,ecx".toList], address? line = none := by decide
  obtain ⟨reader, hread, hplace, -, -, hpadding⟩ := fed_unaddressed [] hregion hlines
  exact ⟨hregion, hlines, reader, hread, hplace, hpadding.mpr (by decide)⟩

/-- A region without an address can have padding. -/
theorem padding_without_address :
    (∀ line ∈ ["  CC  int 3".toList], address? line = none) ∧
      (["  CC  int 3".toList].foldlM (feed [])
          { region := { name := "f".toList, lineStart := 0 } }).map
          (fun reader => (reader.finish.region.firstAddress, reader.finish.region.fillerByteCount))
        = .ok (none, 1) := by
  constructor
  · decide
  · rfl

end RegionReader

end SymbolAtlas
