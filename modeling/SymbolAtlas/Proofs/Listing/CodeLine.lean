/-
# SymbolAtlas.Proofs.Listing.CodeLine — a line of code by its columns

The words of a line divide in one way into an address, which only the first word can be, the run of
opcode bytes behind it, and the instruction, which goes on to the end of the line. Reading the line
word by word, with a phase that says where the next word belongs, does to a region what the three
columns say: the address is set, the bytes are counted one after the other, and the symbols that the
instruction refers to are collected. No step of it fails.
-/
import SymbolAtlas.Listing.Disassembly
import SymbolAtlas.Proofs.Listing.Token

namespace SymbolAtlas

/-! ## Columns -/

namespace CodeLine

/-- The address of a line, which is its first word if that has the shape of one. -/
def address? (line : Text) : Option Text := line.words.head?.filter Token.isAddress

/-- The words of a line behind its address. -/
def behindAddress (line : Text) : List Text :=
  if (address? line).isSome then line.words.tail else line.words

/-- The opcode bytes of a line: the run of byte tokens behind its address. -/
def bytes (line : Text) : List Text := (behindAddress line).takeWhile Token.isOpcodeByte

/-- The words of the instruction: all from the first word that is neither address nor opcode
byte. -/
def instruction (line : Text) : List Text := (behindAddress line).dropWhile Token.isOpcodeByte

/-- The symbol that a part of an operand stands for. A part that begins with a digit is a number and
stands for none. -/
def reference? (resolver : Resolver) (part : Text) : Option Text :=
  if part.head?.any Text.isDecimalDigit then none else resolver.resolve? part

/-- The symbols that some words refer to, part by part. -/
def referencesOf (resolver : Resolver) (words : List Text) : List Text :=
  (words.flatMap Token.operands).filterMap (reference? resolver)

/-- The symbols that the instruction of a line refers to. -/
def references (resolver : Resolver) (line : Text) : List Text :=
  referencesOf resolver (instruction line)

end CodeLine

namespace RegionReader

open CodeLine

/-! ## What the columns do to a region -/

/-- The reader with more symbols referred to. -/
def refer (r : RegionReader) (callees : List Text) : RegionReader :=
  { r with callees := r.callees ++ callees }

/-- Counts opcode bytes that have `seen` others before them on their line. -/
def countBytes : (seen : Nat) → List Text → RegionReader → RegionReader
  | _, [], r => r
  | seen, byte :: rest, r => countBytes (seen + 1) rest (r.opcodeByte byte seen)

/-- Sets the address of a line, if it has one. -/
def setAddress (r : RegionReader) : Option Text → RegionReader
  | some token => r.address (Hexadecimal.value (Token.withoutColon token))
  | none => r

/-- Reads a line by its columns. -/
def readLine (resolver : Resolver) (r : RegionReader) (line : Text) : RegionReader :=
  (countBytes 0 (bytes line) (r.setAddress (address? line))).refer (references resolver line)

/-! ## Reading word by word -/

theorem calleeOf_operand (resolver : Resolver) {token part : Text}
    (h : part ∈ Token.operands token) :
    calleeOf resolver part = .ok (reference? resolver part) := by
  cases part with
  | nil => exact absurd rfl (Token.mem_operands h).1
  | cons c rest => rfl

/-- Reading a word of an instruction adds the symbols that it refers to. -/
theorem operand_spec (resolver : Resolver) (r : RegionReader) (token : Text) :
    operand resolver r token = .ok (r.refer (referencesOf resolver [token])) := by
  have hparts : ∀ parts ⊆ Token.operands token,
      parts.mapM (calleeOf resolver) = .ok (parts.map (reference? resolver)) := by
    intro parts
    induction parts with
    | nil => exact fun _ => rfl
    | cons part rest ih =>
        intro hsubset
        rw [List.cons_subset] at hsubset
        rw [List.mapM_cons, calleeOf_operand resolver hsubset.1, ih hsubset.2]
        rfl
  have hids : ((Token.operands token).map (reference? resolver)).filterMap id
      = (Token.operands token).filterMap (reference? resolver) := by
    rw [List.filterMap_map]
    rfl
  have hwords : referencesOf resolver [token]
      = (Token.operands token).filterMap (reference? resolver) := by
    rw [referencesOf, List.flatMap_singleton]
  rw [operand, hparts _ (List.Subset.refl _), hwords, ← hids]
  rfl

theorem referencesOf_nil (resolver : Resolver) : referencesOf resolver [] = [] := rfl

theorem referencesOf_cons (resolver : Resolver) (token : Text) (rest : List Text) :
    referencesOf resolver (token :: rest)
      = referencesOf resolver [token] ++ referencesOf resolver rest := by
  simp only [referencesOf, List.flatMap_cons, List.flatMap_nil, List.append_nil,
    List.filterMap_append]

theorem refer_nil (r : RegionReader) : r.refer [] = r := by
  rw [refer, List.append_nil]

theorem refer_refer (r : RegionReader) (first second : List Text) :
    (r.refer first).refer second = r.refer (first ++ second) := by
  simp only [refer, List.append_assoc]

/-- In the instruction every word adds what it refers to, and the instruction goes on. -/
theorem foldlM_word_instruction (resolver : Resolver) (words : List Text) (r : RegionReader) :
    words.foldlM (word resolver) (r, .instruction)
      = .ok (r.refer (referencesOf resolver words), .instruction) := by
  induction words generalizing r with
  | nil => rw [referencesOf_nil, refer_nil]; rfl
  | cons token rest ih =>
      have hword : word resolver (r, .instruction) token
          = .ok (r.refer (referencesOf resolver [token]), .instruction) := by
        show (operand resolver r token >>= _) = _
        rw [operand_spec]
        rfl
      rw [List.foldlM_cons, hword, referencesOf_cons resolver token rest, ← refer_refer]
      exact ih _

/-- In the column of bytes, bytes are counted up to the first word that is none, and from there on
the words are those of the instruction. -/
theorem foldlM_word_bytes (resolver : Resolver) (words : List Text) (seen : Nat)
    (r : RegionReader) :
    ∃ place, words.foldlM (word resolver) (r, .bytes seen)
      = .ok ((countBytes seen (words.takeWhile Token.isOpcodeByte) r).refer
          (referencesOf resolver (words.dropWhile Token.isOpcodeByte)), place) := by
  induction words generalizing seen r with
  | nil =>
      refine ⟨.bytes seen, ?_⟩
      rw [List.dropWhile_nil, referencesOf_nil, refer_nil]
      rfl
  | cons token rest ih =>
      cases hbyte : Token.isOpcodeByte token with
      | true =>
          have hword : word resolver (r, .bytes seen) token
              = .ok (r.opcodeByte token seen, .bytes (seen + 1)) := by
            show byteOrInstruction resolver r seen token = _
            rw [byteOrInstruction, if_pos hbyte]
            rfl
          obtain ⟨place, hrest⟩ := ih (seen + 1) (r.opcodeByte token seen)
          refine ⟨place, ?_⟩
          rw [List.foldlM_cons, hword, List.takeWhile_cons_of_pos hbyte,
            List.dropWhile_cons_of_pos hbyte]
          exact hrest
      | false =>
          -- this word is the first of the instruction, and no byte is read after it
          have hword : word resolver (r, .bytes seen) token
              = .ok (r.refer (referencesOf resolver [token]), .instruction) := by
            show byteOrInstruction resolver r seen token = _
            rw [byteOrInstruction, if_neg (by rw [hbyte]; exact Bool.false_ne_true), operand_spec]
            rfl
          have hno : ¬ Token.isOpcodeByte token = true := by rw [hbyte]; exact Bool.false_ne_true
          refine ⟨.instruction, ?_⟩
          rw [List.foldlM_cons, hword, List.takeWhile_cons_of_neg hno,
            List.dropWhile_cons_of_neg hno, referencesOf_cons resolver token rest, ← refer_refer]
          exact foldlM_word_instruction resolver rest _

/-- Reading a line word by word is reading it by its columns, and never fails. -/
theorem feed_spec (resolver : Resolver) (r : RegionReader) (line : Text) :
    feed resolver r line = .ok (readLine resolver r line) := by
  have hwords : ∃ place, line.words.foldlM (word resolver) (r, .first)
      = .ok (readLine resolver r line, place) := by
    unfold readLine references instruction bytes behindAddress address?
    cases line.words with
    | nil =>
        have hnone : (r.refer [], Place.first) = (r, Place.first) := by rw [refer_nil]
        exact ⟨.first, congrArg Except.ok hnone.symm⟩
    | cons token rest =>
        cases haddress : Token.isAddress token with
        | true =>
            have hword : word resolver (r, .first) token
                = .ok (r.address (Hexadecimal.value (Token.withoutColon token)), .bytes 0) := by
              simp only [word, haddress, if_true, Token.addressValue_of_isAddress haddress]
              rfl
            obtain ⟨place, hrest⟩ := foldlM_word_bytes resolver rest 0
              (r.address (Hexadecimal.value (Token.withoutColon token)))
            refine ⟨place, ?_⟩
            rw [List.foldlM_cons, hword]
            simp only [List.head?_cons, Option.filter_some, haddress, if_true, Option.isSome_some,
              List.tail_cons]
            exact hrest
        | false =>
            -- without an address the first word is read as if it stood behind one
            have hword : word resolver (r, .first) token = word resolver (r, .bytes 0) token := by
              simp only [word, haddress, Bool.false_eq_true, if_false]
            obtain ⟨place, hrest⟩ := foldlM_word_bytes resolver (token :: rest) 0 r
            refine ⟨place, ?_⟩
            rw [List.foldlM_cons, hword, ← List.foldlM_cons, hrest]
            simp only [List.head?_cons, Option.filter_some, haddress, Bool.false_eq_true, if_false,
              Option.isSome_none, setAddress]
  obtain ⟨place, hplace⟩ := hwords
  rw [feed, hplace]
  rfl

end RegionReader

end SymbolAtlas
