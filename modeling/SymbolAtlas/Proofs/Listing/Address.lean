/-
# SymbolAtlas.Proofs.Listing.Address — where the code of a function begins, as a report shows it

The address column is read as a number of any size, kept while the lines of a region are read, and
written again for the report. The region keeps the first number it was given, whatever the lines
below show; and the number is written with the digits that it was read from, in upper case and
without leading zeros. So nothing of the first address is lost but the letter case and the padding.
-/
import SymbolAtlas.Proofs.Listing.Extent
import SymbolAtlas.Proofs.Number.Hexadecimal

namespace SymbolAtlas

/-- The member of an object with the given name. -/
def Json.member? (name : String) : Json → Option Json
  | .obj members => members.lookup name
  | _ => none

namespace CodeLine

/-- A line has no address exactly if it does not begin with a word of that shape. -/
theorem address?_eq_none_iff {line : Text} :
    address? line = none ↔ ∀ word ∈ line.words.head?, Token.isAddress word = false := by
  simp only [address?, Option.filter_eq_none_iff, Bool.not_eq_true, Option.mem_def]

theorem address?_of_head? {line token : Text} (hword : line.words.head? = some token)
    (haddress : Token.isAddress token = true) : address? line = some token := by
  rw [address?, hword, Option.filter_some, if_pos haddress]

end CodeLine

namespace Token

/-- The digits of an address are digits. -/
theorem isHexDigit_of_isAddress {token : Text} (h : isAddress token = true) :
    ∀ c ∈ withoutColon token, Text.isHexDigit c = true := by
  rw [isAddress, Bool.and_eq_true, isHex_iff] at h
  exact h.2.2

/-- The number of an address is written with its digits. -/
theorem writeMarked_of_isAddress {token : Text} (h : isAddress token = true) :
    Hexadecimal.writeMarked (Hexadecimal.value (withoutColon token))
      = '0' :: 'x' :: Hexadecimal.withoutLeadingZeros (withoutColon token) := by
  have hsign : ¬ (Hexadecimal.value (withoutColon token) : Int) < 0 := by omega
  rw [Hexadecimal.writeMarked, if_neg hsign, Int.natAbs_natCast,
    Hexadecimal.write_value (isHexDigit_of_isAddress h)]

end Token

namespace RegionReader

open CodeLine

/-- Once an address was read, no later line changes where the code begins. -/
theorem firstAddress_foldl (resolver : Resolver) {above below : List Text} {line token : Text}
    (habove : ∀ other ∈ above, address? other = none) (hline : address? line = some token)
    {r : RegionReader} (hr : r.region.firstAddress = none) :
    ((above ++ line :: below).foldl (readLine resolver) r).region.firstAddress
      = some (Hexadecimal.value (Token.withoutColon token) : Int) := by
  have hvalue : addressValue? line = some (Hexadecimal.value (Token.withoutColon token) : Int) := by
    rw [addressValue?, hline, Option.map_some]
  have hfirst : (above ++ line :: below).findSome? addressValue?
      = some (Hexadecimal.value (Token.withoutColon token) : Int) := by
    rw [List.findSome?_append, findSome?_addressValue?_eq_none habove, Option.none_or,
      List.findSome?_cons, hvalue]
  rw [foldl_readLine_region]
  show r.region.firstAddress.or _ = _
  rw [hr, Option.none_or, hfirst]

/-- An address token of any length has a number: the positional value of its digits. A region of
which nothing was read shows the first address that its lines begin with, however many lines follow
it and whatever they begin with, before and after it is complete: the mark `0x` and the digits of
the token, without its colon, in upper case and without leading zeros. -/
theorem reported_address {token : Text} (h : Token.isAddress token = true) :
    Token.addressValue token = .ok ((Nat.ofDigits 16
      ((Token.withoutColon token).reverse.map Text.hexDigitValue) : Nat) : Int) ∧
    ∀ (resolver : Resolver) (name : Text) (lineStart lineEnd : Int)
      (above : List Text) (line : Text) (below : List Text),
      (∀ other ∈ above, ∀ word ∈ other.words.head?, Token.isAddress word = false) →
      line.words.head? = some token →
      ∃ reader, (above ++ line :: below).foldlM (feed resolver) (fresh name lineStart lineEnd)
          = .ok reader ∧
        reader.region.toJson.member? "code_address_start" = some (.text
          ('0' :: 'x' :: Hexadecimal.withoutLeadingZeros (Token.withoutColon token))) ∧
        reader.finish.region.toJson.member? "code_address_start" = some (.text
          ('0' :: 'x' :: Hexadecimal.withoutLeadingZeros (Token.withoutColon token))) := by
  constructor
  · rw [Token.addressValue_of_isAddress h, Hexadecimal.value_eq_ofDigits]
  · intro resolver name lineStart lineEnd above line below habove hline
    refine ⟨_, foldlM_feed resolver _ _, ?_⟩
    have hnone : ∀ other ∈ above, address? other = none :=
      fun other hother => address?_eq_none_iff.mpr (habove other hother)
    have hfirst : ((above ++ line :: below).foldl (readLine resolver)
          (fresh name lineStart lineEnd)).region.firstAddress
        = some (Hexadecimal.value (Token.withoutColon token) : Int) :=
      firstAddress_foldl resolver hnone (address?_of_head? hline h) rfl
    generalize (above ++ line :: below).foldl (readLine resolver) (fresh name lineStart lineEnd)
      = reader at hfirst
    -- completing a region leaves its first address alone
    have hfinish : reader.finish.region.firstAddress = reader.region.firstAddress := rfl
    have hshown (region : Region)
        (hregion : region.firstAddress
          = some (Hexadecimal.value (Token.withoutColon token) : Int)) :
        region.toJson.member? "code_address_start" = some (.text
          ('0' :: 'x' :: Hexadecimal.withoutLeadingZeros (Token.withoutColon token))) := by
      show some (Json.text? (region.firstAddress.map Hexadecimal.writeMarked)) = _
      rw [hregion, Option.map_some, Token.writeMarked_of_isAddress h]
      rfl
    exact ⟨hshown _ hfirst, hshown _ (hfinish.trans hfirst)⟩

/-- A line of code whose address has letters in both cases. -/
def mixedLine : Text := "  00000001400A1bC0: 48 83 EC 28  sub rsp,28h".toList

/-- With opcode bytes above the address, and a higher and a lower address below it. -/
theorem reported_address_mixedLine :
    Token.isAddress "00000001400A1bC0:".toList = true ∧
    Token.addressValue "00000001400A1bC0:".toList = .ok 0x1400A1BC0 ∧
    (∀ other ∈ ["  90 nop".toList], ∀ word ∈ (Text.words other).head?,
      Token.isAddress word = false) ∧
    mixedLine.words.head? = some "00000001400A1bC0:".toList ∧
    ∃ reader, (["  90 nop".toList] ++ mixedLine ::
          ["  00000001400A1BC4: C3  ret".toList, "  00000000: CC  int 3".toList]).foldlM
        (feed []) (fresh "f".toList 2 7) = .ok reader ∧
      reader.finish.region.toJson.member? "code_address_start" = some (.str "0x1400A1BC0") := by
  have haddress : Token.isAddress "00000001400A1bC0:".toList = true := by decide
  have habove : ∀ other ∈ ["  90 nop".toList], ∀ word ∈ (Text.words other).head?,
      Token.isAddress word = false := by decide
  have hline : mixedLine.words.head? = some "00000001400A1bC0:".toList := by decide
  obtain ⟨hvalue, hreported⟩ := reported_address haddress
  obtain ⟨reader, hread, -, hshown⟩ := hreported [] "f".toList 2 7 _ _
    ["  00000001400A1BC4: C3  ret".toList, "  00000000: CC  int 3".toList] habove hline
  have hdigits : '0' :: 'x' :: Hexadecimal.withoutLeadingZeros
      (Token.withoutColon "00000001400A1bC0:".toList) = "0x1400A1BC0".toList := by decide
  rw [hdigits] at hshown
  exact ⟨haddress, hvalue.trans (by decide), habove, hline, reader, hread, hshown⟩

/-- Of an address of nothing but zeros one is left. -/
example : Hexadecimal.withoutLeadingZeros (Token.withoutColon "0000000000:".toList) = ['0'] := by
  decide

end RegionReader

end SymbolAtlas
