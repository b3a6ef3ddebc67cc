/-
# SymbolAtlas.Proofs.Listing.Undecorated — name texts that hold a symbol and its prototype only

Without a decorated name, the symbol of an export is what stands in front of its prototype. But the
mark behind a decorated name is searched for in the whole text, also between the brackets of the
prototype, where an operator may show it. Then all in front of the mark is taken for a decorated
name, the bracket and the beginning of the prototype included. `ofText?_undecorated` says that the
symbol is the one that is meant exactly if the prototype does not hold the mark.
-/
import SymbolAtlas.Proofs.Bracket.Balance
import SymbolAtlas.Proofs.Listing.ExportName

namespace SymbolAtlas

namespace ExportName

/-- A symbol and its prototype, without a decorated name. -/
structure Undecorated where
  symbol : Text
  prototype : Text
  symbol_ne : symbol ≠ []
  symbol_trim : symbol.trim = symbol
  symbol_mark : '=' ∉ symbol
  symbol_plain : Bracket.isPlain symbol = true
  prototype_ne : prototype ≠ []
  prototype_balanced : Bracket.Balanced prototype

namespace Undecorated

/-- The name text: the prototype stands between round brackets behind the symbol. -/
def text (u : Undecorated) : Text := u.symbol ++ " (".toList ++ u.prototype ++ ")".toList

/-- What the text is meant to say. -/
def meant (u : Undecorated) : ExportName where
  symbol := u.symbol
  shortName := (shortFunctionName u.prototype).getD u.symbol
  prototype := some u.prototype
  decoratedName := none
  anomaly := none

/-- The text up to the first mark in the prototype. -/
def untilMark (u : Undecorated) : Text :=
  Text.trim (u.symbol ++ " (".toList ++ u.prototype.takeWhile (· != '='))

/-- The first pair of the text holds the prototype, and the symbol stands in front of it. -/
theorem firstPair (u : Undecorated) :
    Bracket.fault? u.text = none ∧ ∃ p, (Bracket.pairs u.text).head? = some p ∧
      Text.trim (u.text.take p.openIndex) = u.symbol ∧
      nonEmpty (some (p.content u.text)) = some u.prototype := by
  have hplain : Bracket.isPlain (u.symbol ++ [' ']) = true := by
    rw [Bracket.isPlain_append, u.symbol_plain]
    rfl
  have htext : u.text = (u.symbol ++ [' ']) ++ '(' :: (u.prototype ++ [')']) := by
    simp [text]
  obtain ⟨hfault, p, hfirst, hbefore, hcontent⟩ :=
    firstPair_enclosed hplain u.prototype_ne u.prototype_balanced .round htext
  refine ⟨hfault, p, hfirst, ?_, hcontent⟩
  rw [hbefore, Text.trim_append_right (by decide), u.symbol_trim]

/-- Without the mark in its prototype, the text is read as it is meant. -/
theorem ofText?_of_not_mem (u : Undecorated) (h : '=' ∉ u.prototype) :
    ofText? u.text = some u.meant := by
  obtain ⟨hfault, p, hfirst, hsymbol, hcontent⟩ := u.firstPair
  have hmark : Text.beforeFirst? '=' u.text = none := by
    have hnot : '=' ∉ u.text := by
      simp [text, u.symbol_mark, h]
    exact if_neg hnot
  simp only [ofText?, hmark, hfirst, hfault, Option.map_some, Option.map_none, hcontent, hsymbol,
    nonEmpty_some u.symbol_ne]
  rfl

/-- With the mark in its prototype, the text up to there is taken for a decorated name. -/
theorem ofText?_of_mem (u : Undecorated) (h : '=' ∈ u.prototype) :
    ofText? u.text = some (decorated u.untilMark (some u.prototype) none) := by
  obtain ⟨hfault, p, hfirst, -, hcontent⟩ := u.firstPair
  obtain ⟨start, rest, hprototype, hstart⟩ := List.eq_append_cons_of_mem h
  let before := u.symbol ++ " (".toList ++ start
  have htext : u.text = before ++ '=' :: (rest ++ ")".toList) := by
    simp [text, before, hprototype]
  have hmark : '=' ∉ before := by
    simp [before, u.symbol_mark, hstart]
  have huntil : u.untilMark = before.trim := by
    rw [untilMark, hprototype, Text.takeWhile_bne_append hstart]
  have hne : before.trim ≠ [] := by
    intro hnil
    have hblank := (Text.trim_eq_nil_iff before).mp hnil
    have hsymbol := Text.not_blank_of_trim_eq u.symbol_ne u.symbol_trim
    simp [before, Text.isBlankText_append, hsymbol] at hblank
  have hread := ofText?_decorated hmark hne (rest ++ ")".toList)
  rw [← htext, hfirst, hfault, Option.map_some, hcontent, ← huntil] at hread
  exact hread

end Undecorated

/-- A name text of a symbol and a prototype is read as it is meant exactly if the prototype does not
hold the mark of a decorated name, whatever else it holds. Otherwise the prototype is still read,
but all in front of the mark is taken for a decorated name, and so for the symbol. -/
theorem ofText?_undecorated (u : Undecorated) :
    (ofText? u.text = some u.meant ↔ '=' ∉ u.prototype) ∧
    ('=' ∈ u.prototype →
      ofText? u.text = some (decorated u.untilMark (some u.prototype) none)) := by
  refine ⟨⟨?_, u.ofText?_of_not_mem⟩, u.ofText?_of_mem⟩
  intro hmeant hmark
  rw [u.ofText?_of_mem hmark] at hmeant
  -- a decorated name is read, and none is meant
  have hname := congrArg ExportName.decoratedName (Option.some.inj hmeant)
  cases hname

/-- A comparison operator without a decorated name. -/
def comparison : Undecorated where
  symbol := "exported".toList
  prototype := "bool operator==(int)".toList
  symbol_ne := by decide
  symbol_trim := by decide
  symbol_mark := by decide
  symbol_plain := by decide
  prototype_ne := by decide
  prototype_balanced := by decide

/-- The operator is cut off from its own prototype: what precedes its mark becomes the symbol. -/
theorem ofText?_comparison :
    comparison.text = "exported (bool operator==(int))".toList ∧
      comparison.meant = ⟨"exported".toList, "operator==".toList,
        some "bool operator==(int)".toList, none, none⟩ ∧
      ofText? comparison.text = some ⟨"exported (bool operator".toList, "operator==".toList,
        some "bool operator==(int)".toList, some "exported (bool operator".toList, none⟩ ∧
      ofText? comparison.text ≠ some comparison.meant := by
  decide

example : ofText? "exported (void __cdecl exported(void))".toList
    = some ⟨"exported".toList, "exported".toList, some "void __cdecl exported(void)".toList, none,
        none⟩ := by
  decide

end ExportName

end SymbolAtlas
