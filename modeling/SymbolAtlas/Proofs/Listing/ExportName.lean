/-
# SymbolAtlas.Proofs.Listing.ExportName — taking apart a text with a decorated name

With a decorated name in front of its first `=`, a text always names something: the symbol is that
name, the prototype is the content of the first matched pair, and an anomaly is the fault of the
scan. Two shapes of the text behind the `=` are read off from this: a text without brackets, and one
whose first bracket encloses all that follows.
-/
import SymbolAtlas.Listing.ExportName
import SymbolAtlas.Proofs.Bracket
import SymbolAtlas.Proofs.Text.Search
import SymbolAtlas.Proofs.Text.Words

namespace SymbolAtlas

namespace ExportName

/-- The name of a symbol with a decorated name, by its prototype. -/
def decorated (symbol : Text) (prototype : Option Text) (anomaly : Option Bracket.Fault) :
    ExportName where
  symbol := symbol
  shortName := (prototype.bind shortFunctionName).getD symbol
  prototype := prototype
  decoratedName := some symbol
  anomaly := anomaly

theorem nonEmpty_some {s : Text} (h : s ≠ []) : nonEmpty (some s) = some s := by
  cases s with
  | nil => exact absurd rfl h
  | cons c rest => rfl

/-- A text with a decorated name in front of its first `=`. -/
theorem ofText?_decorated {before : Text} (hmark : '=' ∉ before) (hne : before.trim ≠ [])
    (after : Text) :
    ofText? (before ++ '=' :: after)
      = some (decorated before.trim
          (nonEmpty ((Bracket.pairs (before ++ '=' :: after)).head?.map fun pair =>
            pair.content (before ++ '=' :: after)))
          (Bracket.fault? (before ++ '=' :: after))) := by
  have hname : nonEmpty ((Text.beforeFirst? '=' (before ++ '=' :: after)).map Text.trim)
      = some before.trim := by
    rw [Text.beforeFirst?_append hmark, Option.map_some, nonEmpty_some hne]
  simp only [ofText?, hname, Option.isNone_some, Bool.false_and, Bool.false_eq_true, if_false,
    Option.some_or, Option.getD_some]
  rfl

/-- Without brackets there is no prototype and no anomaly. -/
theorem ofText?_plain {before after : Text} (hmark : '=' ∉ before) (hne : before.trim ≠ [])
    (hplain : Bracket.isPlain (before ++ '=' :: after) = true) :
    ofText? (before ++ '=' :: after) = some (decorated before.trim none none) := by
  have hscan : Bracket.scan (before ++ '=' :: after) = .ok [] := by
    have h := Bracket.scanFrom_plain hplain 0 [] []
    rw [List.append_nil] at h
    exact h
  have hpairs : Bracket.pairs (before ++ '=' :: after) = [] := by rw [Bracket.pairs, hscan]
  have hfault : Bracket.fault? (before ++ '=' :: after) = none := by rw [Bracket.fault?, hscan]
  rw [ofText?_decorated hmark hne, hpairs, hfault]
  rfl

/-- If the first bracket of a text encloses the rest, which is balanced, then this rest is the
prototype, the first pair opens behind what stands in front of it, and nothing is amiss. -/
theorem firstPair_enclosed {before prototype : Text} (hplain : Bracket.isPlain before = true)
    (hprototype : prototype ≠ []) (hbalanced : Bracket.Balanced prototype) (kind : Bracket)
    {text : Text} (htext : text = before ++ kind.opening :: (prototype ++ [kind.closing])) :
    Bracket.fault? text = none ∧ ∃ p, (Bracket.pairs text).head? = some p ∧
      text.take p.openIndex = before ∧ nonEmpty (some (p.content text)) = some prototype := by
  obtain ⟨later, hscan⟩ := Bracket.scan_enclosed hplain hbalanced kind
  rw [← htext] at hscan
  refine ⟨by rw [Bracket.fault?, hscan], _, by rw [Bracket.pairs, hscan]; rfl, ?_, ?_⟩
  · rw [htext, List.take_left]
  · rw [htext, Bracket.content_enclosed kind before prototype kind.opening kind.closing 1,
      nonEmpty_some hprototype]

/-- A pair of brackets that encloses the rest of the text, which is balanced, holds the
prototype. -/
theorem ofText?_enclosed {before middle prototype : Text} (hmark : '=' ∉ before)
    (hne : before.trim ≠ []) (hplain : Bracket.isPlain (before ++ '=' :: middle) = true)
    (hprototype : prototype ≠ []) (hbalanced : Bracket.Balanced prototype) (kind : Bracket) :
    ofText? (before ++ '=' :: (middle ++ kind.opening :: (prototype ++ [kind.closing])))
      = some (decorated before.trim (some prototype) none) := by
  have htext : before ++ '=' :: (middle ++ kind.opening :: (prototype ++ [kind.closing]))
      = (before ++ '=' :: middle) ++ kind.opening :: (prototype ++ [kind.closing]) := by
    rw [List.append_assoc, List.cons_append]
  obtain ⟨hfault, p, hfirst, -, hcontent⟩ :=
    firstPair_enclosed hplain hprototype hbalanced kind htext
  rw [ofText?_decorated hmark hne, hfirst, hfault, Option.map_some, hcontent]

end ExportName

end SymbolAtlas
