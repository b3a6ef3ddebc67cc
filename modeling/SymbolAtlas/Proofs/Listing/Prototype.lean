/-
# SymbolAtlas.Proofs.Listing.Prototype — which texts give an export a prototype

The prototype is the content of the first pair of a name text, so it is balanced, and the scan that
looks for its argument list finds there what the scan of the whole text found. The converse does not
hold: a text that is not balanced is meant to give an anomaly and no prototype, and it does if one of
its closing brackets is wrong. But a bracket that is never closed goes unnoticed, and the prototype
is then the content of whatever pair comes first.
-/
import SymbolAtlas.Proofs.Bracket.Level
import SymbolAtlas.Proofs.Listing.ExportName

namespace SymbolAtlas

open SymbolAtlas.Bracket

/-! ## The argument list of a prototype -/

/-- Whether a pair may be the argument list of the content of another pair: it is round, and it lies
one level inside of it. -/
def Bracket.Pair.isArgumentsIn (p q : Pair) : Bool :=
  p.encloses q && (q.kind == .round && q.level == p.level + 1)

/-- The first round pair on the outside of the content of a pair is the first one in the text that
may be its argument list. -/
theorem find?_isArgumentsIn {s : Text} {p : Pair} (h : p ∈ pairs s) :
    (pairs s).find? p.isArgumentsIn
      = ((pairs (p.content s)).find? fun q => q.kind == .round && q.level == 1).map p.outward := by
  have houtward (q : Pair) : ((p.outward q).kind == .round && (p.outward q).level == p.level + 1)
      = (q.kind == .round && q.level == 1) := by
    have hlevel : (p.level + q.level == p.level + 1) = (q.level == 1) := by
      rw [Bool.eq_iff_iff, beq_iff_eq, beq_iff_eq]
      omega
    rw [Pair.outward, hlevel]
  have hsame := congrArg
    (List.find? fun q => q.kind == .round && q.level == p.level + 1) (map_pairs_content h)
  rw [List.find?_map, List.find?_filter] at hsame
  simp only [Function.comp_def, houtward] at hsame
  rw [hsame]
  congr 1
  funext q
  rw [Pair.isArgumentsIn, Bool.decide_and, Bool.decide_eq_true, Bool.decide_eq_true]

/-- What precedes the argument list in the content of a pair, found by the pairs of the whole text.
-/
theorem beforeArguments_content {s : Text} {p : Pair} (h : p ∈ pairs s) :
    beforeArguments (p.content s)
      = match (pairs s).find? p.isArgumentsIn with
        | some q => slice s (p.openIndex + 1) q.openIndex
        | none => p.content s := by
  rw [beforeArguments, find?_isArgumentsIn h]
  cases hlist : (pairs (p.content s)).find? fun q => q.kind == .round && q.level == 1 with
  | none => rfl
  | some q =>
      have hq := describes_of_mem (List.mem_of_find?_eq_some hlist)
      obtain ⟨-, hinside⟩ := ((describes_of_mem h).outward_iff q).mp hq
      have horder := hq.matched.order
      have hclose : p.openIndex + 1 + q.closeIndex < p.closeIndex :=
        (Pair.encloses_iff.mp hinside).2
      show (p.content s).take q.openIndex
        = slice s (p.openIndex + 1) (p.openIndex + 1 + q.openIndex)
      rw [Pair.content_eq_slice, take_slice s (by omega)]

/-! ## What the parts of a name come from -/

namespace ExportName

theorem eq_some_of_nonEmpty {s : Option Text} {text : Text} (h : nonEmpty s = some text) :
    s = some text :=
  (Option.filter_eq_some_iff.mp h).1

/-- The prototype is the content of the first pair, and the anomaly the fault of the scan. -/
theorem parts_of_ofText? {text : Text} {name : ExportName} (h : ofText? text = some name) :
    name.prototype = nonEmpty ((pairs text).head?.map fun p => p.content text) ∧
      name.anomaly = fault? text := by
  simp only [ofText?] at h
  split at h
  · cases h
  · cases h
    exact ⟨rfl, rfl⟩

theorem exists_firstPair {text prototype : Text} {name : ExportName}
    (h : ofText? text = some name) (hprototype : name.prototype = some prototype) :
    ∃ p, (pairs text).head? = some p ∧ prototype = p.content text := by
  rw [(parts_of_ofText? h).1] at hprototype
  obtain ⟨p, hp, hcontent⟩ := Option.map_eq_some_iff.mp (eq_some_of_nonEmpty hprototype)
  exact ⟨p, hp, hcontent.symm⟩

/-- A text with a closing bracket that matches nothing gives no prototype, and its anomaly is the
fault of that bracket. -/
theorem parts_of_fault {text : Text} {fault : Fault} (hfault : fault? text = some fault)
    {name : ExportName} (h : ofText? text = some name) :
    name.prototype = none ∧ name.anomaly = some fault := by
  obtain ⟨hprototype, hanomaly⟩ := parts_of_ofText? h
  rw [pairs_of_fault hfault] at hprototype
  exact ⟨hprototype, hanomaly.trans hfault⟩

end ExportName

/-! ## Two scans, and the brackets that they see -/

/-- Scanning the content of a pair again succeeds and finds the pairs of the text that lie inside of
it, in the same order, with positions counted from behind its opening bracket and levels from its own
level; and every bracket of the content stands in one of them. So a prototype is balanced, and its
argument list is the first round pair that lies one level inside the pair that the prototype comes
from. -/
theorem Bracket.content_scanned_again (s : Text) :
    (∀ (number : Nat) (p : Pair), (pairs s)[number]? = some p →
      content s number = .ok (p.content s) ∧
      fault? (p.content s) = none ∧
      (pairs (p.content s)).map p.outward = (pairs s).filter p.encloses ∧
      ∀ i c, (p.content s)[i]? = some c → isBracket c = true →
        ∃ q ∈ pairs (p.content s), q.openIndex = i ∨ q.closeIndex = i) ∧
    ∀ name prototype, ExportName.ofText? s = some name → name.prototype = some prototype →
      Balanced prototype ∧
      ∃ p, (pairs s).head? = some p ∧ prototype = p.content s ∧
        fault? prototype = none ∧
        (pairs prototype).map p.outward = (pairs s).filter p.encloses ∧
        beforeArguments prototype
          = match (pairs s).find? p.isArgumentsIn with
            | some q => slice s (p.openIndex + 1) q.openIndex
            | none => prototype := by
  have hscan {p : Pair} (hp : p ∈ pairs s) :
      Balanced (p.content s) ∧ fault? (p.content s) = none := by
    have hbalanced := (describes_of_mem hp).balanced_content
    exact ⟨hbalanced, extendable_iff_fault?.mp (extendable_of_balanced hbalanced)⟩
  constructor
  · intro number p hnumber
    have hp := List.mem_of_getElem? hnumber
    obtain ⟨hbalanced, hfault⟩ := hscan hp
    refine ⟨?_, hfault, map_pairs_content hp, ?_⟩
    · rw [content, if_neg (by omega), itemAt_of_getElem? hnumber]
      rfl
    · intro i c hc hbracket
      exact exists_pair_of_balanced hbalanced hc hbracket
  · intro name prototype hname hprototype
    obtain ⟨p, hfirst, rfl⟩ := ExportName.exists_firstPair hname hprototype
    have hp := List.mem_of_head? hfirst
    obtain ⟨hbalanced, hfault⟩ := hscan hp
    exact ⟨hbalanced, p, hfirst, rfl, hfault, map_pairs_content hp, beforeArguments_content hp⟩

/-! ## Texts that are not balanced -/

/-- A text that is not balanced gives no prototype and an anomaly if one of its closing brackets has
nothing open in front of it or is of the wrong kind. Otherwise it is some opening bracket that is
never closed, and then there is no anomaly, and the first pair gives the prototype as it does in a
balanced text. -/
theorem ExportName.ofText?_unbalanced {text : Text} (h : ¬ Balanced text) :
    (∃ i fault, fault.Names text i ∧
      ∀ name, ofText? text = some name →
        name.prototype = none ∧ name.anomaly = some fault) ∨
    ((∃ o, OpenAt text text.length o) ∧ (∀ i fault, ¬ Fault.Names text i fault) ∧
      ∀ name, ofText? text = some name → name.anomaly = none ∧
        name.prototype = nonEmpty ((pairs text).head?.map fun p => p.content text)) := by
  by_cases hextendable : Extendable text
  · have hfault := extendable_iff_fault?.mp hextendable
    refine .inr ⟨?_, ?_, ?_⟩
    · by_contra hclosed
      exact h (balanced_iff_closed.mpr ⟨hextendable, fun o hopen => hclosed ⟨o, hopen⟩⟩)
    · intro i fault hnames
      exact not_extendable_iff.mpr ⟨i, fault, hnames⟩ hextendable
    · intro name hname
      obtain ⟨hprototype, hanomaly⟩ := parts_of_ofText? hname
      exact ⟨hanomaly.trans hfault, hprototype⟩
  · obtain ⟨fault, hfault⟩ : ∃ fault, fault? text = some fault := by
      rw [← Option.ne_none_iff_exists']
      exact fun hnone => hextendable (extendable_iff_fault?.mpr hnone)
    obtain ⟨i, hnames⟩ := names_of_fault? hfault
    refine .inl ⟨i, fault, hnames, ?_⟩
    intro name hname
    exact parts_of_fault hfault hname

/-- A declaration that is cut off before its last bracket. -/
def truncatedName : Text := "?f@@YAHH@Z = ?f@@YAHH@Z (int __cdecl f(int)".toList

theorem truncatedName_unbalanced : ¬ Balanced truncatedName := by
  intro h
  have hdepth := (depth_of_balanced h).1
  exact absurd hdepth (by decide)

theorem ExportName.ofText?_unbalanced_truncated :
    ¬ Balanced truncatedName ∧
      ((∃ i fault, fault.Names truncatedName i ∧
        ∀ name, ofText? truncatedName = some name →
          name.prototype = none ∧ name.anomaly = some fault) ∨
      ((∃ o, OpenAt truncatedName truncatedName.length o) ∧
        (∀ i fault, ¬ Fault.Names truncatedName i fault) ∧
        ∀ name, ofText? truncatedName = some name → name.anomaly = none ∧
          name.prototype
            = nonEmpty ((pairs truncatedName).head?.map fun p => p.content truncatedName))) :=
  ⟨truncatedName_unbalanced, ofText?_unbalanced truncatedName_unbalanced⟩

/-- The argument list of the declaration is taken for its prototype, without an anomaly. -/
theorem ExportName.prototype_truncated :
    ¬ Balanced truncatedName ∧
      ofText? truncatedName
        = some ⟨"?f@@YAHH@Z".toList, "int".toList, some "int".toList,
            some "?f@@YAHH@Z".toList, none⟩ :=
  ⟨truncatedName_unbalanced, by decide⟩

end SymbolAtlas
