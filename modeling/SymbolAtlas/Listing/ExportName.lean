/-
# SymbolAtlas.Listing.ExportName — the free text that names an export

The text behind the columns of an export line may hold a decorated name before an `=` and a
prototype between brackets. The first matched pair of brackets holds the prototype. Brackets that do
not match are an anomaly and cost the prototype only: the decorated name is still used.
-/
import SymbolAtlas.Bracket

namespace SymbolAtlas

/-- The part of a scoped name behind its last `::`, if it has one. -/
def afterLastScope? : Text → Option Text
  | ':' :: ':' :: rest => (afterLastScope? (':' :: rest)).or (some rest)
  | _ :: rest => afterLastScope? rest
  | [] => none

/-- A text without the template arguments at its end, if it ends in a matched angled pair. -/
def withoutTemplate (head : Text) : Text :=
  if head.getLast? = some '>' then
    match (Bracket.pairs head).find? fun p => p.closeIndex + 1 == head.length with
    | some pair => Text.trimEnd (head.take pair.openIndex)
    | none => head
  else head

/-- What precedes the argument list of a prototype: the first outermost pair of round brackets. -/
def beforeArguments (prototype : Text) : Text :=
  match (Bracket.pairs prototype).find? fun p => p.kind == .round && p.level == 1 with
  | some pair => prototype.take pair.openIndex
  | none => prototype

/-- The bare name of the function that a prototype declares: the identifier before the argument
list, without scopes and template arguments. -/
def shortFunctionName (prototype : Text) : Option Text :=
  let head := withoutTemplate (beforeArguments prototype).trimEnd
  ((afterLastScope? head).getD head).words.getLast?

/-- The parts of an export name. -/
structure ExportName where
  symbol : Text
  shortName : Text
  prototype : Option Text
  decoratedName : Option Text
  anomaly : Option Bracket.Fault
  deriving DecidableEq, Repr

/-- A text that may be absent, where the empty text counts as absent too. -/
def nonEmpty (s : Option Text) : Option Text := s.filter fun text => !text.isEmpty

/-- Takes an export name apart. A text with neither decorated name nor prototype names nothing. -/
def ExportName.ofText? (name : Text) : Option ExportName :=
  let firstPair := (Bracket.pairs name).head?
  let prototype := nonEmpty (firstPair.map fun pair => pair.content name)
  let decorated := nonEmpty ((Text.beforeFirst? '=' name).map Text.trim)
  if decorated.isNone && prototype.isNone then none
  else
    let beforePair := nonEmpty (firstPair.map fun pair => Text.trim (name.take pair.openIndex))
    let symbol := (decorated.or beforePair).getD name
    some
      { symbol := symbol
        shortName := (prototype.bind shortFunctionName).getD symbol
        prototype := prototype
        decoratedName := decorated
        anomaly := Bracket.fault? name }

end SymbolAtlas
