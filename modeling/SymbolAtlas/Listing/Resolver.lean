/-
# SymbolAtlas.Listing.Resolver — which symbol an operand stands for

A text stands for a symbol if it is the name of a function or of an imported symbol. Beside these
exact names there are aliases: an imported symbol answers to its thunk, whose name begins with
`__imp_`, and a label of several words answers to its first word. Exact names win over all aliases,
and aliases that are given win over those two.

The texts stand in the order in which they were first entered; a text that is entered again keeps
its place.
-/
import SymbolAtlas.Listing.Token

namespace SymbolAtlas

/-- Texts with the symbols that they stand for. -/
abbrev Resolver := List (Text × Text)

namespace Resolver

/-- What a text stands for. -/
def resolve? (r : Resolver) (text : Text) : Option Text := r.lookup text

/-- Enters a text, or gives it a new symbol. -/
def enter (text symbol : Text) : Resolver → Resolver
  | [] => [(text, symbol)]
  | (known, old) :: rest =>
    if known = text then (known, symbol) :: rest else (known, old) :: enter text symbol rest

/-- Enters a text unless it stands for something already. -/
def enterNew (text symbol : Text) (r : Resolver) : Resolver :=
  if (r.resolve? text).isSome then r else r.enter text symbol

/-- What the name of an import thunk begins with. -/
def thunkMark : Text := "__imp_".toList

/-- Enters the first word of a label that has more than one. -/
def enterLabel (r : Resolver) (name : Text) : Attempt Resolver := do
  let word ← Token.firstWord name
  return if word = name then r else r.enterNew word name

/-- The resolver for the functions of a listing and the symbols imported by its file. -/
def build (names imported : List Text) (aliases : List (Text × Text)) : Attempt Resolver := do
  let thunks := imported.foldl (fun r symbol => enterNew (thunkMark ++ symbol) symbol r) []
  let labels ← names.foldlM enterLabel thunks
  let given := aliases.foldl (fun r (text, symbol) => enter text symbol r) labels
  return (imported ++ names).foldl (fun r symbol => enter symbol symbol r) given

end Resolver

end SymbolAtlas
