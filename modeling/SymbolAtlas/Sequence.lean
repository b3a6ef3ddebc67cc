/-
# SymbolAtlas.Sequence — items of a list by index

An index from 0 on counts from the front and a negative one from the end. An index without an item
is a failure, and if it does not fit into a signed word of 64 bits it is a failure of its own.
`foldRange` visits the items of a range of indexes in order and fails at the first index that has no
item.
-/
import SymbolAtlas.Failure

namespace SymbolAtlas

/-- Whether a number fits into a signed word of 64 bits. -/
def isWord (n : Int) : Bool := -Int.pow 2 63 ≤ n && n < Int.pow 2 63

/-- The failure of an index that has no item. -/
def missingItem (index : Int) : Failure := if isWord index then .noItem else .indexTooWide

/-- The item of a list at an index; a negative index counts from the end. -/
def itemAt {α : Type} (items : List α) (index : Int) : Attempt α :=
  let position := if index < 0 then index + items.length else index
  if position < 0 then .error (missingItem index)
  else match items[position.toNat]? with
    | some item => .ok item
    | none => .error (missingItem index)

/-- Passes items on to `step`, `count` of them, with their indexes from `index` on. -/
def foldFrom {α β : Type} (step : β → Int → α → Attempt β) :
    (count : Nat) → (index : Int) → List α → β → Attempt β
  | 0, _, _, state => .ok state
  | _ + 1, index, [], _ => .error (missingItem index)
  | count + 1, index, item :: rest, state => do
    foldFrom step count (index + 1) rest (← step state index item)

/-- Passes the items at `count` indexes from `index` on to `step`, with their indexes. From a
negative index the items up to the end are followed by those from the front. -/
def foldRange {α β : Type} (items : List α) (step : β → Int → α → Attempt β)
    (count : Nat) (index : Int) (state : β) : Attempt β :=
  if count = 0 then .ok state
  else if 0 ≤ index then foldFrom step count index (items.drop index.toNat) state
  else
    let position := index + items.length
    if position < 0 then .error (missingItem index)
    else foldFrom step count index (items.drop position.toNat ++ items) state

end SymbolAtlas
