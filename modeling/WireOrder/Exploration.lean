import WireOrder.Tokenizer

/-!
# Exploring a format with backtracking

A tokenizer is a value, so a place in a format can be kept and returned to.
An exploration holds the tokenizer in use and, nearest first, the ones that
were kept.
-/

namespace WireOrder

/-- A tokenizer in use, with kept ones to return to. -/
structure Exploration where
  current : Tokenizer
  kept : List Tokenizer
  deriving DecidableEq

namespace Exploration

/-- An exploration at the beginning of a format. -/
def ofString (format : String) : Exploration :=
  ⟨Tokenizer.ofString format, []⟩

/-- What can be done with the tokenizer in use. -/
inductive Move where
  /-- Yield the next item. -/
  | next
  /-- Read the tokens to the end of the format, or to the first fault. -/
  | collect
  /-- Yield every item still to come. -/
  | drain
  /-- Show the tokenizer. -/
  | inspect
  /-- Keep the tokenizer as it is. -/
  | keep
  /-- Go back to the tokenizer kept last, if there is one. -/
  | back
  deriving DecidableEq

/-- What a move brings to light. -/
inductive Finding where
  | nothing
  | item (found : Option Item)
  | collected (result : Except Fault (List Token))
  | drained (items : List Item)
  | shown (text : String)

/-- The reports of the tokens among some items. -/
def itemEvents (items : List Item) : List Event :=
  (Tokenizer.tokensAmong items).map .tokenRead

/-- Make one move. -/
def make (exploration : Exploration) (move : Move) :
    Traced (Finding × Exploration) :=
  let tokenizer := exploration.current
  match move with
  | .next =>
      let (found, after) := tokenizer.next
      ⟨(.item found, { exploration with current := after }),
        itemEvents found.toList⟩
  | .collect =>
      ⟨(.collected tokenizer.collect,
          { exploration with current := tokenizer.exhausted }),
        itemEvents tokenizer.items⟩
  | .drain =>
      ⟨(.drained tokenizer.items,
          { exploration with current := tokenizer.exhausted }),
        itemEvents tokenizer.items⟩
  | .inspect => pure (.shown tokenizer.dump, exploration)
  | .keep => pure (.nothing, ⟨tokenizer, tokenizer :: exploration.kept⟩)
  | .back =>
      match exploration.kept with
      | [] => pure (.nothing, exploration)
      | last :: kept => pure (.nothing, ⟨last, kept⟩)

/-- Make several moves, with what each brings to light and where it leads. -/
def makeAll (exploration : Exploration) :
    List Move → Traced (List (Finding × Exploration))
  | [] => pure []
  | move :: moves => do
      let first ← exploration.make move
      let later ← first.2.makeAll moves
      return first :: later

end Exploration

end WireOrder
