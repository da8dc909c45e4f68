/-
Identity/Secret/Shuffle.lean

Rearranging a list at random.

The last position is exchanged with one drawn from all positions, then the
one before it with one drawn from those up to it, and so on down to the
second.  The draws are made first (`draws`) and then carried out
(`rearrange`), so that what they do to a list can be said without the tape.
-/
import Identity.Entropy

namespace Identity.Shuffle

variable {α : Type}

/-- The list with two positions exchanged. -/
def exchange (i j : Nat) (items : List α) : List α :=
  match items[i]?, items[j]? with
  | some x, some y => (items.set i y).set j x
  | _, _ => items

/-- Exchanges position `upper` with the first drawn one, the position before it
with the second, and so on. -/
def rearrangeFrom : (upper : Nat) → List Nat → List α → List α
  | upper + 1, j :: js, items => rearrangeFrom upper js (exchange (upper + 1) j items)
  | _, _, items => items

/-- Carries out a sequence of draws on a list. -/
def rearrange (drawn : List Nat) (items : List α) : List α :=
  rearrangeFrom (items.length - 1) drawn items

/-- Draws a position up to each of `upper`, …, 2, 1. -/
def draws : (upper : Nat) → Draw (List Nat)
  | 0 => return []
  | upper + 1 => do
    let j ← Draw.index (upper + 2)
    let js ← draws upper
    return j :: js

/-- Rearranges a list at random. -/
def shuffle (items : List α) : Draw (List α) := do
  let drawn ← draws (items.length - 1)
  return rearrange drawn items

end Identity.Shuffle
