/-
Identity/Proofs/Crypto/Sha2.lean

Digests with the newest word of a schedule in front.

A schedule grows at its end, and the words that the next one is made of are
counted from the end.  Whoever evaluates a digest by the definitions walks
through the whole schedule for each of them.  With the newest word in front they
are a few steps away.  The digest is the same (`hash_eq_hashBackward`), and the
digests of fixed messages can be computed in proofs.
-/
import Identity.Crypto.Sha2

namespace Identity.Crypto.Sha2

variable (v : Variant)

/-! ### The newest word first -/

/-- The word that stands `k` places before the next one, or the first word when there are
fewer. -/
def wordBefore {w : Nat} (k : Nat) (words : List (BitVec w)) : BitVec w :=
  words.getD (min k words.length - 1) 0

/-- The word that follows the words of a schedule so far, the newest one first. -/
def nextBackward (words : List (BitVec v.width)) : BitVec v.width :=
  wordBefore 16 words + rotationsShift v.early (wordBefore 15 words) +
    wordBefore 7 words + rotationsShift v.late (wordBefore 2 words)

/-- Extends a schedule by `count` words. -/
def extendBackward : (count : Nat) → List (BitVec v.width) → List (BitVec v.width)
  | 0, words => words
  | count + 1, words => extendBackward count (nextBackward v words :: words)

/-- Folds one block into the state. -/
def compressBackward (s : State v.width) (block : Bytes) : State v.width :=
  let words := extendBackward v (v.constants.length - 16) (blockWords v block).toList.reverse
  s.add ((v.constants.zip words.reverse).foldl (round v) s)

/-- The digest of a message. -/
def hashBackward (message : Bytes) : Bytes :=
  let blocks := Bytes.chunks v.blockLength (message ++ padding v message.length)
  (blocks.foldl (compressBackward v) (State.ofList v.initial)).words.flatMap fun w =>
    Bytes.ofNatBE v.wordLength w.toNat

/-! ### The same digest -/

theorem getD_eq_wordBefore {w k : Nat} (hk : 0 < k) (schedule : Array (BitVec w)) :
    schedule.getD (schedule.size - k) 0 = wordBefore k schedule.toList.reverse := by
  rw [wordBefore, Array.getD_eq_getD_getElem?, List.getD_eq_getElem?_getD, List.length_reverse,
    Array.length_toList]
  rcases Nat.eq_zero_or_pos schedule.size with hempty | hpos
  · obtain rfl := Array.eq_empty_of_size_eq_zero hempty
    rfl
  · have hindex : min k schedule.size - 1 < schedule.toList.length := by
      rw [Array.length_toList]
      omega
    rw [List.getElem?_reverse hindex, Array.length_toList, Array.getElem?_toList]
    congr 2
    omega

theorem nextWord_eq_nextBackward (schedule : Array (BitVec v.width)) :
    nextWord v schedule = nextBackward v schedule.toList.reverse := by
  unfold nextWord nextBackward
  simp only [getD_eq_wordBefore, Nat.zero_lt_succ]

theorem toList_extend (count : Nat) (schedule : Array (BitVec v.width)) :
    (extend v count schedule).toList =
      (extendBackward v count schedule.toList.reverse).reverse := by
  induction count generalizing schedule with
  | zero => exact (List.reverse_reverse _).symm
  | succ count ih =>
    rw [extend, ih, extendBackward, nextWord_eq_nextBackward, Array.toList_push,
      List.reverse_append]
    rfl

theorem compress_eq_compressBackward : compress v = compressBackward v := by
  funext s block
  rw [compress, compressBackward, toList_extend]

theorem hash_eq_hashBackward : hash = hashBackward := by
  funext v message
  rw [hash, hashBackward, compress_eq_compressBackward]

end Identity.Crypto.Sha2
