/-
Identity/Host/Punycode.lean

Texts of any characters written with letters, digits and hyphens.

The plain characters come first, then a hyphen, if there are any, then one
number for each other character.  The numbers follow the characters in order
of their code points, and of their places where code points are equal: each
says how many steps lie between two insertions, where a step moves one place
on, and past the last place to the next code point.

A number is written from its lowest digit on.  Each digit below a threshold
ends a number; the thresholds follow the size of the numbers before.
-/

namespace Identity.Host.Punycode

/-! ### Digits and thresholds -/

/-- How many digits there are: letters, then decimal digits. -/
def base : Nat := 36

/-- The digit of a value below 36. -/
def digit (v : Nat) : Char := Char.ofNat (if v < 26 then 97 + v else 22 + v)

/-- The value of a small letter or a decimal digit. -/
def value? (c : Char) : Option Nat :=
  if c.isLower then some (c.toNat - 97) else if c.isDigit then some (c.toNat - 22) else none

/-- The threshold at a place of a number, which counts up in steps of 36. -/
def threshold (bias place : Nat) : Nat := min 26 (max 1 (place - bias))

/-- No threshold is so low that a number could go on for ever. -/
theorem one_le_threshold (bias place : Nat) : 1 ≤ threshold bias place := by
  unfold threshold
  omega

/-- The place to which a number of the given size reaches. -/
def reach (size : Nat) : Nat :=
  if size ≤ 455 then 36 * size / (size + 38) else base + reach (size / 35)
termination_by size
decreasing_by omega

/-- The bias after a number, the first of all or a later one, with which a
text has grown to `count` characters. -/
def bias (isFirst : Bool) (count number : Nat) : Nat :=
  let size := number / if isFirst then 700 else 2
  reach (size + size / count)

/-- The bias before the first number. -/
def firstBias : Nat := 72

/-- The first code point that is no plain character. -/
def firstCode : Nat := 0x80

/-- The character goes over the wire as it is. -/
def isPlain (c : Char) : Bool := c.toNat < firstCode

/-! ### Writing -/

/-- The digits of a number from a place on. -/
def digits (bias place n : Nat) : List Char :=
  let t := threshold bias place
  if n < t then [digit n]
  else digit (t + (n - t) % (base - t)) :: digits bias (place + base) ((n - t) / (base - t))
termination_by n
decreasing_by
  have := one_le_threshold bias place
  have := Nat.div_le_self (n - threshold bias place) (base - threshold bias place)
  omega

/-- What is known while a text is written. -/
structure Writing where
  written : List Char
  steps : Nat
  bias : Nat
  count : Nat
  isFirst : Bool

namespace Writing

/-- Passes a character of the text, on the way to the places of `code`. -/
def pass (code : Nat) (w : Writing) (c : Char) : Writing :=
  if c.toNat < code then { w with steps := w.steps + 1 }
  else if c.toNat = code then
    { written := w.written ++ digits w.bias base w.steps
      steps := 0
      bias := Punycode.bias w.isFirst (w.count + 1) w.steps
      count := w.count + 1
      isFirst := false }
  else w

/-- Goes from the places of the code point before `next` to those of `code`. -/
def advance (text : List Char) (w : Writing) (next code : Nat) : Writing :=
  let w := text.foldl (pass code) { w with steps := w.steps + (code - next) * (w.count + 1) }
  { w with steps := w.steps + 1 }

/-- Goes to the places of some code points in turn. -/
def advanceAll (text : List Char) (w : Writing) (next : Nat) : List Nat → Writing
  | [] => w
  | code :: codes => advanceAll text (w.advance text next code) (code + 1) codes

end Writing

/-- The code points that need numbers, in order. -/
def codes (text : List Char) : List Nat :=
  (((text.filter (!isPlain ·)).map Char.toNat).mergeSort (· ≤ ·)).eraseDups

/-- A text in plain characters. -/
def encode (text : List Char) : List Char :=
  let plain := text.filter isPlain
  let start : Writing := ⟨[], 0, firstBias, plain.length, true⟩
  plain ++ (if plain.isEmpty then [] else ['-']) ++
    (start.advanceAll text firstCode (codes text)).written

/-! ### Reading -/

/-- What is known while a text is read: the text so far, the code point and the
place of the last insertion with its next place, and what has been read of a number. -/
structure Reading where
  text : List Char
  code : Nat
  next : Nat
  bias : Nat
  isFirst : Bool
  number : Nat
  weight : Nat
  place : Nat

namespace Reading

/-- Nothing but the plain characters has been read. -/
def start (plain : List Char) : Reading :=
  { text := plain, code := firstCode, next := 0, bias := firstBias, isFirst := true
    number := 0, weight := 1, place := base }

/-- The number is complete: one more character is inserted. -/
def insert? (r : Reading) (number : Nat) : Option Reading :=
  let count := r.text.length + 1
  let steps := r.next + number
  let code := r.code + steps / count
  if code.isValidChar then
    some
      { text := r.text.insertIdx (steps % count) (Char.ofNat code)
        code := code
        next := steps % count + 1
        bias := Punycode.bias r.isFirst count number
        isFirst := false
        number := 0
        weight := 1
        place := base }
  else none

/-- Reads one digit. -/
def step? (r : Reading) (c : Char) : Option Reading := do
  let v ← value? c
  let t := threshold r.bias r.place
  let number := r.number + v * r.weight
  if v < t then r.insert? number
  else
    return { r with
      number := number
      weight := r.weight * (base - t)
      place := r.place + base }

/-- The text, unless a number has been left incomplete. -/
def finish? (r : Reading) : Option (List Char) := if r.place = base then some r.text else none

end Reading

/-- The plain characters before the last hyphen, and the digits after it. -/
def cut (text : List Char) : List Char × List Char :=
  let (digits, rest) := text.reverse.span (· != '-')
  match rest with
  | _ :: plain => if plain.isEmpty then ([], text) else (plain.reverse, digits.reverse)
  | [] => ([], digits.reverse)

/-- The text that plain characters stand for. -/
def decode? (text : List Char) : Option (List Char) := do
  let (plain, digits) := cut text
  if !plain.all isPlain then none
  (← digits.foldlM Reading.step? (Reading.start plain)).finish?

end Identity.Host.Punycode
