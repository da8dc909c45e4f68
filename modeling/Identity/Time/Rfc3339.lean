/-
Identity/Time/Rfc3339.lean

Instants as RFC 3339 texts, to the second.

Writing gives UTC with a `Z`; a year outside four digits gets a sign and at
least four digits, a form that reading refuses.  Reading accepts small
letters and a space for the separator, fractions of any length, offsets up
to 23:59 also with a true minus sign, and a leap second, which counts as the
second before it.
-/
import Identity.Time.Calendar

namespace Identity.Rfc3339

open Calendar

/-! ### Writing -/

/-- A number with at least `width` digits. -/
def padded (width n : Nat) : List Char :=
  let ds := Nat.toDigits 10 n
  List.replicate (width - ds.length) '0' ++ ds

/-- A year. -/
def yearText (year : Int) : List Char :=
  if 0 ≤ year ∧ year ≤ 9999 then padded 4 year.toNat
  else (if year < 0 then '-' else '+') :: padded 4 year.natAbs

/-- A date. -/
def dateText (date : Date) : List Char :=
  yearText date.year ++ '-' :: padded 2 date.month ++ '-' :: padded 2 date.day

/-- A second of the day. -/
def timeText (second : Nat) : List Char :=
  padded 2 (second / 3600) ++ ':' :: padded 2 (second / 60 % 60) ++ ':' :: padded 2 (second % 60)

/-- The text of an instant, unless it lies outside the calendar. -/
def format? (seconds : Int) : Option String :=
  if holds seconds then
    some <| String.ofList <|
      dateText (ofDays (seconds / secondsPerDay)) ++
        'T' :: timeText (seconds % secondsPerDay).toNat ++ ['Z']
  else none

/-! ### Reading -/

/-- The value of a decimal digit. -/
def digit? (c : Char) : Option Nat := if c.isDigit then some (c.toNat - 48) else none

/-- Reads `count` digits, after `n`. -/
def number? : (count n : Nat) → List Char → Option (Nat × List Char)
  | 0, n, cs => some (n, cs)
  | count + 1, n, c :: cs => do number? count (n * 10 + (← digit? c)) cs
  | _ + 1, _, [] => none

/-- Reads `count` digits with a value in a range. -/
def field? (count low high : Nat) (cs : List Char) : Option (Nat × List Char) := do
  let (n, rest) ← number? count 0 cs
  if low ≤ n ∧ n ≤ high then some (n, rest) else none

/-- Reads one of the given characters. -/
def oneOf? (allowed : List Char) : List Char → Option (List Char)
  | c :: cs => if c ∈ allowed then some cs else none
  | [] => none

/-- Skips a fraction of a second, which needs at least one digit. -/
def skipFraction? : List Char → Option (List Char)
  | '.' :: c :: cs => if c.isDigit then some (cs.dropWhile Char.isDigit) else none
  | '.' :: [] => none
  | cs => some cs

/-- Reads an offset from UTC, in seconds, that ends the text. -/
def offset? : List Char → Option Int
  | ['Z'] | ['z'] => some 0
  | sign :: cs => do
    let (hours, rest) ← field? 2 0 23 cs
    let rest ← oneOf? [':'] rest
    let (minutes, rest) ← field? 2 0 59 rest
    let seconds : Int := hours * 3600 + minutes * 60
    if !rest.isEmpty then none
    else if sign = '+' then some seconds
    else if sign = '-' ∨ sign = '\u2212' then some (-seconds)
    else none
  | [] => none

/-- The unix time of an instant given as text. -/
def parse? (text : String) : Option Int := do
  let (year, rest) ← field? 4 0 9999 text.toList
  let rest ← oneOf? ['-'] rest
  let (month, rest) ← field? 2 1 12 rest
  let rest ← oneOf? ['-'] rest
  let (day, rest) ← field? 2 1 31 rest
  let rest ← oneOf? ['T', 't', ' '] rest
  let (hour, rest) ← field? 2 0 23 rest
  let rest ← oneOf? [':'] rest
  let (minute, rest) ← field? 2 0 59 rest
  let rest ← oneOf? [':'] rest
  let (second, rest) ← field? 2 0 60 rest
  let rest ← skipFraction? rest
  let offset ← offset? rest
  let date : Date := ⟨year, month, day⟩
  if date.exists then
    some (toDays date * secondsPerDay + (hour * 3600 + minute * 60 + min second 59 : Nat) - offset)
  else none

end Identity.Rfc3339
