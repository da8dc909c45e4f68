/-
Identity/Proofs/Time/Rfc3339.lean

An instant whose year has four digits is read back from its text, and no other
instant is.

Reading takes a text apart in fields of fixed width, and each field was written
with that width, so one lemma about a field (`field?_padded`) reads all six of
them.  The date is put together again by the calendar (`toDays_ofDays`).
-/
import Identity.Proofs.Time.Calendar
import Identity.Time.Rfc3339

namespace Identity.Rfc3339

open Calendar

variable {width n low high : Nat} {ds rest : List Char}

/-! ### Fields -/

theorem digit?_of_isDigit {c : Char} (h : c.isDigit = true) : digit? c = some (c.toNat - 48) :=
  if_pos h

/-- Digits are read as the number that they stand for. -/
theorem number?_append (h : ∀ c ∈ ds, c.isDigit = true) :
    number? ds.length n (ds ++ rest) = some (Nat.ofDigitChars 10 ds n, rest) := by
  induction ds generalizing n with
  | nil => simp [number?]
  | cons c ds ih =>
    obtain ⟨hc, hds⟩ := List.forall_mem_cons.mp h
    have hstep : n * 10 + (c.toNat - 48) = 10 * n + (c.toNat - 48) := by rw [Nat.mul_comm]
    simp only [List.length_cons, List.cons_append, number?, digit?_of_isDigit hc,
      Option.bind_eq_bind, Option.bind_some, Nat.ofDigitChars_cons, hstep]
    exact ih hds

theorem isDigit_of_mem_padded {c : Char} (h : c ∈ padded width n) : c.isDigit = true := by
  rcases List.mem_append.mp h with hzero | hdigit
  · rw [(List.mem_replicate.mp hzero).2]
    rfl
  · exact Nat.isDigit_of_mem_toDigits (by decide) (by decide) hdigit

theorem length_padded (hwidth : 0 < width) (h : n < 10 ^ width) :
    (padded width n).length = width := by
  have hle : (Nat.toDigits 10 n).length ≤ width :=
    (Nat.length_toDigits_le_iff (by decide) hwidth).mpr h
  simp only [padded, List.length_append, List.length_replicate]
  omega

theorem ofDigitChars_padded : Nat.ofDigitChars 10 (padded width n) 0 = n := by
  simp [padded, Nat.ofDigitChars_append]

/-- A field is read as it was written. -/
theorem field?_padded (hlow : low ≤ n) (hhigh : n ≤ high) (hwidth : 0 < width)
    (hmax : high < 10 ^ width) :
    field? width low high (padded width n ++ rest) = some (n, rest) := by
  have hread : number? width 0 (padded width n ++ rest) = some (n, rest) := by
    have hdigits := @number?_append 0 (padded width n) rest fun _ => isDigit_of_mem_padded
    rwa [length_padded hwidth (Nat.lt_of_le_of_lt hhigh hmax), ofDigitChars_padded] at hdigits
  simp only [field?, hread, Option.bind_eq_bind, Option.bind_some]
  exact if_pos ⟨hlow, hhigh⟩

theorem oneOf?_cons {allowed : List Char} {c : Char} (h : c ∈ allowed) :
    oneOf? allowed (c :: rest) = some rest :=
  if_pos h

/-- Reading goes on with what has been read. -/
theorem read {α β : Type} {a : α} {x : Option α} {f : α → Option β} (h : x = some a) :
    x >>= f = f a := by
  rw [h]
  rfl

/-! ### Instants -/

/-- The month and the day of a date that exists have two digits. -/
theorem exists_bounds {date : Date} (h : date.exists = true) :
    (1 ≤ date.month ∧ date.month ≤ 12) ∧ 1 ≤ date.day ∧ date.day ≤ 31 := by
  have hlong : daysInMonth date.year date.month ≤ 31 := by
    unfold daysInMonth
    split_ifs <;> decide
  simp only [Date.exists, Bool.and_eq_true, decide_eq_true_eq] at h
  omega

/-- A date with a time of day in UTC is read as written. -/
theorem parse?_text {date : Date} {second : Nat} (hdate : date.exists = true)
    (hyear : 0 ≤ date.year ∧ date.year ≤ 9999) (hsecond : second < secondsPerDay) :
    parse? (String.ofList (dateText date ++ 'T' :: timeText second ++ ['Z'])) =
      some (toDays date * secondsPerDay + second) := by
  obtain ⟨⟨hmonth, hmonth'⟩, hday, hday'⟩ := exists_bounds hdate
  unfold secondsPerDay at hsecond
  have hsame : ((date.year.toNat : Nat) : Int) = date.year := Int.toNat_of_nonneg hyear.1
  have hclock : second / 3600 * 3600 + second / 60 % 60 * 60 + min (second % 60) 59 = second := by
    omega
  simp only [parse?, String.toList_ofList, dateText, yearText, if_pos hyear, timeText,
    List.append_assoc, List.cons_append]
  rw [read (field?_padded (by omega) (by omega) (by decide) (by decide)),
    read (oneOf?_cons (by decide)), read (field?_padded hmonth hmonth' (by decide) (by decide)),
    read (oneOf?_cons (by decide)), read (field?_padded hday hday' (by decide) (by decide)),
    read (oneOf?_cons (by decide)),
    read (field?_padded (by omega) (by omega) (by decide) (by decide)),
    read (oneOf?_cons (by decide)),
    read (field?_padded (by omega) (by omega) (by decide) (by decide)),
    read (oneOf?_cons (by decide)),
    read (field?_padded (by omega) (by omega) (by decide) (by decide))]
  simp [skipFraction?, offset?, hsame, hdate, hclock]

/-- The instant lies in one of the years 0 to 9999, which are written with four digits. -/
def FourDigitYear (seconds : Int) : Prop :=
  0 ≤ (ofDays (seconds / secondsPerDay)).year ∧ (ofDays (seconds / secondsPerDay)).year ≤ 9999

instance (seconds : Int) : Decidable (FourDigitYear seconds) :=
  inferInstanceAs (Decidable (_ ∧ _))

theorem format?_eq_some {seconds : Int} {text : String} :
    format? seconds = some text ↔ holds seconds = true ∧
      text = String.ofList (dateText (ofDays (seconds / secondsPerDay)) ++
        'T' :: timeText (seconds % secondsPerDay).toNat ++ ['Z']) := by
  unfold format?
  split_ifs with hholds
  · rw [Option.some.injEq, eq_comm]
    exact (and_iff_right hholds).symm
  · exact iff_of_false nofun fun h => hholds h.1

/-- An instant in a year of four digits is read back from its text. -/
theorem parse?_format? {seconds : Int} {text : String} (hyear : FourDigitYear seconds)
    (h : format? seconds = some text) : parse? text = some seconds := by
  obtain ⟨-, rfl⟩ := format?_eq_some.mp h
  have hpos : (0 : Int) < secondsPerDay := by decide
  have hrest := Int.emod_nonneg seconds (Int.ne_of_gt hpos)
  have hlt := Int.emod_lt_of_pos seconds hpos
  rw [parse?_text (exists_ofDays _) hyear (by omega), toDays_ofDays, Int.toNat_of_nonneg hrest,
    Int.ediv_mul_add_emod]

/-- The text of any other instant starts with a sign, and is not read. -/
theorem parse?_format?_eq_none {seconds : Int} {text : String} (hyear : ¬FourDigitYear seconds)
    (h : format? seconds = some text) : parse? text = none := by
  obtain ⟨-, rfl⟩ := format?_eq_some.mp h
  have hsign : ∀ c cs, c = '-' ∨ c = '+' → parse? (String.ofList (c :: cs)) = none := by
    intro c cs hc
    have hfield : field? 4 0 9999 (c :: cs) = none := by
      rcases hc with rfl | rfl <;> rfl
    rw [parse?, String.toList_ofList, hfield]
    rfl
  unfold FourDigitYear at hyear
  rw [dateText, yearText, if_neg hyear]
  refine hsign _ _ ?_
  split
  · exact .inl rfl
  · exact .inr rfl

end Identity.Rfc3339
