/-
Identity/Proofs/Secret/Generated.lean

Generated passwords meet the policy, whatever is drawn.

A character of each class is drawn first, and the shuffle only rearranges
(`shuffle_perm`), so that every class is still there at the end.  All alphabets
are sets of the policy's own classes.  What is known of a generated password is
that it conforms to the length that is asked for (`conforms_of_gives`), and a
password that conforms is accepted (`Conforms.validate`).
-/
import Identity.Proofs.Entropy
import Identity.Proofs.Secret.Shuffle

namespace Identity

/-! ### Passwords -/

namespace Password

theorem check_eq_ok {password : String} : check password = .ok () ↔
    minLength ≤ password.length ∧ password.length ≤ maxLength ∧
      ∀ k ∈ CharClass.all, ∃ c ∈ password.toList, k.contains c = true := by
  unfold check
  split_ifs with hshort hlong
  · exact iff_of_false nofun fun h => absurd h.1 (Nat.not_le.mpr hshort)
  · exact iff_of_false nofun fun h => absurd h.2.1 (Nat.not_le.mpr hlong)
  · split
    · next k hk =>
      have hmissing := List.find?_some hk
      refine iff_of_false nofun fun h => ?_
      obtain ⟨c, hc, hclass⟩ := h.2.2 k (List.mem_of_find?_eq_some hk)
      rw [List.any_eq_true.mpr ⟨c, hc, hclass⟩] at hmissing
      cases hmissing
    · next hnone =>
      refine iff_of_true rfl ⟨Nat.not_lt.mp hshort, Nat.not_lt.mp hlong, fun k hk => ?_⟩
      have hfound := List.find?_eq_none.mp hnone k hk
      simpa using hfound

end Password

namespace Generated

open Password

/-- The characters that stand for a class belong to it. -/
theorem contains_classAlphabet (k : CharClass) : ∀ c ∈ classAlphabet k, k.contains c = true := by
  have hall : (classAlphabet k).all k.contains = true := by
    cases k with
    | upper => decide +kernel
    | lower => decide +kernel
    | digit => decide +kernel
    | symbol => decide +kernel
  exact List.all_eq_true.mp hall

/-- One character is drawn for each class, and no other. -/
theorem gives_oneOfEach {classes : List CharClass} {cs : List Char}
    (h : (oneOfEach classes).Gives cs) :
    cs.length = classes.length ∧ (∀ c ∈ cs, ∃ k ∈ classes, c ∈ classAlphabet k) ∧
      ∀ k ∈ classes, ∃ c ∈ cs, c ∈ classAlphabet k := by
  induction classes generalizing cs with
  | nil =>
    rw [Draw.gives_pure h]
    exact ⟨rfl, nofun, nofun⟩
  | cons k classes ih =>
    obtain ⟨c, hc, h⟩ := Draw.gives_bind h
    obtain ⟨rest, hrest, h⟩ := Draw.gives_bind h
    obtain ⟨hlength, hdrawn, hall⟩ := ih hrest
    have hclass : c ∈ classAlphabet k := Draw.mem_of_gives_element hc
    rw [Draw.gives_pure h]
    refine ⟨by rw [List.length_cons, List.length_cons, hlength], ?_, ?_⟩
    · rw [List.forall_mem_cons]
      refine ⟨⟨k, List.mem_cons_self, hclass⟩, fun c' hc' => ?_⟩
      obtain ⟨k', hmem, hclass'⟩ := hdrawn c' hc'
      exact ⟨k', List.mem_cons_of_mem k hmem, hclass'⟩
    · rw [List.forall_mem_cons]
      refine ⟨⟨c, List.mem_cons_self, hclass⟩, fun k' hk' => ?_⟩
      obtain ⟨c', hmem, hclass'⟩ := hall k' hk'
      exact ⟨c', List.mem_cons_of_mem c hmem, hclass'⟩

/-- Every class has characters, and no more than words can tell apart. -/
theorem length_classAlphabet (k : CharClass) :
    (classAlphabet k).length ≠ 0 ∧ (classAlphabet k).length ≤ Draw.maxWord := by
  cases k <;> decide

theorem mem_alphabet {k : CharClass} {c : Char} (h : c ∈ classAlphabet k) : c ∈ alphabet :=
  List.mem_flatMap.mpr ⟨k, by cases k <;> decide, h⟩

/-- A password as it is generated: it has the length that is asked for, or the least one,
consists of characters of the alphabets, and has one from the alphabet of each class. -/
structure Conforms (length : Nat) (text : String) : Prop where
  length_eq : text.length = max length minPasswordLength
  characters : ∀ c ∈ text.toList, c ∈ alphabet
  classes : ∀ k, ∃ c ∈ text.toList, c ∈ classAlphabet k ∧ k.contains c = true

/-- The characters that are drawn first are filled up to the length. -/
theorem length_filled {length : Nat} {required others : List Char} (hrequired : required.length = 4)
    (hothers : others.length = max length minPasswordLength - required.length) :
    (required ++ others).length = max length minPasswordLength := by
  have hleast : 4 ≤ max length minPasswordLength := Nat.le_trans (by decide) (Nat.le_max_right ..)
  rw [List.length_append, hothers, hrequired]
  exact Nat.add_sub_cancel' hleast

/-- What is generated conforms, whatever is drawn. -/
theorem conforms_of_gives {length : Nat} {text : String} (h : (password length).Gives text) :
    Conforms length text := by
  obtain ⟨required, hrequired, h⟩ := Draw.gives_bind h
  obtain ⟨others, hothers, h⟩ := Draw.gives_bind h
  obtain ⟨characters, hshuffled, h⟩ := Draw.gives_bind h
  obtain ⟨hfour, hdrawn, hclasses⟩ := gives_oneOfEach hrequired
  obtain ⟨hrest, hany⟩ := Draw.gives_replicate hothers
  have hperm := Shuffle.shuffle_perm hshuffled
  rw [Draw.gives_pure h]
  refine ⟨?_, fun c hc => ?_, fun k => ?_⟩
  · rw [String.length_ofList, hperm.length_eq, length_filled hfour hrest]
  · rw [String.toList_ofList, hperm.mem_iff, List.mem_append] at hc
    rcases hc with hc | hc
    · obtain ⟨k, -, hclass⟩ := hdrawn c hc
      exact mem_alphabet hclass
    · exact Draw.mem_of_gives_element (hany c hc)
  · obtain ⟨c, hc, hclass⟩ := hclasses k (by cases k <;> decide)
    rw [String.toList_ofList]
    exact ⟨c, hperm.mem_iff.mpr (List.mem_append_left others hc), hclass,
      contains_classAlphabet k c hclass⟩

/-- A password that conforms to an accepted length meets the policy. -/
theorem Conforms.validate {length : Nat} {text : String} (h : Conforms length text)
    (hmax : length ≤ maxLength) : Password.validate text = .ok () := by
  have hcheck : Password.check text = .ok () := by
    refine Password.check_eq_ok.mpr ⟨?_, ?_, fun k _ => ?_⟩
    · rw [h.length_eq]
      exact Nat.le_max_right length minPasswordLength
    · rw [h.length_eq]
      exact Nat.max_le.mpr ⟨hmax, by decide⟩
    · obtain ⟨c, hc, -, hcontains⟩ := h.classes k
      exact ⟨c, hc, hcontains⟩
  rw [Password.validate, hcheck]
  rfl

/-- A password that is drawn with an accepted length meets the policy. -/
theorem validate_of_gives_password {length : Nat} {text : String} (hmax : length ≤ maxLength)
    (h : (password length).Gives text) : Password.validate text = .ok () :=
  (conforms_of_gives h).validate hmax

/-! ### Faults -/

theorem eq_exhausted_of_faults_oneOfEach {classes : List CharClass} {fault : Crypto.Fault}
    (h : (oneOfEach classes).Faults fault) : fault = Draw.exhausted := by
  induction classes with
  | nil => exact absurd h Draw.not_faults_pure
  | cons k classes ih =>
    obtain ⟨hne, hword⟩ := length_classAlphabet k
    rcases Draw.faults_bind h with h | ⟨c, -, h⟩
    · exact Draw.eq_exhausted_of_faults_element (List.ne_nil_of_length_pos
        (Nat.pos_of_ne_zero hne)) hword h
    · rcases Draw.faults_bind h with h | ⟨cs, -, h⟩
      · exact ih h
      · exact absurd h Draw.not_faults_pure

/-- Generating a password fails only for want of bytes, when its positions are words. -/
theorem eq_exhausted_of_faults_password {length : Nat} {fault : Crypto.Fault}
    (hword : length ≤ Draw.maxWord) (h : (password length).Faults fault) :
    fault = Draw.exhausted := by
  rcases Draw.faults_bind h with h | ⟨required, hrequired, h⟩
  · exact eq_exhausted_of_faults_oneOfEach h
  rcases Draw.faults_bind h with h | ⟨others, hothers, h⟩
  · exact Draw.eq_exhausted_of_faults_element (by decide +kernel) (by decide +kernel)
      (Draw.faults_replicate h)
  rcases Draw.faults_bind h with h | ⟨characters, -, h⟩
  · obtain ⟨hfour, -⟩ := gives_oneOfEach hrequired
    obtain ⟨hrest, -⟩ := Draw.gives_replicate hothers
    refine Shuffle.eq_exhausted_of_faults_shuffle ?_ h
    rw [length_filled hfour hrest]
    exact Nat.max_le.mpr ⟨hword, by decide⟩
  · exact absurd h Draw.not_faults_pure

end Generated

end Identity
