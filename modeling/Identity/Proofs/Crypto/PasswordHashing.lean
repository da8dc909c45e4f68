/-
Identity/Proofs/Crypto/PasswordHashing.lean

Password digests: their length, which passwords have one, and at which costs.
-/
import Identity.Crypto.PasswordHashing
import Identity.Proofs.Bytes

namespace Identity.Crypto

namespace Blake2b

theorem size_absorb (state : Array UInt64) (count : Nat) (blocks : List Bytes) :
    (absorb state count blocks).size = 8 := by
  induction blocks generalizing state count with
  | nil => exact Array.size_ofFn
  | cons block rest ih =>
    cases rest with
    | nil => exact Array.size_ofFn
    | cons next rest => exact ih _ _

theorem length_hash {digestLength : Nat} (h : digestLength ≤ 64) (message : Bytes) :
    (hash digestLength message).length = digestLength := by
  simp [hash, List.length_flatMap, size_absorb, h]

end Blake2b

namespace Argon2.Cost

/-- There is memory for every lane, and there are not too many lanes. -/
structure Affordable (cost : Cost) : Prop where
  least : 8 ≤ cost.memory
  perLane : 8 * cost.lanes ≤ cost.memory
  lanes : cost.lanes ≤ maxLanes

/-- The least memory does not wrap around for as many lanes as there may be. -/
theorem leastMemory_eq {lanes : Nat} (h : lanes ≤ maxLanes) : leastMemory lanes = 8 * lanes := by
  unfold maxLanes at h
  refine Nat.mod_eq_of_lt ?_
  show 8 * lanes < 4294967296
  omega

/-- A cost is in range when it is affordable, and at least one lane is passed over once. -/
theorem check_eq_ok {cost : Cost} :
    cost.check = .ok () ↔ cost.Affordable ∧ cost.passes ≠ 0 ∧ cost.lanes ≠ 0 := by
  unfold check
  split_ifs with hmemory hpasses hlanes hmany
  · refine iff_of_false nofun ?_
    rintro ⟨h, -, -⟩
    rw [leastMemory_eq h.lanes, Bool.or_eq_true, decide_eq_true_eq, decide_eq_true_eq] at hmemory
    exact hmemory.elim (Nat.not_lt.mpr h.least) (Nat.not_lt.mpr h.perLane)
  · exact iff_of_false nofun fun h => h.2.1 hpasses
  · exact iff_of_false nofun fun h => h.2.2 hlanes
  · exact iff_of_false nofun fun h => absurd h.1.lanes (Nat.not_le.mpr hmany)
  · rw [leastMemory_eq (Nat.not_lt.mp hmany), Bool.or_eq_true, decide_eq_true_eq,
      decide_eq_true_eq, not_or, Nat.not_lt, Nat.not_lt] at hmemory
    exact iff_of_true rfl ⟨⟨hmemory.1, hmemory.2, Nat.not_lt.mp hmany⟩, hpasses, hlanes⟩

end Argon2.Cost

namespace PasswordHashing

variable {password : String} {digest salt : Bytes} {cost : Argon2.Cost}

/-- A salt that is accepted and the digest both have 32 bytes. -/
theorem length_of_hash (h : hash password salt cost = .ok digest) :
    digest.length = digestLength ∧ salt.length = saltLength := by
  unfold hash Argon2.hash at h
  split_ifs at h with hsalt
  rcases hcheck : cost.check with fault | _
  · rw [hcheck] at h
    cases h
  · rw [hcheck] at h
    cases h
    exact ⟨Blake2b.length_hash (by decide) _, not_not.mp hsalt⟩

/-- Every password has a digest under a salt of the right length, at a cost in range. -/
theorem hash_eq_ok (password : String) (hsalt : salt.length = saltLength)
    (hcost : cost.check = .ok ()) :
    hash password salt cost =
      .ok (Argon2.derive cost digestLength (Bytes.ofText password) salt) := by
  rw [hash, if_neg (not_not.mpr hsalt), Argon2.hash, hcost]
  rfl

/-- Under a salt of the right length, all passwords have digests or none has. -/
theorem exists_hash_iff (password : String) (hsalt : salt.length = saltLength) :
    (∃ digest, hash password salt cost = .ok digest) ↔ cost.check = .ok () := by
  constructor
  · rintro ⟨digest, h⟩
    unfold hash Argon2.hash at h
    rw [if_neg (not_not.mpr hsalt)] at h
    cases hcheck : cost.check with
    | error fault =>
      rw [hcheck] at h
      cases h
    | ok _ => rfl
  · exact fun hcost => ⟨_, hash_eq_ok password hsalt hcost⟩

/-- A digest is verified by the passwords that have it. -/
theorem verify_eq_true : verify password digest salt cost = true ↔
    hash password salt cost = .ok digest := by
  unfold verify
  cases hash password salt cost with
  | error fault => simp
  | ok computed => simp

end PasswordHashing

end Identity.Crypto
