/-
Identity/Crypto/Ed25519/Curve.lean

The twisted Edwards curve `-x² + y² = 1 + d x² y²` over the integers modulo
`2^255 - 19`, its group law, and the 32-byte form of its points.

Points are kept in extended coordinates, where the addition law has no
exceptions, so doubling is adding a point to itself.
-/
import Identity.Bytes

namespace Identity.Crypto.Ed25519

/-! ### The field -/

/-- The number of elements of the field. -/
def prime : Nat := (1 <<< 255) - 19

instance : @NeZero Nat Zero.ofOfNat0 prime := ⟨Nat.succ_ne_zero (prime - 1)⟩

/-- An element of the field. -/
abbrev Element := Fin prime

/-- The power with an exponent of at most `count` bits. -/
def powBits : (count : Nat) → Element → Nat → Element
  | 0, _, _ => 1
  | count + 1, x, e =>
    let rest := powBits count (x * x) (e / 2)
    if e % 2 = 1 then x * rest else rest

/-- The power of an element. -/
def pow (x : Element) (e : Nat) : Element := powBits 255 x e

/-- The inverse of an element, with zero for zero. -/
def inv (x : Element) : Element := pow x (prime - 2)

/-- The coefficient of the curve. -/
def d : Element := 0 - 121665 * inv 121666

/-- A square root of minus one. -/
def rootOfMinusOne : Element := pow 2 ((prime - 1) / 4)

/-! ### Points -/

/-- A point, with `x = X/Z`, `y = Y/Z` and `x y = T/Z`. -/
structure Point where
  X : Element
  Y : Element
  Z : Element
  T : Element

namespace Point

/-- The neutral element. -/
def identity : Point := ⟨0, 1, 1, 0⟩

/-- The point with the given coordinates. -/
def ofAffine (x y : Element) : Point := ⟨x, y, 1, x * y⟩

/-- The sum of two points. -/
def add (p q : Point) : Point :=
  let a := (p.Y - p.X) * (q.Y - q.X)
  let b := (p.Y + p.X) * (q.Y + q.X)
  let c := 2 * p.T * q.T * d
  let e := 2 * p.Z * q.Z
  let f := b - a
  let g := e - c
  let h := e + c
  let i := b + a
  ⟨f * g, h * i, g * h, f * i⟩

/-- The inverse of a point. -/
def neg (p : Point) : Point := ⟨0 - p.X, p.Y, p.Z, 0 - p.T⟩

/-- Adds to `sum` the multiples of a point that the `count` low bits of `n` ask
for. -/
def mulBits : (count : Nat) → Nat → Point → Point → Point
  | 0, _, _, sum => sum
  | count + 1, n, p, sum =>
    mulBits count (n / 2) (p.add p) (if n % 2 = 1 then sum.add p else sum)

/-- The multiple of a point by a number below `2^256`. -/
def mul (n : Nat) (p : Point) : Point := mulBits 256 n p identity

/-- The point is the neutral element. -/
def isIdentity (p : Point) : Bool := p.X = 0 && p.Y = p.Z

/-- Eight times the point is the neutral element. -/
def hasSmallOrder (p : Point) : Bool :=
  let p₂ := p.add p
  let p₄ := p₂.add p₂
  (p₄.add p₄).isIdentity

/-! ### Text form -/

/-- The 32 bytes of a point: its second coordinate, and the parity of the first
in the highest bit. -/
def toBytes (p : Point) : Bytes :=
  let z := inv p.Z
  let x := p.X * z
  let y := p.Y * z
  Bytes.ofNatLE 32 (y.val + ((x.val % 2) <<< 255))

/-- A square root of `u / v`, if there is one. -/
def rootOfQuotient? (u v : Element) : Option Element :=
  let v₃ := v * v * v
  let root := u * v₃ * pow (u * v₃ * v₃ * v) ((prime - 5) / 8)
  let square := v * root * root
  if square = u then some root
  else if square = 0 - u then some (root * rootOfMinusOne)
  else none

/-- The point with the given 32 bytes, if there is one. -/
def ofBytes? (bytes : Bytes) : Option Point := do
  let n := Bytes.toNatLE bytes
  let y : Element := Fin.ofNat prime (n % (1 <<< 255))
  let x ← rootOfQuotient? (y * y - 1) (d * y * y + 1)
  let x := if x.val % 2 = n >>> 255 then x else 0 - x
  return ofAffine x y

/-- The base point: second coordinate 4/5, first coordinate even. -/
def base : Point :=
  let y : Element := 4 * inv 5
  match rootOfQuotient? (y * y - 1) (d * y * y + 1) with
  | some x => ofAffine (if x.val % 2 = 0 then x else 0 - x) y
  | none => identity

end Point

end Identity.Crypto.Ed25519
