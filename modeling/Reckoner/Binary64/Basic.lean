/-!
# Binary64 — numbers and rounding

The numbers of the 64-bit binary floating-point format. A finite magnitude is
named by its rank, its place in the increasing order of the finite magnitudes,
which is also its bit pattern without the sign. Its value is a whole number of
units of `2^-1074`, the least positive magnitude, so every statement about
values is one about natural numbers. In hexadecimal `2^52`, how many magnitudes
lie between two powers of two, is `0x10000000000000`, and the number of all finite
magnitudes, `2047 * 2^52`, is the bit pattern of infinity.
-/

namespace Reckoner

/-- The place of a finite magnitude among the finite magnitudes, zero first. -/
abbrev Rank := Fin 0x7FF0000000000000

/-- A number of the 64-bit binary floating-point format. Every result that is not a
number is the one value `nan`. -/
inductive Binary64 where
  | nan
  | infinite (negative : Bool)
  | finite (negative : Bool) (rank : Rank)
  deriving DecidableEq

namespace Binary64

/-! ## Values -/

/-- The magnitude of a rank in units of `2^-1074`. The first `2^53` ranks lie one
unit apart, and from there on the distance doubles every `2^52` ranks. -/
def units (rank : Nat) : Nat :=
  if rank < 0x10000000000000 then rank
  else
    let significand := 0x10000000000000 + rank % 0x10000000000000
    significand * Nat.pow 2 (rank / 0x10000000000000 - 1)

/-- How many units make one: the unit is `2^-1074`. -/
def unitsPerOne : Nat := Nat.pow 2 1074

/-- The value of a finite number in units of `2^-1074`. -/
def signedUnits (negative : Bool) (rank : Rank) : Int :=
  if negative then -(units rank : Int) else units rank

/-- The zero with the sign `negative`, which has the rank zero. -/
def zero (negative : Bool) : Binary64 := .finite negative ⟨0, by decide⟩

/-- Whether a number is a zero of either sign. -/
def isZero : Binary64 → Bool
  | .finite _ rank => rank.val = 0
  | _ => false

/-- The finite number of a sign and a rank, or the infinity if `rank` is beyond `Rank`. -/
def ofRank (negative : Bool) (rank : Nat) : Binary64 :=
  if h : rank < 0x7FF0000000000000 then .finite negative ⟨rank, h⟩ else .infinite negative

/-! ## Bit patterns -/

/-- The number that `bits` stands for. The patterns above that of infinity are all `nan`. -/
def ofBits (bits : BitVec 64) : Binary64 :=
  let magnitude := bits.toNat % 0x8000000000000000
  if magnitude ≤ 0x7FF0000000000000 then ofRank bits.msb magnitude else .nan

/-- The bit pattern of a magnitude under a sign. -/
def signedBits (negative : Bool) (magnitude : Nat) : BitVec 64 :=
  BitVec.ofNat 64 (magnitude + if negative then 0x8000000000000000 else 0)

/-- The bit pattern of a number; that of `nan` is the positive quiet one without a payload. -/
def bits : Binary64 → BitVec 64
  | .nan => signedBits false 0x7FF8000000000000
  | .infinite negative => signedBits negative 0x7FF0000000000000
  | .finite negative rank => signedBits negative rank

end Binary64

/-! ## Rounding

A magnitude `num / den`, counted in units of `2^-1074`, is rounded to the nearest
number of the format, of two equally near ones to the one of even rank. One
division does it: above the first `2^53` units the ranks between two powers of
two are `2^shift` units apart, so the quotient by `den * 2^shift` is the place
among them.
-/

/-- The whole number nearest to `num / den`, the even one of two equally near. -/
def roundDiv (num den : Nat) : Nat :=
  let quotient := num / den
  match compare (2 * (num % den)) den with
  | .lt => quotient
  | .gt => quotient + 1
  | .eq => quotient + quotient % 2

namespace Binary64

/-- The rank of the magnitude nearest to `num / den` units, as if the ranks had no
end. -/
def nearestRank (num den : Nat) : Nat :=
  let shift := (num / den).log2 - 52
  shift * 0x10000000000000 + roundDiv num (den * Nat.pow 2 shift)

/-- The number of the given sign nearest to `num / den` units. -/
def round (negative : Bool) (num den : Nat) : Binary64 :=
  ofRank negative (nearestRank num den)

end Binary64

end Reckoner
