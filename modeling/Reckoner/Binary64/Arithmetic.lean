import Reckoner.Binary64.Basic

/-!
# Binary64 — arithmetic

The four operations. Each is the exact result on the values, rounded once by `round`; the
rules for infinities, for the sign of a zero and for results that are not a number come
before.
-/

namespace Reckoner

namespace Binary64

/-- The number of the other sign; `nan` has none. -/
def neg : Binary64 → Binary64
  | .nan => .nan
  | .infinite negative => .infinite !negative
  | .finite negative rank => .finite (!negative) rank

/-- The sum, rounded by `round`. It is a negative zero only if both addends are. -/
def add : Binary64 → Binary64 → Binary64
  | .nan, _ => .nan
  | _, .nan => .nan
  | .infinite s, .infinite t => if s = t then .infinite s else .nan
  | .infinite s, .finite _ _ => .infinite s
  | .finite _ _, .infinite t => .infinite t
  | .finite s a, .finite t b =>
    let total := signedUnits s a + signedUnits t b
    if total = 0 then zero (s && t) else round (decide (total < 0)) total.natAbs 1

def sub (x y : Binary64) : Binary64 := add x (neg y)

/-- The product. An infinity times a zero is `nan`. -/
def mul : Binary64 → Binary64 → Binary64
  | .nan, _ => .nan
  | _, .nan => .nan
  | .infinite s, .infinite t => .infinite (s != t)
  | .infinite s, .finite t b => if b.val = 0 then .nan else .infinite (s != t)
  | .finite s a, .infinite t => if a.val = 0 then .nan else .infinite (s != t)
  | .finite s a, .finite t b => round (s != t) (units a * units b) unitsPerOne

/-- The quotient. Zero by zero and infinity by infinity are `nan`, and any other division by
zero gives an infinity. -/
def div : Binary64 → Binary64 → Binary64
  | .nan, _ => .nan
  | _, .nan => .nan
  | .infinite _, .infinite _ => .nan
  | .infinite s, .finite t _ => .infinite (s != t)
  | .finite s _, .infinite t => zero (s != t)
  | .finite s a, .finite t b =>
    if b.val = 0 then
      if a.val = 0 then .nan else .infinite (s != t)
    else round (s != t) (units a * unitsPerOne) (units b)

instance : Neg Binary64 := ⟨neg⟩
instance : Add Binary64 := ⟨add⟩
instance : Sub Binary64 := ⟨sub⟩
instance : Mul Binary64 := ⟨mul⟩
instance : Div Binary64 := ⟨div⟩

end Binary64

end Reckoner
