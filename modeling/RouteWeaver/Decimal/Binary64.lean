/-!
Floating-point numbers of 64 bits, as exact multiples of powers of two. Arithmetic is exact
arithmetic on fractions followed by one rounding to the nearest number, ties to the even
mantissa.
-/

namespace RouteWeaver

/-- The non-negative number `mantissa * 2 ^ exponent`. The mantissa has at most 53 bits, and
exactly 53 unless the exponent is the least one. -/
structure Binary64 where
  mantissa : Nat
  exponent : Int
deriving DecidableEq, Repr, Inhabited

namespace Binary64

def leastExponent : Int := -1074

def greatestExponent : Int := 971

def zero : Binary64 := ⟨0, leastExponent⟩

def isZero (x : Binary64) : Bool :=
  x.mantissa = 0

def scaled (num den : Nat) (exponent : Int) : Nat × Nat :=
  if exponent < 0 then (num * Nat.pow 2 (-exponent).toNat, den)
  else (num, den * Nat.pow 2 exponent.toNat)

/-- Nearest whole number; a half goes to the even neighbour. -/
def roundHalfEven (num den : Nat) : Nat :=
  let q := num / den
  let r := num % den
  if 2 * r < den then q else if 2 * r > den then q + 1 else if q % 2 = 0 then q else q + 1

/-- The exponent of the greatest power of two that is at most the fraction. -/
def leading (num den : Nat) : Int :=
  let guess : Int := (Nat.log2 num : Int) - Nat.log2 den
  let (n, d) := scaled num den guess
  if n < d then guess - 1 else guess

/-- The number nearest to a fraction; none when it is too great. -/
def nearest (num den : Nat) : Option Binary64 :=
  if num = 0 then some zero
  else
    let exponent := max leastExponent (leading num den - 52)
    let (n, d) := scaled num den exponent
    let m := roundHalfEven n d
    let x : Binary64 :=
      if m = Nat.pow 2 53 then ⟨Nat.pow 2 52, exponent + 1⟩ else ⟨m, exponent⟩
    if x.exponent > greatestExponent then none else some x

def fraction (x : Binary64) : Nat × Nat :=
  scaled x.mantissa 1 (-x.exponent)

def mul (x y : Binary64) : Option Binary64 :=
  nearest (x.fraction.1 * y.fraction.1) (x.fraction.2 * y.fraction.2)

def div (x y : Binary64) : Option Binary64 :=
  nearest (x.fraction.1 * y.fraction.2) (x.fraction.2 * y.fraction.1)

end Binary64
end RouteWeaver
