import RouteWeaver.Decimal.Binary64

namespace RouteWeaver

structure Decimal where
  digits : Nat
  exponent : Int
deriving DecidableEq, Repr, Inhabited

namespace Decimal

def fraction (x : Decimal) : Nat × Nat :=
  if x.exponent < 0 then (x.digits, Nat.pow 10 (-x.exponent).toNat)
  else (x.digits * Nat.pow 10 x.exponent.toNat, 1)

/-- The digits, without zeros at their end, and the power of ten of the first one. -/
def scientific (x : Decimal) : List Char × Int :=
  let ds := Nat.toDigits 10 x.digits
  let significant := (ds.reverse.dropWhile (· = '0')).reverse
  (if significant.isEmpty then ['0'] else significant, x.exponent + (ds.length - 1 : Nat))

end Decimal

namespace Binary64

/-- The decimal rounds to the number. The halfway points belong to even mantissas, and the lower
one is nearer where the spacing changes. -/
def readsBack (x : Binary64) (d : Decimal) : Bool :=
  let (n, q) := d.fraction
  let (num, den) := x.fraction
  let (ulpNum, ulpDen) := Binary64.fraction ⟨1, x.exponent⟩
  let below := if x.mantissa = Nat.pow 2 52 && x.exponent > leastExponent then 4 else 2
  let upper := (num * (2 * ulpDen) + ulpNum * den, den * (2 * ulpDen))
  let lower := (num * (below * ulpDen) - ulpNum * den, den * (below * ulpDen))
  let even := x.mantissa % 2 = 0
  let aboveLower := if even then lower.1 * q ≤ n * lower.2 else lower.1 * q < n * lower.2
  let belowUpper := if even then n * upper.2 ≤ upper.1 * q else n * upper.2 < upper.1 * q
  decide aboveLower && decide belowUpper

def distance (x : Binary64) (d : Decimal) : Nat :=
  let (n, q) := d.fraction
  let (num, den) := x.fraction
  (n * den - num * q) + (num * q - n * den)

def neighbours (x : Binary64) (exponent : Int) : Decimal × Decimal :=
  let (num, den) := x.fraction
  let q := if exponent < 0 then num * Nat.pow 10 (-exponent).toNat / den
    else num / (den * Nat.pow 10 exponent.toNat)
  (⟨q, exponent⟩, ⟨q + 1, exponent⟩)

def hit? (x : Binary64) (exponent : Int) : Option Decimal :=
  let (low, high) := x.neighbours exponent
  if x.readsBack low then
    if x.readsBack high && x.distance high < x.distance low then some high else some low
  else if x.readsBack high then some high
  else none

def firstPosition (x : Binary64) : Int :=
  let (num, den) := x.fraction
  if den ≤ num then ((Nat.toDigits 10 (num / den)).length - 1 : Nat)
  else below num den 400 0
where
  below (num den : Nat) : Nat → Nat → Int
    | 0, j => -(j : Int)
    | n + 1, j => if den ≤ num * Nat.pow 10 j then -(j : Int) else below num den n (j + 1)

/-- Tries grids of ever more digits, the coarsest first. -/
def shortestFrom (x : Binary64) (position : Int) : Nat → Decimal
  | 0 => (x.neighbours (position - 16)).1
  | n + 1 =>
    match x.hit? (position - (16 - n : Nat)) with
    | some d => d
    | none => shortestFrom x position n

def shortest (x : Binary64) : Decimal :=
  if x.isZero then ⟨0, 0⟩ else shortestFrom x x.firstPosition 17

end Binary64

namespace Decimal

def greatestPosition : Int := 310

def leastPosition : Int := -345

/-- None when the decimal is too great. -/
def nearest (d : Decimal) : Option Binary64 :=
  let position := d.exponent + (Nat.toDigits 10 d.digits).length
  if d.digits = 0 || position < leastPosition then some .zero
  else if greatestPosition < position then none
  else
    let (num, den) := d.fraction
    Binary64.nearest num den

end Decimal
end RouteWeaver
