import RouteWeaver.Document.Scalar
import RouteWeaver.Text.Characters

/-!
Numbers of JSON texts. A whole number that fits into 64 bits is exact. Any other number is made
from the leading digits that fit into 64 bits and a power of ten, by one multiplication or
division of floating-point numbers a step.
-/

namespace RouteWeaver.Json

structure Number where
  negative : Bool
  whole : List Char
  fraction : Option (List Char)
  /-- The exponent and whether it is negative. -/
  exponent : Option (Bool × List Char)
deriving DecidableEq, Repr, Inhabited

namespace Number

def wordLimit : Nat := Nat.pow 2 64

/-- Appends digits to a significand as long as it fits into 64 bits; the rest is left over. -/
def gather (significand : Nat) : List Char → Nat × List Char
  | [] => (significand, [])
  | d :: ds =>
    let next := significand * 10 + (Text.digitValue? d).getD 0
    if next < wordLimit then gather next ds else (significand, d :: ds)

def stepExponent : Nat := 308

/-- Divides by powers of ten until nothing is left of the exponent or of the number. -/
def scaleDown : Nat → Binary64 → Nat → Option Binary64
  | 0, _, _ => some .zero
  | fuel + 1, x, exponent =>
    if x.isZero then some x
    else if exponent ≤ stepExponent then do x.div (← Binary64.nearest (Nat.pow 10 exponent) 1)
    else do
      let y ← x.div (← Binary64.nearest (Nat.pow 10 stepExponent) 1)
      scaleDown fuel y (exponent - stepExponent)

/-- A significand times a power of ten; none when the number is too great. -/
def scale (significand : Nat) (exponent : Int) : Option Binary64 := do
  let x ← Binary64.nearest significand 1
  if exponent < 0 then scaleDown 8 x (-exponent).toNat
  else if x.isZero then return x
  else if exponent.toNat ≤ stepExponent then
    x.mul (← Binary64.nearest (Nat.pow 10 exponent.toNat) 1)
  else none

def exponentLimit : Nat := Nat.pow 2 31

def floating (n : Number) : Option Scalar :=
  let (head, more) := gather 0 n.whole
  let (significand, rest) := gather head (n.fraction.getD [])
  let shift : Int := more.length - ((n.fraction.getD []).length - rest.length : Nat)
  let magnitude : Option Binary64 :=
    match n.exponent with
    | none => scale significand shift
    | some (below, digits) =>
      let e := Text.natOf 10 digits
      if e < exponentLimit then scale significand (if below then shift - e else shift + e)
      else if significand = 0 || below then some .zero
      else none
  magnitude.map fun x => .floating (.finite n.negative x)

/-- The value of a number; none when it is too great. Minus zero is not a whole number. -/
def scalar (n : Number) : Option Scalar :=
  let (value, more) := gather 0 n.whole
  if n.fraction.isNone && n.exponent.isNone && more.isEmpty then
    if !n.negative then some (.integer value)
    else if 0 < value && value ≤ Nat.pow 2 63 then some (.integer (-value))
    else n.floating
  else n.floating

end Number
end RouteWeaver.Json
