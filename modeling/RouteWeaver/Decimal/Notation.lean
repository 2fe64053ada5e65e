import RouteWeaver.Decimal.Shortest

namespace RouteWeaver

inductive Floating where
  | finite (negative : Bool) (magnitude : Binary64)
  | infinite (negative : Bool)
  | notANumber
deriving DecidableEq, Repr, Inhabited

namespace Decimal

def positional (digits : List Char) (position : Int) : List Char :=
  if position < 0 then
    "0.".toList ++ List.replicate (-position - 1).toNat '0' ++ digits
  else
    let whole := position.toNat + 1
    let fraction := digits.drop whole
    digits.take whole ++ List.replicate (whole - digits.length) '0' ++
      '.' :: (if fraction.isEmpty then ['0'] else fraction)

def withExponent (digits : List Char) (position : Int) : List Char :=
  digits.take 1 ++ (if digits.length ≤ 1 then [] else '.' :: digits.drop 1) ++
    'e' :: (if position < 0 then '-' else '+') :: Nat.toDigits 10 position.natAbs

end Decimal

namespace Floating

def signed (negative : Bool) (text : List Char) : String :=
  String.ofList (if negative then '-' :: text else text)

/-- Positional from 10 ^ -5 up to below 10 ^ 16, else with an exponent. -/
def compact : Floating → String
  | finite negative x =>
    let (digits, position) := x.shortest.scientific
    signed negative <|
      if -5 ≤ position && position < 16 then Decimal.positional digits position
      else Decimal.withExponent digits position
  | infinite negative => signed negative "inf".toList
  | notANumber => "NaN"

def plain : Floating → String
  | finite negative x =>
    let (digits, position) := x.shortest.scientific
    signed negative (Decimal.positional digits position)
  | infinite negative => signed negative "inf".toList
  | notANumber => "NaN"

end Floating
end RouteWeaver
