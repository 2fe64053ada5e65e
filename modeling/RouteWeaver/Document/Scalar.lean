import RouteWeaver.Decimal.Notation

namespace RouteWeaver

/-- What a scalar is when nothing says what it should be. -/
inductive Scalar where
  | null
  | boolean (value : Bool)
  /-- A whole number of 64 bits, signed or not. -/
  | integer (value : Int)
  /-- A whole number of 128 bits that does not fit into 64. -/
  | wide (value : Int)
  | floating (value : Floating)
  | text (value : String)
  /-- The text does not fit the type that its tag names. -/
  | misfit (value wanted : String)
deriving DecidableEq, Repr, Inhabited

/-- How a scalar reads where a value may be left out. -/
inductive Presence where
  | present
  | absent
  /-- Tagged as null, yet not a form of null. -/
  | refused
deriving DecidableEq, Repr, Inhabited

structure Reading where
  kind : Scalar
  text? : Option String
  flag? : Option Bool
  presence : Presence
  /-- Reads as a collection without members. -/
  isBlank : Bool
  isAliased : Bool := false
deriving DecidableEq, Repr, Inhabited

namespace Reading

def ofScalar (s : Scalar) : Reading where
  kind := s
  text? := match s with
    | .text t => some t
    | _ => none
  flag? := match s with
    | .boolean b => some b
    | _ => none
  presence := match s with
    | .null => .absent
    | _ => .present
  isBlank := false

end Reading
end RouteWeaver
