import RouteWeaver.Document.Scalar
import RouteWeaver.Text.Quoted

namespace RouteWeaver

inductive Place where
  | root
  | item (parent : Place) (index : Nat)
  | field (parent : Place) (name : String)
  /-- The value of a key that has no text of its own. -/
  | unnamed (parent : Place)
deriving DecidableEq, Repr, Inhabited

namespace Place

def path : Place → String
  | root => ""
  | item parent index => parent.path ++ "[" ++ toString index ++ "]"
  | field root name => name
  | field parent name => parent.path ++ "." ++ name
  | unnamed root => "?"
  | unnamed parent => parent.path ++ ".?"

end Place

inductive Found where
  | scalar (value : Scalar)
  | sequence
  | map
  /-- A value with a tag of the document's own. -/
  | enum
deriving DecidableEq, Repr, Inhabited

inductive Cause where
  | unknownField (name : String) (known : List String)
  | missingField (name : String)
  | duplicateField (name : String)
  | unknownVariant (name : String) (known : List String)
  | invalidType (found : Found) (wanted : String)
  | invalidValue (found : Found) (wanted : String)
  | invalidLength (length : Nat) (wanted : String)
  /-- A value that has to be kept for later has a tag of the document's own. -/
  | keptTag
deriving DecidableEq, Repr, Inhabited

structure Wording where
  null : String
  floating : Floating → String

namespace Wording

def found (w : Wording) : Found → String
  | .scalar .null => w.null
  | .scalar (.boolean b) => "boolean `" ++ toString b ++ "`"
  | .scalar (.integer n) => "integer `" ++ toString n ++ "`"
  | .scalar (.wide n) => "integer `" ++ toString n ++ "` as " ++ (if n < 0 then "i128" else "u128")
  | .scalar (.floating x) => "floating point `" ++ w.floating x ++ "`"
  | .scalar (.text t) => "string " ++ Text.quoted t
  | .scalar (.misfit t _) => "string " ++ Text.quoted t
  | .sequence => "sequence"
  | .map => "map"
  | .enum => "enum"

end Wording

namespace Cause

def alternatives : List String → String
  | [a] => "expected `" ++ a ++ "`"
  | [a, b] => "expected `" ++ a ++ "` or `" ++ b ++ "`"
  | names => "expected one of " ++ ", ".intercalate (names.map fun n => "`" ++ n ++ "`")

def message (w : Wording) : Cause → String
  | unknownField name known => "unknown field `" ++ name ++ "`, " ++ alternatives known
  | missingField name => "missing field `" ++ name ++ "`"
  | duplicateField name => "duplicate field `" ++ name ++ "`"
  | unknownVariant name known => "unknown variant `" ++ name ++ "`, " ++ alternatives known
  | invalidType f wanted => "invalid type: " ++ w.found f ++ ", expected " ++ wanted
  | invalidValue f wanted => "invalid value: " ++ w.found f ++ ", expected " ++ wanted
  | invalidLength n wanted => "invalid length " ++ toString n ++ ", expected " ++ wanted
  | keptTag => "untagged and internally tagged enums do not support enum input"

/-- A scalar stands where something else is wanted. One that does not even fit its own tag is
reported for that. -/
def unexpected (s : Scalar) (wanted : String) : Cause :=
  match s with
  | .misfit _ fitting => invalidValue (.scalar s) fitting
  | _ => invalidType (.scalar s) wanted

end Cause

/-- The first thing that is wrong with a document. -/
inductive Problem where
  | malformed
  | mismatch (place : Place) (cause : Cause)
deriving DecidableEq, Repr, Inhabited

namespace Problem

/-- A mismatch within a value that was kept is located where the value was kept. -/
def relocated (place : Place) : Problem → Problem
  | malformed => malformed
  | mismatch _ cause => mismatch place cause

end Problem
end RouteWeaver
