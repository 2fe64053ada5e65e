import RouteWeaver.Name

namespace RouteWeaver

inductive StateKind where
  | custom (type : String)
  | generated
deriving DecidableEq, Repr, Inhabited

structure Behavior where
  type : String
  /-- Display name, free text. -/
  name : String
  /-- Names the behavior's emitted items. -/
  identifier : String
  state : StateKind := .generated
  dependencies : List String := []
deriving DecidableEq, Repr, Inhabited

namespace Behavior

def ofType (type : String) : Behavior where
  type
  name := Name.short type
  identifier := Name.identifier type

/-- Freshly defined: the identifier is the one that the type asks for. -/
def Fresh (b : Behavior) : Prop :=
  b.identifier = Name.identifier b.type

/-- Two definitions of one type count as one behavior. -/
def key (b : Behavior) : String :=
  Text.trimmed b.type

def hasCustomState (b : Behavior) : Bool :=
  match b.state with
  | .custom _ => true
  | .generated => false

def generatedStateName (b : Behavior) : String :=
  Name.pascal b.identifier ++ "State"

def rootless (path : String) : List Char :=
  Text.dropLeadingMarks path.toList

def answersTo (b : Behavior) (reference : String) : Bool :=
  let r := Text.trimmed reference
  r = b.name || r = b.identifier || rootless r = rootless b.type

def request (b : Behavior) : Name.Request :=
  ⟨b.type, b.identifier⟩

/-- Definitions whose type is not among `seen`, the first of each type only. -/
def distinctFrom (seen : List String) : List Behavior → List Behavior
  | [] => []
  | b :: rest =>
    if b.key ∈ seen then distinctFrom seen rest else b :: distinctFrom (b.key :: seen) rest

def distinct (definitions : List Behavior) : List Behavior :=
  distinctFrom [] definitions

def repeatedFrom (seen : List String) : List Behavior → List Behavior
  | [] => []
  | b :: rest =>
    if b.key ∈ seen then b :: repeatedFrom seen rest else repeatedFrom (b.key :: seen) rest

def withGrantedIdentifiers (behaviors : List Behavior) : List Behavior :=
  behaviors.map fun b =>
    { b with identifier := b.request.granted (behaviors.map request) }

end Behavior
end RouteWeaver
