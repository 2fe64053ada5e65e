import RouteWeaver.Text.Characters

namespace RouteWeaver

/-- One part of a route pattern, as its parser saw it. Segments only label emitted code. -/
inductive Segment where
  | literal (value : String)
  | parameter (name : String) (isOptional : Bool)
  | option (long : String) (short : Option Char) (value : Option String)
deriving DecidableEq, Repr, Inhabited

namespace Segment

def parameterName? : Segment → Option String
  | parameter name _ => some name
  | _ => none

def optionName? : Segment → Option String
  | option long _ _ => some long
  | _ => none

end Segment

structure Route where
  pattern : String
  segments : List Segment := []
  handler : Option String := none
  /-- References to the behaviors of the route; without a list every behavior applies. -/
  behaviors : Option (List String) := none
deriving DecidableEq, Repr, Inhabited

namespace Route

/-- The handler type, unless it is blank. -/
def handler? (r : Route) : Option String :=
  (r.handler.map Text.trimmed).filter (· ≠ "")

def handlerLabel (r : Route) (index : Nat) : String :=
  r.handler?.getD ("route_" ++ toString index)

def parameterNames (r : Route) : List String :=
  r.segments.filterMap Segment.parameterName?

def optionNames (r : Route) : List String :=
  r.segments.filterMap Segment.optionName?

end Route
end RouteWeaver
