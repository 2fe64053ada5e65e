import RouteWeaver.Config
import RouteWeaver.Layout
import RouteWeaver.Model.Behavior

namespace RouteWeaver

structure StateAlias where
  behavior : String
  name : String
  target : String
deriving DecidableEq, Repr, Inhabited

namespace StateAlias

def layout (a : StateAlias) : List Layout := [
  .blank,
  .line ("/// Per-invocation state of `" ++ a.behavior ++ "`."),
  .line ("pub(crate) type " ++ a.name ++ " = " ++ a.target ++ ";")]

end StateAlias

namespace Behavior

def stateAlias (b : Behavior) (c : Config) : StateAlias where
  behavior := b.name
  name := b.generatedStateName
  target := c.runtimePath "GeneratedState" ++ "<" ++ Text.trimmed b.type ++ ">"

def stateAliases (c : Config) (behaviors : List Behavior) : List StateAlias :=
  (behaviors.filter fun b => !b.hasCustomState).map (·.stateAlias c)

def stateType (b : Behavior) : String :=
  match b.state with
  | .custom type => Text.trimmed type
  | .generated => "behaviors::" ++ b.generatedStateName

def stateVariable (b : Behavior) (index : Nat) : String :=
  "__state_" ++ toString index ++ "_" ++ b.identifier

end Behavior
end RouteWeaver
