import RouteWeaver.Model.Route
import RouteWeaver.Program.Holder
import RouteWeaver.Program.StateType
import RouteWeaver.Program.Statement
import RouteWeaver.Text.Escape

/-!
Weaving behaviors into a route. The action of the route runs in a protected region between the
before-hooks and the after-hooks of its behaviors; when it fails, the error-hooks run below it.
-/

namespace RouteWeaver

def outcomeVariable (index : Nat) : String :=
  "__outcome_" ++ toString index

namespace Behavior

def stateObject (b : Behavior) (route : Route) (index : Nat) : StateObject where
  owner := b.stateVariable index
  type := b.stateType
  command := Text.escapeText route.pattern
  handler := Text.escapeText (route.handlerLabel index)

def hook (b : Behavior) (index : Nat) (phase : Phase) : Step :=
  .hook phase b.accessorPath (b.stateVariable index)

def makeStates (behaviors : List Behavior) (route : Route) (index : Nat) : List Statement :=
  behaviors.map fun b => .makeState (b.stateObject route index)

end Behavior

namespace Route

/-- Wraps an action in the active behaviors: before-hooks in order, the action, after-hooks and
error-hooks in reverse order. Without behaviors there is nothing but the action. -/
def weave (route : Route) (index : Nat) (behaviors : List Behavior) (action : Action) :
    List Statement :=
  match behaviors with
  | [] => [.perform (.action action)]
  | _ :: _ =>
    Behavior.makeStates behaviors route index ++ [
      .guard (outcomeVariable index)
        (behaviors.map (·.hook index .before) ++ .action action ::
          behaviors.reverse.map (·.hook index .after)),
      .recover (outcomeVariable index) (behaviors.reverse.map (·.hook index .error))]

end Route

end RouteWeaver
