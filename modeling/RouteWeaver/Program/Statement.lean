import RouteWeaver.Config
import RouteWeaver.Layout

/-!
Statements of route functions, and how they are written. Steps may run in a protected region,
whose outcome is kept; whatever fails there is dealt with below it.
-/

namespace RouteWeaver

inductive Phase where
  | before
  | after
  | error
deriving DecidableEq, Repr, Inhabited

namespace Phase

def method : Phase → String
  | before => "before"
  | after => "after"
  | error => "on_error"

def label : Phase → String
  | before => "before"
  | after => "after"
  | error => "error"

end Phase

structure StateObject where
  owner : String
  type : String
  /-- Text of the command literal. -/
  command : String
  handler : String
deriving DecidableEq, Repr, Inhabited

inductive Action where
  | handle (path : String)
  /-- Fails for the lack of a handler, with the text of a pattern literal. -/
  | missingHandler (pattern : String)
  | lines (text : List String)
deriving DecidableEq, Repr, Inhabited

/-- One awaited step. A failure leaves the innermost region or function with it. -/
inductive Step where
  /-- Calls the hook of a phase on an instance with the object of a variable. An error-hook also
  receives the fault that was caught. -/
  | hook (phase : Phase) (accessor owner : String)
  | action (action : Action)
deriving DecidableEq, Repr, Inhabited

inductive Statement where
  | makeState (object : StateObject)
  | perform (step : Step)
  /-- Runs steps in a region of their own and keeps its outcome in a variable. -/
  | guard (outcome : String) (steps : List Step)
  /-- When the outcome is a fault, runs steps and returns that fault. -/
  | recover (outcome : String) (steps : List Step)
  | succeed
deriving DecidableEq, Repr, Inhabited

def faultVariable : String := "__fault"

namespace StateObject

def layout (c : Config) (s : StateObject) : Layout :=
  .block ("let mut " ++ s.owner ++ " = <" ++ s.type ++ " as " ++ c.runtimePath "BehaviorState" ++
      ">::from_context(") ");"
    [.block (c.runtimePath "BehaviorContext::new" ++ "(") "),"
      [.line ("\"" ++ s.command ++ "\","),
        .line ("\"" ++ s.handler ++ "\","),
        .line (c.runtimePath "CancellationToken::none" ++ "(),")]]

end StateObject

def Action.layout (c : Config) : Action → List Layout
  | handle path => [.line (path ++ "::handle(args).await?;")]
  | missingHandler pattern =>
    [.line (c.runtimePath "missing_handler" ++ "(\"" ++ pattern ++ "\")?;")]
  | lines text => text.map .line

namespace Step

def faultArgument : Phase → String
  | .error => ", &" ++ faultVariable
  | .before | .after => ""

def layout (c : Config) : Step → List Layout
  | hook phase accessor owner =>
    [.line (c.runtimePath ("Behavior::" ++ phase.method) ++ "(" ++ accessor ++ ", &mut " ++
      owner ++ faultArgument phase ++ ").await?;")]
  | action a => a.layout c

end Step

namespace Statement

def layout (c : Config) : Statement → List Layout
  | makeState object => [object.layout c]
  | perform step => step.layout c
  | guard outcome steps => [
    .block ("let " ++ outcome ++ " = async \x7b") "\x7d"
      (steps.flatMap (·.layout c) ++
        [.line ("::core::result::Result::<(), " ++ c.runtimePath "Fault" ++ ">::Ok(())")]),
    .line ".await;"]
  | recover outcome steps => [
    .block ("if let ::core::result::Result::Err(" ++ faultVariable ++ ") = " ++ outcome ++ " \x7b")
      "\x7d"
      (steps.flatMap (·.layout c) ++
        [.line ("return ::core::result::Result::Err(" ++ faultVariable ++ ");")])]
  | succeed => [.line "::core::result::Result::Ok(())"]

end Statement
end RouteWeaver
