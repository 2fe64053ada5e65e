import RouteWeaver.Dispatch.Cancellation
import RouteWeaver.Text.Quoted

namespace RouteWeaver.Dispatch

structure Context where
  command : String
  handler : String
  token : Token
deriving DecidableEq, Repr, Inhabited

class HookState (S : Type) where
  ofContext : Context → S
  context : S → Context

/-- A state object keeps the context that it is made from. -/
class LawfulHookState (S : Type) [HookState S] : Prop where
  context_ofContext (c : Context) : HookState.context (HookState.ofContext c : S) = c

namespace HookState

variable {S : Type} [HookState S]

def command (s : S) : String :=
  (context s).command

def handler (s : S) : String :=
  (context s).handler

def token (s : S) : Token :=
  (context s).token

end HookState

instance : HookState Context where
  ofContext := id
  context := id

instance : LawfulHookState Context where
  context_ofContext _ := rfl

/-- The state object of a behavior that declares none: the context and nothing else. The name of
the behavior keeps the objects of different behaviors apart. -/
structure GeneratedState (behavior : String) where
  context : Context
deriving DecidableEq, Repr, Inhabited

instance (behavior : String) : HookState (GeneratedState behavior) where
  ofContext c := ⟨c⟩
  context s := s.context

instance (behavior : String) : LawfulHookState (GeneratedState behavior) where
  context_ofContext _ := rfl

/-! What the objects look like when they are shown, fields in braces. -/

def record (name : String) (fields : List (String × String)) : String :=
  name ++ " \x7b " ++ ", ".intercalate (fields.map fun f => f.1 ++ ": " ++ f.2) ++ " \x7d"

def Token.shown (signals : Signals) (t : Token) : String :=
  let flag :=
    if t.canBeCancelled then "Some(" ++ toString (t.isCancelled signals) ++ ")" else "None"
  record "CancellationToken" [("flag", flag)]

def Context.shown (signals : Signals) (c : Context) : String :=
  record "BehaviorContext" [
    ("command_name", Text.quoted c.command),
    ("handler_name", Text.quoted c.handler),
    ("cancellation", c.token.shown signals)]

def GeneratedState.shown {behavior : String} (signals : Signals) (s : GeneratedState behavior) :
    String :=
  record "GeneratedState" [
    ("behavior", Text.quoted behavior),
    ("context", s.context.shown signals)]

end RouteWeaver.Dispatch
