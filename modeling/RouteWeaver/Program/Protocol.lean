import RouteWeaver.Program.Run

/-!
The protocol of an invocation, as a relation between behaviors and the calls of a run. It speaks
of phases and their order; regions, outcomes and variables are matters of the statements.
-/

namespace RouteWeaver

variable {σ S F : Type}

namespace Call

def step : Call σ S F → Step
  | hook phase accessor owner _ _ _ _ => .hook phase accessor owner
  | action a _ _ _ => .action a

def outcome : Call σ S F → Except F Unit
  | hook _ _ _ _ _ _ outcome => outcome
  | action _ _ _ outcome => outcome

/-- The fault that had been caught. Error-hooks receive it. -/
def caught? : Call σ S F → Option F
  | hook _ _ _ caught _ _ _ => caught
  | action .. => none

def isErrorHook : Call σ S F → Bool
  | hook .error .. => true
  | _ => false

def worlds : Call σ S F → σ × σ
  | hook _ _ _ _ given left _ => (given.2, left.2)
  | action _ given left _ => (given, left)

/-- The object of a variable before the call and after it, when the call was about that object. -/
def objects? (owner : String) : Call σ S F → Option (S × S)
  | hook _ _ o _ given left _ => if o = owner then some (given.1, left.1) else none
  | action .. => none

/-- The call did what the host defines for its step, to what it was given. -/
def Genuine (h : Host σ S F) : Call σ S F → Prop
  | hook phase accessor _ caught given left outcome =>
    ∃ hooks act, h.hooks? accessor = some hooks ∧ phase.hook? caught hooks = some act ∧
      act.run.run given = (outcome, left)
  | action a given left outcome =>
    ∃ act, h.act? a = some act ∧ act.run.run given = (outcome, left)

end Call

/-- Each change starts from what the one before it left. -/
inductive Threaded {α : Type} : α → List (α × α) → α → Prop where
  | nil {a : α} : Threaded a [] a
  | cons {a b c : α} {changes : List (α × α)} :
      Threaded b changes c → Threaded a ((a, b) :: changes) c

/-- The calls of steps that are made in order, up to and including the first that fails. They end
with its fault, or well when none fails. -/
inductive InTurn : List Step → List (Call σ S F) → Except F Unit → Prop where
  | done : InTurn [] [] (.ok ())
  | failed {step : Step} {rest : List Step} {call : Call σ S F} {f : F} :
      call.step = step → call.outcome = .error f → InTurn (step :: rest) [call] (.error f)
  | next {step : Step} {rest : List Step} {call : Call σ S F} {calls : List (Call σ S F)}
      {r : Except F Unit} :
      call.step = step → call.outcome = .ok () → InTurn rest calls r →
      InTurn (step :: rest) (call :: calls) r

namespace Protocol

/-- What is called until something fails: the before-hooks in order; after all of them the action,
once; after the action the after-hooks in reverse order. -/
inductive Protected (index : Nat) (behaviors : List Behavior) (action : Action) :
    List (Call σ S F) → Except F Unit → Prop where
  | beforeFailed {entering : List (Call σ S F)} {f : F} :
      InTurn (behaviors.map (·.hook index .before)) entering (.error f) →
      Protected index behaviors action entering (.error f)
  | actionFailed {entering : List (Call σ S F)} {call : Call σ S F} {f : F} :
      InTurn (behaviors.map (·.hook index .before)) entering (.ok ()) →
      call.step = .action action → call.outcome = .error f →
      Protected index behaviors action (entering ++ [call]) (.error f)
  | acted {entering leaving : List (Call σ S F)} {call : Call σ S F} {r : Except F Unit} :
      InTurn (behaviors.map (·.hook index .before)) entering (.ok ()) →
      call.step = .action action → call.outcome = .ok () →
      InTurn (behaviors.reverse.map (·.hook index .after)) leaving r →
      Protected index behaviors action (entering ++ call :: leaving) r

def Swept (index : Nat) (behaviors : List Behavior) (f : F) (calls : List (Call σ S F))
    (r : Except F Unit) : Prop :=
  InTurn (behaviors.reverse.map (·.hook index .error)) calls r ∧
    ∀ call ∈ calls, call.caught? = some f

end Protocol

open Protocol in
/-- The calls of an invocation and its result. When something fails, the error-hooks are called
with its fault. An error-hook that fails ends the invocation with a fault of its own. -/
inductive Protocol (index : Nat) (behaviors : List Behavior) (action : Action) :
    List (Call σ S F) → Except F Unit → Prop where
  | succeeded {calls : List (Call σ S F)} :
      Protected index behaviors action calls (.ok ()) →
      Protocol index behaviors action calls (.ok ())
  | failed {calls sweep : List (Call σ S F)} {f : F} :
      Protected index behaviors action calls (.error f) →
      Swept index behaviors f sweep (.ok ()) →
      Protocol index behaviors action (calls ++ sweep) (.error f)
  | replaced {calls sweep : List (Call σ S F)} {f g : F} :
      Protected index behaviors action calls (.error f) →
      Swept index behaviors f sweep (.error g) →
      Protocol index behaviors action (calls ++ sweep) (.error g)

/-- Every error-hook is called exactly once, in reverse order and with the fault, and the fault is
the result. -/
def FaultPreserved (index : Nat) (behaviors : List Behavior) (f : F) (calls : List (Call σ S F))
    (r : Except (Leave F) Unit) : Prop :=
  ((calls.filter Call.isErrorHook).map fun call => (call.step, call.caught?)) =
    behaviors.reverse.map (fun b => (b.hook index .error, some f)) ∧
  r = .error (.fault f)

end RouteWeaver
