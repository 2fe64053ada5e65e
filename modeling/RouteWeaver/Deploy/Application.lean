import RouteWeaver.Dispatch.Context
import RouteWeaver.Dispatch.Hooks

namespace RouteWeaver.Deploy

open Dispatch (Act Context GeneratedState HookState Hooks LawfulHookState NullLogger Terminal)

inductive Fault where
  | dispatch (fault : Dispatch.Fault)
  | unreachable (target : String)
  | terminal (reason : String)
deriving DecidableEq, Repr, Inhabited

def Fault.message : Fault → String
  | dispatch fault => fault.message
  | unreachable target => "deploy target unreachable: " ++ target
  | terminal reason => reason

/-- The journal, the latest entry last, and what the terminal keeps. -/
structure World (τ : Type) where
  journal : List String := []
  terminal : τ
deriving Repr

/-- A clock of the system. What it shows leaves no trace. -/
structure SystemClock where
deriving DecidableEq, Repr, Inhabited

structure Configuration where
  environment : String
deriving DecidableEq, Repr, Inhabited

def configuration : Configuration where
  environment := "staging"

/-- Marks when the invocation has started. -/
structure TimingState where
  context : Context
  isStarted : Bool := false
deriving DecidableEq, Repr, Inhabited

instance : HookState TimingState where
  ofContext context := { context }
  context s := s.context

instance : LawfulHookState TimingState where
  context_ofContext _ := rfl

variable {σ τ S : Type}

def record (entry : String) : Act (World τ) Fault Unit :=
  .change fun w => { w with journal := w.journal ++ [entry] }

def onWorld (act : Act σ Fault Unit) : Act (S × σ) Fault Unit :=
  .onPart Prod.snd (fun w s => (s.1, w)) act

def withState (act : S → Act σ Fault Unit) : Act (S × σ) Fault Unit := do
  let (s, _) ← get
  onWorld (act s)

/-- The logger, which is silent, is told more than the journal. -/
def logging [HookState S] (_logger : NullLogger) (_clock : SystemClock) :
    Hooks (World τ) S Fault where
  before := withState fun s => record ("before(Logging) " ++ HookState.command s)
  after := onWorld (record "after(Logging)")
  onError fault := onWorld (record ("error(Logging, " ++ fault.message ++ ")"))

def timing (c : Configuration) (_time : SystemClock) : Hooks (World τ) TimingState Fault where
  before := do
    modify fun (s, w) => ({ s with isStarted := true }, w)
    onWorld (record ("before(Timing) " ++ c.environment))
  after := withState fun s => record ("after(Timing) timed=" ++ toString s.isStarted)
  onError fault := onWorld (record ("error(Timing, " ++ fault.message ++ ")"))

def audit [HookState S] (terminal : Terminal τ Fault) : Hooks (World τ) S Fault where
  before := withState fun s => record ("before(Audit) " ++ HookState.handler s)
  after := onWorld (record "after(Audit)")
  onError fault := do
    withState fun s =>
      .onPart World.terminal (fun t w => { w with terminal := t })
        (terminal.writeErrorLine (HookState.command s ++ " failed: " ++ fault.message))
    onWorld (record ("error(Audit, " ++ fault.message ++ ")"))

/-- Deploys to the target that the first argument names. -/
def deploy (arguments : List String) : Act (World τ) Fault Unit := do
  let target := arguments.head?.getD "staging"
  record ("handler(deploy " ++ target ++ ")")
  if target = "moon" then throw (.unreachable target)

def status : Act (World τ) Fault Unit :=
  record "handler(status)"

end RouteWeaver.Deploy
