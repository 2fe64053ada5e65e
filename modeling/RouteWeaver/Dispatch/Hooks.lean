namespace RouteWeaver.Dispatch

inductive Fault where
  | missingHandler (pattern : String)
  | unknownRoute (index : Nat)
deriving DecidableEq, Repr, Inhabited

def Fault.message : Fault → String
  | missingHandler pattern => "no handler registered for route `" ++ pattern ++ "`"
  | unknownRoute index => "no route with index " ++ toString index

/-- Something that changes a state and may fail; the changes stay when it does. -/
abbrev Act (σ F : Type) := ExceptT F (StateM σ)

namespace Act

variable {σ τ F : Type}

def change (f : σ → σ) : Act σ F Unit :=
  modify f

def onPart (get : σ → τ) (set : τ → σ → σ) (act : Act τ F Unit) : Act σ F Unit :=
  ExceptT.mk fun s =>
    let (r, t) := act.run.run (get s)
    (r, set t s)

end Act

/-- The hooks of one behavior: acts on the state object and on the world. -/
structure Hooks (σ S F : Type) where
  before : Act (S × σ) F Unit := pure ()
  after : Act (S × σ) F Unit := pure ()
  onError : F → Act (S × σ) F Unit := fun _ => pure ()

structure Terminal (τ F : Type) where
  writeLine : String → Act τ F Unit
  writeErrorLine : String → Act τ F Unit

structure Outputs where
  standard : String := ""
  error : String := ""
deriving DecidableEq, Repr, Inhabited

def Terminal.standard (F : Type) : Terminal Outputs F where
  writeLine line := .change fun o => { o with standard := o.standard ++ line ++ "\n" }
  writeErrorLine line := .change fun o => { o with error := o.error ++ line ++ "\n" }

/-- A logger that drops every message. The category tells it from others. -/
structure NullLogger where
  category : String
deriving DecidableEq, Repr, Inhabited

namespace NullLogger

def isEnabled (_ : NullLogger) : Bool :=
  false

def shown (l : NullLogger) : String :=
  "NullLogger<" ++ l.category ++ ">"

end NullLogger

end RouteWeaver.Dispatch
