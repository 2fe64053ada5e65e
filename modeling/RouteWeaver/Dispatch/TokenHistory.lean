import RouteWeaver.Dispatch.Context

namespace RouteWeaver.Dispatch

/-- Kinds of state objects that need no behavior of their own: the context, and those that are
generated. -/
inductive PlainKind where
  | context
  | generated (behavior : String)
deriving DecidableEq, Repr

namespace PlainKind

def State : PlainKind → Type
  | context => Context
  | generated behavior => GeneratedState behavior

instance : (kind : PlainKind) → HookState kind.State
  | context => inferInstanceAs (HookState Context)
  | generated behavior => inferInstanceAs (HookState (GeneratedState behavior))

instance : (kind : PlainKind) → LawfulHookState kind.State
  | context => inferInstanceAs (LawfulHookState Context)
  | generated behavior => inferInstanceAs (LawfulHookState (GeneratedState behavior))

end PlainKind

/-- A state object of one of the kinds that there are. -/
structure Carrier {ι : Type} (S : ι → Type) where
  kind : ι
  object : S kind

/-- The tokens and the carriers of a history, in the order in which they came up, and the
signals. -/
structure Tokens {ι : Type} (S : ι → Type) where
  signals : Signals := []
  tokens : List Token := []
  carriers : List (Carrier S) := []

/-- One thing that can be done with tokens; tokens and carriers are named by their positions. -/
inductive TokenOperation (ι : Type) where
  | new
  | none
  | default
  | clone (token : Nat)
  /-- Makes a state object of a kind from a context with the token. -/
  | place (kind : ι) (command handler : String) (token : Nat)
  | takeBack (carrier : Nat)
  | cancel (token : Nat)
  | isCancelled (token : Nat)
  | check (token : Nat)
deriving DecidableEq, Repr

namespace Tokens

variable {ι : Type} {S : ι → Type}

def add (ts : Tokens S) (t : Token) : Tokens S :=
  { ts with tokens := ts.tokens ++ [t] }

variable [∀ kind, HookState (S kind)]

/-- A token or a carrier that is not there changes nothing, and neither does looking at a token. -/
def apply (ts : Tokens S) : TokenOperation ι → Tokens S
  | .new =>
    { ts with
      signals := ts.signals ++ [false]
      tokens := ts.tokens ++ [⟨some ts.signals.length⟩] }
  | .none => ts.add .none
  | .default => ts.add default
  | .clone i =>
    match ts.tokens[i]? with
    | some t => ts.add t
    | none => ts
  | .place kind command handler i =>
    match ts.tokens[i]? with
    | some t =>
      { ts with carriers := ts.carriers ++ [⟨kind, HookState.ofContext ⟨command, handler, t⟩⟩] }
    | none => ts
  | .takeBack i =>
    match ts.carriers[i]? with
    | some c => ts.add (HookState.token c.object)
    | none => ts
  | .cancel i =>
    match ts.tokens[i]? with
    | some t => { ts with signals := t.cancel ts.signals }
    | none => ts
  | .isCancelled _ => ts
  | .check _ => ts

def after (S : ι → Type) [∀ kind, HookState (S kind)] (operations : List (TokenOperation ι)) :
    Tokens S :=
  operations.foldl apply {}

end Tokens
end RouteWeaver.Dispatch
