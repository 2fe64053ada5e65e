/-!
Cancellation tokens. A token holds a signal or none; copies of a token hold the same signal, and
a signal that has fired stays fired.
-/

namespace RouteWeaver.Dispatch

structure Token where
  signal : Option Nat
deriving DecidableEq, Repr, Inhabited

abbrev Signals := List Bool

namespace Token

/-- Can never be cancelled. -/
def none : Token :=
  ⟨Option.none⟩

def isCancelled (signals : Signals) (t : Token) : Bool :=
  match t.signal with
  | some s => signals.getD s false
  | Option.none => false

def canBeCancelled (t : Token) : Bool :=
  t.signal.isSome

def cancel (signals : Signals) (t : Token) : Signals :=
  match t.signal with
  | some s => signals.set s true
  | Option.none => signals

def cancelledMessage : String := "operation cancelled"

def check (signals : Signals) (t : Token) : Except String Unit :=
  if t.isCancelled signals then .error cancelledMessage else .ok ()

end Token

end RouteWeaver.Dispatch
