import RouteWeaver.Log
import RouteWeaver.Text.Characters
import RouteWeaver.Text.Search

/-!
Which events are shown. A filter is a list of directives; of those that apply to an event, the
one with the longest target decides.
-/

namespace RouteWeaver.Log

abbrev Limit := Option Level

def Limit.allows (limit : Limit) (level : Level) : Bool :=
  match limit with
  | some most => level.rank ≤ most.rank
  | none => false

structure Directive where
  target : Option String := none
  limit : Limit
  /-- Applies within spans only; no event is told of within one. -/
  inSpans : Bool := false
deriving DecidableEq, Repr, Inhabited

namespace Directive

def applies (d : Directive) (e : Event) : Bool :=
  !d.inSpans &&
    match d.target with
    | some t => t.toList.isPrefixOf e.target.toList
    | none => true

/-- A directive without a target is the least specific one. -/
def specificity (d : Directive) : Nat :=
  match d.target with
  | some t => t.length + 1
  | none => 0

/-- A number from 0 for no events up to 5 for all of them. -/
def limitOfNumber? (digits : List Char) : Option Limit := do
  match ← Text.natural? 10 digits with
  | 0 => return none
  | n => (Level.all.find? (·.rank = n)).map some

def limit? (text : String) : Option Limit :=
  let capitals := String.ofList (text.toList.map Char.toUpper)
  let digits :=
    match text.toList with
    | '+' :: rest => rest
    | cs => cs
  if capitals = "OFF" then some none
  else (Level.all.find? (·.label = capitals)).map some <|> limitOfNumber? digits

def startsName (c : Char) : Bool :=
  c.isAlphanum || c = '-' || c = ':' || c = '_' || !c.toNat < 128

def parse? (text : List Char) : Option Directive :=
  let cs := Text.trim text
  if '[' ∈ cs then some ⟨none, some .trace, true⟩
  else if !(cs.head?.map startsName).getD true then none
  else
    match Text.cutFirst '=' cs with
    | some (target, level) =>
      if level.isEmpty then some ⟨some (String.ofList target), some .trace, false⟩
      else (limit? (String.ofList level)).map fun l => ⟨some (String.ofList target), l, false⟩
    | none =>
      if cs.isEmpty then some ⟨none, some .trace, false⟩
      else
        match limit? (String.ofList cs) with
        | some l => some ⟨none, l, false⟩
        | none => some ⟨some (String.ofList cs), some .trace, false⟩

end Directive

structure Filter where
  directives : List Directive
deriving DecidableEq, Repr, Inhabited

namespace Filter

def ofLevel (level : Level) : Filter :=
  ⟨[⟨none, some level, false⟩]⟩

/-- Directives between commas. Without any, errors are shown. -/
def parse? (text : String) : Option Filter := do
  let parts := (Text.pieces ',' text.toList).filter fun p => !p.isEmpty
  if parts.isEmpty then return ofLevel .error
  return ⟨← parts.mapM Directive.parse?⟩

/-- The more specific of two directives, or the later one. -/
def stronger (best : Option Directive) (d : Directive) : Option Directive :=
  match best with
  | some b => if b.specificity ≤ d.specificity then some d else some b
  | none => some d

def deciding (f : Filter) (e : Event) : Option Directive :=
  (f.directives.filter (·.applies e)).foldl stronger none

def shows (f : Filter) (e : Event) : Bool :=
  match f.deciding e with
  | some d => d.limit.allows e.level
  | none => false

end Filter
end RouteWeaver.Log
