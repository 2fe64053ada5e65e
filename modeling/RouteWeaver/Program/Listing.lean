import RouteWeaver.Program.Run

/-!
Listings of emitted programs: the items of a program by the names that its text gives them. Nothing
but these names ties the parts of a program together: dispatching goes by the arms, and an arm by
the name of a function.
-/

namespace RouteWeaver

/-- A route function under the name that it is declared with. -/
structure NamedFunction where
  doc : List String
  name : String
  body : List Statement
deriving DecidableEq, Repr, Inhabited

def RouteFunction.named (f : RouteFunction) : NamedFunction :=
  ⟨f.doc, f.name, f.body⟩

structure Listing where
  services : List Holder
  behaviors : List Holder
  aliases : List StateAlias
  /-- Texts of the literals in the table of patterns. -/
  patterns : List String
  functions : List NamedFunction
  /-- The indices that are told apart, each with the function it leads to. -/
  arms : List (Nat × String)
deriving DecidableEq, Repr, Inhabited

def Program.listing (p : Program) : Listing where
  services := p.services
  behaviors := p.behaviors
  aliases := p.aliases
  patterns := p.patterns
  functions := p.routes.map RouteFunction.named
  arms := p.routes.map fun f => (f.index, f.name)

def Holder.path (space : String) (h : Holder) : String :=
  space ++ "::" ++ h.accessor ++ "()"

def StateAlias.path (a : StateAlias) : String :=
  "behaviors::" ++ a.name

namespace Listing

def behaviorPaths (e : Listing) : List String :=
  e.behaviors.map (·.path "behaviors")

def servicePaths (e : Listing) : List String :=
  e.services.map (·.path "services")

def aliasPaths (e : Listing) : List String :=
  e.aliases.map StateAlias.path

def target? (e : Listing) (index : Nat) : Option String :=
  (e.arms.find? (·.1 = index)).map Prod.snd

def function? (e : Listing) (name : String) : Option NamedFunction :=
  e.functions.find? (·.name = name)

variable {σ S F : Type}

/-- Runs the function that an index leads to. An index without arm is that of no route. -/
def dispatch (e : Listing) (h : Host σ S F) (index : Nat) (world : σ) :
    Except (Leave F) Unit × σ :=
  match e.target? index with
  | none => (.error (.fault (h.raise (.unknownRoute index))), world)
  | some name =>
    match e.function? name with
    | none => (.error (.undefined name), world)
    | some f =>
      let (r, fr) := Statement.invoke h world f.body
      (r, fr.world)

end Listing
end RouteWeaver
