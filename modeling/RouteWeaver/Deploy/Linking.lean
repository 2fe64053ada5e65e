import RouteWeaver.Deploy.Application
import RouteWeaver.Program.Listing

/-!
Linking of emitted programs with the deployment tool. Expressions and types of a program are looked
up by their texts, among its own items and those of the tool. A program that asks for something else
than there is, or for another type, is not linked.
-/

namespace RouteWeaver.Deploy

open Dispatch (Act Context GeneratedState HookState Hooks NullLogger Terminal)

/-- What constructors are called with. The terminal is that of the tool. -/
inductive Part where
  | logger (logger : NullLogger)
  | clock (clock : SystemClock)
  | configuration (configuration : Configuration)
  | terminal
deriving DecidableEq, Repr

/-- The behaviors of the tool, constructed. -/
inductive Instance where
  | logging (logger : NullLogger) (clock : SystemClock)
  | timing (configuration : Configuration) (time : SystemClock)
  | audit
deriving DecidableEq, Repr

/-- Types of state objects. -/
inductive Kind where
  | generated (behavior : String)
  | timing
deriving DecidableEq, Repr

inductive State where
  | generated (behavior : String) (object : GeneratedState behavior)
  | timing (object : TimingState)

namespace State

def generated? (behavior : String) : State → Option (GeneratedState behavior)
  | generated b object => if b = behavior then some ⟨object.context⟩ else none
  | timing _ => none

def timing? : State → Option TimingState
  | generated .. => none
  | timing object => some object

end State

def Kind.make (context : Context) : Kind → State
  | generated behavior => .generated behavior (HookState.ofContext context)
  | timing => .timing (HookState.ofContext context)

variable {τ S : Type}

/-- Hooks for one type of objects, among objects of all types. Those of other types they leave
alone. -/
def among (get? : State → Option S) (set : S → State) (hooks : Hooks (World τ) S Fault) :
    Hooks (World τ) State Fault where
  before := on hooks.before
  after := on hooks.after
  onError fault := on (hooks.onError fault)
where
  on (act : Act (S × World τ) Fault Unit) : Act (State × World τ) Fault Unit :=
    ExceptT.mk fun (state, w) =>
      match get? state with
      | some object =>
        let (r, object, w) := act.run.run (object, w)
        (r, set object, w)
      | none => (.ok (), state, w)

namespace Instance

def kind : Instance → Kind
  | logging .. => .generated "crate::app::Logging"
  | timing .. => .timing
  | audit => .generated "crate::app::Audit"

def hooks (terminal : Terminal τ Fault) : Instance → Hooks (World τ) State Fault
  | logging logger clock =>
    among (State.generated? "crate::app::Logging") (.generated _) (Deploy.logging logger clock)
  | timing configuration time =>
    among State.timing? .timing (Deploy.timing configuration time)
  | audit => among (State.generated? "crate::app::Audit") (.generated _) (Deploy.audit terminal)

end Instance

def behaviorTypes : List String :=
  ["crate::app::Logging", "crate::app::Timing", "crate::app::Audit"]

/-- The constructors of the tool take arguments of their own types only. -/
def construct? (type : String) (arguments : List Part) : Option Instance :=
  match type, arguments with
  | "crate::app::Logging", [.logger logger, .clock clock] =>
    if logger.category = "crate::app::Logging" then some (.logging logger clock) else none
  | "crate::app::Timing", [.configuration configuration, .clock time] =>
    some (.timing configuration time)
  | "crate::app::Audit", [.terminal] => some .audit
  | _, _ => none

def handlerOf? (arguments : List String) (path : String) : Option (Act (World τ) Fault Unit) :=
  match path with
  | "crate::app::DeployHandler" => some (deploy arguments)
  | "crate::app::StatusHandler" => some status
  | _ => none

section Items

variable (e : Listing)

def service? (h : Holder) : Option Part :=
  if h.type = "crate::app::SystemClock" && h.construction = .default then some (.clock {}) else none

/-- What an expression stands for. -/
def part? (expression : String) : Option Part :=
  if expression = "crate::configuration()" then some (.configuration configuration)
  else if expression = "crate::terminal()" then some .terminal
  else
    match e.services.find? (·.path "services" = expression) with
    | some h => service? h
    | none =>
      (behaviorTypes.find? fun type =>
        "::switchyard_dispatch::NullLogger::<" ++ type ++ ">::new()" = expression).map (.logger ⟨·⟩)

def instance? (h : Holder) : Option Instance :=
  match h.construction with
  | .default => none
  | .new type arguments =>
    if type = h.type then (arguments.mapM (part? e)).bind (construct? type) else none

def instanceAt? (accessor : String) : Option Instance :=
  (e.behaviors.find? (·.path "behaviors" = accessor)).bind (instance? e)

/-- What a type stands for. An alias stands for its target. -/
def kind? (type : String) : Option Kind :=
  let target := ((e.aliases.find? (·.path = type)).map (·.target)).getD type
  if target = "crate::app::TimingState" then some .timing
  else
    (behaviorTypes.find? fun behavior =>
      "::switchyard_dispatch::GeneratedState<" ++ behavior ++ ">" = target).map .generated

def host (terminal : Terminal τ Fault) (arguments : List String) : Host (World τ) State Fault where
  make type context := ((kind? e type).getD .timing).make context
  hooks? accessor := (instanceAt? e accessor).map (·.hooks terminal)
  handler? path := handlerOf? arguments path
  lines? _ := none
  raise := .dispatch

/-- A hook takes an object of the type that its behavior has, and an error-hook a caught fault. -/
def admitsStep (kinds : List (String × Kind)) (isCaught : Bool) : Step → Bool
  | .hook phase accessor owner =>
    (phase ≠ .error || isCaught) &&
      ((instanceAt? e accessor).map Instance.kind).any fun kind => kinds.lookup owner = some kind
  | .action (.handle path) => (handlerOf? (τ := Unit) [] path).isSome
  | .action (.missingHandler _) => true
  | .action (.lines _) => false

/-- A body may use what has been declared before. -/
def admits (kinds : List (String × Kind)) (outcomes : List String) : List Statement → Bool
  | [] => false
  | .makeState object :: rest =>
    match kind? e object.type with
    | some kind => admits ((object.owner, kind) :: kinds) outcomes rest
    | none => false
  | .perform step :: rest => admitsStep e kinds false step && admits kinds outcomes rest
  | .guard outcome steps :: rest =>
    steps.all (admitsStep e kinds false) && admits kinds (outcome :: outcomes) rest
  | .recover outcome steps :: rest =>
    outcomes.contains outcome && steps.all (admitsStep e kinds true) && admits kinds outcomes rest
  | .succeed :: rest => rest.isEmpty

/-- No name is defined twice in its module. -/
def distinguishes : Bool :=
  let values (holders : List Holder) := holders.flatMap fun h => [h.accessor, h.staticName]
  (values e.services).Nodup && (values e.behaviors).Nodup && (e.aliases.map (·.name)).Nodup &&
    (e.functions.map (·.name)).Nodup

/-- Everything that is named is there, with the type that it is used at. -/
def links : Bool :=
  distinguishes e && e.services.all (fun h => (service? h).isSome) &&
    e.behaviors.all (fun h => (instance? e h).isSome) &&
    e.aliases.all (fun a => (kind? e a.path).isSome) &&
    e.functions.all (fun f => admits e [] [] f.body) &&
    e.arms.all fun arm => (e.function? arm.2).isSome

end Items

/-- What is built of a model: nothing when an argument is unresolved, or when the program does not
fit into the tool. -/
def built? (m : Model) : Option Listing :=
  let e := m.program.listing
  if m.generate.isComplete && m.config.runtime = "::switchyard_dispatch" &&
    !m.config.innerAttributes && links e then some e else none

end RouteWeaver.Deploy
