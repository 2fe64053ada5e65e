import RouteWeaver.Dispatch.Context
import RouteWeaver.Dispatch.Hooks
import RouteWeaver.Program

namespace RouteWeaver

open Dispatch (Act Context Hooks)

inductive Leave (F : Type) where
  | fault (f : F)
  /-- A name that nothing defines; no fault that could be caught. -/
  | undefined (name : String)
deriving DecidableEq, Repr

structure Host (σ S F : Type) where
  make : String → Context → S
  hooks? : String → Option (Hooks σ S F)
  handler? : String → Option (Act σ F Unit)
  /-- What lines do that stand in place of a handler. -/
  lines? : List String → Option (Act σ F Unit)
  raise : Dispatch.Fault → F

/-- One call of a run: what it was given, what it left behind, and how it ended. -/
inductive Call (σ S F : Type) where
  /-- A hook, on the object of a variable and the world. An error-hook also receives the fault
  that was caught. -/
  | hook (phase : Phase) (accessor owner : String) (caught : Option F) (given left : S × σ)
      (outcome : Except F Unit)
  | action (action : Action) (given left : σ) (outcome : Except F Unit)

/-- What a running function can change: its state objects, the latest of each variable first,
and the world. The calls that it has made are kept, the latest last. -/
structure Frame (σ S F : Type) where
  objects : List (String × S)
  world : σ
  calls : List (Call σ S F)

variable {σ S F : Type}

abbrev Ending (σ S F : Type) := Except (Leave F) Unit × Frame σ S F

/-- The context that a state object is made from; it can never be cancelled. -/
def StateObject.context (o : StateObject) : Context :=
  ⟨Text.unescape o.command, Text.unescape o.handler, .none⟩

/-- The hook of a phase. Only a caught fault gives an error-hook. -/
def Phase.hook? (caught : Option F) (hooks : Hooks σ S F) : Phase → Option (Act (S × σ) F Unit)
  | before => some hooks.before
  | after => some hooks.after
  | error => caught.map hooks.onError

namespace Host

def act? (h : Host σ S F) : Action → Option (Act σ F Unit)
  | .handle path => h.handler? path
  | .missingHandler pattern => some (throw (h.raise (.missingHandler (Text.unescape pattern))))
  | .lines text => h.lines? text

def actionName : Action → String
  | .handle path => path
  | .missingHandler pattern => pattern
  | .lines text => "\n".intercalate text

end Host

namespace Frame

def perform (fr : Frame σ S F) (a : Action) (act : Act σ F Unit) : Ending σ S F :=
  match act.run.run fr.world with
  | (outcome, world) =>
    (outcome.mapError .fault,
      { fr with world, calls := fr.calls ++ [.action a fr.world world outcome] })

def performOn (fr : Frame σ S F) (phase : Phase) (accessor owner : String) (caught : Option F)
    (act : Act (S × σ) F Unit) : Ending σ S F :=
  match fr.objects.lookup owner with
  | none => (.error (.undefined owner), fr)
  | some object =>
    match act.run.run (object, fr.world) with
    | (outcome, left) =>
      (outcome.mapError .fault,
        { objects := (owner, left.1) :: fr.objects
          world := left.2
          calls := fr.calls ++
            [.hook phase accessor owner caught (object, fr.world) left outcome] })

end Frame

namespace Step

def run (h : Host σ S F) (caught : Option F) (fr : Frame σ S F) : Step → Ending σ S F
  | hook phase accessor owner =>
    match h.hooks? accessor with
    | none => (.error (.undefined accessor), fr)
    | some hooks =>
      match phase.hook? caught hooks with
      | none => (.error (.undefined faultVariable), fr)
      | some act => fr.performOn phase accessor owner caught act
  | action a =>
    match h.act? a with
    | none => (.error (.undefined (Host.actionName a)), fr)
    | some act => fr.perform a act

def runAll (h : Host σ S F) (caught : Option F) (fr : Frame σ S F) : List Step → Ending σ S F
  | [] => (.ok (), fr)
  | step :: rest =>
    match step.run h caught fr with
    | (.ok (), fr) => runAll h caught fr rest
    | (.error e, fr) => (.error e, fr)

end Step

abbrev Outcomes (F : Type) := List (String × Except F Unit)

namespace Statement

def runAll (h : Host σ S F) (outcomes : Outcomes F) (fr : Frame σ S F) :
    List Statement → Ending σ S F
  | [] => (.ok (), fr)
  | makeState object :: rest =>
    runAll h outcomes
      { fr with objects := (object.owner, h.make object.type object.context) :: fr.objects } rest
  | perform step :: rest =>
    match step.run h none fr with
    | (.ok (), fr) => runAll h outcomes fr rest
    | (.error e, fr) => (.error e, fr)
  | guard outcome steps :: rest =>
    match Step.runAll h none fr steps with
    | (.ok (), fr) => runAll h ((outcome, .ok ()) :: outcomes) fr rest
    | (.error (.fault f), fr) => runAll h ((outcome, .error f) :: outcomes) fr rest
    | (.error (.undefined name), fr) => (.error (.undefined name), fr)
  | recover outcome steps :: rest =>
    match outcomes.lookup outcome with
    | none => (.error (.undefined outcome), fr)
    | some (.ok ()) => runAll h outcomes fr rest
    | some (.error f) =>
      match Step.runAll h (some f) fr steps with
      | (.ok (), fr) => (.error (.fault f), fr)
      | (.error e, fr) => (.error e, fr)
  | succeed :: _ => (.ok (), fr)

def invoke (h : Host σ S F) (world : σ) (body : List Statement) : Ending σ S F :=
  runAll h [] ⟨[], world, []⟩ body

end Statement

end RouteWeaver
