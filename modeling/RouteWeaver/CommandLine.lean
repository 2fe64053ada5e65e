import RouteWeaver.CommandLine.Request
import RouteWeaver.Log.Filter
import RouteWeaver.Log.Generation
import RouteWeaver.Model.Source

/-!
The commands. A run is a function of its arguments and of the files that it finds; it ends with a
status, two outputs, the events on the way and the files that it leaves.
-/

namespace RouteWeaver.CommandLine

inductive Status where
  | success
  /-- A dependency is unresolved. -/
  | failure
  /-- The run could not be carried out. -/
  | trouble
deriving DecidableEq, Repr, Inhabited

def Status.code : Status → UInt8
  | success => 0
  | failure => 1
  | trouble => 2

structure Outcome where
  status : Status
  output : String := ""
  /-- Lines for the standard error, without the log. -/
  messages : List String := []
  events : List Log.Event := []
  files : FileSystem
deriving Inhabited

namespace Outcome

def broken (files : FileSystem) (events : List Log.Event) (what : String) : Outcome where
  status := .trouble
  messages := ["error: " ++ what]
  events
  files

end Outcome

def definitions (files : FileSystem) (path : String) :
    List Log.Event × Except LoadError Schema.ModelFields :=
  match Source.load files path with
  | .error e => ([], .error e)
  | .ok source =>
    match source.fields with
    | .error e => ([.loading path], .error e)
    | .ok fields => (.loading path :: fields.events, .ok fields)

def loadFailure (path : String) (e : LoadError) : String :=
  "failed to load model " ++ path ++ ": " ++ e.chain

def writeFailure (path : String) (e : FileError) : String :=
  "failed to write " ++ path ++ ": " ++ e.message ++ ": " ++ e.fault.message

def report (g : Generated) : List String :=
  g.unresolved.map fun u => "unresolved: " ++ u.message

def Generate.adjusted (o : Generate) (m : Model) : Model :=
  match o.runtimeCrate with
  | some r => { m with config := { m.config with runtimeCrate := r } }
  | none => m

namespace Generate

/-- Generates the program of a model. Nothing is written unless the model can be read and, where
this is asked for, all of its dependencies are resolved. -/
def run (o : Generate) (files : FileSystem) : Outcome :=
  match definitions files o.model with
  | (events, .error e) => .broken files events (loadFailure o.model e)
  | (loading, .ok fields) =>
    let m := o.adjusted fields.model
    let g := m.generate
    let events := loading ++ m.events
    if o.denyUnresolved && !g.isComplete then
      { status := .failure, messages := report g, events, files }
    else
      match o.output with
      | none => { status := .success, output := g.source, events, files }
      | some path =>
        match files.deliver path g.source.toUTF8 with
        | (files, some e) => .broken files events (writeFailure path e)
        | (files, none) => {
          status := .success
          messages := ["wrote " ++ toString g.routeCount ++ " route(s) to " ++ path]
          events := events ++ [.wrote path g.source.utf8ByteSize]
          files }

end Generate

def summary (m : Model) (g : Generated) : String :=
  toString g.routeCount ++ " route(s), " ++ toString m.behaviors.length ++ " behavior(s), " ++
    toString m.services.length ++ " service(s), " ++ toString g.unresolved.length ++ " unresolved"

def check (path : String) (files : FileSystem) : Outcome :=
  match definitions files path with
  | (events, .error e) => .broken files events (loadFailure path e)
  | (loading, .ok fields) =>
    let m := fields.model
    let g := m.generate
    { status := if g.isComplete then .success else .failure
      output := String.join ((report g ++ [summary m g]).map (· ++ "\n"))
      events := loading ++ m.events
      files }

def Command.run (files : FileSystem) : Command → Outcome
  | generate options => options.run files
  | check path => CommandLine.check path files

/-- The level down to which events are shown when the environment names no filter. -/
def shownLevel : Nat → Log.Level
  | 0 => .warn
  | 1 => .info
  | 2 => .debug
  | _ => .trace

/-- The filter that the environment names, unless it is malformed, or that of the verbosity. -/
def filter (environment : Option String) (verbosity : Nat) : Log.Filter :=
  (environment.bind Log.Filter.parse?).getD (.ofLevel (shownLevel verbosity))

def usage : String :=
  "usage: switchyard-gen [-v]... (generate MODEL [-o PATH] [--runtime-crate PATH] " ++
    "[--deny-unresolved] | check MODEL)"

def Request.outcome (environment : Option String) (files : FileSystem) : Request → Outcome
  | run verbosity command =>
    let outcome := command.run files
    { outcome with events := outcome.events.filter (filter environment verbosity).shows }
  | version => {
    status := .success
    output := "switchyard-gen " ++ RouteWeaver.version ++ "\n"
    files }
  | help => { status := .success, output := usage ++ "\n", files }
  | wrong => { status := .trouble, messages := [usage], files }

def run (environment : Option String) (arguments : List String) (files : FileSystem) : Outcome :=
  (Request.ofArguments arguments).outcome environment files

end RouteWeaver.CommandLine
