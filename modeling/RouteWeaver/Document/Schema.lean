import RouteWeaver.Document.Reader
import RouteWeaver.Model

/-!
The schema of model documents. The model, its behaviors, services and routes refuse fields that
they do not know; the settings and the segments pass over them.
-/

namespace RouteWeaver.Schema

open Reader

def configShape : Shape Config where
  title := "struct GeneratorConfig"
  fields := ["runtime_crate", "module_doc", "inner_attributes", "intrinsic_types",
    "terminal_accessor", "configuration_marker", "configuration_accessor", "logger_marker",
    "logger_placeholder", "namespace_marker"]
  required := []
  strict := false
  start := {}
  put name outer place d c :=
    match name with
    | "runtime_crate" => (fun v => { c with runtimeCrate := v }) <$> text place d
    | "module_doc" => (fun v => { c with moduleDoc := v }) <$> optional text outer place d
    | "inner_attributes" => (fun v => { c with innerAttributes := v }) <$> flag place d
    | "intrinsic_types" => (fun v => { c with intrinsicTypes := v }) <$> list text place d
    | "terminal_accessor" => (fun v => { c with terminalAccessor := v }) <$> text place d
    | "configuration_marker" => (fun v => { c with configurationMarker := v }) <$> text place d
    | "configuration_accessor" => (fun v => { c with configurationAccessor := v }) <$> text place d
    | "logger_marker" => (fun v => { c with loggerMarker := v }) <$> text place d
    | "logger_placeholder" => (fun v => { c with loggerPlaceholder := v }) <$> text place d
    | "namespace_marker" => (fun v => { c with namespaceMarker := v }) <$> text place d
    | _ => .ok c

structure BehaviorFields where
  type : String := ""
  name : Option String := none
  state : Option String := none
  dependencies : List String := []
deriving DecidableEq, Repr, Inhabited

/-- A blank state type is no state type. -/
def BehaviorFields.behavior (f : BehaviorFields) : Behavior :=
  let b := Behavior.ofType f.type
  { b with
    name := f.name.getD b.name
    state :=
      match f.state.filter fun s => Text.trimmed s ≠ "" with
      | some s => .custom s
      | none => .generated
    dependencies := f.dependencies }

def behaviorShape : Shape BehaviorFields where
  title := "struct RawBehavior"
  fields := ["type", "name", "state", "dependencies"]
  required := ["type"]
  strict := true
  start := {}
  put name outer place d b :=
    match name with
    | "type" => (fun v => { b with type := v }) <$> text place d
    | "name" => (fun v => { b with name := v }) <$> optional text outer place d
    | "state" => (fun v => { b with state := v }) <$> optional text outer place d
    | "dependencies" => (fun v => { b with dependencies := v }) <$> list text place d
    | _ => .ok b

structure ServiceFields where
  type : String := ""
  implementation : Option String := none
deriving DecidableEq, Repr, Inhabited

/-- A service without an implementation is its own. -/
def ServiceFields.service (f : ServiceFields) : Service :=
  Service.ofTypes f.type (f.implementation.getD f.type)

def serviceShape : Shape ServiceFields where
  title := "struct RawService"
  fields := ["type", "implementation"]
  required := ["type"]
  strict := true
  start := {}
  put name outer place d s :=
    match name with
    | "type" => (fun v => { s with type := v }) <$> text place d
    | "implementation" => (fun v => { s with implementation := v }) <$> optional text outer place d
    | _ => .ok s

inductive SegmentKind where
  | literal
  | parameter
  | option
deriving DecidableEq, Repr, Inhabited

namespace SegmentKind

def name : SegmentKind → String
  | literal => "literal"
  | parameter => "parameter"
  | option => "option"

def all : List SegmentKind := [literal, parameter, option]

def ofName? (s : String) : Option SegmentKind :=
  all.find? fun k => k.name = s

def read (place : Place) (d : Datum) : Except Problem SegmentKind := do
  let s ← textAs "variant identifier" place d
  match ofName? s with
  | some k => return k
  | none => mismatch place (.unknownVariant s (all.map name))

end SegmentKind

def segmentShape : SegmentKind → Shape Segment
  | .literal => {
    title := "struct variant RouteSegment::Literal"
    fields := ["value"]
    required := ["value"]
    strict := false
    start := .literal ""
    put := fun name _ place d s =>
      match name, s with
      | "value", .literal _ => Segment.literal <$> text place d
      | _, s => .ok s }
  | .parameter => {
    title := "struct variant RouteSegment::Parameter"
    fields := ["name", "optional"]
    required := ["name"]
    strict := false
    start := .parameter "" false
    put := fun name _ place d s =>
      match name, s with
      | "name", .parameter _ o => (Segment.parameter · o) <$> text place d
      | "optional", .parameter n _ => Segment.parameter n <$> flag place d
      | _, s => .ok s }
  | .option => {
    title := "struct variant RouteSegment::OptionFlag"
    fields := ["long", "short", "value"]
    required := ["long"]
    strict := false
    start := .option "" none none
    put := fun name outer place d s =>
      match name, s with
      | "long", .option _ c v => (Segment.option · c v) <$> text place d
      | "short", .option l _ v =>
        (Segment.option l · v) <$> optional character outer place d
      | "value", .option l c _ => Segment.option l c <$> optional text outer place d
      | _, s => .ok s }

/-- A key that is the text `kind`, whatever else a scalar might read as. -/
def isKindKey (key : Datum) : Bool :=
  match key with
  | .scalar r => r.kind = .text "kind"
  | _ => false

def kindAmong (place : Place) (closed : Bool) :
    Option SegmentKind → List (Datum × Datum) →
      Except Problem (Option SegmentKind × List (Datum × Datum))
  | kind, [] => if closed then .ok (kind, []) else .error .malformed
  | kind, (key, value) :: rest =>
    if isKindKey key then
      if kind.isSome then mismatch place (.duplicateField "kind")
      else do
        let k ← SegmentKind.read (valuePlace place key) value
        kindAmong place closed (some k) rest
    else do
      keep place key
      keep (valuePlace place key) value
      let (k, others) ← kindAmong place closed kind rest
      return (k, (key, value) :: others)

/-- The fields of a segment that was kept are read once its kind is known. -/
def segmentOf (outer : Place) (kind : SegmentKind) (kept : Datum) : Except Problem Segment :=
  ((segmentShape kind).read ⟨true, .fields⟩ .root kept.settled).mapError (·.relocated outer)

/-- Reads a segment; its kind may stand anywhere among its fields. -/
def segment (outer place : Place) (d : Datum) : Except Problem Segment :=
  match d with
  | .tagged _ => mismatch place (.invalidType .enum "internally tagged enum RouteSegment")
  | .mapping entries closed => do
    match ← kindAmong place closed none entries with
    | (some kind, others) => segmentOf outer kind (.mapping others true)
    | (none, _) => mismatch place (.missingField "kind")
  | .sequence [] closed =>
    if closed then mismatch place (.missingField "kind") else .error .malformed
  | .sequence (first :: rest) closed => do
    let kind ← SegmentKind.read (.item place 0) first
    keepItems place closed 1 rest
    segmentOf outer kind (.sequence rest true)
  | _ => refuse place d "internally tagged enum RouteSegment"

def routeShape : Shape Route where
  title := "struct RouteDefinition"
  fields := ["pattern", "segments", "handler", "behaviors"]
  required := ["pattern"]
  strict := true
  start := { pattern := "" }
  put name outer place d r :=
    match name with
    | "pattern" => (fun v => { r with pattern := v }) <$> text place d
    | "segments" => (fun v => { r with segments := v }) <$> list (segment place) place d
    | "handler" => (fun v => { r with handler := v }) <$> optional text outer place d
    | "behaviors" => (fun v => { r with behaviors := v }) <$> optional (list text) outer place d
    | _ => .ok r

structure ModelFields where
  config : Config := {}
  behaviors : List Behavior := []
  services : List Service := []
  routes : List Route := []
deriving DecidableEq, Repr, Inhabited

def ModelFields.model (f : ModelFields) : Model :=
  Model.ofDefinitions f.config f.behaviors f.services f.routes

def behavior (form : Form) (place : Place) (d : Datum) : Except Problem Behavior :=
  BehaviorFields.behavior <$> behaviorShape.read form place d

def service (form : Form) (place : Place) (d : Datum) : Except Problem Service :=
  ServiceFields.service <$> serviceShape.read form place d

def modelShape (form : Form) : Shape ModelFields where
  title := "struct RawModel"
  fields := ["config", "behaviors", "services", "routes"]
  required := []
  strict := true
  start := {}
  put name _ place d m :=
    match name with
    | "config" => (fun v => { m with config := v }) <$> configShape.read form place d
    | "behaviors" => (fun v => { m with behaviors := v }) <$> list (behavior form) place d
    | "services" => (fun v => { m with services := v }) <$> list (service form) place d
    | "routes" => (fun v => { m with routes := v }) <$> list (routeShape.read form) place d
    | _ => .ok m

def document {α : Type} (read : Place → Datum → Except Problem α) (d : Document) :
    Except Problem α := do
  let a ← read .root d.root
  if d.finished then return a else throw .malformed

def modelFields (form : Form) (d : Document) : Except Problem ModelFields :=
  document ((modelShape form).read form) d

def config (form : Form) (d : Document) : Except Problem Config :=
  document (configShape.read form) d

end RouteWeaver.Schema
