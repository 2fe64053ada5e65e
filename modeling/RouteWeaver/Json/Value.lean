import RouteWeaver.Document.Schema
import RouteWeaver.Json.Number

namespace RouteWeaver

namespace Json

inductive Value where
  | null
  | boolean (value : Bool)
  | number (value : Number)
  | string (value : String)
  | array (items : List Value)
  | object (members : List (String × Value))

namespace Value

def optional {α : Type} (write : α → Value) : Option α → Value
  | none => null
  | some a => write a

def list {α : Type} (write : α → Value) (items : List α) : Value :=
  array (items.map write)

def character (c : Char) : Value :=
  string (String.singleton c)

end Value
end Json

open Json

def Config.value (c : Config) : Value :=
  .object [("runtime_crate", .string c.runtimeCrate),
    ("module_doc", .optional .string c.moduleDoc),
    ("inner_attributes", .boolean c.innerAttributes),
    ("intrinsic_types", .list .string c.intrinsicTypes),
    ("terminal_accessor", .string c.terminalAccessor),
    ("configuration_marker", .string c.configurationMarker),
    ("configuration_accessor", .string c.configurationAccessor),
    ("logger_marker", .string c.loggerMarker),
    ("logger_placeholder", .string c.loggerPlaceholder),
    ("namespace_marker", .string c.namespaceMarker)]

namespace Segment

def kind : Segment → Schema.SegmentKind
  | literal _ => .literal
  | parameter .. => .parameter
  | option .. => .option

def fields : Segment → List (String × Value)
  | literal value => [("value", .string value)]
  | parameter name isOptional => [("name", .string name), ("optional", .boolean isOptional)]
  | option long short value =>
    [("long", .string long), ("short", .optional .character short),
      ("value", .optional .string value)]

def value (s : Segment) : Value :=
  .object (("kind", .string s.kind.name) :: s.fields)

end Segment

def Route.value (r : Route) : Value :=
  .object [("pattern", .string r.pattern), ("segments", .list Segment.value r.segments),
    ("handler", .optional .string r.handler),
    ("behaviors", .optional (.list .string) r.behaviors)]

end RouteWeaver
