import RouteWeaver.Dependency.RuleTable
import RouteWeaver.Layout
import RouteWeaver.Model.Behavior

namespace RouteWeaver

inductive Construction where
  | default
  | new (type : String) (arguments : List String)
deriving DecidableEq, Repr, Inhabited

structure Holder where
  doc : String
  accessor : String
  type : String
  construction : Construction
deriving DecidableEq, Repr, Inhabited

namespace Holder

def staticName (h : Holder) : String :=
  String.ofList (h.accessor.toList.map Char.toUpper)

def body (h : Holder) : List Layout :=
  match h.construction with
  | .default =>
    [.line (h.staticName ++ ".get_or_init(<" ++ h.type ++
      " as ::core::default::Default>::default)")]
  | .new type [] =>
    [.line (h.staticName ++ ".get_or_init(|| " ++ Name.expressionPath type ++ "::new())")]
  | .new type arguments =>
    [.block (h.staticName ++ ".get_or_init(|| \x7b") "\x7d)"
      [.block (Name.expressionPath type ++ "::new(") ")" (arguments.map fun a => .line (a ++ ","))]]

def layout (h : Holder) : List Layout := [
  .line ("/// " ++ h.doc),
  .line ("static " ++ h.staticName ++ ": ::std::sync::OnceLock<" ++ h.type ++
    "> = ::std::sync::OnceLock::new();"),
  .blank,
  .block ("pub(crate) fn " ++ h.accessor ++ "() -> &'static " ++ h.type ++ " \x7b") "\x7d" h.body]

def layoutAll : List Holder → List Layout
  | [] => []
  | [h] => h.layout
  | h :: rest => h.layout ++ .blank :: layoutAll rest

end Holder

structure Unresolved where
  behavior : String
  requested : String
  position : Nat
deriving DecidableEq, Repr, Inhabited

namespace Unresolved

def message (u : Unresolved) : String :=
  "behavior `" ++ u.behavior ++ "` argument " ++ toString u.position ++ ": `" ++ u.requested ++
    "` is not a registered service"

end Unresolved

namespace Behavior

def staticName (b : Behavior) : String :=
  String.ofList (b.identifier.toList.map Char.toUpper)

def accessorPath (b : Behavior) : String :=
  "behaviors::" ++ b.identifier ++ "()"

def arguments (b : Behavior) (t : RuleTable) : List Resolution :=
  b.dependencies.map t.resolve

def holder (b : Behavior) (t : RuleTable) : Holder where
  doc := "`" ++ b.name ++ "` behavior, constructed on first access."
  accessor := b.identifier
  type := Text.trimmed b.type
  construction := .new (Text.trimmed b.type) ((b.arguments t).map (·.expression))

def unresolved (b : Behavior) (t : RuleTable) : List Unresolved :=
  (b.dependencies.zipIdx.filter fun d => (t.resolve d.1).isUnresolved).map fun d =>
    ⟨b.name, d.1, d.2⟩

end Behavior

namespace Service

/-- Services that share a storage name, under the first of them. -/
structure Shared where
  first : Service
  others : List Service
deriving DecidableEq, Repr, Inhabited

namespace Shared

def types (g : Shared) : List String :=
  (g.first :: g.others).map fun s => Text.trimmed s.type

def holder (g : Shared) : Holder where
  doc := "Storage for " ++ ", ".intercalate (g.types.map fun t => "`" ++ t ++ "`") ++ "."
  accessor := g.first.storage
  type := Text.trimmed g.first.implementation
  construction := .default

/-- Puts a service with those of its storage name, or in a new group at the end. -/
def insert (s : Service) : List Shared → List Shared
  | [] => [⟨s, []⟩]
  | g :: rest =>
    if g.first.storage = s.storage then { g with others := g.others ++ [s] } :: rest
    else g :: insert s rest

end Shared

def shared (services : List Service) : List Shared :=
  services.foldl (fun groups s => Shared.insert s groups) []

def holders (services : List Service) : List Holder :=
  (shared services).map Shared.holder

end Service
end RouteWeaver
