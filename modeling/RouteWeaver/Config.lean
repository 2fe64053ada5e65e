import RouteWeaver.Text.Search

namespace RouteWeaver

structure Config where
  runtimeCrate : String := "::switchyard_dispatch"
  moduleDoc : Option String := none
  /-- The emitted file starts with its documentation and a lint header. A file that is spliced
  into another one must have neither. -/
  innerAttributes : Bool := true
  intrinsicTypes : List String :=
    ["Terminal", "dyn Terminal", "switchyard_dispatch::Terminal",
      "dyn switchyard_dispatch::Terminal"]
  terminalAccessor : String := "crate::terminal()"
  /-- A dependency whose name holds this text is the configuration. -/
  configurationMarker : String := "Configuration"
  configurationAccessor : String := "crate::configuration()"
  loggerMarker : String := "Logger"
  loggerPlaceholder : String := "()"
  /-- Dropped once from the front of names before they are compared. -/
  namespaceMarker : String := "::"
deriving DecidableEq, Repr, Inhabited

namespace Config

/-- The runtime crate without path separators at its end. -/
def runtime (c : Config) : String :=
  String.ofList (Text.dropTrailingMarks c.runtimeCrate.toList)

def runtimePath (c : Config) (item : String) : String :=
  c.runtime ++ "::" ++ item

end Config
end RouteWeaver
