import RouteWeaver.Config

namespace RouteWeaver

inductive RuleKind where
  | missing
  | intrinsic
  | configuration
  | logger
  | service
  | unresolved
deriving DecidableEq, Repr, Inhabited

namespace RuleKind

def label : RuleKind → String
  | missing => "missing"
  | intrinsic => "intrinsic"
  | configuration => "configuration"
  | logger => "logger"
  | service => "service"
  | unresolved => "unresolved"

end RuleKind

inductive Matcher where
  | missing
  | oneOf (names : List String)
  | contains (text : String)
  | registeredService
  | any
deriving DecidableEq, Repr, Inhabited

inductive Strategy where
  | defaultValue
  | accessor (expression : String)
  /-- A logger over the type argument of the request, or over the placeholder. -/
  | nullLogger (path placeholder : String)
  | serviceAccessor
  /-- The default value, followed by a comment that names the request. -/
  | failureMarker
deriving DecidableEq, Repr, Inhabited

structure Rule where
  kind : RuleKind
  matcher : Matcher
  strategy : Strategy
deriving DecidableEq, Repr, Inhabited

namespace Rule

/-- The standard table, in order of priority. -/
def standard (c : Config) : List Rule := [
  ⟨.missing, .missing, .defaultValue⟩,
  ⟨.intrinsic, .oneOf c.intrinsicTypes, .accessor c.terminalAccessor⟩,
  ⟨.configuration, .contains c.configurationMarker, .accessor c.configurationAccessor⟩,
  ⟨.logger, .contains c.loggerMarker, .nullLogger (c.runtimePath "NullLogger") c.loggerPlaceholder⟩,
  ⟨.service, .registeredService, .serviceAccessor⟩,
  ⟨.unresolved, .any, .failureMarker⟩]

end Rule
end RouteWeaver
