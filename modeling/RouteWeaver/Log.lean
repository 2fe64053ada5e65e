import RouteWeaver.Text.Quoted

namespace RouteWeaver.Log

inductive Level where
  | error
  | warn
  | info
  | debug
  | trace
deriving DecidableEq, Repr, Inhabited

namespace Level

def rank : Level → Nat
  | error => 1
  | warn => 2
  | info => 3
  | debug => 4
  | trace => 5

def label : Level → String
  | error => "ERROR"
  | warn => "WARN"
  | info => "INFO"
  | debug => "DEBUG"
  | trace => "TRACE"

def all : List Level := [error, warn, info, debug, trace]

end Level

inductive Event where
  | loading (path : String)
  | repeated (behavior : String)
  | disambiguated (type identifier : String)
  | rule (kind : String)
  | sharing (type implementation : String)
  | unresolved (behavior requested : String) (position : Nat)
  | planned (behaviors missing : Nat)
  | unknownBehavior (route behavior : String)
  | composing (route : String) (index behaviors : Nat)
  | generated (routes behaviors services missing : Nat)
  | wrote (path : String) (bytes : Nat)
deriving DecidableEq, Repr, Inhabited

namespace Event

def level : Event → Level
  | repeated .. | unresolved .. | unknownBehavior .. => .warn
  | generated .. => .info
  | loading .. | disambiguated .. | sharing .. | planned .. | composing .. | wrote .. => .debug
  | rule .. => .trace

/-- The part of the generator that tells of the event, as filters name it. -/
def target : Event → String
  | loading .. | repeated .. | disambiguated .. | unknownBehavior .. => "switchyard_codegen::model"
  | sharing .. | unresolved .. | planned .. => "switchyard_codegen::singleton"
  | composing .. => "switchyard_codegen::pipeline"
  | rule .. | generated .. | wrote .. => "switchyard_codegen::program"

def message : Event → String
  | loading .. => "loading model"
  | repeated .. => "duplicate behavior ignored"
  | disambiguated .. => "disambiguated identifier"
  | rule .. => "resolution rule"
  | sharing .. => "sharing service holder"
  | unresolved .. => "unresolved behavior dependency"
  | planned .. => "planned behavior singletons"
  | unknownBehavior .. => "route references an unknown behavior"
  | composing .. => "composing pipeline"
  | generated .. => "generated dispatch program"
  | wrote .. => "wrote program"

def quotedField (name value : String) : String :=
  name ++ "=" ++ Text.quoted value

def bareField (name value : String) : String :=
  name ++ "=" ++ value

def countField (name : String) (value : Nat) : String :=
  bareField name (toString value)

def fields : Event → List String
  | loading path => [bareField "path" path]
  | repeated behavior => [quotedField "behavior" behavior]
  | disambiguated type identifier =>
    [quotedField "type_name" type, bareField "identifier" identifier]
  | rule kind => [bareField "kind" kind]
  | sharing type implementation =>
    [quotedField "type_name" type, quotedField "implementation" implementation]
  | unresolved behavior requested position =>
    [quotedField "behavior" behavior, quotedField "requested" requested,
      countField "position" position]
  | planned behaviors missing =>
    [countField "behaviors" behaviors, countField "unresolved" missing]
  | unknownBehavior route behavior =>
    [quotedField "route" route, quotedField "behavior" behavior]
  | composing route index behaviors =>
    [quotedField "route" route, countField "route_index" index, countField "behaviors" behaviors]
  | generated routes behaviors services missing =>
    [countField "routes" routes, countField "behaviors" behaviors,
      countField "services" services, countField "unresolved" missing]
  | wrote path bytes => [bareField "path" path, countField "bytes" bytes]

def line (e : Event) : String :=
  " ".intercalate (e.level.label :: e.message :: e.fields)

end Event
end RouteWeaver.Log
