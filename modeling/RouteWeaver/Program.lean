import RouteWeaver.Model
import RouteWeaver.Program.Weaving

/-!
The emitted program: holders for services and behaviors, a function for each route, the table of
patterns and the dispatch function. A program is a function of the model alone.
-/

namespace RouteWeaver

def version : String := "0.4.0"

structure RouteFunction where
  index : Nat
  doc : List String
  body : List Statement
deriving DecidableEq, Repr, Inhabited

namespace Route

def codeList (mark : String) (names : List String) : String :=
  ", ".intercalate (names.map fun n => "`" ++ mark ++ Text.escapeText n ++ "`")

def doc (r : Route) : List String :=
  let parameters := r.parameterNames
  let options := r.optionNames
  [" `" ++ Text.escapeText r.pattern ++ "`"] ++
    (if parameters.isEmpty && options.isEmpty then [] else [""]) ++
    (if parameters.isEmpty then [] else [" Parameters: " ++ codeList "" parameters]) ++
    (if options.isEmpty then [] else [" Options: " ++ codeList "--" options])

def action (r : Route) : Action :=
  match r.handler? with
  | some handler => .handle (Name.expressionPath handler)
  | none => .missingHandler (Text.escapeText r.pattern)

def function (m : Model) (r : Route) (index : Nat) : RouteFunction where
  index
  doc := r.doc
  body := r.weave index (m.behaviorsFor r) r.action ++ [.succeed]

end Route

namespace RouteFunction

def name (f : RouteFunction) : String :=
  "route_" ++ toString f.index

def layout (c : Config) (f : RouteFunction) : List Layout :=
  f.doc.map (fun line => .line ("///" ++ line)) ++
    [.block ("pub(crate) async fn " ++ f.name ++ "(args: &[::std::string::String]) -> " ++
        c.runtimePath "Result<()>" ++ " \x7b") "\x7d"
      (f.body.flatMap (·.layout c))]

end RouteFunction

structure Program where
  config : Config
  services : List Holder
  behaviors : List Holder
  aliases : List StateAlias
  patterns : List String
  routes : List RouteFunction
deriving Repr, Inhabited

namespace Model

def ruleTable (m : Model) : RuleTable :=
  RuleTable.standard m.config m.services

def program (m : Model) : Program where
  config := m.config
  services := Service.holders m.services
  behaviors := m.behaviors.map (·.holder m.ruleTable)
  aliases := Behavior.stateAliases m.config m.behaviors
  patterns := m.routes.map fun r => Text.escapeText r.pattern
  routes := m.routes.mapIdx fun index r => r.function m index

def unresolved (m : Model) : List Unresolved :=
  m.behaviors.flatMap (·.unresolved m.ruleTable)

end Model

namespace Program

/-- One documentation line; it has no blanks at its end. -/
def docLine (line : List Char) : String :=
  String.ofList (Text.trimEnd ("//! ".toList ++ line))

def moduleDoc (c : Config) : Option String :=
  let doc := Text.trim (c.moduleDoc.getD "").toList
  if doc.isEmpty then none else some ("\n".intercalate ((Text.lines doc).map docLine))

/-- What only a file of its own may start with. -/
def header (c : Config) : String :=
  if c.innerAttributes then
    ((moduleDoc c).map (· ++ "\n")).getD "" ++
      "#![allow(dead_code, unused_imports, unused_mut, unused_variables, clippy::all)]\n"
  else ""

def servicesText (p : Program) : String :=
  Layout.textAt 1 (Holder.layoutAll p.services)

def behaviorsText (p : Program) : String :=
  Layout.textAt 1 (Holder.layoutAll p.behaviors ++ p.aliases.flatMap StateAlias.layout)

def patternEntry (pattern : String) : String :=
  "    \"" ++ pattern ++ "\",\n"

def dispatchArm (f : RouteFunction) : String :=
  "        " ++ toString f.index ++ " => " ++ f.name ++ "(args).await,\n"

def text (p : Program) : String :=
  "// @generated by switchyard-gen " ++ version ++ ". Do not edit.\n" ++
  header p.config ++
  "\n/// Registered services, constructed on first access.\n" ++
  "pub(crate) mod services \x7b\n" ++ p.servicesText ++ "\x7d\n" ++
  "\n/// Registered behaviors, constructed on first access, and their state types.\n" ++
  "pub(crate) mod behaviors \x7b\n" ++
  "    use super::services;\n" ++
  (if p.behaviorsText = "" then "" else "\n" ++ p.behaviorsText) ++ "\x7d\n" ++
  "\n/// Route patterns, indexed like [`dispatch`].\n" ++
  "pub(crate) const ROUTES: &[&str] = &[\n" ++
  String.join (p.patterns.map patternEntry) ++ "];\n\n" ++
  String.join (p.routes.map fun f => Layout.textAt 0 (f.layout p.config) ++ "\n") ++
  "/// Runs the pipeline of the route at `index`.\n" ++
  "pub(crate) async fn dispatch(index: usize, args: &[::std::string::String]) -> " ++
    p.config.runtime ++ "::Result<()> \x7b\n" ++
  "    match index \x7b\n" ++
  String.join (p.routes.map dispatchArm) ++
  "        _ => ::core::result::Result::Err(" ++ p.config.runtime ++ "::unknown_route(index)),\n" ++
  "    \x7d\n\x7d\n"

end Program

structure Generated where
  source : String
  unresolved : List Unresolved
  routeCount : Nat
deriving DecidableEq, Repr, Inhabited

namespace Generated

def isComplete (g : Generated) : Bool :=
  g.unresolved.isEmpty

end Generated

namespace Model

def generate (m : Model) : Generated where
  source := m.program.text
  unresolved := m.unresolved
  routeCount := m.routes.length

end Model
end RouteWeaver
