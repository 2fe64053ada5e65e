import RouteWeaver.Dependency.Rule
import RouteWeaver.Model.Service
import RouteWeaver.Text.Characters

/-!
Resolution of a constructor dependency by a table of rules: from the requested type to the
expression that yields it. The first rule that takes the request decides. Resolution never fails;
a request that nobody can serve gets the default value and a comment.
-/

namespace RouteWeaver

structure Resolution where
  expression : String
  rule : RuleKind
deriving DecidableEq, Repr, Inhabited

def Resolution.isUnresolved (r : Resolution) : Bool :=
  r.rule = .unresolved

/-- A type name as it is compared: whether it starts with `dyn`, and what follows, without one
leading namespace marker. -/
structure ComparedName where
  isDyn : Bool
  path : List Char
deriving DecidableEq, Repr

namespace ComparedName

def withoutMarker (marker path : List Char) : List Char :=
  match marker with
  | [] => path
  | _ :: _ => (Text.after? marker path).getD path

def ofType (marker : String) (type : String) : ComparedName :=
  match Text.after? "dyn ".toList type.toList with
  | some rest => ⟨true, withoutMarker marker.toList (Text.trimStart rest)⟩
  | none => ⟨false, withoutMarker marker.toList type.toList⟩

end ComparedName

namespace Service

def accessor (s : Service) : String :=
  "services::" ++ s.storage ++ "()"

end Service

structure RuleTable where
  rules : List Rule
  services : List Service
  namespaceMarker : String
deriving Repr, Inhabited

namespace RuleTable

def standard (c : Config) (services : List Service) : RuleTable :=
  ⟨Rule.standard c, services, c.namespaceMarker⟩

def compared (t : RuleTable) (type : String) : ComparedName :=
  ComparedName.ofType t.namespaceMarker type

/-- The first service of exactly the requested type, else the first one whose type compares
equal to it. -/
def findService (t : RuleTable) (requested : String) : Option Service :=
  if requested = "" then none
  else
    t.services.find? (fun s => Text.trimmed s.type = requested) <|>
      t.services.find? fun s => t.compared (Text.trimmed s.type) = t.compared requested

def isOneOf (t : RuleTable) (names : List String) (requested : String) : Bool :=
  names.any fun n => n = requested || t.compared (Text.trimmed n) = t.compared requested

def takes (t : RuleTable) (m : Matcher) (requested : String) : Bool :=
  match m with
  | .missing => requested = ""
  | .oneOf names => t.isOneOf names requested
  | .contains text => text ≠ "" && Text.occurs text.toList requested.toList
  | .registeredService => (t.findService requested).isSome
  | .any => true

end RuleTable

def defaultExpression : String :=
  "::core::default::Default::default()"

/-- The type argument of a request: what stands between the first `<` and the last `>`. -/
def genericArgument (requested : String) : Option String :=
  match Text.cutFirst '<' requested.toList with
  | none => none
  | some (_, rest) =>
    match Text.cutFirst '>' rest.reverse with
    | none => none
    | some (_, argument) =>
      some (String.ofList (Text.trim argument.reverse)) |>.filter (· ≠ "")

/-- Ends of comments are broken up, so that the text cannot close the one it stands in. -/
def withoutCommentEnds : List Char → List Char
  | '*' :: '/' :: rest => '*' :: ' ' :: '/' :: withoutCommentEnds rest
  | c :: rest => c :: withoutCommentEnds rest
  | [] => []

def unresolvedExpression (requested : String) : String :=
  let shown :=
    if requested = "" then "<none>" else String.ofList (withoutCommentEnds requested.toList)
  defaultExpression ++ " /* unresolved dependency: `" ++ shown ++ "` is not a registered service */"

namespace Strategy

def expression (s : Strategy) (requested : String) (service : Option Service) : String :=
  match s with
  | .defaultValue => defaultExpression
  | .accessor e => e
  | .nullLogger path placeholder =>
    path ++ "::<" ++ (genericArgument requested).getD placeholder ++ ">::new()"
  | .serviceAccessor => (service.map Service.accessor).getD (unresolvedExpression requested)
  | .failureMarker => unresolvedExpression requested

end Strategy

namespace RuleTable

def matched (t : RuleTable) (m : Matcher) (requested : String) : Option Service :=
  match m with
  | .registeredService => t.findService requested
  | _ => none

def resolveTrimmed (t : RuleTable) (requested : String) : Resolution :=
  match t.rules.find? fun rule => t.takes rule.matcher requested with
  | some rule =>
    ⟨rule.strategy.expression requested (t.matched rule.matcher requested), rule.kind⟩
  | none => ⟨unresolvedExpression requested, .unresolved⟩

def resolve (t : RuleTable) (requested : String) : Resolution :=
  t.resolveTrimmed (Text.trimmed requested)

end RuleTable
end RouteWeaver
