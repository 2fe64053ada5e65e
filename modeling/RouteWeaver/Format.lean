import RouteWeaver.Document.Schema
import RouteWeaver.Json.Parse
import RouteWeaver.Yaml.Parse

namespace RouteWeaver

inductive Format where
  | yaml
  | json
deriving DecidableEq, Repr, Inhabited

namespace Format

def name : Format → String
  | yaml => "YAML"
  | json => "JSON"

def parse : Format → String → Document
  | yaml => Yaml.parse
  | json => Json.parse

def form : Format → Form
  | yaml => Yaml.form
  | json => Json.form

def wording : Format → Wording
  | yaml => ⟨"unit value", Floating.plain⟩
  | json => ⟨"null", Floating.compact⟩

def namesPlaces : Format → Bool
  | yaml => true
  | json => false

/-- The text of a problem. What makes a text malformed is not told. -/
def message (f : Format) : Problem → Option String
  | .malformed => none
  | .mismatch place cause =>
    let lead := if f.namesPlaces && place.path ≠ "" then place.path ++ ": " else ""
    some (lead ++ cause.message f.wording)

def config (f : Format) (text : String) : Except Problem Config :=
  Schema.config f.form (f.parse text)

end Format
end RouteWeaver
