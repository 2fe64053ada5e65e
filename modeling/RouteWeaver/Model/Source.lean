import RouteWeaver.FileSystem
import RouteWeaver.Format

namespace RouteWeaver

inductive LoadError where
  | file (error : FileError)
  | unsupported (path : String)
  | invalid (format : Format) (problem : Problem)
deriving DecidableEq, Repr, Inhabited

namespace LoadError

def cause? : LoadError → Option String
  | file e => some e.fault.message
  | unsupported _ => none
  | invalid format problem => some ((format.message problem).getD "malformed text")

def message : LoadError → String
  | file e => e.message
  | unsupported path =>
    "unsupported model format `" ++ path ++ "` (expected .yaml, .yml or .json)"
  | invalid format problem =>
    "invalid " ++ format.name ++ " model: " ++ (format.message problem).getD "malformed text"

def chain (e : LoadError) : String :=
  e.message ++ ((e.cause?.map (": " ++ ·)).getD "")

end LoadError

def Format.ofExtension? (extension : String) : Option Format :=
  match String.ofList (extension.toList.map Char.toLower) with
  | "yaml" | "yml" => some .yaml
  | "json" => some .json
  | _ => none

structure Source where
  format : Format
  text : String
deriving DecidableEq, Repr, Inhabited

namespace Source

/-- Reads a model file. The format is settled before the file is touched. -/
def load (files : FileSystem) (path : String) : Except LoadError Source :=
  let p := Path.ofText path
  match p.extension?.bind Format.ofExtension? with
  | none => .error (.unsupported path)
  | some format =>
    match files.readText p with
    | .ok text => .ok ⟨format, text⟩
    | .error fault => .error (.file ⟨path, fault⟩)

def fields (s : Source) : Except LoadError Schema.ModelFields :=
  (Schema.modelFields s.format.form (s.format.parse s.text)).mapError (.invalid s.format)

def model (s : Source) : Except LoadError Model :=
  Schema.ModelFields.model <$> s.fields

end Source

def Model.load (files : FileSystem) (path : String) : Except LoadError Model := do
  (← Source.load files path).model

end RouteWeaver
