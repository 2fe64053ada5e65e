import RouteWeaver.Document.Datum
import RouteWeaver.Document.Problem

/-!
Readers of documents. A reader walks a document in the order of its text and stops at the first
problem. A record is read from a mapping, or from a sequence of its fields where the format has
that form.
-/

namespace RouteWeaver

/-- How a sequence that is longer than the record it stands for is refused. -/
inductive Surplus where
  | malformed
  | counted (wanted : String)
  | fields
deriving DecidableEq, Repr, Inhabited

/-- What a format admits beyond its scalars. -/
structure Form where
  /-- Records may be written as sequences of their fields. -/
  recordSequences : Bool
  surplus : Surplus := .malformed
deriving DecidableEq, Repr, Inhabited

/-- A kind of record: its fields, and what each of them does to the record read so far. -/
structure Shape (α : Type) where
  title : String
  fields : List String
  required : List String
  /-- Other fields are refused, else they are skipped. -/
  strict : Bool
  start : α
  /-- Reads a field. The places are those of the record and of the value. -/
  put : String → Place → Place → Datum → α → Except Problem α

namespace Reader

def mismatch {α : Type} (place : Place) (cause : Cause) : Except Problem α :=
  .error (.mismatch place cause)

def refuse {α : Type} (place : Place) (d : Datum) (wanted : String) : Except Problem α :=
  match d.untagged with
  | .scalar r => mismatch place (.unexpected r.kind wanted)
  | .sequence .. => mismatch place (.invalidType .sequence wanted)
  | .mapping .. => mismatch place (.invalidType .map wanted)
  | .tagged _ | .unreadable _ => .error .malformed

def textAs (wanted : String) (place : Place) (d : Datum) : Except Problem String :=
  match d.untagged with
  | .scalar r =>
    match r.text? with
    | some t => .ok t
    | none => refuse place d wanted
  | _ => refuse place d wanted

def text (place : Place) (d : Datum) : Except Problem String :=
  textAs "a string" place d

def flag (place : Place) (d : Datum) : Except Problem Bool :=
  match d.untagged with
  | .scalar r =>
    match r.flag? with
    | some b => .ok b
    | none => refuse place d "a boolean"
  | _ => refuse place d "a boolean"

def character (place : Place) (d : Datum) : Except Problem Char := do
  let t ← textAs "a character" place d
  match t.toList with
  | [c] => return c
  | _ => mismatch place (.invalidValue (.scalar (.text t)) "a character")

/-- A value that may be left out. A wrong null is located at the record around it. -/
def optional {α : Type} (read : Place → Datum → Except Problem α) (outer place : Place)
    (d : Datum) : Except Problem (Option α) :=
  match d.untagged with
  | .scalar r =>
    match r.presence with
    | .absent => .ok none
    | .refused => mismatch outer (.unexpected r.kind "null")
    | .present => some <$> read place d
  | _ => some <$> read place d

def items {α : Type} (read : Place → Datum → Except Problem α) (place : Place) (closed : Bool) :
    Nat → List Datum → Except Problem (List α)
  | _, [] => if closed then .ok [] else .error .malformed
  | i, d :: rest => do
    let a ← read (.item place i) d
    let others ← items read place closed (i + 1) rest
    return a :: others

def list {α : Type} (read : Place → Datum → Except Problem α) (place : Place) (d : Datum) :
    Except Problem (List α) :=
  match d.untagged with
  | .sequence ds closed => items read place closed 0 ds
  | .scalar r => if r.isBlank then .ok [] else refuse place d "a sequence"
  | _ => refuse place d "a sequence"

def skip (d : Datum) : Except Problem Unit :=
  if d.whole then .ok () else .error .malformed

/-- The place of the value of a key. A key that an alias stands for does not name it. -/
def valuePlace (place : Place) (key : Datum) : Place :=
  match key.untagged with
  | .scalar { text? := some name, isAliased := false, .. } => .field place name
  | _ => .unnamed place

mutual

/-- A value that is kept for later has to be readable as a whole. -/
def keep (place : Place) : Datum → Except Problem Unit
  | .scalar r =>
    match r.kind with
    | .wide _ | .misfit .. => mismatch place (.unexpected r.kind "any value")
    | _ => .ok ()
  | .sequence ds closed => keepItems place closed 0 ds
  | .mapping entries closed => keepEntries place closed entries
  | .tagged _ => mismatch place .keptTag
  | .unreadable _ => .error .malformed

def keepItems (place : Place) (closed : Bool) (i : Nat) : List Datum → Except Problem Unit
  | [] => if closed then .ok () else .error .malformed
  | d :: rest => do
    keep (.item place i) d
    keepItems place closed (i + 1) rest

def keepEntries (place : Place) (closed : Bool) : List (Datum × Datum) → Except Problem Unit
  | [] => if closed then .ok () else .error .malformed
  | (k, v) :: rest => do
    keep place k
    keep (valuePlace place k) v
    keepEntries place closed rest

end

end Reader

namespace Shape

variable {α : Type}

/-- The field that a key names, or none for a key that no field has. A whole number names the
field at its position. -/
def field? (shape : Shape α) (place : Place) (key : Datum) :
    Except Problem (Option String × String) :=
  match key.untagged with
  | .scalar { kind := .integer n, text? := none, .. } =>
    if n < 0 then Reader.refuse place key "field identifier"
    else .ok (shape.fields[n.toNat]?, toString n)
  | _ => do
    let name ← Reader.textAs "field identifier" place key
    return (if name ∈ shape.fields then some name else none, name)

/-- Reads the entries of a mapping into a record; `seen` are the fields read before. -/
def entries (shape : Shape α) (place : Place) (closed : Bool) :
    List String → α → List (Datum × Datum) → Except Problem (List String × α)
  | seen, record, [] => if closed then .ok (seen, record) else .error .malformed
  | seen, record, (key, value) :: rest => do
    match ← shape.field? place key with
    | (some name, _) =>
      if name ∈ seen then Reader.mismatch place (.duplicateField name)
      else
        let record ← shape.put name place (Reader.valuePlace place key) value record
        shape.entries place closed (name :: seen) record rest
    | (none, name) =>
      if shape.strict then Reader.mismatch place (.unknownField name shape.fields)
      else
        Reader.skip value
        shape.entries place closed seen record rest

def elements (n : Nat) : String :=
  toString n ++ (if n = 1 then " element" else " elements")

def positions (shape : Shape α) (form : Form) (place : Place) (closed : Bool) (total i : Nat) :
    α → List String → List Datum → Except Problem α
  | record, [], [] => if closed then .ok record else .error .malformed
  | _, [], _ :: _ =>
    match form.surplus with
    | .malformed => .error .malformed
    | .counted wanted => Reader.mismatch place (.invalidLength total wanted)
    | .fields => Reader.mismatch place (.invalidLength total (elements i ++ " in sequence"))
  | record, name :: names, [] =>
    if !closed then .error .malformed
    else
      match (name :: names).findIdx? (· ∈ shape.required) with
      | some k =>
        Reader.mismatch place
          (.invalidLength (i + k) (shape.title ++ " with " ++ elements shape.fields.length))
      | none => .ok record
  | record, name :: names, d :: rest => do
    let record ← shape.put name place (.item place i) d record
    shape.positions form place closed total (i + 1) record names rest

def ofEntries (shape : Shape α) (place : Place) (closed : Bool) (es : List (Datum × Datum)) :
    Except Problem α := do
  let (seen, record) ← shape.entries place closed [] shape.start es
  match shape.required.find? (· ∉ seen) with
  | some name => Reader.mismatch place (.missingField name)
  | none => return record

def read (shape : Shape α) (form : Form) (place : Place) (d : Datum) : Except Problem α :=
  match d.untagged with
  | .mapping es closed => shape.ofEntries place closed es
  | .sequence ds closed =>
    if form.recordSequences then
      shape.positions form place closed ds.length 0 shape.start shape.fields ds
    else Reader.refuse place d shape.title
  | .scalar r =>
    if r.isBlank then shape.ofEntries place true [] else Reader.refuse place d shape.title
  | _ => Reader.refuse place d shape.title

end Shape
end RouteWeaver
