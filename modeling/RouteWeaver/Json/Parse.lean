import RouteWeaver.Document.Reader
import RouteWeaver.Json.Token

/-!
The document of a JSON text. Collections that are open are kept on a stack; where the tokens go
wrong, all of them are given up as they stand.
-/

namespace RouteWeaver.Json

/-- A collection that is open, with its latest members first. -/
inductive Frame where
  | array (items : List Datum)
  | object (entries : List (Datum × Datum))
  /-- An object that waits for the value of a key. -/
  | member (entries : List (Datum × Datum)) (key : Datum)
deriving Repr, Inhabited

inductive Expected where
  | value
  /-- The first item of an array, or its end. -/
  | item
  /-- The first key of an object, or its end. -/
  | firstKey
  | key
  | colon
  /-- A comma, or the end of the collection. -/
  | separator
deriving DecidableEq, Repr, Inhabited

def Frame.given (closed : Bool) : Frame → Datum
  | array items => .sequence items.reverse closed
  | object entries => .mapping entries.reverse closed
  | member entries key => .mapping ((key, .unreadable false) :: entries).reverse false

def Frame.add (v : Datum) : Frame → Frame
  | array items => array (v :: items)
  | object entries => object entries
  | member entries key => object ((key, v) :: entries)

def giveUpAround (d : Datum) : List Frame → Datum
  | [] => d
  | frame :: outer => giveUpAround ((frame.add d).given false) outer

def giveUp : List Frame → Datum
  | [] => .unreadable false
  | frame :: outer => giveUpAround (frame.given false) outer

def stringDatum (value : Option String) : Datum :=
  match value with
  | some s => .scalar (.ofScalar (.text s))
  | none => .unreadable true

def scalarDatum? : Token → Option Datum
  | .null => some (.scalar (.ofScalar .null))
  | .boolean b => some (.scalar (.ofScalar (.boolean b)))
  | .number n => some (match n.scalar with
    | some s => .scalar (.ofScalar s)
    | none => .unreadable true)
  | .string value => some (stringDatum value)
  | _ => none

inductive Progress where
  | building (stack : List Frame) (expected : Expected)
  | built (root : Datum)
deriving Repr, Inhabited

def complete (v : Datum) : List Frame → Progress
  | [] => .built v
  | frame :: outer => .building (frame.add v :: outer) .separator

def start (stack : List Frame) : Token → Option Progress
  | .openArray => some (.building (.array [] :: stack) .item)
  | .openObject => some (.building (.object [] :: stack) .firstKey)
  | t => (scalarDatum? t).map (complete · stack)

/-- Takes one token; none when it must not stand here. -/
def step (stack : List Frame) (expected : Expected) (t : Token) : Option Progress :=
  match expected, stack with
  | .value, _ => start stack t
  | .item, .array items :: outer =>
    if t = .closeArray then some (complete ((Frame.array items).given true) outer)
    else start stack t
  | .firstKey, .object entries :: outer =>
    match t with
    | .closeObject => some (complete ((Frame.object entries).given true) outer)
    | .string s => some (.building (.member entries (stringDatum s) :: outer) .colon)
    | _ => none
  | .key, .object entries :: outer =>
    match t with
    | .string s => some (.building (.member entries (stringDatum s) :: outer) .colon)
    | _ => none
  | .colon, _ => if t = .colon then some (.building stack .value) else none
  | .separator, .array items :: outer =>
    match t with
    | .comma => some (.building stack .value)
    | .closeArray => some (complete ((Frame.array items).given true) outer)
    | _ => none
  | .separator, .object entries :: outer =>
    match t with
    | .comma => some (.building stack .key)
    | .closeObject => some (complete ((Frame.object entries).given true) outer)
    | _ => none
  | _, _ => none

def build : Progress → List Token → Document
  | .built root, rest => ⟨root, rest.isEmpty⟩
  | .building stack _, [] => ⟨giveUp stack, false⟩
  | .building stack expected, t :: rest =>
    match step stack expected t with
    | some progress => build progress rest
    | none => ⟨giveUp stack, false⟩

def depthLimit : Nat := 127

def form : Form where
  recordSequences := true

def parse (text : String) : Document :=
  let d := build (.building [] .value) (tokens text.toList)
  { d with root := d.root.limited depthLimit }

end RouteWeaver.Json
