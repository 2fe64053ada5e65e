import RouteWeaver.Document.Scalar

/-!
A document as far as its text is well formed. Where the text goes wrong, the tree has an
unreadable leaf or a collection that is not closed; walking the tree in order meets this place
exactly where reading the text would.
-/

namespace RouteWeaver

inductive Datum where
  | scalar (reading : Reading)
  | sequence (items : List Datum) (closed : Bool)
  | mapping (entries : List (Datum × Datum)) (closed : Bool)
  /-- A value with a tag of the document's own. -/
  | tagged (inner : Datum)
  /-- Nothing that can be read; some of it may be skipped where no value is wanted. -/
  | unreadable (skippable : Bool)
deriving Repr, Inhabited

/-- A document and whether its text ends where it should. -/
structure Document where
  root : Datum
  finished : Bool
deriving Repr, Inhabited

namespace Datum

def untagged : Datum → Datum
  | tagged inner => inner
  | d => d

mutual

/-- Well formed throughout, so that it may be skipped. -/
def whole : Datum → Bool
  | scalar _ => true
  | sequence items closed => closed && wholeItems items
  | mapping entries closed => closed && wholeEntries entries
  | tagged inner => inner.whole
  | unreadable skippable => skippable

def wholeItems : List Datum → Bool
  | [] => true
  | d :: rest => d.whole && wholeItems rest

def wholeEntries : List (Datum × Datum) → Bool
  | [] => true
  | (k, v) :: rest => k.whole && v.whole && wholeEntries rest

end

mutual

/-- Collections below a depth cannot be read, though they may be skipped. -/
def limited (room : Nat) : Datum → Datum
  | scalar r => scalar r
  | sequence items closed =>
    match room with
    | 0 => unreadable (whole (sequence items closed))
    | n + 1 => sequence (limitedItems n items) closed
  | mapping entries closed =>
    match room with
    | 0 => unreadable (whole (mapping entries closed))
    | n + 1 => mapping (limitedEntries n entries) closed
  | tagged inner => tagged (limited room inner)
  | unreadable skippable => unreadable skippable

def limitedItems (room : Nat) : List Datum → List Datum
  | [] => []
  | d :: rest => limited room d :: limitedItems room rest

def limitedEntries (room : Nat) : List (Datum × Datum) → List (Datum × Datum)
  | [] => []
  | (k, v) :: rest => (limited room k, limited room v) :: limitedEntries room rest

end

mutual

def settled : Datum → Datum
  | scalar r => scalar (.ofScalar r.kind)
  | sequence items closed => sequence (settledItems items) closed
  | mapping entries closed => mapping (settledEntries entries) closed
  | tagged inner => tagged (settled inner)
  | unreadable skippable => unreadable skippable

def settledItems : List Datum → List Datum
  | [] => []
  | d :: rest => settled d :: settledItems rest

def settledEntries : List (Datum × Datum) → List (Datum × Datum)
  | [] => []
  | (k, v) :: rest => (settled k, settled v) :: settledEntries rest

end

end Datum
end RouteWeaver
