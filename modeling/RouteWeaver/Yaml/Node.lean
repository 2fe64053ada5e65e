import RouteWeaver.Yaml.Event

/-!
The node tree of a document, as far as its events go. An anchor is known by a number: the count
of the names that were in use before it. Where several nodes have one number, the one that
starts last has it to itself, and an alias stands for that node wherever it is.
-/

namespace RouteWeaver.Yaml

structure Label where
  anchor : Option Nat := none
  tag : Option String := none
deriving DecidableEq, Repr, Inhabited

inductive Node where
  | scalar (label : Label) (style : Style) (text : String)
  | alias (anchor : Nat)
  | sequence (label : Label) (items : List Node) (closed : Bool)
  | mapping (label : Label) (entries : List (Node × Node)) (closed : Bool)
  | missing
deriving Repr, Inhabited

namespace Node

mutual

/-- Well formed throughout. An alias is, whatever it stands for. -/
def whole : Node → Bool
  | scalar .. => true
  | .alias _ => true
  | sequence _ items closed => closed && wholeItems items
  | mapping _ entries closed => closed && wholeEntries entries
  | missing => false

def wholeItems : List Node → Bool
  | [] => true
  | n :: rest => n.whole && wholeItems rest

def wholeEntries : List (Node × Node) → Bool
  | [] => true
  | (k, v) :: rest => k.whole && v.whole && wholeEntries rest

end

def anchored (label : Label) (n : Node) : List (Nat × Node) :=
  match label.anchor with
  | some a => [(a, n)]
  | none => []

mutual

/-- The nodes with anchors, in the order in which they start. -/
def anchors : Node → List (Nat × Node)
  | scalar label style text => anchored label (scalar label style text)
  | .alias _ => []
  | sequence label items closed => anchored label (sequence label items closed) ++ itemAnchors items
  | mapping label entries closed =>
    anchored label (mapping label entries closed) ++ entryAnchors entries
  | missing => []

def itemAnchors : List Node → List (Nat × Node)
  | [] => []
  | n :: rest => n.anchors ++ itemAnchors rest

def entryAnchors : List (Node × Node) → List (Nat × Node)
  | [] => []
  | (k, v) :: rest => k.anchors ++ v.anchors ++ entryAnchors rest

end

end Node

abbrev AnchorNames := List (String × Nat)

def Properties.label (names : AnchorNames) (p : Properties) : Label × AnchorNames :=
  match p.anchor with
  | none => (⟨none, p.tag⟩, names)
  | some a => (⟨some names.length, p.tag⟩, (a, names.length) :: names.filter (·.1 ≠ a))

inductive Frame where
  | sequence (label : Label) (items : List Node)
  | mapping (label : Label) (entries : List (Node × Node))
  /-- A mapping that waits for the value of a key. -/
  | entry (label : Label) (entries : List (Node × Node)) (key : Node)
deriving Repr, Inhabited

namespace Frame

def given (closed : Bool) : Frame → Node
  | sequence label items => .sequence label items.reverse closed
  | mapping label entries => .mapping label entries.reverse closed
  | entry label entries key => .mapping label ((key, .missing) :: entries).reverse false

def add (n : Node) : Frame → Frame
  | sequence label items => sequence label (n :: items)
  | mapping label entries => entry label entries n
  | entry label entries key => mapping label ((key, n) :: entries)

end Frame

def giveUpAround (n : Node) : List Frame → Node
  | [] => n
  | frame :: outer => giveUpAround ((frame.add n).given false) outer

def giveUp : List Frame → Node
  | [] => .missing
  | frame :: outer => giveUpAround (frame.given false) outer

inductive Progress where
  | building (names : AnchorNames) (stack : List Frame)
  | built (root : Node)
deriving Repr, Inhabited

def complete (names : AnchorNames) (n : Node) : List Frame → Progress
  | [] => .built n
  | frame :: outer => .building names (frame.add n :: outer)

/-- Takes one event; none when it must not stand here or is an alias for no anchor. -/
def step (names : AnchorNames) (stack : List Frame) : Event → Option Progress
  | .scalar p style text =>
    let (label, names) := p.label names
    some (complete names (.scalar label style text) stack)
  | .alias name => (names.lookup name).map fun a => complete names (.alias a) stack
  | .sequenceStart p =>
    let (label, names) := p.label names
    some (.building names (.sequence label [] :: stack))
  | .mappingStart p =>
    let (label, names) := p.label names
    some (.building names (.mapping label [] :: stack))
  | .sequenceEnd =>
    match stack with
    | .sequence label items :: outer =>
      some (complete names ((Frame.sequence label items).given true) outer)
    | _ => none
  | .mappingEnd =>
    match stack with
    | .mapping label entries :: outer =>
      some (complete names ((Frame.mapping label entries).given true) outer)
    | _ => none

/-- Builds the tree of the events that are left, and whether they are exactly enough. -/
def build : Progress → List Event → Node × Bool
  | .built root, rest => (root, rest.isEmpty)
  | .building _ stack, [] => (giveUp stack, false)
  | .building names stack, e :: rest =>
    match step names stack e with
    | some progress => build progress rest
    | none => (giveUp stack, false)

def node (es : List Event) : Node × Bool :=
  build (.building [] []) es

end RouteWeaver.Yaml
