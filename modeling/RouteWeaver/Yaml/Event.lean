import RouteWeaver.Yaml.Token

/-!
Events of the first document of a token list: its scalars and aliases, and the starts and ends of
its collections. Each step takes a token or stands in for a node that was left out.
-/

namespace RouteWeaver.Yaml

structure Properties where
  anchor : Option String := none
  tag : Option String := none
deriving DecidableEq, Repr, Inhabited

inductive Event where
  | scalar (properties : Properties) (style : Style) (text : String)
  | alias (name : String)
  | sequenceStart (properties : Properties)
  | sequenceEnd
  | mappingStart (properties : Properties)
  | mappingEnd
deriving DecidableEq, Repr, Inhabited

def Event.empty (properties : Properties) : Event :=
  .scalar properties .plain ""

/-- What a token list has to go on with. -/
inductive State where
  /-- A node, of a block or of a flow collection; the entries of a block sequence may stand at the
  indent of the mapping around. -/
  | node (block indentless : Bool)
  | blockItem
  | indentlessItem
  | blockKey
  | blockValue
  | flowItem (first : Bool)
  /-- The key, value and end of a mapping of one entry within a flow sequence. -/
  | pairKey
  | pairValue
  | pairEnd
  | flowKey (first : Bool)
  | flowValue
  | flowEmptyValue
deriving DecidableEq, Repr, Inhabited

abbrev Handles := List (String × String)

def standardHandles : Handles := [("!", "!"), ("!!", "tag:yaml.org,2002:")]

/-- The tag that a handle and a suffix make; an undefined handle makes none. -/
def resolveTag (handles : Handles) (handle suffix : String) : Option String :=
  if handle = "" then some suffix else (handles.lookup handle).map (· ++ suffix)

def properties (handles : Handles) : List Token → Option (Properties × List Token)
  | .anchor a :: .tag h s :: rest => (resolveTag handles h s).map (⟨some a, some ·⟩, rest)
  | .tag h s :: .anchor a :: rest => (resolveTag handles h s).map (⟨some a, some ·⟩, rest)
  | .anchor a :: rest => some (⟨some a, none⟩, rest)
  | .tag h s :: rest => (resolveTag handles h s).map (⟨none, some ·⟩, rest)
  | rest => some ({}, rest)

/-- The next event, what the rest goes on with, and the rest. -/
structure Taken where
  event : Event
  states : List State
  rest : List Token
deriving Repr, Inhabited

/-- A node; `outer` is what comes after it. Properties alone make an empty node, but only when a
token tells where they end. -/
def takeNode (handles : Handles) (block indentless : Bool) (outer : List State)
    (ts : List Token) : Option Taken := do
  match ts with
  | .alias name :: rest => return ⟨.alias name, outer, rest⟩
  | _ =>
    let (p, rest) ← properties handles ts
    match rest with
    | [] => none
    | .blockEntry :: _ =>
      if indentless then return ⟨.sequenceStart p, .indentlessItem :: outer, rest⟩
      else absent p rest
    | .scalar style text :: after => return ⟨.scalar p style text, outer, after⟩
    | .flowSequence :: after => return ⟨.sequenceStart p, .flowItem true :: outer, after⟩
    | .flowMapping :: after => return ⟨.mappingStart p, .flowKey true :: outer, after⟩
    | .blockSequence :: after =>
      if block then return ⟨.sequenceStart p, .blockItem :: outer, after⟩ else absent p rest
    | .blockMapping :: after =>
      if block then return ⟨.mappingStart p, .blockKey :: outer, after⟩ else absent p rest
    | _ => absent p rest
where
  absent (p : Properties) (rest : List Token) : Option Taken :=
    if p.anchor.isSome || p.tag.isSome then some ⟨.empty p, outer, rest⟩ else none

/-- A node unless one of some tokens follows, which leave it out. -/
def takeUnless (handles : Handles) (left : Token → Bool) (block indentless : Bool)
    (outer : List State) (ts : List Token) : Option Taken :=
  match ts with
  | [] => none
  | t :: _ =>
    if left t then some ⟨.empty {}, outer, ts⟩ else takeNode handles block indentless outer ts

def endsBlockItem : Token → Bool
  | .blockEntry | .blockEnd => true
  | _ => false

def endsIndentlessItem : Token → Bool
  | .blockEntry | .key | .value | .blockEnd => true
  | _ => false

def endsBlockNode : Token → Bool
  | .key | .value | .blockEnd => true
  | _ => false

def endsPairKey : Token → Bool
  | .value | .flowEntry | .flowSequenceEnd => true
  | _ => false

def endsPairValue : Token → Bool
  | .flowEntry | .flowSequenceEnd => true
  | _ => false

def endsFlowKey : Token → Bool
  | .value | .flowEntry | .flowMappingEnd => true
  | _ => false

def endsFlowValue : Token → Bool
  | .flowEntry | .flowMappingEnd => true
  | _ => false

/-- An item of a flow sequence, or its end; separators have been taken. -/
def takeFlowItem (handles : Handles) (outer : List State) : List Token → Option Taken
  | .flowSequenceEnd :: rest => some ⟨.sequenceEnd, outer, rest⟩
  | .key :: rest => some ⟨.mappingStart {}, .pairKey :: outer, rest⟩
  | ts => takeNode handles false false (.flowItem false :: outer) ts

/-- A key of a flow mapping, or its end; separators have been taken. -/
def takeFlowKey (handles : Handles) (outer : List State) : List Token → Option Taken
  | .flowMappingEnd :: rest => some ⟨.mappingEnd, outer, rest⟩
  | .key :: rest => takeUnless handles endsFlowKey false false (.flowValue :: outer) rest
  | ts => takeNode handles false false (.flowEmptyValue :: outer) ts

def take (handles : Handles) (state : State) (outer : List State) (ts : List Token) :
    Option Taken :=
  match state, ts with
  | .node block indentless, ts => takeNode handles block indentless outer ts
  | .blockItem, .blockEntry :: rest =>
    takeUnless handles endsBlockItem true false (.blockItem :: outer) rest
  | .blockItem, .blockEnd :: rest => some ⟨.sequenceEnd, outer, rest⟩
  | .indentlessItem, .blockEntry :: rest =>
    takeUnless handles endsIndentlessItem true false (.indentlessItem :: outer) rest
  | .indentlessItem, t :: rest => some ⟨.sequenceEnd, outer, t :: rest⟩
  | .blockKey, .key :: rest =>
    takeUnless handles endsBlockNode true true (.blockValue :: outer) rest
  | .blockKey, .blockEnd :: rest => some ⟨.mappingEnd, outer, rest⟩
  | .blockValue, .value :: rest =>
    takeUnless handles endsBlockNode true true (.blockKey :: outer) rest
  | .blockValue, t :: rest => some ⟨.empty {}, .blockKey :: outer, t :: rest⟩
  | .flowItem true, ts => takeFlowItem handles outer ts
  | .flowItem false, .flowEntry :: rest => takeFlowItem handles outer rest
  | .flowItem false, .flowSequenceEnd :: rest => some ⟨.sequenceEnd, outer, rest⟩
  | .pairKey, t :: rest =>
    if endsPairKey t then some ⟨.empty {}, .pairValue :: outer, rest⟩
    else takeNode handles false false (.pairValue :: outer) (t :: rest)
  | .pairValue, .value :: rest =>
    takeUnless handles endsPairValue false false (.pairEnd :: outer) rest
  | .pairValue, t :: rest => some ⟨.empty {}, .pairEnd :: outer, t :: rest⟩
  | .pairEnd, ts => some ⟨.mappingEnd, .flowItem false :: outer, ts⟩
  | .flowKey true, ts => takeFlowKey handles outer ts
  | .flowKey false, .flowEntry :: rest => takeFlowKey handles outer rest
  | .flowKey false, .flowMappingEnd :: rest => some ⟨.mappingEnd, outer, rest⟩
  | .flowValue, .value :: rest =>
    takeUnless handles endsFlowValue false false (.flowKey false :: outer) rest
  | .flowValue, t :: rest => some ⟨.empty {}, .flowKey false :: outer, t :: rest⟩
  | .flowEmptyValue, ts => some ⟨.empty {}, .flowKey false :: outer, ts⟩
  | _, _ => none

/-- Takes at most `fuel` events. The tokens after the node are left unless it goes wrong. -/
def eventsUpTo (handles : Handles) : Nat → List State → List Token →
    List Event × Option (List Token)
  | 0, _, _ => ([], none)
  | _ + 1, [], ts => ([], some ts)
  | fuel + 1, state :: outer, ts =>
    match take handles state outer ts with
    | none => ([], none)
    | some t =>
      let (es, rest) := eventsUpTo handles fuel t.states t.rest
      (t.event :: es, rest)

/-- Each token makes at most four events. -/
def nodeEvents (handles : Handles) (ts : List Token) : List Event × Option (List Token) :=
  eventsUpTo handles (4 * ts.length + 8) [.node true false] ts

/-- The directives in front of a document: one version at most, and each handle once. -/
def directives : Bool → Handles → List Token → Option (Handles × List Token)
  | seen, handles, .version major minor :: rest =>
    if seen || major ≠ 1 || minor ≠ 1 && minor ≠ 2 then none else directives true handles rest
  | seen, handles, .handle h lead :: rest =>
    if (handles.lookup h).isSome then none else directives seen ((h, lead) :: handles) rest
  | _, handles, ts => some (handles ++ standardHandles, ts)

def isFinished : List Token → Bool
  | [.streamEnd] => true
  | .documentEnd :: rest => isFinished rest
  | _ => false

/-- The events of the first document, and whether it is the only one and ends well. -/
structure Events where
  events : List Event
  finished : Bool
deriving Repr, Inhabited

/-- A document without content is one empty node. -/
def startsNothing : List Token → Bool
  | .version .. :: _ | .handle .. :: _ | .documentStart :: _ | .documentEnd :: _
  | .streamEnd :: _ => true
  | _ => false

def contentEvents (handles : Handles) (ts : List Token) : Events :=
  if startsNothing ts then ⟨[.empty {}], isFinished ts⟩
  else
    let (es, rest) := nodeEvents handles ts
    ⟨es, (rest.map isFinished).getD false⟩

def startsDirectives : List Token → Bool
  | .version .. :: _ | .handle .. :: _ | .documentStart :: _ => true
  | _ => false

def events (ts : List Token) : Events :=
  match ts with
  | [.streamEnd] => ⟨[.empty {}], true⟩
  | _ =>
    if startsDirectives ts then
      match directives false [] ts with
      | some (handles, .documentStart :: rest) => contentEvents handles rest
      | _ => ⟨[], false⟩
    else
      let (es, rest) := nodeEvents standardHandles ts
      ⟨es, (rest.map isFinished).getD false⟩

end RouteWeaver.Yaml
