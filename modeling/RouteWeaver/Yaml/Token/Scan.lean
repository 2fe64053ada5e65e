import RouteWeaver.Yaml.Token
import RouteWeaver.Yaml.Token.Block
import RouteWeaver.Yaml.Token.Flow

/-!
Tokens of a YAML text. Indentation opens and closes block collections. A word may turn out to be
a key only when a colon follows it; the slot of such a word is remembered, and what stands before
it is filled in later. Tokens from the first open slot on are not yet certain.
-/

namespace RouteWeaver.Yaml

/-- What was found out to stand before a token. -/
inductive Lead where
  | nothing
  | key
  /-- A block mapping whose first key it is. -/
  | mappingKey
deriving DecidableEq, Repr, Inhabited

structure Slot where
  lead : Lead := .nothing
  token : Token
deriving DecidableEq, Repr, Inhabited

/-- A token that a colon may turn into a key. -/
structure PossibleKey where
  slot : Nat
  /-- It must be a key, for the want of any other role. -/
  required : Bool
  start : Glyph
deriving DecidableEq, Repr, Inhabited

structure Scanner where
  rest : List Glyph
  slots : List Slot := []
  /-- The possible key of each flow level, innermost first; the last is that of the block. -/
  keys : List (Option PossibleKey) := [none]
  keyAllowed : Bool := true
  indent : Int := -1
  /-- The indents of the blocks around, innermost first. -/
  outerIndents : List Int := []
  finished : Bool := false
deriving Repr, Inhabited

namespace Scanner

def inFlow (s : Scanner) : Bool :=
  s.keys.length > 1

/-- The next glyph; there is one as long as the end has not been passed. -/
def here (s : Scanner) : Glyph :=
  s.rest.headD ⟨endChar, 0, 0, 0⟩

def emit (s : Scanner) (t : Token) : Scanner :=
  { s with slots := { token := t } :: s.slots }

def advance (s : Scanner) (n : Nat) : Scanner :=
  { s with rest := s.rest.drop n }

/-- A key has to end on the line where it starts, and within 1024 characters. -/
def isStale (here : Glyph) (k : PossibleKey) : Bool :=
  k.start.line < here.line || k.start.index + 1024 < here.index

/-- Forgets the keys that have become impossible; a required one is an error. -/
def dropStale (s : Scanner) : Option Scanner := do
  let keys ← s.keys.mapM fun
    | some k =>
      if isStale s.here k then if k.required then none else some none
      else some (some k)
    | none => some none
  return { s with keys }

def dropKey (s : Scanner) : Option Scanner :=
  match s.keys with
  | some k :: outer => if k.required then none else some { s with keys := none :: outer }
  | _ => some s

/-- The next token may turn out to be a key. -/
def saveKey (s : Scanner) : Option Scanner :=
  if s.keyAllowed then do
    let s ← s.dropKey
    let k : PossibleKey :=
      ⟨s.slots.length, !s.inFlow && s.indent = (s.here.column : Int), s.here⟩
    return { s with keys := some k :: s.keys.drop 1 }
  else some s

def openBlock (s : Scanner) (column : Nat) (t : Token) : Scanner :=
  if !s.inFlow && s.indent < column then
    { s with indent := column, outerIndents := s.indent :: s.outerIndents }.emit t
  else s

/-- Closes blocks of the given enclosing indents down to a column. -/
def closeBlocksFrom (s : Scanner) (column : Int) : List Int → Scanner
  | [] => s
  | outer :: others =>
    if s.indent > column then
      closeBlocksFrom ({ s with indent := outer, outerIndents := others }.emit .blockEnd)
        column others
    else s

def closeBlocks (s : Scanner) (column : Int) : Scanner :=
  if s.inFlow then s else closeBlocksFrom s column s.outerIndents

/-- Passes over blanks, comments and line breaks, and over byte order marks that start a line,
which take up a column there. In a block a new line may start a key, and a tab may not stand where
a key may start. -/
def skipFrom (inFlow keyAllowed inComment : Bool) : List Glyph → Bool × List Glyph
  | [] => (keyAllowed, [])
  | g :: rest =>
    if isBreak g.char then skipFrom inFlow (keyAllowed || !inFlow) false rest
    else if g.char = endChar then (keyAllowed, g :: rest)
    else if inComment then skipFrom inFlow keyAllowed true rest
    else if g.char = ' ' || g.char = '\t' && (inFlow || !keyAllowed) ||
        g.char = byteOrderMark && g.column = 0 then
      skipFrom inFlow keyAllowed false rest
    else if g.char = '#' then skipFrom inFlow keyAllowed true rest
    else (keyAllowed, g :: rest)

def skip (s : Scanner) : Scanner :=
  let (keyAllowed, rest) := skipFrom s.inFlow s.keyAllowed false s.rest
  { s with keyAllowed, rest }

/-- Nothing that was open goes on past a marker of the whole document. -/
def endBlocks (s : Scanner) : Option Scanner := do
  let s ← (s.closeBlocks (-1)).dropKey
  return { s with keyAllowed := false }

def finish (s : Scanner) : Option Scanner := do
  let s ← s.endBlocks
  return { s.emit .streamEnd with finished := true }

def documentMarker (s : Scanner) (t : Token) : Option Scanner := do
  return ((← s.endBlocks).emit t).advance 3

def flowStart (s : Scanner) (t : Token) : Option Scanner := do
  let s ← s.saveKey
  return { s with keys := none :: s.keys, keyAllowed := true }.emit t |>.advance 1

def flowEnd (s : Scanner) (t : Token) : Option Scanner := do
  let s ← s.dropKey
  let keys := if s.inFlow then s.keys.drop 1 else s.keys
  return { s with keys, keyAllowed := false }.emit t |>.advance 1

def flowEntry (s : Scanner) : Option Scanner := do
  let s ← s.dropKey
  return { s with keyAllowed := true }.emit .flowEntry |>.advance 1

def blockEntry (s : Scanner) : Option Scanner := do
  if !s.inFlow && !s.keyAllowed then none
  else
    let s ← (s.openBlock s.here.column .blockSequence).dropKey
    return { s with keyAllowed := true }.emit .blockEntry |>.advance 1

def explicitKey (s : Scanner) : Option Scanner := do
  if !s.inFlow && !s.keyAllowed then none
  else
    let s ← (s.openBlock s.here.column .blockMapping).dropKey
    return { s with keyAllowed := !s.inFlow }.emit .key |>.advance 1

def leadAt (slots : List Slot) (slot : Nat) (lead : Lead) : List Slot :=
  slots.modify (slots.length - 1 - slot) fun s => { s with lead }

/-- The word before a colon is a key, and the first one of a mapping when it opens a block. -/
def valueOfKey (s : Scanner) (k : PossibleKey) : Scanner :=
  let opens := !s.inFlow && s.indent < k.start.column
  let s := { s with
    slots := leadAt s.slots k.slot (if opens then .mappingKey else .key)
    keys := none :: s.keys.drop 1
    keyAllowed := false }
  if opens then
    { s with indent := k.start.column, outerIndents := s.indent :: s.outerIndents }
  else s

def value (s : Scanner) : Option Scanner := do
  match s.keys with
  | some k :: _ => return (s.valueOfKey k).emit .value |>.advance 1
  | _ =>
    if !s.inFlow && !s.keyAllowed then none
    else
      let s := s.openBlock s.here.column .blockMapping
      return { s with keyAllowed := !s.inFlow }.emit .value |>.advance 1

def endsName (c : Char) : Bool :=
  isSpaceOrEnd c || c = '?' || c = ':' || c = ',' || c = ']' || c = '\x7d' || c = '%' ||
    c = '@' || c = '\x60'

def named (s : Scanner) (token : String → Token) : Option Scanner := do
  let s ← s.saveKey
  let (name, rest) := takeChars isNameChar (s.rest.drop 1)
  if name.isEmpty || !startsWith endsName rest then none
  else return { s with keyAllowed := false, rest }.emit (token (String.ofList name))

def isTagChar (verbatim : Bool) (c : Char) : Bool :=
  isNameChar c ||
    c ∈ [';', '/', '?', ':', '@', '&', '=', '+', '$', '.', '!', '~', '*', '\'', '(', ')'] ||
    verbatim && (c = ',' || c = '[' || c = ']')

/-- How many bytes a character has whose first byte is given. -/
def byteCount? (first : Nat) : Option Nat :=
  if first < 0x80 then some 1
  else if first < 0xC0 then none
  else if first < 0xE0 then some 2
  else if first < 0xF0 then some 3
  else if first < 0xF8 then some 4
  else none

/-- Reads the text of a tag. A character may be written as its bytes; `left` of them are still
to come, and `code` is made of those before. -/
def tagTextFrom (verbatim : Bool) (text : List Char) (left code : Nat) :
    List Glyph → Option (List Char × List Glyph)
  | a :: b :: c :: rest =>
    if a.char = '%' then do
      let byte := (← Text.digitValue? b.char) * 16 + (← Text.digitValue? c.char)
      if left = 0 then
        match ← byteCount? byte with
        | 1 => tagTextFrom verbatim (Char.ofNat byte :: text) 0 0 rest
        | n => tagTextFrom verbatim text (n - 1) (byte % Nat.pow 2 (7 - n)) rest
      else if byte / 64 ≠ 2 then none
      else
        let code := code * 64 + byte % 64
        if left = 1 then tagTextFrom verbatim (Char.ofNat code :: text) 0 0 rest
        else tagTextFrom verbatim text (left - 1) code rest
    else if left ≠ 0 then none
    else if isTagChar verbatim a.char then
      tagTextFrom verbatim (a.char :: text) 0 0 (b :: c :: rest)
    else some (text.reverse, a :: b :: c :: rest)
  | a :: rest =>
    if a.char = '%' || left ≠ 0 then none
    else if isTagChar verbatim a.char then tagTextFrom verbatim (a.char :: text) 0 0 rest
    else some (text.reverse, a :: rest)
  | [] => none

def tagText? (verbatim : Bool) (gs : List Glyph) : Option (List Char × List Glyph) :=
  tagTextFrom verbatim [] 0 0 gs

/-- An exclamation mark, name characters, and an exclamation mark when one follows. -/
def tagHandle? : List Glyph → Option (List Char × List Glyph)
  | g :: rest =>
    if g.char = '!' then
      let (name, after) := takeChars isNameChar rest
      match after with
      | h :: others =>
        if h.char = '!' then some ('!' :: name ++ ['!'], others) else some ('!' :: name, after)
      | [] => none
    else none
  | [] => none

def tagParts? (gs : List Glyph) : Option (List Char × List Char × List Glyph) := do
  if startsWith (· = '<') (gs.drop 1) then
    let (suffix, rest) ← tagText? true (gs.drop 2)
    if suffix.isEmpty || !startsWith (· = '>') rest then none
    else return ([], suffix, rest.drop 1)
  else
    let (head, rest) ← tagHandle? gs
    let (text, after) ← tagText? false rest
    if 1 < head.length && head.getLast? = some '!' then
      if text.isEmpty then none else return (head, text, after)
    else
      match head.drop 1 ++ text with
      | [] => return ([], ['!'], after)
      | suffix => return (['!'], suffix, after)

def tag (s : Scanner) : Option Scanner := do
  let s ← s.saveKey
  let (handle, suffix, rest) ← tagParts? s.rest
  if startsWith (fun c => isSpaceOrEnd c || s.inFlow && c = ',') rest then
    return { s with keyAllowed := false, rest }.emit
      (.tag (String.ofList handle) (String.ofList suffix))
  else none

def blockScalar (s : Scanner) (isFolded : Bool) : Option Scanner := do
  let s ← s.dropKey
  let (text, rest) ← blockScalar? isFolded s.indent (s.rest.drop 1)
  return { s with keyAllowed := true, rest }.emit
    (.scalar (if isFolded then .folded else .literal) (String.ofList text))

/-- A scalar that may be a key. After a line break within or behind it, a key may start. -/
def flowScalar (s : Scanner) (style : Style)
    (read : List Glyph → Option Scanned) : Option Scanner := do
  let s ← s.saveKey
  let r ← read s.rest
  return { s with keyAllowed := r.gap.hasBreak, rest := r.rest }.emit
    (.scalar style (String.ofList r.text))

def versionNumber? (gs : List Glyph) : Option (Nat × List Glyph) :=
  match takeChars Char.isDigit gs with
  | ([], _) => none
  | (digits, rest) =>
    if digits.length > 9 then none
    else some (Text.natOf 10 digits, rest)

def versionDirective? (gs : List Glyph) : Option (Token × List Glyph) := do
  let (major, rest) ← versionNumber? (takeChars isBlank gs).2
  if !startsWith (· = '.') rest then none
  else
    let (minor, after) ← versionNumber? (rest.drop 1)
    return (.version major minor, after)

def handleDirective? (gs : List Glyph) : Option (Token × List Glyph) := do
  let (handle, rest) ← tagHandle? (takeChars isBlank gs).2
  if handle.getLast? ≠ some '!' || !startsWith isBlank rest then none
  else
    let (lead, after) ← tagText? true (takeChars isBlank rest).2
    if lead.isEmpty || !startsWith isSpaceOrEnd after then none
    else return (.handle (String.ofList handle) (String.ofList lead), after)

def directive (s : Scanner) : Option Scanner := do
  let s ← s.endBlocks
  let (name, rest) := takeChars isNameChar (s.rest.drop 1)
  if name.isEmpty || !startsWith isSpaceOrEnd rest then none
  else
    let (token, after) ←
      if name = "YAML".toList then versionDirective? rest
      else if name = "TAG".toList then handleDirective? rest
      else none
    return { s with rest := ← restOfLine? after }.emit token

def isIndicator (c : Char) : Bool :=
  c ∈ ['-', '?', ':', ',', '[', ']', '\x7b', '\x7d', '#', '&', '*', '!', '|', '>', '\'', '"', '%',
    '@', '\x60']

def startsPlain (s : Scanner) : Bool :=
  let c := s.here.char
  let next := fun p => startsWith p (s.rest.drop 1)
  !(isSpaceOrEnd c || isIndicator c) ||
    c = '-' && !next isBlank ||
    !s.inFlow && (c = '?' || c = ':') && !next isSpaceOrEnd

def fetch (s : Scanner) : Option Scanner := do
  let s ← s.skip.dropStale
  let s := s.closeBlocks s.here.column
  let c := s.here.char
  let apart := startsWith isSpaceOrEnd (s.rest.drop 1)
  if c = endChar then s.finish
  else if c = '%' && s.here.column = 0 then s.directive
  else if startsMarker '-' s.rest then s.documentMarker .documentStart
  else if startsMarker '.' s.rest then s.documentMarker .documentEnd
  else if c = '[' then s.flowStart .flowSequence
  else if c = '\x7b' then s.flowStart .flowMapping
  else if c = ']' then s.flowEnd .flowSequenceEnd
  else if c = '\x7d' then s.flowEnd .flowMappingEnd
  else if c = ',' then s.flowEntry
  else if c = '-' && apart then s.blockEntry
  else if c = '?' && (s.inFlow || apart) then s.explicitKey
  else if c = ':' && (s.inFlow || apart) then s.value
  else if c = '*' then s.named .alias
  else if c = '&' then s.named .anchor
  else if c = '!' then s.tag
  else if c = '|' && !s.inFlow then s.blockScalar false
  else if c = '>' && !s.inFlow then s.blockScalar true
  else if c = '\'' then
    s.flowScalar .singleQuoted fun gs => singleQuotedFrom [] .none false (gs.drop 1)
  else if c = '"' then
    s.flowScalar .doubleQuoted fun gs => doubleQuotedFrom [] .none .word (gs.drop 1)
  else if s.startsPlain then
    s.flowScalar .plain (plainFrom s.inFlow (s.indent + 1) [] .none false)
  else none

def Slot.tokens (slot : Slot) : List Token :=
  match slot.lead with
  | .nothing => [slot.token]
  | .key => [.key, slot.token]
  | .mappingKey => [.blockMapping, .key, slot.token]

/-- The tokens before the first possible key, which are what they are whatever follows. -/
def certain (s : Scanner) : List Token :=
  let pending := s.keys.filterMap (·.map (·.slot))
  (s.slots.reverse.take (pending.foldl min s.slots.length)).flatMap Slot.tokens

def scanUpTo : Nat → Scanner → List Token
  | 0, s => s.certain
  | fuel + 1, s =>
    if s.finished then s.slots.reverse.flatMap Slot.tokens
    else
      match s.dropStale with
      | none => s.certain
      | some s =>
        match s.fetch with
        | none => s.certain
        | some next => scanUpTo fuel next

end Scanner

/-- The tokens of a text. When they do not end with the end of the stream, the text goes wrong
after them. -/
def tokens (text : List Char) : List Token :=
  match glyphs? text with
  | some gs => Scanner.scanUpTo (gs.length + 1) { rest := gs }
  | none => []

end RouteWeaver.Yaml
