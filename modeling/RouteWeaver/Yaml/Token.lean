namespace RouteWeaver.Yaml

structure Glyph where
  char : Char
  index : Nat
  line : Nat
  column : Nat
deriving DecidableEq, Repr, Inhabited

/-- Stands at the end of a text; no text may hold it. -/
def endChar : Char := '\x00'

def nextLine : Char := '\u0085'

def lineSeparator : Char := '\u2028'

def paragraphSeparator : Char := '\u2029'

def byteOrderMark : Char := '\ufeff'

def isAdmitted (c : Char) : Bool :=
  c = '\t' || c = '\n' || c = '\r' || ' ' ≤ c && c ≤ '~' || c = nextLine ||
    0xA0 ≤ c.toNat && c.toNat ≤ 0xFFFD || 0x10000 ≤ c.toNat

def glyphsFrom (index line column : Nat) : List Char → List Glyph
  | [] => [⟨endChar, index, line, column⟩]
  | '\r' :: '\n' :: rest => ⟨'\n', index, line, column⟩ :: glyphsFrom (index + 2) (line + 1) 0 rest
  | c :: rest =>
    if c = '\n' || c = '\r' || c = nextLine then
      ⟨'\n', index, line, column⟩ :: glyphsFrom (index + 1) (line + 1) 0 rest
    else if c = lineSeparator || c = paragraphSeparator then
      ⟨c, index, line, column⟩ :: glyphsFrom (index + 1) (line + 1) 0 rest
    else ⟨c, index, line, column⟩ :: glyphsFrom (index + 1) line (column + 1) rest

/-- The glyphs of a text; none when it holds a character that is not admitted. -/
def glyphs? (text : List Char) : Option (List Glyph) :=
  if text.all isAdmitted then some (glyphsFrom 0 0 0 text) else none

def isBlank (c : Char) : Bool :=
  c = ' ' || c = '\t'

def isBreak (c : Char) : Bool :=
  c = '\n' || c = lineSeparator || c = paragraphSeparator

def isBreakOrEnd (c : Char) : Bool :=
  isBreak c || c = endChar

def isSpaceOrEnd (c : Char) : Bool :=
  isBlank c || isBreakOrEnd c

def isNameChar (c : Char) : Bool :=
  c.isAlphanum || c = '_' || c = '-'

/-- The next character is one of a class; there is always one before the end. -/
def startsWith (p : Char → Bool) : List Glyph → Bool
  | g :: _ => p g.char
  | [] => false

/-- A line starts with three times the character and ends the word there. -/
def startsMarker (c : Char) : List Glyph → Bool
  | a :: b :: d :: rest =>
    a.column = 0 && a.char = c && b.char = c && d.char = c && startsWith isSpaceOrEnd rest
  | _ => false

def startsDocumentMarker (gs : List Glyph) : Bool :=
  startsMarker '-' gs || startsMarker '.' gs

def takeChars (p : Char → Bool) : List Glyph → List Char × List Glyph
  | [] => ([], [])
  | g :: rest =>
    if p g.char then
      let (cs, after) := takeChars p rest
      (g.char :: cs, after)
    else ([], g :: rest)

inductive Style where
  | plain
  | singleQuoted
  | doubleQuoted
  | literal
  | folded
deriving DecidableEq, Repr, Inhabited

inductive Token where
  | version (major minor : Nat)
  /-- From here on a tag handle stands for a leading text. -/
  | handle (handle lead : String)
  | documentStart
  | documentEnd
  | streamEnd
  | blockSequence
  | blockMapping
  | blockEnd
  | flowSequence
  | flowSequenceEnd
  | flowMapping
  | flowMappingEnd
  | blockEntry
  | flowEntry
  | key
  | value
  | alias (name : String)
  | anchor (name : String)
  | tag (handle suffix : String)
  | scalar (style : Style) (text : String)
deriving DecidableEq, Repr, Inhabited

end RouteWeaver.Yaml
