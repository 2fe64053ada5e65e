import RouteWeaver.Yaml.Token

namespace RouteWeaver.Yaml

/-- What becomes of the line breaks at the end. -/
inductive Chomping where
  | strip
  | clip
  | keep
deriving DecidableEq, Repr, Inhabited

structure BlockText where
  /-- The text, in reverse. -/
  text : List Char := []
  lineBreak : List Char := []
  /-- The breaks of the empty lines after it. -/
  emptyBreaks : List Char := []
  /-- The last line started with a blank. -/
  blankLine : Bool := false
  /-- The column of the lines, zero as long as it is not known. -/
  indent : Nat
  /-- The greatest column that an empty line has reached. -/
  widest : Nat := 0
  inLine : Bool := false
deriving DecidableEq, Repr, Inhabited

namespace BlockText

/-- The break before a line that starts with a character. In folded text a line feed between
two lines that do not start with blanks becomes a blank, unless empty lines follow it. -/
def openLine (s : BlockText) (isFolded : Bool) (c : Char) : BlockText :=
  let joint :=
    if isFolded && s.lineBreak = ['\n'] && !s.blankLine && !isBlank c then
      if s.emptyBreaks.isEmpty then [' '] else []
    else s.lineBreak
  { s with
    text := c :: (joint ++ s.emptyBreaks).reverse ++ s.text
    lineBreak := []
    emptyBreaks := []
    blankLine := isBlank c
    inLine := true }

/-- The column of the lines: the given one, else that of the widest start, but always more than
the column of the block around. -/
def settle (s : BlockText) (around : Int) (column : Nat) : BlockText :=
  if s.indent = 0 then
    { s with indent := max (max (max s.widest column) (around + 1).toNat) 1 }
  else s

def chomped (s : BlockText) (chomping : Chomping) : List Char :=
  s.text.reverse ++
    match chomping with
    | .strip => []
    | .clip => s.lineBreak
    | .keep => s.lineBreak ++ s.emptyBreaks

end BlockText

def blockFrom (isFolded : Bool) (around : Int) (s : BlockText) :
    List Glyph → Option (BlockText × List Glyph)
  | [] => some (s, [])
  | g :: rest =>
    if s.inLine then
      if g.char = endChar then some (s, g :: rest)
      else if isBreak g.char then
        blockFrom isFolded around { s with lineBreak := [g.char], inLine := false } rest
      else blockFrom isFolded around { s with text := g.char :: s.text } rest
    else
      let beforeLine := s.indent = 0 || g.column < s.indent
      if g.char = ' ' && beforeLine then blockFrom isFolded around s rest
      else if g.char = '\t' && beforeLine then none
      else if isBreak g.char then
        blockFrom isFolded around
          { s with emptyBreaks := s.emptyBreaks ++ [g.char], widest := max s.widest g.column } rest
      else
        let s := s.settle around g.column
        if g.char = endChar || g.column ≠ s.indent then some (s, g :: rest)
        else blockFrom isFolded around (s.openLine isFolded g.char) rest

def chomping? : List Glyph → Option (Chomping × List Glyph)
  | g :: rest =>
    if g.char = '+' then some (.keep, rest) else if g.char = '-' then some (.strip, rest) else none
  | [] => none

/-- The increment at the head of a text, zero when there is none; a zero must not be written. -/
def increment? : List Glyph → Option (Nat × List Glyph)
  | g :: rest =>
    if g.char = '0' then none
    else if g.char.isDigit then some (g.char.toNat - '0'.toNat, rest)
    else some (0, g :: rest)
  | [] => some (0, [])

def blockHeader? (gs : List Glyph) : Option (Chomping × Nat × List Glyph) := do
  match chomping? gs with
  | some (chomping, rest) =>
    let (n, after) ← increment? rest
    return (chomping, n, after)
  | none =>
    let (n, after) ← increment? gs
    let (chomping, rest) := if n = 0 then (.clip, after) else (chomping? after).getD (.clip, after)
    return (chomping, n, rest)

/-- What follows blanks and a comment, which have to end the line. -/
def restOfLine? (gs : List Glyph) : Option (List Glyph) :=
  let (_, rest) := takeChars isBlank gs
  let rest := if startsWith (· = '#') rest then (takeChars (!isBreakOrEnd ·) rest).2 else rest
  match rest with
  | g :: after =>
    if isBreak g.char then some after else if g.char = endChar then some rest else none
  | [] => none

def blockScalar? (isFolded : Bool) (around : Int) (gs : List Glyph) :
    Option (List Char × List Glyph) := do
  let (chomping, increment, rest) ← blockHeader? gs
  let lines ← restOfLine? rest
  let indent := if increment = 0 then 0 else (max around 0).toNat + increment
  let (s, after) ← blockFrom isFolded around { indent } lines
  return (s.chomped chomping, after)

end RouteWeaver.Yaml
