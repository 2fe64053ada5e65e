import RouteWeaver.Json.Number
import RouteWeaver.Text.Search

namespace RouteWeaver.Json

inductive Token where
  | openArray
  | closeArray
  | openObject
  | closeObject
  | comma
  | colon
  | null
  | boolean (value : Bool)
  | number (value : Number)
  /-- A string; none when its escapes name no characters. -/
  | string (value : Option String)
  | bad
deriving DecidableEq, Repr, Inhabited

def isSpace (c : Char) : Bool :=
  c = ' ' || c = '\n' || c = '\t' || c = '\r'

/-- One piece of a string: a character, or a code unit that was written as an escape. -/
inductive Piece where
  | char (c : Char)
  | unit (code : Nat)
deriving DecidableEq, Repr, Inhabited

def hexUnit? (a b c d : Char) : Option Nat :=
  Text.natural? 16 [a, b, c, d]

def escaped? (c : Char) : Option Char :=
  if c = '"' || c = '\\' || c = '/' then some c
  else if c = 'b' then some '\x08'
  else if c = 'f' then some '\x0c'
  else if c = 'n' then some '\n'
  else if c = 'r' then some '\r'
  else if c = 't' then some '\t'
  else none

/-- The pieces of a string up to its closing quote, and the text after it. -/
def stringPieces : List Char → Option (List Piece × List Char)
  | [] => none
  | '"' :: rest => some ([], rest)
  | '\\' :: 'u' :: a :: b :: c :: d :: rest => do
    let code ← hexUnit? a b c d
    let (pieces, after) ← stringPieces rest
    return (.unit code :: pieces, after)
  | '\\' :: c :: rest => do
    let e ← escaped? c
    let (pieces, after) ← stringPieces rest
    return (.char e :: pieces, after)
  | c :: rest => do
    if c.toNat < 0x20 then none
    else
      let (pieces, after) ← stringPieces rest
      return (.char c :: pieces, after)

/-- The characters of pieces. Two surrogates in order make one character; a surrogate that
stands alone makes none. -/
def joined : List Piece → Option (List Char)
  | [] => some []
  | .char c :: rest => (c :: ·) <$> joined rest
  | .unit high :: .unit low :: rest =>
    if 0xD800 ≤ high && high < 0xDC00 then
      if 0xDC00 ≤ low && low < 0xE000 then
        (Char.ofNat (0x10000 + (high - 0xD800) * 0x400 + (low - 0xDC00)) :: ·) <$> joined rest
      else none
    else if 0xDC00 ≤ high && high < 0xE000 then none
    else (Char.ofNat high :: ·) <$> joined (.unit low :: rest)
  | .unit code :: rest =>
    if 0xD800 ≤ code && code < 0xE000 then none
    else (Char.ofNat code :: ·) <$> joined rest

def digits? (text : List Char) : Option (List Char × List Char) :=
  match text.span Char.isDigit with
  | ([], _) => none
  | found => some found

/-- The whole part of a number: zero, or digits that do not start with zero. -/
def wholePart? : List Char → Option (List Char × List Char)
  | '0' :: rest => if (rest.head?.map Char.isDigit).getD false then none else some (['0'], rest)
  | text => digits? text

def fractionPart? : List Char → Option (Option (List Char) × List Char)
  | '.' :: rest => do
    let (digits, after) ← digits? rest
    return (some digits, after)
  | text => some (none, text)

def exponentPart? : List Char → Option (Option (Bool × List Char) × List Char)
  | c :: rest =>
    if c = 'e' || c = 'E' then do
      let (negative, unsigned) :=
        match rest with
        | '-' :: r => (true, r)
        | '+' :: r => (false, r)
        | r => (false, r)
      let (digits, after) ← digits? unsigned
      return (some (negative, digits), after)
    else some (none, c :: rest)
  | [] => some (none, [])

def number? (text : List Char) : Option (Number × List Char) := do
  let (negative, unsigned) :=
    match text with
    | '-' :: rest => (true, rest)
    | rest => (false, rest)
  let (whole, rest) ← wholePart? unsigned
  let (fraction, rest) ← fractionPart? rest
  let (exponent, rest) ← exponentPart? rest
  return (⟨negative, whole, fraction, exponent⟩, rest)

def token? : List Char → Option (Token × List Char)
  | [] => none
  | '[' :: rest => some (.openArray, rest)
  | ']' :: rest => some (.closeArray, rest)
  | '\x7b' :: rest => some (.openObject, rest)
  | '\x7d' :: rest => some (.closeObject, rest)
  | ',' :: rest => some (.comma, rest)
  | ':' :: rest => some (.colon, rest)
  | '"' :: rest => do
    let (pieces, after) ← stringPieces rest
    return (.string ((joined pieces).map String.ofList), after)
  | c :: rest =>
    if c = '-' || c.isDigit then do
      let (n, after) ← number? (c :: rest)
      return (.number n, after)
    else
      (Text.after? "null".toList (c :: rest)).map (Token.null, ·) <|>
        (Text.after? "true".toList (c :: rest)).map (Token.boolean true, ·) <|>
        (Text.after? "false".toList (c :: rest)).map (Token.boolean false, ·)

def tokensUpTo : Nat → List Char → List Token
  | 0, _ => []
  | fuel + 1, text =>
    match text.dropWhile isSpace with
    | [] => []
    | c :: rest =>
      match token? (c :: rest) with
      | some (t, after) => t :: tokensUpTo fuel after
      | none => [.bad]

/-- The tokens of a text. Each has at least one character. -/
def tokens (text : List Char) : List Token :=
  tokensUpTo text.length text

end RouteWeaver.Json
