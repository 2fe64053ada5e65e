import RouteWeaver.Text.Case
import RouteWeaver.Text.Characters
import RouteWeaver.Text.Search
import RouteWeaver.Hash.Sha256

/-!
Names of emitted items, derived from type names. An identifier is a function of the type name
alone; types whose identifiers meet get a mark of their own from a digest of the type name.
-/

namespace RouteWeaver.Name

open Text

/-- A word starts at an upper-case character that follows `previous`. A run of capitals is one
word, and its last capital starts the next word when a lower-case character follows. -/
def startsWord (previous next : Option Char) : Bool :=
  match previous with
  | none => false
  | some p => isLower p || p.isDigit || isUpper p && next.any isLower

/-- A word that starts is set apart from what is written, unless an underscore does that. -/
def separates (written : List Char) (previous next : Option Char) : Bool :=
  startsWord previous next && written.getLast? ≠ some '_'

/-- Goes on behind what is written; `previous` is the character that was read last. -/
def snakeOnto (written : List Char) (previous : Option Char) : List Char → List Char
  | [] => written
  | c :: rest =>
    if isUpper c then
      let separator := if separates written previous rest.head? then ['_'] else []
      snakeOnto (written ++ separator ++ lower c) (some c) rest
    else snakeOnto (written ++ [c]) (some c) rest

def snakeChars (text : List Char) : List Char :=
  snakeOnto [] none text

def snake (s : String) : String :=
  String.ofList (snakeChars s.toList)

def capitalized : List Char → List Char
  | [] => []
  | c :: rest => upper c ++ rest

def pascal (s : String) : String :=
  String.ofList ((pieces '_' s.toList).flatMap capitalized)

/-- A type name without one leading `dyn` or `impl`. -/
def concrete (type : List Char) : List Char :=
  (after? "dyn ".toList type <|> after? "impl ".toList type).getD type

def shortChars (type : List Char) : List Char :=
  trim (afterLast "::".toList ((concrete (trim type)).takeWhile (· ≠ '<')))

def short (type : String) : String :=
  String.ofList (shortChars type.toList)

def isWordChar (c : Char) : Bool :=
  c.isAlphanum || c = '_'

/-- Characters that no identifier may hold become underscores, nothing becomes `unnamed`, and an
underscore keeps a digit from standing first. -/
def legalized (name : List Char) : List Char :=
  match name.map fun c => if isWordChar c then c else '_' with
  | [] => "unnamed".toList
  | c :: rest => if c.isDigit then '_' :: c :: rest else c :: rest

/-- The identifier of a type, e.g. `logging_behavior` of `app::LoggingBehavior`. -/
def identifier (type : String) : String :=
  String.ofList (legalized (snakeChars (shortChars type.toList)))

/-- A type path as an expression: its first type arguments are set apart by `::`. -/
def expressionChars (path : List Char) : List Char :=
  match cutFirst '<' path with
  | none => path
  | some (before, arguments) =>
    if "::".toList.isSuffixOf before then path else before ++ "::<".toList ++ arguments

def expressionPath (type : String) : String :=
  String.ofList (expressionChars (trim type.toList))

def hexByte (b : UInt8) : List Char :=
  [Nat.digitChar (b.toNat / 16), Nat.digitChar (b.toNat % 16)]

/-- Eight digits that tell a type from those with the same identifier. -/
def mark (type : String) : String :=
  String.ofList (((Sha256.digest (trimmed type).toUTF8.toList).take 4).flatMap hexByte)

structure Request where
  type : String
  identifier : String
deriving DecidableEq, Repr

def Request.contested (requests : List Request) (r : Request) : Bool :=
  requests.any fun other => other.identifier = r.identifier && trimmed other.type ≠ trimmed r.type

/-- The identifier that a request gets: the one it asks for, marked when it is contested. -/
def Request.granted (requests : List Request) (r : Request) : String :=
  if r.contested requests then r.identifier ++ "_" ++ mark r.type else r.identifier

end RouteWeaver.Name
