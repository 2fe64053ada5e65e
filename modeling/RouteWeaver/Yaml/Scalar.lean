import RouteWeaver.Decimal.Shortest
import RouteWeaver.Document.Scalar
import RouteWeaver.Text.Characters
import RouteWeaver.Yaml.Token

/-!
What a YAML scalar may be read as. A plain scalar is null, a boolean or a number if it has the
form of one, and a text else; a scalar in quotes is a text. A tag of the standard types overrides
this.
-/

namespace RouteWeaver.Yaml

/-- Zeros in front of other digits make a text. -/
def hasLeadingZero : List Char → Bool
  | '0' :: rest => !rest.isEmpty && rest.all Char.isDigit
  | _ => false

def magnitude? : List Char → Option Nat
  | '0' :: 'x' :: rest => Text.natural? 16 rest
  | '0' :: 'o' :: rest => Text.natural? 8 rest
  | '0' :: 'b' :: rest => Text.natural? 2 rest
  | text => if hasLeadingZero text then none else Text.natural? 10 text

def integer? (text : List Char) : Option Scalar := do
  let n : Int ←
    match text with
    | '-' :: rest => (magnitude? rest).map fun m => -(m : Int)
    | '+' :: rest => (magnitude? rest).map Int.ofNat
    | rest => (magnitude? rest).map Int.ofNat
  if -Int.pow 2 63 ≤ n && n < Int.pow 2 64 then return .integer n
  else if -Int.pow 2 127 ≤ n && n < Int.pow 2 128 then return .wide n
  else none

def signed (text : List Char) : Bool × List Char :=
  match text with
  | '-' :: rest => (true, rest)
  | '+' :: rest => (false, rest)
  | rest => (false, rest)

def exponent? : List Char → Option Int
  | [] => some 0
  | c :: rest =>
    if c = 'e' || c = 'E' then
      let (negative, digits) := signed rest
      (Text.natural? 10 digits).map fun (n : Nat) => if negative then -(n : Int) else n
    else none

/-- A decimal without its sign: digits around at most one point, at least one of them, and
perhaps an exponent. -/
def decimal? (text : List Char) : Option Decimal :=
  let (whole, rest) := text.span Char.isDigit
  let (fraction, rest) :=
    match rest with
    | '.' :: more => more.span Char.isDigit
    | _ => ([], rest)
  if whole.isEmpty && fraction.isEmpty then none
  else (exponent? rest).map fun e => ⟨Text.natOf 10 (whole ++ fraction), e - fraction.length⟩

def finite? (text : List Char) : Option Floating := do
  let (negative, unsigned) := signed text
  let x ← (← decimal? unsigned).nearest
  return .finite negative x

def infinityForms : List String := [".inf", ".Inf", ".INF"]

def nanForms : List String := [".nan", ".NaN", ".NAN"]

def floating? (text : List Char) : Option Floating :=
  let name := String.ofList (text.drop 1)
  match text with
  | '-' :: _ => if name ∈ infinityForms then some (.infinite true) else finite? text
  | '+' :: _ => if name ∈ infinityForms then some (.infinite false) else finite? text
  | _ =>
    if String.ofList text ∈ infinityForms then some (.infinite false)
    else if String.ofList text ∈ nanForms then some .notANumber
    else finite? text

def nullForms : List String := ["null", "Null", "NULL", "~"]

def trueForms : List String := ["true", "True", "TRUE"]

def falseForms : List String := ["false", "False", "FALSE"]

def boolean? (text : String) : Option Bool :=
  if text ∈ trueForms then some true else if text ∈ falseForms then some false else none

def number? (text : String) : Option Scalar :=
  integer? text.toList <|>
    if hasLeadingZero (signed text.toList).2 then none
    else (floating? text.toList).map Scalar.floating

def plainScalar (text : String) : Scalar :=
  if text = "" || text ∈ nullForms then .null
  else
    ((boolean? text).map Scalar.boolean <|> number? text).getD (.text text)

def standardTag (name : String) : String :=
  "tag:yaml.org,2002:" ++ name

def isLocalTag (tag : String) : Bool :=
  tag.startsWith "!"

def scalarKind (tag : Option String) (style : Style) (text : String) : Scalar :=
  match tag with
  | none => if style = .plain then plainScalar text else .text text
  | some tag =>
    if tag = standardTag "bool" then
      ((boolean? text).map Scalar.boolean).getD (.misfit text "a boolean")
    else if tag = standardTag "int" then (integer? text.toList).getD (.misfit text "an integer")
    else if tag = standardTag "float" then
      ((floating? text.toList).map Scalar.floating).getD (.misfit text "a float")
    else if tag = standardTag "null" then
      if text ∈ nullForms then .null else .misfit text "null"
    else if isLocalTag tag && style = .plain then plainScalar text
    else .text text

def scalarPresence (tag : Option String) (style : Style) (text : String) : Presence :=
  if style ≠ .plain then .present
  else
    match tag with
    | none => if text = "" || text ∈ nullForms then .absent else .present
    | some tag =>
      if tag = standardTag "null" then
        if text ∈ nullForms then .absent else .refused
      else .present

/-- The readings of a scalar. Any scalar is a text where a text is wanted. -/
def scalarReading (tag : Option String) (style : Style) (text : String) : Reading where
  kind := scalarKind tag style text
  text? := some text
  flag? :=
    if style = .plain || style = .literal && tag = some (standardTag "bool") then boolean? text
    else none
  presence := scalarPresence tag style text
  isBlank := text = "" && style = .plain

end RouteWeaver.Yaml
