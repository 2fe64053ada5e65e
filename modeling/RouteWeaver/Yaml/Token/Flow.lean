import RouteWeaver.Text.Characters
import RouteWeaver.Yaml.Token

namespace RouteWeaver.Yaml

inductive Gap where
  | blanks (text : List Char)
  /-- The first break, unless it was escaped, and the breaks after it. -/
  | breaks (first : Option Char) (others : List Char)
deriving DecidableEq, Repr, Inhabited

namespace Gap

def none : Gap := blanks []

def hasBreak : Gap → Bool
  | blanks _ => false
  | breaks .. => true

/-- Blanks around a break do not count. -/
def addBlank (c : Char) : Gap → Gap
  | blanks text => blanks (text ++ [c])
  | breaks first others => breaks first others

def addBreak (c : Char) : Gap → Gap
  | blanks _ => breaks (some c) []
  | breaks first others => breaks first (others ++ [c])

/-- One line feed becomes a blank, and of several the first is dropped. -/
def folded : Gap → List Char
  | blanks text => text
  | breaks (some '\n') [] => [' ']
  | breaks (some '\n') others => others
  | breaks first others => first.toList ++ others

def onto (gap : Gap) (text : List Char) : List Char :=
  gap.folded.reverse ++ text

end Gap

structure Scanned where
  text : List Char
  gap : Gap
  rest : List Glyph
deriving Repr, Inhabited

def isFlowIndicator (c : Char) : Bool :=
  c = ',' || c = '[' || c = ']' || c = '\x7b' || c = '\x7d'

/-- Reads a plain scalar. `text` is what was read, in reverse; `afterGap` holds when the last
glyph was a blank or a break. -/
def plainFrom (inFlow : Bool) (indent : Int) (text : List Char) (gap : Gap) (afterGap : Bool) :
    List Glyph → Option Scanned
  | [] => some ⟨text.reverse, gap, []⟩
  | g :: rest =>
    if g.char = endChar then some ⟨text.reverse, gap, g :: rest⟩
    else if isBlank g.char then
      if gap.hasBreak && g.column < indent && g.char = '\t' then none
      else plainFrom inFlow indent text (gap.addBlank g.char) true rest
    else if isBreak g.char then plainFrom inFlow indent text (gap.addBreak g.char) true rest
    else if afterGap &&
        (!inFlow && g.column < indent || startsDocumentMarker (g :: rest) || g.char = '#') then
      some ⟨text.reverse, gap, g :: rest⟩
    else if inFlow && g.char = ':' && startsWith (fun c => isFlowIndicator c || c = '?') rest then
      none
    else if g.char = ':' && startsWith isSpaceOrEnd rest || inFlow && isFlowIndicator g.char then
      some ⟨text.reverse, gap, g :: rest⟩
    else plainFrom inFlow indent (g.char :: gap.onto text) .none false rest

def singleQuotedFrom (text : List Char) (gap : Gap) (afterGap : Bool) :
    List Glyph → Option Scanned
  | [] => none
  | g :: rest =>
    if g.char = endChar || afterGap && startsDocumentMarker (g :: rest) then none
    else if isBlank g.char then singleQuotedFrom text (gap.addBlank g.char) true rest
    else if isBreak g.char then singleQuotedFrom text (gap.addBreak g.char) true rest
    else if g.char = '\'' then
      match rest with
      | h :: after =>
        if h.char = '\'' then singleQuotedFrom ('\'' :: gap.onto text) .none false after
        else some ⟨(gap.onto text).reverse, .none, rest⟩
      | [] => none
    else singleQuotedFrom (g.char :: gap.onto text) .none false rest

inductive Escape where
  | char (c : Char)
  /-- A character by its code, in so many hexadecimal digits. -/
  | code (digits : Nat)
deriving DecidableEq, Repr, Inhabited

def escape? (c : Char) : Option Escape :=
  match c with
  | '0' => some (.char '\x00')
  | 'a' => some (.char '\x07')
  | 'b' => some (.char '\x08')
  | 't' | '\t' => some (.char '\t')
  | 'n' => some (.char '\n')
  | 'v' => some (.char '\x0b')
  | 'f' => some (.char '\x0c')
  | 'r' => some (.char '\r')
  | 'e' => some (.char '\x1b')
  | ' ' | '"' | '/' | '\\' => some (.char c)
  | 'N' => some (.char nextLine)
  | '_' => some (.char '\u00a0')
  | 'L' => some (.char lineSeparator)
  | 'P' => some (.char paragraphSeparator)
  | 'x' => some (.code 2)
  | 'u' => some (.code 4)
  | 'U' => some (.code 8)
  | _ => none

/-- The character with a code, unless it is a surrogate or beyond the last one. -/
def charOfCode? (n : Nat) : Option Char :=
  if 0xD800 ≤ n && n ≤ 0xDFFF || 0x10FFFF < n then none else some (Char.ofNat n)

inductive Inside where
  | word
  | gap
  | escape
  | code (left value : Nat)
deriving DecidableEq, Repr, Inhabited

def doubleQuotedFrom (text : List Char) (gap : Gap) (inside : Inside) :
    List Glyph → Option Scanned
  | [] => none
  | g :: rest =>
    if g.char = endChar then none
    else
      match inside with
      | .escape =>
        if isBreak g.char then doubleQuotedFrom text (.breaks none []) .gap rest
        else
          match escape? g.char with
          | some (.char c) => doubleQuotedFrom (c :: text) .none .word rest
          | some (.code n) => doubleQuotedFrom text .none (.code n 0) rest
          | none => none
      | .code left value =>
        match Text.digitValue? g.char with
        | none => none
        | some d =>
          if left ≤ 1 then
            match charOfCode? (value * 16 + d) with
            | some c => doubleQuotedFrom (c :: text) .none .word rest
            | none => none
          else doubleQuotedFrom text .none (.code (left - 1) (value * 16 + d)) rest
      | .word | .gap =>
        if inside = .gap && startsDocumentMarker (g :: rest) then none
        else if isBlank g.char then doubleQuotedFrom text (gap.addBlank g.char) .gap rest
        else if isBreak g.char then doubleQuotedFrom text (gap.addBreak g.char) .gap rest
        else if g.char = '"' then some ⟨(gap.onto text).reverse, .none, rest⟩
        else if g.char = '\\' then doubleQuotedFrom (gap.onto text) .none .escape rest
        else doubleQuotedFrom (g.char :: gap.onto text) .none .word rest

end RouteWeaver.Yaml
