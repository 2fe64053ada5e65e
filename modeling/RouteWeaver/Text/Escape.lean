import RouteWeaver.Text.Search

/-!
Text inside a `"…"` literal of the emitted program. `escapeLiteral` is for text of one line,
`escapeText` also turns line feeds, carriage returns and tabs into escapes. `unescape` undoes
both; an escape that neither writes is kept as it stands.
-/

namespace RouteWeaver.Text.Escape

def replace (c : Char) (shown : List Char) (text : List Char) : List Char :=
  text.flatMap fun x => if x = c then shown else [x]

/-- Backslashes go first: a later pass would double those that an earlier one wrote. -/
def literal (text : List Char) : List Char :=
  replace '"' ['\\', '"'] (replace '\\' ['\\', '\\'] text)

def line (text : List Char) : List Char :=
  replace '\t' ['\\', 't'] (replace '\r' ['\\', 'r'] (replace '\n' ['\\', 'n'] (literal text)))

def decoded? (c : Char) : Option Char :=
  if c = '\\' then some '\\'
  else if c = '"' then some '"'
  else if c = 'n' then some '\n'
  else if c = 'r' then some '\r'
  else if c = 't' then some '\t'
  else none

def decode : List Char → List Char
  | [] => []
  | ['\\'] => ['\\']
  | '\\' :: c :: rest =>
    match decoded? c with
    | some d => d :: decode rest
    | none => '\\' :: c :: decode rest
  | c :: rest => c :: decode rest

end RouteWeaver.Text.Escape

namespace RouteWeaver.Text

def escapeLiteral (s : String) : String :=
  String.ofList (Escape.literal s.toList)

def escapeText (s : String) : String :=
  String.ofList (Escape.line s.toList)

def unescape (s : String) : String :=
  String.ofList (Escape.decode s.toList)

end RouteWeaver.Text
