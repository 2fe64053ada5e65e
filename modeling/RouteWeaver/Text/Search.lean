namespace RouteWeaver.Text

/-- The text after a leading `mark`, when it starts with `mark`. -/
def after? : (mark text : List Char) → Option (List Char)
  | [], text => some text
  | _ :: _, [] => none
  | m :: ms, c :: cs => if m = c then after? ms cs else none

def occurs (part : List Char) : List Char → Bool
  | [] => part.isEmpty
  | c :: cs => part.isPrefixOf (c :: cs) || occurs part cs

/-- The text after the rightmost `mark`, or all of it when there is none. -/
def afterLast (mark : List Char) (text : List Char) : List Char :=
  (rest? text).getD text
where
  rest? : List Char → Option (List Char)
    | [] => none
    | c :: cs => rest? cs <|> after? mark (c :: cs)

/-- The pieces between the separators: one more than there are separators. -/
def pieces (separator : Char) : List Char → List (List Char)
  | [] => [[]]
  | c :: cs =>
    if c = separator then [] :: pieces separator cs
    else
      match pieces separator cs with
      | [] => [[c]]
      | piece :: others => (c :: piece) :: others

/-- The text before the first `c` and the text after it. -/
def cutFirst (c : Char) (text : List Char) : Option (List Char × List Char) :=
  match text.span (· ≠ c) with
  | (_, []) => none
  | (before, _ :: rest) => some (before, rest)

/-- A line of a text loses the one carriage return before its line feed. -/
def dropReturn (line : List Char) : List Char :=
  match line.reverse with
  | '\r' :: before => before.reverse
  | _ => line

/-- The lines of a text. Each line feed ends one; what follows the last one is a line of its
own when it is not empty, and keeps a carriage return at its end. -/
def lines (text : List Char) : List (List Char) :=
  ended (pieces '\n' text)
where
  ended : List (List Char) → List (List Char)
    | [] => []
    | [last] => if last.isEmpty then [] else [last]
    | line :: others => dropReturn line :: ended others

/-- The text without its leading path separators `::`. -/
def dropLeadingMarks : List Char → List Char
  | ':' :: ':' :: rest => dropLeadingMarks rest
  | text => text

/-- The text without its trailing path separators `::`. A single colon stays. -/
def dropTrailingMarks (text : List Char) : List Char :=
  (dropLeadingMarks text.reverse).reverse

end RouteWeaver.Text
