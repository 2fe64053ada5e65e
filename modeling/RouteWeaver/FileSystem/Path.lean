import RouteWeaver.Text.Search

namespace RouteWeaver

structure Path where
  /-- Starts at the root, else at the working directory. -/
  fromRoot : Bool
  pieces : List String
deriving DecidableEq, Repr, Inhabited

namespace Path

def ofText (text : String) : Path :=
  match text.toList with
  | '/' :: rest => ⟨true, (Text.pieces '/' rest).map String.ofList⟩
  | cs => ⟨false, (Text.pieces '/' cs).map String.ofList⟩

def text (p : Path) : String :=
  (if p.fromRoot then "/" else "") ++ "/".intercalate p.pieces

def staysPut (piece : String) : Bool :=
  piece = "" || piece = "."

/-- Pieces without those at their end that stay where they are. The first piece may be a dot,
which stands for the working directory. -/
def trimmed (p : Path) : Path :=
  match p.pieces with
  | [] => p
  | first :: rest =>
    let kept := (rest.reverse.dropWhile staysPut).reverse
    if kept.isEmpty && (first = "" || p.fromRoot && first = ".") then { p with pieces := [] }
    else { p with pieces := first :: kept }

/-- The path of what contains the last piece; none for the root and the empty path. -/
def parent? (p : Path) : Option Path :=
  let t := p.trimmed
  if t.pieces.isEmpty then none else some ({ t with pieces := t.pieces.dropLast }).trimmed

def fileName? (p : Path) : Option String :=
  p.trimmed.pieces.getLast?.filter fun s => s ≠ "." && s ≠ ".."

/-- What follows the last dot of a name. A dot at its front does not count. -/
def extension? (p : Path) : Option String := do
  let name ← p.fileName?
  let reversed := name.toList.reverse
  match reversed.dropWhile (· ≠ '.') with
  | '.' :: before =>
    if before.isEmpty then none
    else some (String.ofList (reversed.takeWhile (· ≠ '.')).reverse)
  | _ => none

end Path
end RouteWeaver
