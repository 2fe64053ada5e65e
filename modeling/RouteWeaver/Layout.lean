import RouteWeaver.Text.Search

/-!
Layout of emitted text: a tree of lines and blocks, and the writer that indents it. Nesting in
the tree becomes indentation of the text, whichever component wrote the block.
-/

namespace RouteWeaver

inductive Layout where
  /-- Each line of the text is indented; empty ones stay empty. -/
  | line (text : String)
  | blank
  | indent
  | dedent
  | block (opening closing : String) (body : List Layout)
deriving Repr, Inhabited

structure Writer where
  text : String := ""
  depth : UInt64 := 0
deriving DecidableEq, Repr, Inhabited

namespace Writer

def atDepth (depth : UInt64) : Writer where
  depth

def isEmpty (w : Writer) : Bool :=
  w.text = ""

def indentation (depth : UInt64) : List Char :=
  List.replicate (4 * depth.toNat) ' '

def physicalLine (depth : UInt64) : List Char → List Char
  | [] => ['\n']
  | line => indentation depth ++ line ++ ['\n']

def line (w : Writer) (text : String) : Writer :=
  { w with
    text := w.text ++
      String.ofList ((Text.pieces '\n' text.toList).flatMap (physicalLine w.depth)) }

def blank (w : Writer) : Writer :=
  { w with text := w.text ++ "\n" }

def indent (w : Writer) : Writer :=
  { w with depth := w.depth + 1 }

/-- One level back; there is nothing before depth zero. -/
def dedent (w : Writer) : Writer :=
  { w with depth := if w.depth = 0 then 0 else w.depth - 1 }

end Writer

namespace Layout

mutual

def write (w : Writer) : Layout → Writer
  | line text => w.line text
  | blank => w.blank
  | indent => w.indent
  | dedent => w.dedent
  | block opening closing body => (writeAll (w.line opening).indent body).dedent.line closing

def writeAll (w : Writer) : List Layout → Writer
  | [] => w
  | l :: rest => writeAll (write w l) rest

end

mutual

/-- The writer after each instruction; those in the body of a block come before the block. -/
def states (w : Writer) : Layout → List Writer
  | block opening closing body =>
    statesAll (w.line opening).indent body ++ [write w (block opening closing body)]
  | l => [write w l]

def statesAll (w : Writer) : List Layout → List Writer
  | [] => []
  | l :: rest => states w l ++ statesAll (write w l) rest

end

theorem writeAll_append (w : Writer) (layout layout' : List Layout) :
    writeAll w (layout ++ layout') = writeAll (writeAll w layout) layout' := by
  induction layout generalizing w with
  | nil => rfl
  | cons l rest ih => exact ih (write w l)

def textAt (depth : UInt64) (layout : List Layout) : String :=
  (writeAll (Writer.atDepth depth) layout).text

end Layout
end RouteWeaver
