import Mathlib.Data.List.Basic
import RouteWeaver.Layout

/-!
Lines of code of a written text: its physical lines without those of documentation. A layout
gives them as rows, of which only the indentation depends on where the layout is written.
-/

namespace RouteWeaver

namespace Text

/-- Each line with the line feed that ends it. What follows the last one is a line of its own. -/
def physicalLines : List Char → List (List Char)
  | [] => []
  | c :: cs =>
    if c = '\n' then [c] :: physicalLines cs
    else
      match physicalLines cs with
      | [] => [[c]]
      | line :: rest => (c :: line) :: rest

def isDocLine (line : List Char) : Bool :=
  "///".toList.isPrefixOf (line.dropWhile (· = ' '))

def codeLines (text : String) : List (List Char) :=
  (physicalLines text.toList).filter fun line => !isDocLine line

def withoutDocs (text : String) : String :=
  String.ofList (codeLines text).flatten

def Ended (text : List Char) : Prop :=
  ∀ c ∈ text.getLast?, c = '\n'

instance (text : List Char) : Decidable (Ended text) :=
  decidable_of_iff (text.getLast?.all (· = '\n') = true) (by
    rw [Ended]
    cases text.getLast? <;> simp)

def IsLine (line : List Char) : Prop :=
  ∃ shown, '\n' ∉ shown ∧ line = shown ++ ['\n']

namespace Ended

theorem nil : Ended [] := by
  simp [Ended]

theorem append_right {b : List Char} (last : Ended b) (a : List Char) (nonempty : b ≠ []) :
    Ended (a ++ b) := by
  intro c member
  rw [List.getLast?_append_of_ne_nil a nonempty] at member
  exact last c member

theorem append {a b : List Char} (first : Ended a) (second : Ended b) : Ended (a ++ b) := by
  cases b with
  | nil => simpa using first
  | cons c cs => exact second.append_right a (List.cons_ne_nil c cs)

theorem flatten {lines : List (List Char)} (ended : ∀ line ∈ lines, Ended line) :
    Ended lines.flatten := by
  induction lines with
  | nil => exact nil
  | cons line lines ih =>
    rw [List.forall_mem_cons] at ended
    exact ended.1.append (ih ended.2)

end Ended

theorem IsLine.ended {line : List Char} (isLine : IsLine line) : Ended line := by
  obtain ⟨shown, -, rfl⟩ := isLine
  simp [Ended]

theorem physicalLines_feed (cs : List Char) :
    physicalLines ('\n' :: cs) = ['\n'] :: physicalLines cs := by
  rw [physicalLines, if_pos rfl]

theorem physicalLines_cons_of_eq {c : Char} {cs line : List Char} {rest : List (List Char)}
    (plain : c ≠ '\n') (lines : physicalLines cs = line :: rest) :
    physicalLines (c :: cs) = (c :: line) :: rest := by
  rw [physicalLines, if_neg plain, lines]

theorem exists_physicalLines_cons (c : Char) (cs : List Char) :
    ∃ line rest, physicalLines (c :: cs) = line :: rest := by
  rw [physicalLines]
  split
  · exact ⟨_, _, rfl⟩
  · split <;> exact ⟨_, _, rfl⟩

theorem physicalLines_append {a : List Char} (ended : Ended a) (b : List Char) :
    physicalLines (a ++ b) = physicalLines a ++ physicalLines b := by
  induction a with
  | nil => rfl
  | cons c cs ih =>
    -- Whether the text ends tells of its last character only.
    cases cs with
    | nil =>
      obtain rfl : c = '\n' := ended c (by simp)
      rfl
    | cons d ds =>
      have later := ih (by simpa [Ended] using ended)
      by_cases feed : c = '\n'
      · rw [feed, List.cons_append, physicalLines_feed, later, physicalLines_feed,
          List.cons_append]
      · obtain ⟨line, rest, lines⟩ := exists_physicalLines_cons d ds
        have joined : physicalLines (d :: ds ++ b) = line :: (rest ++ physicalLines b) := by
          rw [later, lines, List.cons_append]
        rw [List.cons_append, physicalLines_cons_of_eq feed joined,
          physicalLines_cons_of_eq feed lines, List.cons_append]

theorem physicalLines_line {line : List Char} (isLine : IsLine line) :
    physicalLines line = [line] := by
  obtain ⟨shown, plain, rfl⟩ := isLine
  induction shown with
  | nil => rfl
  | cons c cs ih =>
    rw [List.mem_cons, not_or] at plain
    exact physicalLines_cons_of_eq (Ne.symm plain.1) (ih plain.2)

theorem physicalLines_flatten {lines : List (List Char)} (each : ∀ line ∈ lines, IsLine line) :
    physicalLines lines.flatten = lines := by
  induction lines with
  | nil => rfl
  | cons line lines ih =>
    rw [List.forall_mem_cons] at each
    rw [List.flatten_cons, physicalLines_append each.1.ended, physicalLines_line each.1,
      ih each.2, List.singleton_append]

theorem isLine_of_mem_physicalLines {text line : List Char} (ended : Ended text)
    (member : line ∈ physicalLines text) : IsLine line := by
  induction text generalizing line with
  | nil => cases member
  | cons c cs ih =>
    have later : Ended cs := by
      cases cs with
      | nil => exact .nil
      | cons d ds => simpa [Ended] using ended
    by_cases feed : c = '\n'
    · rw [feed, physicalLines_feed] at member
      rcases List.mem_cons.mp member with rfl | member
      · exact ⟨[], List.not_mem_nil, rfl⟩
      · exact ih later member
    · cases cs with
      | nil => exact absurd (ended c (by simp)) feed
      | cons d ds =>
        obtain ⟨first, rest, lines⟩ := exists_physicalLines_cons d ds
        rw [physicalLines_cons_of_eq feed lines] at member
        rcases List.mem_cons.mp member with rfl | member
        · have isLine : IsLine first := ih later (by simp [lines])
          obtain ⟨shown, plain, rfl⟩ := isLine
          exact ⟨c :: shown, by simpa [Ne.symm feed] using plain, rfl⟩
        · exact ih later (by simp [lines, member])

theorem notMem_of_mem_pieces {c : Char} {text piece : List Char} (member : piece ∈ pieces c text) :
    c ∉ piece := by
  induction text generalizing piece with
  | nil => simp_all [pieces]
  | cons d cs ih =>
    rw [pieces] at member
    split at member
    · rcases List.mem_cons.mp member with rfl | member
      · exact List.not_mem_nil
      · exact ih member
    · rename_i other
      split at member
      · simpa [List.mem_singleton.mp member] using Ne.symm other
      · rename_i first rest found
        rcases List.mem_cons.mp member with rfl | member
        · have plain : c ∉ first := ih (by simp [found])
          simpa [Ne.symm other] using plain
        · exact ih (by simp [found, member])

theorem exists_pieces_eq_cons (c : Char) (text : List Char) :
    ∃ first rest, pieces c text = first :: rest := by
  cases text with
  | nil => exact ⟨[], [], rfl⟩
  | cons d ds =>
    rw [pieces]
    split
    · exact ⟨_, _, rfl⟩
    · split <;> exact ⟨_, _, rfl⟩

theorem pieces_of_notMem {c : Char} {text : List Char} (plain : c ∉ text) :
    pieces c text = [text] := by
  induction text with
  | nil => rfl
  | cons d cs ih =>
    rw [List.mem_cons, not_or] at plain
    rw [pieces, if_neg (Ne.symm plain.1), ih plain.2]

theorem pieces_append_of_notMem {c : Char} {lead : List Char} (plain : c ∉ lead)
    {text first : List Char} {rest : List (List Char)} (cut : pieces c text = first :: rest) :
    pieces c (lead ++ text) = (lead ++ first) :: rest := by
  induction lead with
  | nil => exact cut
  | cons d ds ih =>
    rw [List.mem_cons, not_or] at plain
    rw [List.cons_append, pieces, if_neg (Ne.symm plain.1), ih plain.2, List.cons_append]

/-- What follows a text without a separator goes to its last piece. -/
theorem exists_pieces_append (c : Char) (text : List Char) :
    ∃ front last, ∀ tail, c ∉ tail → pieces c (text ++ tail) = front ++ [last ++ tail] := by
  induction text with
  | nil => exact ⟨[], [], fun tail plain => pieces_of_notMem plain⟩
  | cons d ds ih =>
    obtain ⟨front, last, cut⟩ := ih
    by_cases same : d = c
    · refine ⟨[] :: front, last, fun tail plain => ?_⟩
      rw [List.cons_append, pieces, if_pos same, cut tail plain, List.cons_append]
    · cases front with
      | nil =>
        refine ⟨[], d :: last, fun tail plain => ?_⟩
        rw [List.cons_append, pieces, if_neg same, cut tail plain]
        rfl
      | cons first front =>
        refine ⟨(d :: first) :: front, last, fun tail plain => ?_⟩
        rw [List.cons_append, pieces, if_neg same, cut tail plain]
        rfl

theorem isDocLine_iff {line : List Char} :
    isDocLine line ↔ "///".toList <+: line.dropWhile (· = ' ') :=
  List.isPrefixOf_iff_prefix

/-- The mark of documentation does not go on behind a character that is no part of it. -/
theorem isDocLine_append_cons {c : Char} (other : c ≠ '/') (shown : c ≠ ' ') (line rest : List Char) :
    isDocLine (line ++ c :: rest) = isDocLine line := by
  have apart : c ∉ "///".toList := by simpa using other
  rw [Bool.eq_iff_iff, isDocLine_iff, isDocLine_iff, List.dropWhile_append]
  split
  · rename_i blank
    rw [List.isEmpty_iff.mp blank, List.dropWhile_cons_of_neg (by simpa using shown)]
    simp [other.symm]
  · refine ⟨fun mark => ?_, fun mark => mark.trans (List.prefix_append _ _)⟩
    -- A mark that went further than the line would hold the character behind it.
    have reached := List.prefix_append_right_inj (line.dropWhile (· = ' ')) |>.mpr
      (List.prefix_append [c] rest)
    rcases List.prefix_or_prefix_of_prefix mark reached with mark | within
    · rcases List.prefix_concat_iff.mp mark with whole | mark
      · exact absurd (by simp [whole]) apart
      · exact mark
    · exact absurd (within.subset (by simp)) apart

theorem codeLines_append {a : String} (ended : Ended a.toList) (b : String) :
    codeLines (a ++ b) = codeLines a ++ codeLines b := by
  rw [codeLines, String.toList_append, physicalLines_append ended, List.filter_append]
  rfl

theorem ended_join {α : Type} {f : α → String} {xs : List α}
    (each : ∀ x ∈ xs, Ended (f x).toList) : Ended (String.join (xs.map f)).toList := by
  rw [String.toList_join, List.flatMap_def, List.map_map]
  refine .flatten fun line member => ?_
  obtain ⟨x, listed, rfl⟩ := List.mem_map.mp member
  exact each x listed

theorem codeLines_join {α : Type} {f : α → String} {xs : List α}
    (each : ∀ x ∈ xs, Ended (f x).toList) :
    codeLines (String.join (xs.map f)) = xs.flatMap fun x => codeLines (f x) := by
  induction xs with
  | nil => rfl
  | cons x xs ih =>
    rw [List.forall_mem_cons] at each
    rw [List.map_cons, String.join_cons, codeLines_append each.1, ih each.2, List.flatMap_cons]

/-- What is left of a text tells its lines of code apart. -/
theorem codeLines_inj {a b : String} (endedA : Ended a.toList) (endedB : Ended b.toList) :
    withoutDocs a = withoutDocs b ↔ codeLines a = codeLines b := by
  have kept {t : String} (ended : Ended t.toList) :
      physicalLines (codeLines t).flatten = codeLines t :=
    physicalLines_flatten fun line member =>
      isLine_of_mem_physicalLines ended (List.mem_filter.mp member).1
  constructor
  · intro same
    rw [← kept endedA, ← kept endedB, String.ofList_injective same]
  · intro same
    rw [withoutDocs, same, withoutDocs]

end Text

namespace Writer

open Text

theorem isLine_physicalLine (depth : UInt64) {piece : List Char} (plain : '\n' ∉ piece) :
    IsLine (physicalLine depth piece) := by
  cases piece with
  | nil => exact ⟨[], plain, rfl⟩
  | cons c cs =>
    refine ⟨indentation depth ++ c :: cs, ?_, rfl⟩
    simpa [indentation] using plain

theorem dropWhile_physicalLine (depth : UInt64) (piece : List Char) :
    (physicalLine depth piece).dropWhile (· = ' ') = (piece ++ ['\n']).dropWhile (· = ' ') := by
  cases piece with
  | nil => rfl
  | cons c cs =>
    rw [physicalLine, indentation, List.append_assoc, List.dropWhile_append_of_pos]
    · simp
    · simp

theorem isDocLine_physicalLine (depth : UInt64) (piece : List Char) :
    isDocLine (physicalLine depth piece) = isDocLine piece := by
  rw [isDocLine, dropWhile_physicalLine, ← isDocLine,
    isDocLine_append_cons (by decide) (by decide)]

end Writer

/-- What a layout writes besides documentation: lines, and changes of depth between them. -/
inductive Row where
  | line (shown : List Char)
  | deeper
  | shallower

namespace Row

def depthAfter (depth : UInt64) : List Row → UInt64
  | [] => depth
  | line _ :: rest => depthAfter depth rest
  | deeper :: rest => depthAfter (depth + 1) rest
  | shallower :: rest => depthAfter (if depth = 0 then 0 else depth - 1) rest

def lines (depth : UInt64) : List Row → List (List Char)
  | [] => []
  | line shown :: rest => Writer.physicalLine depth shown :: lines depth rest
  | deeper :: rest => lines (depth + 1) rest
  | shallower :: rest => lines (if depth = 0 then 0 else depth - 1) rest

theorem depthAfter_append (depth : UInt64) (rows rows' : List Row) :
    depthAfter depth (rows ++ rows') = depthAfter (depthAfter depth rows) rows' := by
  induction rows generalizing depth with
  | nil => rfl
  | cons row rows ih => cases row <;> exact ih _

theorem lines_append (depth : UInt64) (rows rows' : List Row) :
    lines depth (rows ++ rows') = lines depth rows ++ lines (depthAfter depth rows) rows' := by
  induction rows generalizing depth with
  | nil => rfl
  | cons row rows ih =>
    cases row with
    | line shown => exact congrArg (Writer.physicalLine depth shown :: ·) (ih depth)
    | deeper => exact ih _
    | shallower => exact ih _

def ofText (text : String) : List Row :=
  ((Text.pieces '\n' text.toList).filter fun piece => !Text.isDocLine piece).map .line

theorem depthAfter_map_line (depth : UInt64) (pieces : List (List Char)) :
    depthAfter depth (pieces.map .line) = depth := by
  induction pieces with
  | nil => rfl
  | cons _ _ ih => exact ih

theorem lines_map_line (depth : UInt64) (pieces : List (List Char)) :
    lines depth (pieces.map .line) = pieces.map (Writer.physicalLine depth) := by
  induction pieces with
  | nil => rfl
  | cons piece _ ih => exact congrArg (Writer.physicalLine depth piece :: ·) ih

end Row

namespace Layout

mutual

def rows : Layout → List Row
  | line text => Row.ofText text
  | blank => [.line []]
  | indent => [.deeper]
  | dedent => [.shallower]
  | block opening closing body =>
    Row.ofText opening ++ .deeper :: (rowsAll body ++ .shallower :: Row.ofText closing)

def rowsAll : List Layout → List Row
  | [] => []
  | l :: rest => rows l ++ rowsAll rest

end

theorem rowsAll_eq_flatMap (layout : List Layout) : rowsAll layout = layout.flatMap rows := by
  induction layout with
  | nil => rfl
  | cons l rest ih => rw [rowsAll, List.flatMap_cons, ih]

theorem rowsAll_append (layout layout' : List Layout) :
    rowsAll (layout ++ layout') = rowsAll layout ++ rowsAll layout' := by
  simp only [rowsAll_eq_flatMap, List.flatMap_append]

end Layout

namespace Writer

open Text

/-- Between two states of a writer, rows are written. -/
structure Adds (w w' : Writer) (rows : List Row) : Prop where
  ended : Ended w'.text.toList
  depth : w'.depth = Row.depthAfter w.depth rows
  code : codeLines w'.text = codeLines w.text ++ Row.lines w.depth rows

theorem Adds.trans {w w' w'' : Writer} {rows rows' : List Row} (first : w.Adds w' rows)
    (second : w'.Adds w'' rows') : w.Adds w'' (rows ++ rows') where
  ended := second.ended
  depth := by rw [second.depth, first.depth, Row.depthAfter_append]
  code := by rw [second.code, first.code, first.depth, Row.lines_append, List.append_assoc]

theorem physicalLines_written (depth : UInt64) (text : List Char) :
    physicalLines ((pieces '\n' text).flatMap (physicalLine depth)) =
      (pieces '\n' text).map (physicalLine depth) := by
  rw [List.flatMap_def]
  apply physicalLines_flatten
  intro line member
  obtain ⟨piece, found, rfl⟩ := List.mem_map.mp member
  exact isLine_physicalLine depth (notMem_of_mem_pieces found)

theorem ended_written (depth : UInt64) (text : List Char) :
    Ended ((pieces '\n' text).flatMap (physicalLine depth)) := by
  rw [List.flatMap_def]
  apply Ended.flatten
  intro line member
  obtain ⟨piece, found, rfl⟩ := List.mem_map.mp member
  exact (isLine_physicalLine depth (notMem_of_mem_pieces found)).ended

theorem adds_line {w : Writer} (ended : Ended w.text.toList) (text : String) :
    w.Adds (w.line text) (Row.ofText text) := by
  have added : codeLines
      (String.ofList ((pieces '\n' text.toList).flatMap (physicalLine w.depth))) =
      Row.lines w.depth (Row.ofText text) := by
    rw [codeLines, String.toList_ofList, physicalLines_written, List.filter_map, Row.ofText,
      Row.lines_map_line]
    simp only [Function.comp_def, isDocLine_physicalLine]
  refine ⟨?_, ?_, ?_⟩
  · rw [line, String.toList_append, String.toList_ofList]
    exact ended.append (ended_written w.depth text.toList)
  · rw [Row.ofText, Row.depthAfter_map_line, line]
  · rw [line, codeLines_append ended, added]

theorem adds_blank {w : Writer} (ended : Ended w.text.toList) : w.Adds w.blank [.line []] where
  ended := by
    rw [blank, String.toList_append]
    exact ended.append (by decide)
  depth := rfl
  code := by
    rw [blank, codeLines_append ended]
    rfl

theorem adds_indent {w : Writer} (ended : Ended w.text.toList) : w.Adds w.indent [.deeper] :=
  ⟨ended, rfl, (List.append_nil _).symm⟩

theorem adds_dedent {w : Writer} (ended : Ended w.text.toList) : w.Adds w.dedent [.shallower] :=
  ⟨ended, rfl, (List.append_nil _).symm⟩

end Writer

namespace Layout

open Text

-- The depth of a block's body is that of its rows: `deeper` and `shallower` stand for the changes
-- that the writer makes around it, the overflow of a depth included.
mutual

theorem adds_write {w : Writer} (ended : Ended w.text.toList) (l : Layout) :
    w.Adds (write w l) l.rows := by
  cases l with
  | line text => exact Writer.adds_line ended text
  | blank => exact Writer.adds_blank ended
  | indent => exact Writer.adds_indent ended
  | dedent => exact Writer.adds_dedent ended
  | block opening closing body =>
    have opened := Writer.adds_line ended opening
    have inside := opened.trans (Writer.adds_indent opened.ended)
    have written := inside.trans (adds_writeAll inside.ended body)
    have outside := written.trans (Writer.adds_dedent written.ended)
    have closed := outside.trans (Writer.adds_line outside.ended closing)
    simpa [rows, write] using closed

theorem adds_writeAll {w : Writer} (ended : Ended w.text.toList) (layout : List Layout) :
    w.Adds (writeAll w layout) (rowsAll layout) := by
  cases layout with
  | nil => exact ⟨ended, rfl, (List.append_nil _).symm⟩
  | cons l rest =>
    have first := adds_write ended l
    exact first.trans (adds_writeAll first.ended rest)

end

theorem adds_textAt (depth : UInt64) (layout : List Layout) :
    (Writer.atDepth depth).Adds (writeAll (.atDepth depth) layout) (rowsAll layout) :=
  adds_writeAll (by simp [Writer.atDepth, Ended]) layout

theorem ended_textAt (depth : UInt64) (layout : List Layout) :
    Ended (textAt depth layout).toList :=
  (adds_textAt depth layout).ended

theorem codeLines_textAt (depth : UInt64) (layout : List Layout) :
    codeLines (textAt depth layout) = Row.lines depth (rowsAll layout) :=
  (adds_textAt depth layout).code

end Layout
end RouteWeaver
