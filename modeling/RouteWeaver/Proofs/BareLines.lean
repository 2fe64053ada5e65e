import RouteWeaver.Program.Grammar
import RouteWeaver.Proofs.CodeLines

namespace RouteWeaver

namespace Text

theorem pieces_append_cons (c : Char) (x y : List Char) :
    pieces c (x ++ c :: y) = pieces c x ++ pieces c y := by
  induction x with
  | nil => simp [pieces]
  | cons d ds ih =>
    by_cases same : d = c
    · rw [List.cons_append, pieces, if_pos same, ih, pieces, if_pos same, List.cons_append]
    · obtain ⟨first, rest, cut⟩ := exists_pieces_eq_cons c ds
      rw [List.cons_append, pieces, if_neg same, ih, cut, pieces, if_neg same, cut]
      rfl

theorem bareLine_append {spaces : List Char} (blank : ∀ c ∈ spaces, c = ' ') (line : List Char) :
    bareLine (spaces ++ line) = bareLine line := by
  rw [bareLine, List.dropWhile_append_of_pos (by simpa using blank), ← bareLine]

theorem bareLines_append (texts texts' : List String) :
    bareLines (texts ++ texts') = bareLines texts ++ bareLines texts' :=
  List.flatMap_append

theorem bareLines_cons (text : String) (texts : List String) :
    bareLines (text :: texts) = bareLines [text] ++ bareLines texts :=
  bareLines_append [text] texts

theorem bareLines_congr {a b : String} (same : a.toList = b.toList) :
    bareLines [a] = bareLines [b] := by
  rw [String.toList_inj.mp same]

theorem bareLines_empty : bareLines [""] = [] := by
  simp [bareLines, pieces, bareLine]

/-- A text that ends with a line feed ends with a line. -/
theorem bareLines_join_pair {a : String} (ended : Ended a.toList) (b : String) :
    bareLines [a ++ b] = bareLines [a, b] := by
  obtain none | ⟨shown, c, last⟩ := List.eq_nil_or_concat a.toList
  · rw [String.toList_eq_nil_iff.mp none, bareLines_cons "", bareLines_empty, String.empty_append,
      List.nil_append]
  · rw [List.concat_eq_append] at last
    obtain rfl : c = '\n' := ended c (by simp [last])
    simp [bareLines, last, pieces_append_cons, pieces, bareLine]

theorem bareLines_join {texts : List String} (ended : ∀ text ∈ texts, Ended text.toList) :
    bareLines [String.join texts] = bareLines texts := by
  induction texts with
  | nil => exact bareLines_empty
  | cons text texts ih =>
    rw [List.forall_mem_cons] at ended
    rw [String.join_cons, bareLines_join_pair ended.1, bareLines_cons, ih ended.2, ← bareLines_cons]

/-- A line is the same bare line further in and with the feed behind it. -/
theorem bareLines_indented (spaces : String) (blank : ∀ c ∈ spaces.toList, c = ' ')
    (text : String) : bareLines [spaces ++ text ++ "\n"] = bareLines [text] := by
  have single : '\n' ∉ spaces.toList := fun feed => absurd (blank _ feed) (by decide)
  obtain ⟨first, rest, cut⟩ := exists_pieces_eq_cons '\n' text.toList
  have indented := pieces_append_of_notMem single cut
  have feed : "\n".toList = '\n' :: [] := rfl
  simp only [bareLines, String.toList_append, feed, pieces_append_cons, indented, cut,
    List.flatMap_append, List.flatMap_cons, bareLine_append blank]
  simp [pieces, bareLine]

theorem bareLines_feed (text : String) : bareLines [text ++ "\n"] = bareLines [text] := by
  have indented := bareLines_indented "" (by simp) text
  rwa [String.empty_append] at indented

theorem ended_feed (text : String) : Ended (text ++ "\n").toList := by
  rw [String.toList_append]
  exact Ended.append_right (by decide) _ (by decide)

theorem bareLines_after_blank (text : String) : bareLines ["\n" ++ text] = bareLines [text] := by
  rw [bareLines_join_pair (by decide), bareLines_cons]
  rfl

/-- Indentation is not part of a bare line, and an empty line is none. -/
theorem flatMap_bareLine_written (depth : UInt64) {lines : List (List Char)}
    (plain : ∀ line ∈ lines, '\n' ∉ line) :
    (pieces '\n' (lines.flatMap (Writer.physicalLine depth))).flatMap bareLine =
      lines.flatMap bareLine := by
  induction lines with
  | nil => simp [pieces, bareLine]
  | cons line lines ih =>
    rw [List.forall_mem_cons] at plain
    cases line with
    | nil =>
      rw [List.flatMap_cons, Writer.physicalLine, List.singleton_append, pieces, if_pos rfl,
        List.flatMap_cons, ih plain.2, List.flatMap_cons]
    | cons c cs =>
      have single : '\n' ∉ Writer.indentation depth ++ c :: cs := by
        simpa [Writer.indentation] using plain.1
      have bare : bareLine (Writer.indentation depth ++ c :: cs) = bareLine (c :: cs) :=
        bareLine_append (by simp [Writer.indentation]) _
      rw [List.flatMap_cons, Writer.physicalLine, List.append_assoc, List.singleton_append,
        pieces_append_cons, pieces_of_notMem single, List.flatMap_append, ih plain.2,
        List.flatMap_singleton, bare, List.flatMap_cons]
      exact List.cons_ne_nil c cs

theorem bareLines_line {w : Writer} (ended : Ended w.text.toList) (text : String) :
    bareLines [(w.line text).text] = bareLines [w.text] ++ bareLines [text] := by
  have written : bareLines [String.ofList
      ((pieces '\n' text.toList).flatMap (Writer.physicalLine w.depth))] = bareLines [text] := by
    rw [bareLines, bareLines, List.flatMap_singleton, List.flatMap_singleton, String.toList_ofList]
    exact flatMap_bareLine_written w.depth fun _ => notMem_of_mem_pieces
  rw [Writer.line, bareLines_join_pair ended, bareLines_cons, written]

end Text

namespace Layout

open Text

mutual

def bare : Layout → List String
  | line text => bareLines [text]
  | blank | indent | dedent => []
  | block opening closing body => bareLines [opening] ++ bareAll body ++ bareLines [closing]

def bareAll : List Layout → List String
  | [] => []
  | l :: rest => bare l ++ bareAll rest

end

theorem bareAll_eq_flatMap (layout : List Layout) : bareAll layout = layout.flatMap bare := by
  induction layout with
  | nil => rfl
  | cons l rest ih => rw [bareAll, List.flatMap_cons, ih]

@[simp]
theorem bare_line (text : String) : (line text).bare = bareLines [text] :=
  rfl

@[simp]
theorem bare_blank : blank.bare = [] :=
  rfl

@[simp]
theorem bare_block (opening closing : String) (body : List Layout) :
    (block opening closing body).bare =
      bareLines [opening] ++ body.flatMap bare ++ bareLines [closing] := by
  rw [bare, bareAll_eq_flatMap]

-- What is written ends with a line feed, so that the lines behind it are lines of their own.
mutual

theorem bareLines_write {w : Writer} (ended : Ended w.text.toList) (l : Layout) :
    bareLines [(write w l).text] = bareLines [w.text] ++ l.bare := by
  cases l with
  | line text => exact bareLines_line ended text
  | blank =>
    rw [write, Writer.blank, bareLines_join_pair ended, bareLines_cons]
    rfl
  | indent => exact (List.append_nil _).symm
  | dedent => exact (List.append_nil _).symm
  | block opening closing body =>
    have opened : Ended (w.line opening).indent.text.toList := (Writer.adds_line ended opening).ended
    have inside := bareLines_writeAll opened body
    have closed := bareLines_line (w := (writeAll (w.line opening).indent body).dedent)
      (adds_writeAll opened body).ended closing
    rw [write, closed, Writer.dedent, inside, Writer.indent, bareLines_line ended opening, bare]
    simp only [List.append_assoc]

theorem bareLines_writeAll {w : Writer} (ended : Ended w.text.toList) (layout : List Layout) :
    bareLines [(writeAll w layout).text] = bareLines [w.text] ++ bareAll layout := by
  cases layout with
  | nil => exact (List.append_nil _).symm
  | cons l rest =>
    have first := adds_write ended l
    rw [writeAll, bareLines_writeAll first.ended rest, bareLines_write ended l, bareAll,
      List.append_assoc]

end

theorem bareLines_textAt (depth : UInt64) (layout : List Layout) :
    bareLines [textAt depth layout] = layout.flatMap bare := by
  rw [textAt, bareLines_writeAll (by simp [Writer.atDepth, Ended]), bareAll_eq_flatMap,
    Writer.atDepth, bareLines_empty, List.nil_append]

end Layout
end RouteWeaver
