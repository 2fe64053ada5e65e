import RouteWeaver.Proofs.Sections
import RouteWeaver.Proofs.Trimming

namespace RouteWeaver

namespace Text

def isModuleDocLine (line : List Char) : Bool :=
  "//!".toList.isPrefixOf line

def isLintLine (line : List Char) : Bool :=
  "#![allow".toList.isPrefixOf line

def withoutModuleDocs (text : String) : String :=
  String.ofList ((physicalLines text.toList).filter fun line => !isModuleDocLine line).flatten

/-- The lines between the first one and the lint header, when there is one. -/
def linesBeforeLints (text : String) : Option (List (List Char)) :=
  let below := (physicalLines text.toList).tail
  if below.any isLintLine then some (below.takeWhile fun line => !isLintLine line) else none

variable {text line : List Char}

theorem dropReturn_sublist (line : List Char) : (dropReturn line).Sublist line := by
  rw [dropReturn]
  split
  · rename_i before reversed
    rw [← List.reverse_sublist, List.reverse_reverse, reversed]
    exact List.sublist_cons_self '\r' before
  · exact List.Sublist.refl line

theorem notMem_of_mem_lines (member : line ∈ lines text) : '\n' ∉ line := by
  have within (pieces : List (List Char)) (plain : ∀ piece ∈ pieces, '\n' ∉ piece)
      (member : line ∈ lines.ended pieces) : '\n' ∉ line := by
    fun_induction lines.ended pieces with
    | case1 => cases member
    | case2 => cases member
    | case3 last _ =>
      rw [List.mem_singleton.mp member]
      exact plain last (List.mem_singleton_self last)
    | case4 piece others _ ih =>
      rw [List.forall_mem_cons] at plain
      rcases List.mem_cons.mp member with rfl | later
      · exact fun feed => plain.1 ((dropReturn_sublist piece).mem feed)
      · exact ih plain.2 later
  exact within (pieces '\n' text) (fun _ => notMem_of_mem_pieces) member

theorem lines_eq_nil_iff : lines text = [] ↔ text = [] := by
  refine ⟨fun nothing => ?_, fun empty => by rw [empty]; rfl⟩
  cases text with
  | nil => rfl
  | cons c cs =>
    obtain ⟨first, rest, cut⟩ := exists_pieces_eq_cons '\n' cs
    by_cases feed : c = '\n'
    · simp [lines, pieces, feed, cut, lines.ended] at nothing
    · cases rest <;> simp [lines, pieces, feed, cut, lines.ended] at nothing

theorem intercalate_append_feed {texts : List String} (nonempty : texts ≠ []) :
    "\n".intercalate texts ++ "\n" = String.join (texts.map (· ++ "\n")) := by
  induction texts with
  | nil => exact absurd rfl nonempty
  | cons text texts ih =>
    rw [List.map_cons, String.join_cons]
    by_cases last : texts = []
    · rw [last, String.intercalate_singleton, List.map_nil, String.join_nil, String.append_empty]
    · rw [String.intercalate_cons_of_ne_nil last, String.append_assoc, ih last]

theorem withoutModuleDocs_of_lines {a : String} {first : List Char} {docs : List (List Char)}
    {rest : List (List Char)} (written : physicalLines a.toList = first :: (docs ++ rest))
    (marked : ∀ line ∈ docs, isModuleDocLine line) :
    withoutModuleDocs a =
      String.ofList ((first :: rest).filter fun line => !isModuleDocLine line).flatten := by
  have gone : (docs.filter fun line => !isModuleDocLine line) = [] :=
    List.filter_eq_nil_iff.mpr fun line member => by simp [marked line member]
  rw [withoutModuleDocs, written, List.filter_cons, List.filter_append, gone, List.nil_append,
    List.filter_cons]

theorem linesBeforeLints_of_lines {a : String} {first lint : List Char}
    {docs rest : List (List Char)}
    (written : physicalLines a.toList = first :: (docs ++ lint :: rest))
    (header : isLintLine lint) (plain : ∀ line ∈ docs, ¬ isLintLine line) :
    linesBeforeLints a = some docs := by
  have found : (docs ++ lint :: rest).any isLintLine := by simp [header]
  rw [linesBeforeLints, written, List.tail_cons, if_pos found,
    List.takeWhile_append_of_pos (by simpa using plain),
    List.takeWhile_cons_of_neg (by simpa using header), List.append_nil]

end Text

open Text

namespace Program

def openingLine : String :=
  "// @generated by switchyard-gen " ++ version ++ ". Do not edit.\n"

def lintLine : String :=
  "#![allow(dead_code, unused_imports, unused_mut, unused_variables, clippy::all)]\n"

def docLines (c : Config) : List (List Char) :=
  (lines (trim (c.moduleDoc.getD "").toList)).map fun line =>
    trimEnd ("//! ".toList ++ line) ++ ['\n']

def afterHeader (p : Program) : String :=
  "\n/// Registered services, constructed on first access.\n" ++
  "pub(crate) mod services \x7b\n" ++ p.servicesText ++ "\x7d\n" ++
  "\n/// Registered behaviors, constructed on first access, and their state types.\n" ++
  "pub(crate) mod behaviors \x7b\n" ++
  "    use super::services;\n" ++
  (p.behaviorsSection ++ (tableOpening ++
    (String.join (p.patterns.map patternEntry) ++ ("];\n\n" ++
      (String.join (p.routes.map (functionText p.config)) ++ p.dispatchText)))))

theorem text_eq_header (p : Program) :
    p.text = openingLine ++ (header p.config ++ p.afterHeader) := by
  rw [text_eq_sections]
  unfold preamble openingLine afterHeader
  simp only [String.append_assoc]

theorem isLine_openingLine : IsLine openingLine.toList :=
  ⟨"// @generated by switchyard-gen 0.4.0. Do not edit.".toList, by decide, by decide⟩

theorem isLine_lintLine : IsLine lintLine.toList :=
  ⟨"#![allow(dead_code, unused_imports, unused_mut, unused_variables, clippy::all)]".toList,
    by decide, by decide⟩

variable {c : Config} {line : List Char}

theorem isLine_of_mem_docLines (member : line ∈ docLines c) : IsLine line := by
  obtain ⟨shown, listed, rfl⟩ := List.mem_map.mp member
  refine ⟨_, fun feed => ?_, rfl⟩
  have kept : trimEnd ("//! ".toList ++ shown) <+: "//! ".toList ++ shown :=
    List.rdropWhile_prefix isBlank _
  rcases List.mem_append.mp (kept.subset feed) with mark | inside
  · exact absurd mark (by decide)
  · exact notMem_of_mem_lines listed inside

/-- Trimming a line of documentation leaves its mark, also when nothing else is left. -/
theorem mark_prefix_of_mem_docLines (member : line ∈ docLines c) : "//!".toList <+: line := by
  obtain ⟨shown, -, rfl⟩ := List.mem_map.mp member
  have kept : trimEnd ("//!".toList ++ ([' '] ++ shown)) =
      "//!".toList ++ trimEnd ([' '] ++ shown) :=
    trimEnd_append (by decide)
  have split : "//! ".toList ++ shown = "//!".toList ++ ([' '] ++ shown) := rfl
  rw [split, kept, List.append_assoc]
  exact List.prefix_append _ _

theorem isModuleDocLine_of_mem_docLines (member : line ∈ docLines c) : isModuleDocLine line :=
  List.isPrefixOf_iff_prefix.mpr (mark_prefix_of_mem_docLines member)

theorem not_isLintLine_of_mem_docLines (member : line ∈ docLines c) : ¬ isLintLine line := by
  obtain ⟨rest, rfl⟩ := mark_prefix_of_mem_docLines member
  rw [isLintLine, List.isPrefixOf_iff_prefix]
  simp

theorem toList_moduleDoc (c : Config) :
    (((moduleDoc c).map (· ++ "\n")).getD "").toList = (docLines c).flatten := by
  rw [moduleDoc, docLines]
  by_cases empty : trim (c.moduleDoc.getD "").toList = []
  · simp [empty, lines, pieces, lines.ended]
  · have filled : lines (trim (c.moduleDoc.getD "").toList) ≠ [] := mt lines_eq_nil_iff.mp empty
    simp [empty, intercalate_append_feed, filled, docLine, List.flatMap_def, Function.comp_def]

theorem header_of_inner (inner : c.innerAttributes = true) :
    (header c).toList = (docLines c).flatten ++ lintLine.toList := by
  rw [header, if_pos inner, ← lintLine, String.toList_append, toList_moduleDoc]

theorem header_of_not_inner (outer : c.innerAttributes = false) : header c = "" := by
  rw [header, outer, if_neg Bool.false_ne_true]

theorem physicalLines_text {p : Program} (inner : p.config.innerAttributes = true) :
    physicalLines p.text.toList = openingLine.toList ::
      (docLines p.config ++ lintLine.toList :: physicalLines p.afterHeader.toList) := by
  have docs : physicalLines (docLines p.config).flatten = docLines p.config :=
    physicalLines_flatten fun _ => isLine_of_mem_docLines
  have ended : Ended (docLines p.config).flatten :=
    .flatten fun _ member => (isLine_of_mem_docLines member).ended
  rw [text_eq_header, String.toList_append, String.toList_append, header_of_inner inner,
    physicalLines_append isLine_openingLine.ended, physicalLines_line isLine_openingLine,
    List.append_assoc, physicalLines_append ended, docs,
    physicalLines_append isLine_lintLine.ended, physicalLines_line isLine_lintLine,
    List.singleton_append, List.singleton_append]

end Program

namespace Model

open Program

def undocumented (m : Model) : Model :=
  { m with config := { m.config with moduleDoc := none } }

theorem afterHeader_undocumented (m : Model) :
    m.undocumented.program.afterHeader = m.program.afterHeader :=
  rfl

theorem source_undocumented {m : Model} (outer : m.config.innerAttributes = false) :
    m.undocumented.generate.source = m.generate.source := by
  have bare : header m.program.config = "" := header_of_not_inner outer
  have bare' : header m.undocumented.program.config = "" := header_of_not_inner outer
  rw [generate, generate, text_eq_header, bare', afterHeader_undocumented, text_eq_header, bare]

theorem withoutModuleDocs_undocumented (m : Model) :
    withoutModuleDocs m.undocumented.generate.source = withoutModuleDocs m.generate.source := by
  cases inner : m.config.innerAttributes with
  | false => rw [source_undocumented inner]
  | true =>
    have left : physicalLines m.undocumented.program.text.toList = _ := physicalLines_text inner
    have right : physicalLines m.program.text.toList = _ := physicalLines_text inner
    rw [afterHeader_undocumented] at left
    rw [generate, generate,
      withoutModuleDocs_of_lines left fun _ => isModuleDocLine_of_mem_docLines,
      withoutModuleDocs_of_lines right fun _ => isModuleDocLine_of_mem_docLines]

/-- The lines before the lint header are those of the documentation; none when there is none. -/
theorem linesBeforeLints_source {m : Model} (inner : m.config.innerAttributes = true) :
    linesBeforeLints m.generate.source = some (docLines m.config) :=
  linesBeforeLints_of_lines (physicalLines_text (p := m.program) inner) (by decide)
    fun _ => not_isLintLine_of_mem_docLines

end Model

/-- Two models that differ in their documentation alone have the same source but for the lines of
documentation, of which there is one for each line of the trimmed text; in a source that is
spliced into another one, there are none. -/
theorem module_doc_stays_doc {m m' : Model} (same : m.undocumented = m'.undocumented) :
    withoutModuleDocs m.generate.source = withoutModuleDocs m'.generate.source ∧
    (m.config.innerAttributes = false → m.generate.source = m'.generate.source) ∧
    (m.config.innerAttributes = true →
      linesBeforeLints m.generate.source =
        some ((lines (trim (m.config.moduleDoc.getD "").toList)).map fun line =>
          trimEnd ("//! ".toList ++ line) ++ ['\n'])) := by
  refine ⟨?_, fun outer => ?_, Model.linesBeforeLints_source⟩
  · rw [← m.withoutModuleDocs_undocumented, same, m'.withoutModuleDocs_undocumented]
  · have outer' : m'.config.innerAttributes = false := by
      have kept :
          m.undocumented.config.innerAttributes = m'.undocumented.config.innerAttributes := by
        rw [same]
      exact kept.symm.trans outer
    rw [← Model.source_undocumented outer, same, Model.source_undocumented outer']

theorem module_doc_stays_doc_code :
    let doc := " Routes.\r\n\nfn main() \x7b\x7d \n"
    let documented (inner : Bool) : Model :=
      { config := { innerAttributes := inner, moduleDoc := some doc } }
    let bare (inner : Bool) : Model := { config := { innerAttributes := inner } }
    withoutModuleDocs (documented true).generate.source =
      withoutModuleDocs (bare true).generate.source ∧
    linesBeforeLints (documented true).generate.source =
      some ["//! Routes.\n".toList, "//!\n".toList, "//! fn main() \x7b\x7d\n".toList] ∧
    (documented false).generate.source = (bare false).generate.source := by
  intro doc documented bare
  have same (inner : Bool) : (documented inner).undocumented = (bare inner).undocumented := rfl
  obtain ⟨rest, -, docs⟩ := module_doc_stays_doc (same true)
  obtain ⟨-, spliced, -⟩ := module_doc_stays_doc (same false)
  exact ⟨rest, (docs rfl).trans (by decide), spliced rfl⟩

end RouteWeaver
