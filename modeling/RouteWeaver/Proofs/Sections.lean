import RouteWeaver.Program
import RouteWeaver.Proofs.CodeLines

namespace RouteWeaver

namespace Program

open Text

def preamble (p : Program) : String :=
  "// @generated by switchyard-gen " ++ version ++ ". Do not edit.\n" ++
  header p.config ++
  "\n/// Registered services, constructed on first access.\n" ++
  "pub(crate) mod services \x7b\n" ++ p.servicesText ++ "\x7d\n" ++
  "\n/// Registered behaviors, constructed on first access, and their state types.\n" ++
  "pub(crate) mod behaviors \x7b\n" ++
  "    use super::services;\n"

def behaviorsSection (p : Program) : String :=
  if p.behaviorsText = "" then "" else "\n" ++ p.behaviorsText

def tableOpening : String :=
  "\x7d\n" ++
  "\n/// Route patterns, indexed like [`dispatch`].\n" ++
  "pub(crate) const ROUTES: &[&str] = &[\n"

def functionText (c : Config) (f : RouteFunction) : String :=
  Layout.textAt 0 (f.layout c) ++ "\n"

def dispatchText (p : Program) : String :=
  "/// Runs the pipeline of the route at `index`.\n" ++
  "pub(crate) async fn dispatch(index: usize, args: &[::std::string::String]) -> " ++
    p.config.runtime ++ "::Result<()> \x7b\n" ++
  "    match index \x7b\n" ++
  String.join (p.routes.map dispatchArm) ++
  "        _ => ::core::result::Result::Err(" ++ p.config.runtime ++ "::unknown_route(index)),\n" ++
  "    \x7d\n\x7d\n"

theorem text_eq_sections (p : Program) :
    p.text = p.preamble ++ (p.behaviorsSection ++ (tableOpening ++
      (String.join (p.patterns.map patternEntry) ++ ("];\n\n" ++
        (String.join (p.routes.map (functionText p.config)) ++ p.dispatchText))))) := by
  unfold text preamble behaviorsSection tableOpening dispatchText
  simp only [String.append_assoc]
  rfl

theorem preamble_congr {p q : Program} (config : p.config = q.config)
    (services : p.services = q.services) : p.preamble = q.preamble := by
  unfold preamble servicesText
  rw [config, services]

theorem dispatchText_congr {p q : Program} (config : p.config = q.config)
    (arms : p.routes.map dispatchArm = q.routes.map dispatchArm) :
    p.dispatchText = q.dispatchText := by
  unfold dispatchText
  rw [config, arms]

theorem ended_preamble (p : Program) : Ended p.preamble.toList := by
  unfold preamble
  rw [String.toList_append]
  exact Ended.append_right (by decide) _ (by decide)

theorem ended_behaviorsSection (p : Program) : Ended p.behaviorsSection.toList := by
  rw [behaviorsSection]
  split
  · exact Ended.nil
  · rw [String.toList_append]
    exact Ended.append (by decide) (Layout.ended_textAt _ _)

theorem ended_functionText (c : Config) (f : RouteFunction) : Ended (functionText c f).toList := by
  rw [functionText, String.toList_append]
  exact Ended.append_right (by decide) _ (by decide)

theorem codeLines_functionText (c : Config) (f : RouteFunction) :
    codeLines (functionText c f) = Row.lines 0 (Layout.rowsAll (f.layout c)) ++ [['\n']] := by
  rw [functionText, codeLines_append (Layout.ended_textAt 0 _), Layout.codeLines_textAt]
  rfl

theorem ended_patternEntry (pattern : String) : Ended (patternEntry pattern).toList := by
  rw [patternEntry, String.toList_append]
  exact Ended.append_right (by decide) _ (by decide)

theorem ended_text (p : Program) : Ended p.text.toList := by
  unfold text
  rw [String.toList_append]
  exact Ended.append_right (by decide) _ (by decide)

theorem codeLines_text (p : Program) :
    codeLines p.text =
      codeLines p.preamble ++ (codeLines p.behaviorsSection ++ (codeLines tableOpening ++
        (p.patterns.flatMap (fun pattern => codeLines (patternEntry pattern)) ++
          (codeLines "];\n\n" ++
            (p.routes.flatMap (fun f => codeLines (functionText p.config f)) ++
              codeLines p.dispatchText))))) := by
  have entries := fun pattern (_ : pattern ∈ p.patterns) => ended_patternEntry pattern
  have functions := fun f (_ : f ∈ p.routes) => ended_functionText p.config f
  rw [text_eq_sections, codeLines_append p.ended_preamble, codeLines_append p.ended_behaviorsSection,
    codeLines_append (by decide), codeLines_append (ended_join entries), codeLines_join entries,
    codeLines_append (by decide), codeLines_append (ended_join functions),
    codeLines_join functions]

/-- The code of programs that differ in their behaviors differs in that section only. -/
theorem codeLines_text_eq_iff {p q : Program} (config : p.config = q.config)
    (services : p.services = q.services) (patterns : p.patterns = q.patterns)
    (routes : p.routes = q.routes) :
    codeLines p.text = codeLines q.text ↔
      codeLines p.behaviorsSection = codeLines q.behaviorsSection := by
  rw [codeLines_text, codeLines_text, preamble_congr config services,
    dispatchText_congr config (by rw [routes]), config, patterns, routes,
    List.append_right_inj, List.append_left_inj]

end Program

/-- The arms of the dispatch function depend on the number of routes only. -/
theorem Model.map_dispatchArm_routes (m : Model) :
    m.program.routes.map Program.dispatchArm = (List.range m.routes.length).map fun i =>
      "        " ++ toString i ++ " => " ++ ("route_" ++ toString i) ++ "(args).await,\n" := by
  refine List.ext_getElem (by simp [program]) fun i _ _ => ?_
  simp only [program, List.getElem_map, List.getElem_mapIdx, List.getElem_range]
  rw [Program.dispatchArm, RouteFunction.name, Route.function]

end RouteWeaver
