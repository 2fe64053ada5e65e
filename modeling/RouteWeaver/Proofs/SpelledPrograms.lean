import RouteWeaver.Proofs.BareLines
import RouteWeaver.Proofs.Sections

namespace RouteWeaver

open Text

theorem SpellsAll.flatMap {α : Type} {spells : α → List String → Prop} {lines : α → List String}
    {xs : List α} (each : ∀ x ∈ xs, spells x (lines x)) : SpellsAll spells xs (xs.flatMap lines) := by
  induction xs with
  | nil => exact .nil
  | cons x xs ih =>
    rw [List.forall_mem_cons] at each
    exact .cons each.1 (ih each.2)

theorem SpellsAll.join {α β : Type} {spells : β → List String → Prop} {f : α → String}
    {g : α → β} {xs : List α} (ended : ∀ x ∈ xs, Ended (f x).toList)
    (each : ∀ x, spells (g x) (bareLines [f x])) :
    SpellsAll spells (xs.map g) (bareLines [String.join (xs.map f)]) := by
  induction xs with
  | nil =>
    rw [List.map_nil, List.map_nil, String.join_nil, bareLines_empty]
    exact .nil
  | cons x xs ih =>
    rw [List.forall_mem_cons] at ended
    rw [List.map_cons, List.map_cons, String.join_cons, bareLines_join_pair ended.1, bareLines_cons]
    exact .cons (each x) (ih ended.2)

variable (c : Config)

theorem spellsStep_layout (step : Step) :
    SpellsStep c step ((step.layout c).flatMap Layout.bare) := by
  cases step with
  | hook phase accessor owner =>
    rw [Step.layout, List.flatMap_singleton, Layout.bare_line]
    cases phase with
    | before =>
      rw [bareLines_congr]
      · exact .before accessor owner
      · simp [Config.runtimePath, Phase.method, Step.faultArgument]
    | after =>
      rw [bareLines_congr]
      · exact .after accessor owner
      · simp [Config.runtimePath, Phase.method, Step.faultArgument]
    | error =>
      rw [bareLines_congr]
      · exact .onError accessor owner
      · simp [Config.runtimePath, Phase.method, Step.faultArgument, faultVariable]
  | action a =>
    cases a with
    | handle path =>
      rw [Step.layout, Action.layout, List.flatMap_singleton, Layout.bare_line]
      exact .handle path
    | missingHandler pattern =>
      rw [Step.layout, Action.layout, List.flatMap_singleton, Layout.bare_line, bareLines_congr]
      · exact .missingHandler pattern
      · simp [Config.runtimePath]
    | lines text =>
      have lines : (text.map Layout.line).flatMap Layout.bare = bareLines text := by
        rw [List.flatMap_map, bareLines]
        exact List.flatMap_congr fun line _ => List.flatMap_singleton _ _
      rw [Step.layout, Action.layout, lines]
      exact .lines text

theorem spellsAll_steps (steps : List Step) :
    SpellsAll (SpellsStep c) steps ((steps.flatMap (·.layout c)).flatMap Layout.bare) := by
  rw [List.flatMap_assoc]
  exact .flatMap fun step _ => spellsStep_layout c step

theorem bare_makeState (o : StateObject) : (o.layout c).bare =
    bareLines ["let mut " ++ o.owner ++ " = <" ++ o.type ++ " as " ++ c.runtime ++
        "::BehaviorState>::from_context(",
      c.runtime ++ "::BehaviorContext::new(",
      "\"" ++ o.command ++ "\",",
      "\"" ++ o.handler ++ "\",",
      c.runtime ++ "::CancellationToken::none(),",
      "),",
      ");"] := by
  have opening : "let mut " ++ o.owner ++ " = <" ++ o.type ++ " as " ++
      c.runtimePath "BehaviorState" ++ ">::from_context(" = "let mut " ++ o.owner ++ " = <" ++
      o.type ++ " as " ++ c.runtime ++ "::BehaviorState>::from_context(" := by
    rw [← String.toList_inj]
    simp [Config.runtimePath]
  have context : c.runtimePath "BehaviorContext::new" ++ "(" =
      c.runtime ++ "::BehaviorContext::new(" := by
    rw [← String.toList_inj]
    simp [Config.runtimePath]
  have token : c.runtimePath "CancellationToken::none" ++ "()," =
      c.runtime ++ "::CancellationToken::none()," := by
    rw [← String.toList_inj]
    simp [Config.runtimePath]
  rw [StateObject.layout, opening, context, token]
  simp [bareLines]

theorem spellsStatement_layout (s : Statement) :
    SpellsStatement c s ((s.layout c).flatMap Layout.bare) := by
  cases s with
  | makeState o =>
    rw [Statement.layout, List.flatMap_singleton, bare_makeState]
    exact .makeState o
  | perform step => exact .perform (spellsStep_layout c step)
  | guard outcome steps =>
    have result : "::core::result::Result::<(), " ++ c.runtimePath "Fault" ++ ">::Ok(())" =
        "::core::result::Result::<(), " ++ c.runtime ++ "::Fault>::Ok(())" := by
      rw [← String.toList_inj]
      simp [Config.runtimePath]
    have spelled := SpellsStatement.guard outcome (spellsAll_steps c steps)
    rw [Statement.layout, result]
    simpa [bareLines] using spelled
  | recover outcome steps =>
    have spelled := SpellsStatement.recover outcome (spellsAll_steps c steps)
    rw [Statement.layout]
    simpa [bareLines, faultVariable] using spelled
  | succeed => exact .succeed

/-- A body is written on the lines of its statements, at whatever depth. -/
theorem spellsAll_body (body : List Statement) (depth : UInt64) :
    SpellsAll (SpellsStatement c) body
      (bareLines [Layout.textAt depth (body.flatMap (·.layout c))]) := by
  rw [Layout.bareLines_textAt, List.flatMap_assoc]
  exact .flatMap fun s _ => spellsStatement_layout c s

namespace Holder

theorem spells_body (h : Holder) : SpellsInstance h h.construction (h.body.flatMap Layout.bare) := by
  rw [body]
  cases h.construction with
  | default =>
    rw [List.flatMap_singleton]
    exact .default
  | new type arguments =>
    cases arguments with
    | nil =>
      rw [List.flatMap_singleton]
      exact .new type
    | cons argument others =>
      have spelled := SpellsInstance.newWith (h := h) type argument others
      simpa [bareLines, List.flatMap_map] using spelled

theorem spells_layout (h : Holder) : SpellsHolder h (h.layout.flatMap Layout.bare) := by
  have spelled := SpellsHolder.mk h.spells_body
  simpa [layout, bareLines] using spelled

theorem bare_layoutAll (holders : List Holder) : (layoutAll holders).flatMap Layout.bare =
    holders.flatMap fun h => h.layout.flatMap Layout.bare := by
  fun_induction layoutAll holders with
  | case1 => rfl
  | case2 h => rw [List.flatMap_singleton]
  | case3 h rest _ ih =>
    rw [List.flatMap_append, List.flatMap_cons, ih, Layout.bare_blank, List.nil_append,
      List.flatMap_cons]

theorem spellsAll_layoutAll (holders : List Holder) :
    SpellsAll SpellsHolder holders ((layoutAll holders).flatMap Layout.bare) := by
  rw [bare_layoutAll]
  exact .flatMap fun h _ => h.spells_layout

end Holder

theorem spellsAll_aliases (aliases : List StateAlias) :
    SpellsAll SpellsAlias aliases ((aliases.flatMap StateAlias.layout).flatMap Layout.bare) := by
  rw [List.flatMap_assoc]
  refine .flatMap fun a _ => ?_
  have spelled := SpellsAlias.mk a
  simpa [StateAlias.layout, bareLines] using spelled

theorem spellsFunction_layout (f : RouteFunction) :
    SpellsFunction c f.named ((f.layout c).flatMap Layout.bare) := by
  have result : "pub(crate) async fn " ++ f.name ++ "(args: &[::std::string::String]) -> " ++
      c.runtimePath "Result<()>" ++ " \x7b" = "pub(crate) async fn " ++ f.name ++
      "(args: &[::std::string::String]) -> " ++ c.runtime ++ "::Result<()> \x7b" := by
    rw [← String.toList_inj]
    simp [Config.runtimePath]
  have body := spellsAll_body c f.body 0
  rw [Layout.bareLines_textAt] at body
  have spelled := SpellsFunction.mk (c := c) (f := f.named) body
  rw [RouteFunction.layout, result]
  simpa [bareLines, List.flatMap_map, RouteFunction.named] using spelled

namespace Program

theorem spellsPattern_entry (pattern : String) :
    SpellsPattern pattern (bareLines [patternEntry pattern]) := by
  have text : patternEntry pattern = "    " ++ ("\"" ++ pattern ++ "\",") ++ "\n" := by
    rw [← String.toList_inj]
    simp [patternEntry]
  rw [text, bareLines_indented _ (by simp)]
  exact .mk pattern

theorem spellsArm_dispatchArm (f : RouteFunction) :
    SpellsArm (f.index, f.name) (bareLines [dispatchArm f]) := by
  have text : dispatchArm f =
      "        " ++ (toString f.index ++ " => " ++ f.name ++ "(args).await,") ++ "\n" := by
    rw [← String.toList_inj]
    simp [dispatchArm]
  rw [text, bareLines_indented _ (by simp)]
  exact .mk f.index f.name

theorem ended_dispatchArm (f : RouteFunction) : Ended (dispatchArm f).toList := by
  rw [dispatchArm, String.toList_append]
  exact Ended.append_right (by decide) _ (by decide)

theorem ended_header (c : Config) : Ended (header c).toList := by
  rw [header]
  split
  · rw [String.toList_append]
    exact Ended.append_right (by decide) _ (by decide)
  · exact Ended.nil

/-- The source in parts: lines, and texts of lines. -/
def parts (p : Program) : List String :=
  ["// @generated by switchyard-gen 0.4.0. Do not edit." ++ "\n",
    header p.config,
    "\n" ++ ("/// Registered services, constructed on first access." ++ "\n"),
    "pub(crate) mod services \x7b" ++ "\n",
    p.servicesText,
    "\x7d" ++ "\n",
    "\n" ++ ("/// Registered behaviors, constructed on first access, and their state types." ++
      "\n"),
    "pub(crate) mod behaviors \x7b" ++ "\n",
    "    " ++ "use super::services;" ++ "\n",
    p.behaviorsSection,
    "\x7d" ++ "\n",
    "\n" ++ ("/// Route patterns, indexed like [`dispatch`]." ++ "\n"),
    "pub(crate) const ROUTES: &[&str] = &[" ++ "\n",
    String.join (p.patterns.map patternEntry),
    "];" ++ "\n" ++ "\n",
    String.join (p.routes.map (functionText p.config)),
    "/// Runs the pipeline of the route at `index`." ++ "\n",
    "pub(crate) async fn dispatch(index: usize, args: &[::std::string::String]) -> " ++
      p.config.runtime ++ "::Result<()> \x7b\n",
    "    " ++ "match index \x7b" ++ "\n",
    String.join (p.routes.map dispatchArm),
    "        _ => ::core::result::Result::Err(" ++ p.config.runtime ++
      "::unknown_route(index)),\n",
    "    " ++ "\x7d" ++ "\n",
    "\x7d" ++ "\n"]

theorem text_eq_join (p : Program) : p.text = String.join p.parts := by
  have merged (rest : String) : "/// Runs the pipeline of the route at `index`.\n" ++
      ("pub(crate) async fn dispatch(index: usize, args: &[::std::string::String]) -> " ++ rest) =
      "/// Runs the pipeline of the route at `index`.\n" ++
        "pub(crate) async fn dispatch(index: usize, args: &[::std::string::String]) -> " ++ rest :=
    String.append_assoc.symm
  rw [text_eq_sections, parts]
  unfold preamble tableOpening dispatchText version
  simp only [String.join, List.foldl_cons, List.foldl_nil, String.empty_append,
    String.append_assoc, String.reduceAppend, merged]

theorem dispatch_opening_eq (c : Config) :
    "pub(crate) async fn dispatch(index: usize, args: &[::std::string::String]) -> " ++
      c.runtime ++ "::Result<()> \x7b\n" =
    "pub(crate) async fn dispatch(index: usize, args: &[::std::string::String]) -> " ++
      c.runtime ++ "::Result<()> \x7b" ++ "\n" := by
  simp only [String.append_assoc, String.reduceAppend]

theorem unknown_arm_eq (c : Config) :
    "        _ => ::core::result::Result::Err(" ++ c.runtime ++ "::unknown_route(index)),\n" =
    "        " ++ ("_ => ::core::result::Result::Err(" ++ c.runtime ++
      "::unknown_route(index)),") ++ "\n" := by
  rw [← String.append_assoc, ← String.append_assoc]
  simp only [String.append_assoc, String.reduceAppend]

theorem ended_parts (p : Program) : ∀ part ∈ p.parts, Ended part.toList := by
  have services : Ended p.servicesText.toList := Layout.ended_textAt _ _
  have entries : Ended (String.join (p.patterns.map patternEntry)).toList :=
    ended_join fun pattern _ => ended_patternEntry pattern
  have functions : Ended (String.join (p.routes.map (functionText p.config))).toList :=
    ended_join fun f _ => ended_functionText p.config f
  have arms : Ended (String.join (p.routes.map dispatchArm)).toList :=
    ended_join fun f _ => ended_dispatchArm f
  rw [parts, dispatch_opening_eq, unknown_arm_eq]
  simp only [List.forall_mem_cons, ended_header, services, ended_behaviorsSection, entries,
    functions, arms, ← String.append_assoc, ended_feed, true_and]
  exact nofun

theorem bareLines_behaviorsSection (p : Program) : bareLines [p.behaviorsSection] =
    (Holder.layoutAll p.behaviors).flatMap Layout.bare ++
      (p.aliases.flatMap StateAlias.layout).flatMap Layout.bare := by
  rw [← List.flatMap_append, ← Layout.bareLines_textAt 1, ← behaviorsText, behaviorsSection]
  split
  · rename_i none
    rw [none]
  · exact bareLines_after_blank _

theorem spellsFunction_functionText (c : Config) (f : RouteFunction) :
    SpellsFunction c f.named (bareLines [functionText c f]) := by
  rw [functionText, bareLines_feed, Layout.bareLines_textAt]
  exact spellsFunction_layout c f

/-- The text of a program is spelled out of its listing. -/
theorem spells_text (p : Program) : p.listing.Spelled p.config p.text := by
  have services := Holder.spellsAll_layoutAll p.services
  rw [← Layout.bareLines_textAt 1, ← servicesText] at services
  have patterns : SpellsAll SpellsPattern (p.patterns.map id) _ :=
    .join (fun pattern _ => ended_patternEntry pattern) spellsPattern_entry
  rw [List.map_id] at patterns
  have spelled := SpellsListing.mk (e := p.listing) services
    (Holder.spellsAll_layoutAll p.behaviors) (spellsAll_aliases p.aliases) patterns
    (.join (fun f _ => ended_functionText p.config f) (spellsFunction_functionText p.config))
    (.join (fun f _ => ended_dispatchArm f) spellsArm_dispatchArm)
  have further := fun text => bareLines_indented "    " (by simp) text
  have innermost := fun text => bareLines_indented "        " (by simp) text
  rw [Listing.Spelled, text_eq_join, bareLines_join p.ended_parts, parts, dispatch_opening_eq,
    unknown_arm_eq]
  simp only [bareLines_cons _ (_ :: _), further, innermost, bareLines_feed,
    bareLines_after_blank, bareLines_behaviorsSection, List.append_assoc] at spelled ⊢
  exact spelled

end Program

theorem Model.spells_source (m : Model) : m.program.listing.Spelled m.config m.generate.source :=
  m.program.spells_text

end RouteWeaver
