import RouteWeaver.CommandLine
import RouteWeaver.Proofs.DecidingRule
import RouteWeaver.Proofs.DisplayNames
import RouteWeaver.Proofs.PathGaps
import RouteWeaver.Proofs.UnresolvedReport

namespace RouteWeaver

open Text Crate

def Model.withCrate (m : Model) (crate : String) : Model :=
  { m with config := m.config.withCrate crate }

namespace Rule

def withCrate (c : Config) (crate : String) (rule : Rule) : Rule :=
  { rule with
    strategy :=
      match rule.strategy with
      | .nullLogger _ placeholder =>
        .nullLogger ((c.withCrate crate).runtimePath "NullLogger") placeholder
      | strategy => strategy }

theorem standard_withCrate (c : Config) (crate : String) :
    standard (c.withCrate crate) = (standard c).map (withCrate c crate) :=
  rfl

theorem uniform_expression (c : Config) (rule : Rule) (requested : String)
    (service : Option Service) :
    Uniform fun crate => (rule.withCrate c crate).strategy.expression requested service := by
  cases strategy : rule.strategy with
  | nullLogger path placeholder =>
    simp only [withCrate, strategy, Strategy.expression]
    have logger := Uniform.runtimePath c "NullLogger"
    exact ((logger.append (.const _)).append (.const _)).append (.const _)
  | _ =>
    simp only [withCrate, strategy]
    exact .const _

end Rule

namespace RuleTable

variable (c : Config) (services : List Service) (crate requested : String)

theorem takes_rules (rules rules' : List Rule) (marker : String) (m : Matcher) :
    takes ⟨rules, services, marker⟩ m requested = takes ⟨rules', services, marker⟩ m requested := by
  cases m <;> rfl

theorem matched_rules (rules rules' : List Rule) (marker : String) (m : Matcher) :
    matched ⟨rules, services, marker⟩ m requested =
      matched ⟨rules', services, marker⟩ m requested := by
  cases m <;> rfl

theorem decidingRule?_withCrate :
    (standard (c.withCrate crate) services).decidingRule? requested =
      ((standard c services).decidingRule? requested).map (Rule.withCrate c crate) := by
  have rules : (standard (c.withCrate crate) services).rules =
      (standard c services).rules.map (Rule.withCrate c crate) := Rule.standard_withCrate c crate
  rw [decidingRule?, decidingRule?, rules, List.find?_map]
  refine congrArg (Option.map (Rule.withCrate c crate)) ?_
  refine congrArg (fun p => (standard c services).rules.find? p) (funext fun rule => ?_)
  exact takes_rules services requested _ _ c.namespaceMarker rule.matcher

/-- One rule decides over all crates, and writes the same expression but for the crate. -/
theorem exists_resolve_withCrate (request : String) : ∃ rule : Rule, ∀ crate,
    (standard (c.withCrate crate) services).resolve request =
      ⟨(rule.withCrate c crate).strategy.expression (trimmed request)
        ((standard c services).matched rule.matcher (trimmed request)), rule.kind⟩ := by
  obtain ⟨rule, decides, -⟩ := exists_decidingRule?_standard c services (trimmed request)
  refine ⟨rule, fun crate => ?_⟩
  have decides' := decidingRule?_withCrate c services crate (trimmed request)
  rw [decides, Option.map_some] at decides'
  rw [resolve_of_decidingRule? decides']
  have matched := matched_rules services (trimmed request) (Rule.standard (c.withCrate crate))
    (Rule.standard c) c.namespaceMarker rule.matcher
  exact congrArg (fun service => Resolution.mk
    ((rule.withCrate c crate).strategy.expression (trimmed request) service) rule.kind) matched

end RuleTable

namespace Behavior

variable (m : Model) (b : Behavior)

theorem isUnresolved_withCrate (crate request : String) :
    ((m.withCrate crate).ruleTable.resolve request).isUnresolved =
      (m.ruleTable.resolve request).isUnresolved := by
  obtain ⟨rule, resolves⟩ := RuleTable.exists_resolve_withCrate m.config m.services request
  have here : m.ruleTable.resolve request = _ := resolves m.config.runtimeCrate
  have there : (m.withCrate crate).ruleTable.resolve request = _ := resolves crate
  rw [here, there, Resolution.isUnresolved, Resolution.isUnresolved]

theorem unresolved_withCrate (crate : String) :
    b.unresolved (m.withCrate crate).ruleTable = b.unresolved m.ruleTable := by
  simp only [unresolved, isUnresolved_withCrate]

theorem uniform_argument (request : String) :
    Uniform fun crate => ((m.withCrate crate).ruleTable.resolve request).expression ++ "," := by
  obtain ⟨rule, resolves⟩ := RuleTable.exists_resolve_withCrate m.config m.services request
  have same (crate : String) : ((m.withCrate crate).ruleTable.resolve request).expression =
      (rule.withCrate m.config crate).strategy.expression (trimmed request)
        (m.ruleTable.matched rule.matcher (trimmed request)) :=
    congrArg Resolution.expression (resolves crate)
  simp only [same]
  exact (rule.uniform_expression m.config _ _).append (.const ",")

theorem body_holder_eq (t : RuleTable) (takes : b.dependencies ≠ []) :
    (b.holder t).body = [.block (b.staticName ++ ".get_or_init(|| \x7b") "\x7d)"
      [.block (Name.expressionPath (trimmed b.type) ++ "::new(") ")"
        (b.dependencies.map fun request => .line ((t.resolve request).expression ++ ","))]] := by
  obtain ⟨first, others, dependencies⟩ := List.exists_cons_of_ne_nil takes
  rw [Holder.body, holder, arguments, dependencies]
  simp [Holder.staticName, staticName]

theorem body_holder_nil (t : RuleTable) (takes : b.dependencies = []) :
    (b.holder t).body = [.line (b.staticName ++ ".get_or_init(|| " ++
      Name.expressionPath (trimmed b.type) ++ "::new())")] := by
  rw [Holder.body, holder, arguments, takes]
  rfl

theorem layout_holder (t : RuleTable) :
    (b.holder t).layout = [
      .line ("/// `" ++ b.name ++ "` behavior, constructed on first access."),
      .line ("static " ++ b.staticName ++ ": ::std::sync::OnceLock<" ++ trimmed b.type ++
        "> = ::std::sync::OnceLock::new();"),
      .blank,
      .block ("pub(crate) fn " ++ b.identifier ++ "() -> &'static " ++ trimmed b.type ++ " \x7b")
        "\x7d" (b.holder t).body] := by
  rw [Holder.layout]
  rfl

theorem uniform_holder :
    Layout.Uniform fun crate => (b.holder (m.withCrate crate).ruleTable).layout := by
  have body : Layout.Uniform fun crate => (b.holder (m.withCrate crate).ruleTable).body := by
    by_cases takes : b.dependencies = []
    · simp only [body_holder_nil b _ takes]
      exact .line (.const _)
    · simp only [body_holder_eq b _ takes]
      refine .block (.const _) (.const _) (.block (.const _) (.const _) ?_)
      exact .lines fun request _ => uniform_argument m request
  simp only [layout_holder]
  refine .cons (.line (.const _)) (.cons (.line (.const _)) (.cons .blank ?_))
  exact .block (.const _) (.const _) body

end Behavior

namespace Holder

theorem uniform_layoutAll {α : Type} {f : String → α → Holder} {xs : List α}
    (each : ∀ x ∈ xs, Layout.Uniform fun crate => (f crate x).layout) :
    Layout.Uniform fun crate => layoutAll (xs.map (f crate)) := by
  induction xs with
  | nil => exact .nil
  | cons x xs ih =>
    rw [List.forall_mem_cons] at each
    have rest := ih each.2
    cases xs with
    | nil => exact each.1
    | cons y ys => exact each.1.append (Layout.Uniform.append .blank rest)

end Holder

namespace Behavior

theorem layout_stateAlias (b : Behavior) (c : Config) :
    (b.stateAlias c).layout = [
      .blank,
      .line ("/// Per-invocation state of `" ++ b.name ++ "`."),
      .line ("pub(crate) type " ++ b.generatedStateName ++ " = " ++
        (c.runtimePath "GeneratedState" ++ "<" ++ trimmed b.type ++ ">") ++ ";")] :=
  rfl

theorem uniform_stateAliases (c : Config) (behaviors : List Behavior) :
    Layout.Uniform fun crate =>
      (stateAliases (c.withCrate crate) behaviors).flatMap StateAlias.layout := by
  simp only [stateAliases, List.flatMap_map, layout_stateAlias]
  refine .flatMap fun b _ => ?_
  refine .cons .blank (.cons (.line (.const _)) (.line ?_))
  have target := (((Uniform.runtimePath c "GeneratedState").append (.const "<")).append
    (.const (trimmed b.type))).append (.const ">")
  exact ((Uniform.const _).append target).append (.const ";")

end Behavior

section Statements

variable (c : Config)

theorem StateObject.uniform_layout (object : StateObject) :
    Layout.Uniform fun crate => [object.layout (c.withCrate crate)] := by
  simp only [layout]
  have made := ((Uniform.const ("let mut " ++ object.owner ++ " = <" ++ object.type ++
    " as ")).append (.runtimePath c "BehaviorState")).append (.const ">::from_context(")
  have context := (Uniform.runtimePath c "BehaviorContext::new").append (.const "(")
  have token := (Uniform.runtimePath c "CancellationToken::none").append (.const "(),")
  refine .block made (.const _) (.block context (.const _) ?_)
  exact .cons (.line (.const _)) (.cons (.line (.const _)) (.line token))

theorem Action.uniform_layout (a : Action) :
    Layout.Uniform fun crate => a.layout (c.withCrate crate) := by
  cases a with
  | handle path => exact .line (.const _)
  | missingHandler pattern =>
    simp only [layout]
    have raised := Uniform.runtimePath c "missing_handler"
    exact .line (((raised.append (.const _)).append (.const _)).append (.const _))
  | lines text => exact .lines fun line _ => .const line

theorem Step.uniform_layout (step : Step) :
    Layout.Uniform fun crate => step.layout (c.withCrate crate) := by
  cases step with
  | action a => exact a.uniform_layout c
  | hook phase accessor owner =>
    simp only [layout]
    have called := Uniform.runtimePath c ("Behavior::" ++ phase.method)
    have given := ((called.append (.const "(")).append (.const accessor)).append (.const ", &mut ")
    exact .line (((given.append (.const owner)).append (.const _)).append (.const ").await?;"))

theorem Statement.uniform_layout (statement : Statement) :
    Layout.Uniform fun crate => statement.layout (c.withCrate crate) := by
  have inside (steps : List Step) :
      Layout.Uniform fun crate => steps.flatMap (·.layout (c.withCrate crate)) :=
    .flatMap fun step _ => step.uniform_layout c
  cases statement with
  | makeState object => exact object.uniform_layout c
  | perform step => exact step.uniform_layout c
  | guard outcome steps =>
    simp only [layout]
    have ending := ((Uniform.const "::core::result::Result::<(), ").append
      (.runtimePath c "Fault")).append (.const ">::Ok(())")
    refine .cons (.block (.const _) (.const _) ?_) (.line (.const _))
    exact (inside steps).append (.line ending)
  | recover outcome steps =>
    simp only [layout]
    exact .block (.const _) (.const _) ((inside steps).append (.line (.const _)))
  | succeed => exact .line (.const _)

theorem RouteFunction.uniform_layout (f : RouteFunction) :
    Layout.Uniform fun crate => f.layout (c.withCrate crate) := by
  have signature := ((Uniform.const ("pub(crate) async fn " ++ f.name ++
    "(args: &[::std::string::String]) -> ")).append (.runtimePath c "Result<()>")).append
      (.const " \x7b")
  have body : Layout.Uniform fun crate => f.body.flatMap (·.layout (c.withCrate crate)) :=
    .flatMap fun statement _ => statement.uniform_layout c
  simp only [layout]
  exact .append (.lines fun line _ => .const _) (.block signature (.const _) body)

end Statements

namespace Model

variable (m : Model)

theorem routes_program_withCrate (crate : String) :
    (m.withCrate crate).program.routes = m.program.routes :=
  rfl

theorem unresolved_withCrate (crate : String) : (m.withCrate crate).unresolved = m.unresolved := by
  simp only [unresolved, Behavior.unresolved_withCrate]
  rfl

theorem uniform_behaviorsText :
    Uniform fun crate => (m.withCrate crate).program.behaviorsText := by
  have holders := Holder.uniform_layoutAll fun b (_ : b ∈ m.behaviors) => b.uniform_holder m
  have aliases := Behavior.uniform_stateAliases m.config m.behaviors
  exact (holders.append aliases).textAt 1

theorem uniform_behaviorsSection :
    Uniform fun crate => (m.withCrate crate).program.behaviorsSection := by
  simp only [Program.behaviorsSection, behaviorsText_eq_empty_iff]
  by_cases none : m.behaviors = []
  · have same : (fun crate => if (m.withCrate crate).behaviors = [] then ""
        else "\n" ++ (m.withCrate crate).program.behaviorsText) = fun _ => "" :=
      funext fun _ => if_pos none
    rw [same]
    exact .const ""
  · have same : (fun crate => if (m.withCrate crate).behaviors = [] then ""
        else "\n" ++ (m.withCrate crate).program.behaviorsText) =
        fun crate => "\n" ++ (m.withCrate crate).program.behaviorsText :=
      funext fun _ => if_neg none
    rw [same]
    exact (Uniform.const "\n").append m.uniform_behaviorsText

theorem uniform_dispatchText :
    Uniform fun crate => (m.withCrate crate).program.dispatchText := by
  have returns : "::Result<()> \x7b\n" = "::" ++ "Result<()> \x7b\n" := by decide
  have raises : "::unknown_route(index)),\n" = "::" ++ "unknown_route(index)),\n" := by decide
  unfold Program.dispatchText
  simp only [routes_program_withCrate, String.append_assoc]
  refine (Uniform.const _).append ((Uniform.const _).append (.path returns ?_))
  refine (Uniform.const _).append ((Uniform.const _).append ((Uniform.const _).append ?_))
  exact .path raises (.const _)

theorem uniform_source : Uniform fun crate => (m.withCrate crate).generate.source := by
  have functions : Uniform fun crate => String.join
      (m.program.routes.map (Program.functionText (m.config.withCrate crate))) :=
    .join fun f _ => ((f.uniform_layout m.config).textAt 0).append (.const "\n")
  have sections (crate : String) : (m.withCrate crate).generate.source =
      m.program.preamble ++ ((m.withCrate crate).program.behaviorsSection ++
        (Program.tableOpening ++
        (String.join (m.program.patterns.map Program.patternEntry) ++ ("];\n\n" ++
          (String.join (m.program.routes.map (Program.functionText (m.config.withCrate crate))) ++
            (m.withCrate crate).program.dispatchText))))) :=
    Program.text_eq_sections _
  simp only [sections]
  refine (Uniform.const _).append (m.uniform_behaviorsSection.append ((Uniform.const _).append ?_))
  exact (Uniform.const _).append
    ((Uniform.const _).append (functions.append m.uniform_dispatchText))

theorem generate_withCrate_congr {crate crate' : String} (same : stem crate = stem crate') :
    (m.withCrate crate).generate = (m.withCrate crate').generate := by
  have source := m.uniform_source.congr same
  have unresolved : (m.withCrate crate).unresolved = (m.withCrate crate').unresolved := by
    rw [unresolved_withCrate, unresolved_withCrate]
  exact congrArg₂ (fun text slots => Generated.mk text slots m.routes.length) source unresolved

end Model

/-- Nothing of a generated program depends on the runtime crate but what fills the gaps of its
source, and each of them is filled with the path of the crate. -/
theorem runtime_crate_fills_gaps (m : Model) :
    (∃ first rest, ∀ crate, OneLine crate →
      (m.withCrate crate).generate.source = (stem crate).intercalate (first :: rest)) ∧
    (∀ crate,
      (∃ n, crate.toList = (stem crate).toList ++ (List.replicate n "::".toList).flatten) ∧
        ¬ "::".toList <:+ (stem crate).toList) ∧
    (∀ crate, (m.withCrate crate).generate.unresolved = m.generate.unresolved ∧
      (m.withCrate crate).generate.routeCount = m.generate.routeCount) ∧
    (∀ crate, (m.withCrate (crate ++ "::")).generate = (m.withCrate crate).generate) ∧
    ∀ (o : CommandLine.Generate) (crate crate' : String), o.runtimeCrate = some crate' →
      (o.adjusted (m.withCrate crate)).generate = (m.withCrate crate').generate := by
  refine ⟨m.uniform_source.exists_pieces, stem_spec, ?_, ?_, ?_⟩
  · intro crate
    exact ⟨m.unresolved_withCrate crate, rfl⟩
  · intro crate
    exact m.generate_withCrate_congr (stem_append_mark crate)
  · intro o crate crate' overrides
    rw [CommandLine.Generate.adjusted, overrides]
    rfl

namespace Relocated

def model : Model where
  behaviors := [⟨"app::Logging", "Logging", "logging", .generated, ["Logger<app::Logging>"]⟩]
  routes := [{ pattern := "status", handler := some "app::Status" }]

def options : CommandLine.Generate :=
  ⟨"model.yaml", none, some "app::runtime::", false⟩

end Relocated

open Relocated in
theorem runtime_crate_fills_gaps_relocated :
    OneLine "app::runtime::" ∧ options.runtimeCrate = some "app::runtime::" ∧
    ∃ first rest, (options.adjusted (model.withCrate "crate")).generate.source =
      "app::runtime".intercalate (first :: rest) := by
  have single : OneLine "app::runtime::" := by decide
  have overrides : options.runtimeCrate = some "app::runtime::" := rfl
  have path : stem "app::runtime::" = "app::runtime" := by decide
  obtain ⟨⟨first, rest, filled⟩, -, -, -, overridden⟩ := runtime_crate_fills_gaps model
  refine ⟨single, overrides, first, rest, ?_⟩
  rw [overridden options "crate" _ overrides, filled _ single, path]

end RouteWeaver
