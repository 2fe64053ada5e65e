import RouteWeaver.Proofs.RouteBodies
import RouteWeaver.Proofs.ServiceBinding
import RouteWeaver.Proofs.SpelledPrograms

namespace RouteWeaver

open Text

/-- The object is that of the behavior, and its type is either among the aliases or one that the
behavior has brought along. -/
def Listing.Declares (e : Listing) (i : Nat) (b : Behavior) (object : StateObject) : Prop :=
  object.owner = b.stateVariable i ∧
    match b.state with
    | .generated => object.type ∈ e.aliasPaths
    | .custom type => object.type = trimmed type

namespace Behavior

theorem accessorPath_inj {b c : Behavior} :
    b.accessorPath = c.accessorPath ↔ b.identifier = c.identifier := by
  rw [accessorPath, accessorPath, String.append_left_inj, String.append_right_inj]

end Behavior

namespace Model

variable {m : Model}

theorem behaviorPaths_listing :
    m.program.listing.behaviorPaths = m.behaviors.map (·.accessorPath) := by
  rw [Listing.behaviorPaths, Program.listing, program, List.map_map]
  rfl

/-- A behavior without a state type of its own has the alias that its type names. -/
theorem stateType_mem_aliasPaths {b : Behavior} (registered : b ∈ m.behaviors)
    (generated : b.state = .generated) : b.stateType ∈ m.program.listing.aliasPaths := by
  have kept : b ∈ m.behaviors.filter fun b => !b.hasCustomState :=
    List.mem_filter.mpr ⟨registered, by simp [Behavior.hasCustomState, generated]⟩
  rw [Listing.aliasPaths, Program.listing, program, Behavior.stateAliases, List.map_map]
  refine List.mem_map.mpr ⟨b, kept, ?_⟩
  simp [Behavior.stateType, generated, StateAlias.path, Behavior.stateAlias]

theorem nodup_behaviorPaths (distinct : (m.behaviors.map (·.identifier)).Nodup) :
    m.program.listing.behaviorPaths.Nodup := by
  rw [behaviorPaths_listing]
  refine List.Nodup.map_on (fun b hb c hc same => ?_) distinct.of_map
  exact List.inj_on_of_nodup_map distinct hb hc (Behavior.accessorPath_inj.mp same)

theorem servicePaths_listing : m.program.listing.servicePaths =
    ((Service.shared m.services).map Service.Shared.storage).map fun name =>
      "services::" ++ name ++ "()" := by
  rw [Listing.servicePaths, Program.listing, program, Service.holders, List.map_map, List.map_map]
  rfl

theorem accessor_mem_servicePaths {s : Service} (registered : s ∈ m.services) :
    s.accessor ∈ m.program.listing.servicePaths := by
  rw [servicePaths_listing, Service.accessor]
  refine List.mem_map_of_mem (f := fun name => "services::" ++ name ++ "()") ?_
  exact ((Service.grouped_shared m.services).storage_mem_iff _).mpr (List.mem_map_of_mem registered)

theorem nodup_servicePaths : m.program.listing.servicePaths.Nodup := by
  rw [servicePaths_listing]
  refine List.Nodup.map (fun name name' same => ?_) (Service.grouped_shared m.services).distinct
  simpa using same

theorem count_owner_eq_one (distinct : (m.behaviors.map (·.identifier)).Nodup) (r : Route)
    (i : Nat) {b : Behavior} (active : b ∈ m.behaviorsFor r) :
    ((r.function m i).named.objects.map (·.owner)).count (b.stateVariable i) = 1 := by
  have identifiers := distinct.sublist ((m.behaviorsFor_sublist r).map _)
  have owners : ((m.behaviorsFor r).map (·.stateVariable i)).Nodup := by
    refine List.Nodup.map_on (fun b hb c hc same => ?_) identifiers.of_map
    exact List.inj_on_of_nodup_map identifiers hb hc (Behavior.stateVariable_inj.mp same).2
  rw [Route.objects_function, List.map_map]
  exact List.count_eq_one_of_mem owners (List.mem_map_of_mem active)

/-- The states come before the region, each as often as its behavior is active. -/
theorem body_eq_objects_append (r : Route) (i : Nat) :
    ∃ rest, (r.function m i).named.body = (r.function m i).named.objects.map .makeState ++ rest ∧
      ∀ s ∈ rest, s.object? = none := by
  obtain ⟨rest, body, stateless, -⟩ := r.body_function m i
  refine ⟨rest, ?_, stateless⟩
  rw [Route.objects_function, RouteFunction.named, body, Behavior.makeStates, List.map_map]
  rfl

theorem accessor_mem_behaviorPaths {f : NamedFunction} (listed : f ∈ m.program.listing.functions)
    {phase : Phase} {accessor owner : String} (called : .hook phase accessor owner ∈ f.steps) :
    accessor ∈ m.program.listing.behaviorPaths := by
  obtain ⟨i, r, -, rfl⟩ := mem_functions_listing listed
  rw [Route.steps_function] at called
  obtain ⟨b, active, rfl, -⟩ := Behavior.hook_of_mem_hooksAround called
  rw [behaviorPaths_listing]
  exact List.mem_map_of_mem ((m.behaviorsFor_sublist r).subset active)

theorem declares_stateObject {b : Behavior} (registered : b ∈ m.behaviors) (r : Route) (i : Nat) :
    m.program.listing.Declares i b (b.stateObject r i) := by
  refine ⟨rfl, ?_⟩
  cases state : b.state with
  | generated => exact stateType_mem_aliasPaths registered state
  | custom type => simp only [Behavior.stateObject, Behavior.stateType, state]

theorem declares_objects (r : Route) (i : Nat) :
    List.Forall₂ (m.program.listing.Declares i) (m.behaviorsFor r)
      (r.function m i).named.objects := by
  rw [Route.objects_function, List.forall₂_map_right_iff, List.forall₂_same]
  exact fun b active => declares_stateObject ((m.behaviorsFor_sublist r).subset active) r i

theorem getElem?_behaviors_listing (j : Nat) :
    m.program.listing.behaviors[j]? = m.behaviors[j]?.map (·.holder m.ruleTable) :=
  List.getElem?_map

theorem expression_mem_servicePaths {b : Behavior} {answer : Resolution}
    (chosen : answer ∈ b.arguments m.ruleTable) (service : answer.rule = .service) :
    answer.expression ∈ m.program.listing.servicePaths := by
  obtain ⟨request, -, rfl⟩ := List.mem_map.mp chosen
  obtain ⟨s, found, expression⟩ := RuleTable.resolve_service service
  rw [ruleTable, expression]
  exact accessor_mem_servicePaths (RuleTable.mem_of_findService found)

theorem hook_pairs (distinct : (m.behaviors.map (·.identifier)).Nodup) (r : Route) (i : Nat)
    {phase : Phase} {accessor owner : String}
    (called : .hook phase accessor owner ∈ (r.function m i).named.steps) :
    ∃ b ∈ m.behaviorsFor r, accessor = b.accessorPath ∧ owner = b.stateVariable i ∧
      ∀ c ∈ m.behaviors, (accessor = c.accessorPath → c = b) ∧
        ∀ j, owner = c.stateVariable j → c = b ∧ j = i := by
  rw [Route.steps_function] at called
  obtain ⟨b, active, rfl, rfl⟩ := Behavior.hook_of_mem_hooksAround called
  have registered := (m.behaviorsFor_sublist r).subset active
  have determined {c : Behavior} (hc : c ∈ m.behaviors) (same : b.identifier = c.identifier) :
      c = b :=
    (List.inj_on_of_nodup_map distinct registered hc same).symm
  refine ⟨b, active, rfl, rfl, fun c hc => ⟨fun same => ?_, fun j same => ?_⟩⟩
  · exact determined hc (Behavior.accessorPath_inj.mp same)
  · obtain ⟨index, identifiers⟩ := Behavior.stateVariable_inj.mp same
    exact ⟨determined hc identifiers, index.symm⟩

end Model

/-- What hooks, states and constructors of a source name is there, apart from the state type that a
behavior has brought along. When identifiers are distinct, every accessor is there once, every
variable is declared once before anything is run, and no hook mixes up behaviors or routes. -/
theorem references_resolved (m : Model) :
    let e := m.program.listing
    e.Spelled m.config m.generate.source ∧
    (∀ f ∈ e.functions, ∀ phase accessor owner,
      .hook phase accessor owner ∈ f.steps → accessor ∈ e.behaviorPaths) ∧
    (e.functions.length = m.routes.length ∧
      ∀ (i : Nat) (r : Route), m.routes[i]? = some r → ∃ f, e.functions[i]? = some f ∧
        List.Forall₂ (e.Declares i) (m.behaviorsFor r) f.objects) ∧
    (e.behaviors.length = m.behaviors.length ∧
      ∀ (j : Nat) (b : Behavior), m.behaviors[j]? = some b → ∃ holder,
        e.behaviors[j]? = some holder ∧
        holder.construction =
          .new (trimmed b.type) ((b.arguments m.ruleTable).map (·.expression)) ∧
        ∀ answer ∈ b.arguments m.ruleTable,
          answer.rule = .service → answer.expression ∈ e.servicePaths) ∧
    ((m.behaviors.map (·.identifier)).Nodup →
      e.behaviorPaths.Nodup ∧ e.servicePaths.Nodup ∧
      ∀ (i : Nat) (r : Route), m.routes[i]? = some r →
        ∃ f, e.functions[i]? = some f ∧
          (∀ b ∈ m.behaviorsFor r, (f.objects.map (·.owner)).count (b.stateVariable i) = 1) ∧
          (∃ rest, f.body = f.objects.map .makeState ++ rest ∧ ∀ s ∈ rest, s.object? = none) ∧
          ∀ phase accessor owner, .hook phase accessor owner ∈ f.steps →
            ∃ b ∈ m.behaviorsFor r, accessor = b.accessorPath ∧ owner = b.stateVariable i ∧
              ∀ c ∈ m.behaviors, (accessor = c.accessorPath → c = b) ∧
                ∀ j, owner = c.stateVariable j → c = b ∧ j = i) := by
  have function {i : Nat} {r : Route} (found : m.routes[i]? = some r) :
      m.program.listing.functions[i]? = some (r.function m i).named := by
    rw [m.getElem?_functions_listing, found, Option.map_some]
  refine ⟨m.spells_source, fun f listed _ _ _ => Model.accessor_mem_behaviorPaths listed,
    ⟨by simp [Model.program, Program.listing],
      fun i r found => ⟨_, function found, Model.declares_objects r i⟩⟩,
    ⟨by simp [Model.program, Program.listing], fun j b found => ?_⟩, fun distinct => ?_⟩
  · have held : m.program.listing.behaviors[j]? = some (b.holder m.ruleTable) := by
      rw [Model.getElem?_behaviors_listing, found, Option.map_some]
    exact ⟨_, held, rfl, fun answer => Model.expression_mem_servicePaths⟩
  · refine ⟨Model.nodup_behaviorPaths distinct, Model.nodup_servicePaths, fun i r found => ?_⟩
    exact ⟨_, function found, fun b => Model.count_owner_eq_one distinct r i,
      Model.body_eq_objects_append r i, fun _ _ _ => Model.hook_pairs distinct r i⟩

namespace Linked

def logging : Behavior := ⟨"app::Logging", "Logging", "logging", .generated, ["dyn app::Clock"]⟩

def timing : Behavior := ⟨"app::Timing", "Timing", "timing", .custom "app::TimingState", []⟩

def deploy : Route := { pattern := "deploy", behaviors := some ["Timing", "Logging"] }

def model : Model where
  behaviors := [timing, logging]
  services := [⟨"dyn app::Clock", "app::SystemClock", "system_clock"⟩]
  routes := [{ pattern := "version", behaviors := some [] }, deploy]

end Linked

open Linked in
theorem references_resolved_deploy :
    let e := model.program.listing
    e.Spelled model.config model.generate.source ∧
    (model.behaviors.map (·.identifier)).Nodup ∧
    model.behaviors[1]? = some logging ∧ model.routes[1]? = some deploy ∧
    (∃ holder, e.behaviors[1]? = some holder ∧
      holder.construction = .new "app::Logging" ["services::system_clock()"] ∧
      "services::system_clock()" ∈ e.servicePaths) ∧
    ∃ f, e.functions[1]? = some f ∧
      List.Forall₂ (e.Declares 1) [timing, logging] f.objects ∧
      (∀ b ∈ [timing, logging], (f.objects.map (·.owner)).count (b.stateVariable 1) = 1) ∧
      .hook .error "behaviors::timing()" "__state_1_timing" ∈ f.steps ∧
      "behaviors::timing()" ∈ e.behaviorPaths ∧
      ∀ c ∈ model.behaviors, ∀ j, "__state_1_timing" = c.stateVariable j → c = timing ∧ j = 1 := by
  intro e
  obtain ⟨spelled, accessors, ⟨-, objects⟩, ⟨-, expressions⟩, distinctly⟩ :=
    references_resolved model
  have distinct : (model.behaviors.map (·.identifier)).Nodup := by decide
  have registered : model.behaviors[1]? = some logging := rfl
  have listed : model.routes[1]? = some deploy := rfl
  have arguments : logging.arguments model.ruleTable = [⟨"services::system_clock()", .service⟩] := by
    decide +kernel
  have active : model.behaviorsFor deploy = [timing, logging] := by decide +kernel
  obtain ⟨holder, held, made, services⟩ := expressions 1 logging registered
  obtain ⟨-, -, aligned⟩ := distinctly distinct
  obtain ⟨f, emitted, once, -, paired⟩ := aligned 1 deploy listed
  obtain ⟨f', emitted', declared⟩ := objects 1 deploy listed
  obtain rfl : f = f' := Option.some.inj (emitted.symm.trans emitted')
  rw [arguments] at made services
  rw [active] at once declared
  have called : .hook .error "behaviors::timing()" "__state_1_timing" ∈ f.steps := by
    have same : f = (deploy.function model 1).named :=
      Option.some.inj (emitted.symm.trans (model.getElem?_functions_listing 1))
    rw [same, Route.steps_function, active]
    decide
  obtain ⟨b, registered', -, owner, pairs⟩ := paired _ _ _ called
  have b_eq : b = timing := by
    rw [active] at registered'
    rcases List.mem_cons.mp registered' with same | registered'
    · exact same
    · obtain rfl := List.mem_singleton.mp registered'
      exact absurd owner (by decide)
  refine ⟨spelled, distinct, registered, listed,
    ⟨holder, held, made, services _ (List.mem_singleton_self _) rfl⟩, f, emitted, declared, once,
    called, accessors f (List.mem_of_getElem? emitted) _ _ _ called, fun c hc j same => ?_⟩
  exact b_eq ▸ (pairs c hc).2 j same

namespace Dangling

def model : Model where
  behaviors := [⟨"app::Audit", "Audit", "audit", .custom "behaviors::GhostState", []⟩]
  routes := [{ pattern := "deploy" }]

end Dangling

open Dangling in
theorem ghost_state_dangles :
    (model.behaviors.map (·.identifier)).Nodup ∧
    model.program.listing.Spelled model.config model.generate.source ∧
    ∃ f ∈ model.program.listing.functions, ∃ object ∈ f.objects,
      object.type = "behaviors::" ++ "GhostState" ∧
        object.type ∉ model.program.listing.aliasPaths := by
  have distinct : (model.behaviors.map (·.identifier)).Nodup := by decide
  refine ⟨distinct, model.spells_source, ?_⟩
  decide +kernel

end RouteWeaver
