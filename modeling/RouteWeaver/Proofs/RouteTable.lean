import Mathlib.Data.List.Nodup
import RouteWeaver.Proofs.Escaping
import RouteWeaver.Proofs.RouteBodies
import RouteWeaver.Proofs.SpelledPrograms

namespace RouteWeaver

open Text

namespace NamedFunction

/-- All that a function holds is about the route and its index: the text of literals, the names of
variables and the hooks with their order. -/
structure Serves (f : NamedFunction) (m : Model) (r : Route) (i : Nat) : Prop where
  name : f.name = "route_" ++ toString i
  commands : ∀ object ∈ f.objects, StandsFor object.command r.pattern
  handlers : ∀ object ∈ f.objects, StandsFor object.handler (r.handlerLabel i)
  owners : f.objects.map (·.owner) = (m.behaviorsFor r).map (·.stateVariable i)
  outcomes : ∀ outcome ∈ f.outcomes, outcome = outcomeVariable i
  hooks : f.steps = Behavior.hooksAround (m.behaviorsFor r) i r.action
  missing : (∃ text, .action (.missingHandler text) ∈ f.steps) ↔ r.handler? = none
  patterns : ∀ text, .action (.missingHandler text) ∈ f.steps → StandsFor text r.pattern

end NamedFunction

namespace Route

theorem action_eq_missingHandler_iff {r : Route} {text : String} :
    .missingHandler text = r.action ↔ r.handler? = none ∧ text = escapeText r.pattern := by
  rw [action]
  cases r.handler? <;> simp

theorem serves_function (m : Model) (r : Route) (i : Nat) :
    (r.function m i).named.Serves m r i where
  name := rfl
  commands object made := by
    rw [objects_function] at made
    obtain ⟨b, -, rfl⟩ := List.mem_map.mp made
    exact standsFor_escapeText r.pattern
  handlers object made := by
    rw [objects_function] at made
    obtain ⟨b, -, rfl⟩ := List.mem_map.mp made
    exact standsFor_escapeText (r.handlerLabel i)
  owners := by
    rw [objects_function, List.map_map]
    rfl
  outcomes _ kept := r.eq_outcomeVariable m i kept
  hooks := r.steps_function m i
  missing := by
    simp [steps_function, Behavior.action_mem_hooksAround, action_eq_missingHandler_iff]
  patterns text performed := by
    rw [steps_function, Behavior.action_mem_hooksAround, action_eq_missingHandler_iff] at performed
    rw [performed.2]
    exact standsFor_escapeText r.pattern

end Route

namespace Model

variable (m : Model)

theorem index_of_getElem?_routes {i : Nat} {f : RouteFunction}
    (found : m.program.routes[i]? = some f) : f.index = i := by
  simp only [program, List.getElem?_mapIdx, Option.map_eq_some_iff] at found
  obtain ⟨r, -, rfl⟩ := found
  rfl

theorem find?_index_routes (index : Nat) :
    m.program.routes.find? (·.index = index) = m.program.routes[index]? := by
  cases found : m.program.routes[index]? with
  | none =>
    rw [List.find?_eq_none]
    intro f emitted same
    obtain ⟨i, there⟩ := List.mem_iff_getElem?.mp emitted
    obtain rfl : i = index := (m.index_of_getElem?_routes there).symm.trans (of_decide_eq_true same)
    rw [found] at there
    contradiction
  | some f =>
    obtain ⟨bound, there⟩ := List.getElem?_eq_some_iff.mp found
    rw [List.find?_eq_some_iff_getElem]
    refine ⟨decide_eq_true (m.index_of_getElem?_routes found), index, bound, there,
      fun i earlier => ?_⟩
    have other := m.index_of_getElem?_routes
      (List.getElem?_eq_getElem (Nat.lt_trans earlier bound))
    simp [other, Nat.ne_of_lt earlier]

theorem nodup_name_functions : (m.program.listing.functions.map (·.name)).Nodup := by
  have names : m.program.listing.functions.map (·.name) =
      (List.range m.routes.length).map fun i => (RouteFunction.mk i [] []).name := by
    refine List.ext_getElem (by simp [program, Program.listing]) fun i _ _ => ?_
    simp only [program, Program.listing, List.getElem_map, List.getElem_mapIdx, List.getElem_range]
    exact RouteFunction.name_inj.mpr rfl
  rw [names]
  exact List.Nodup.map (fun _ _ => RouteFunction.name_inj.mp) List.nodup_range

theorem getElem?_arms_listing (i : Nat) :
    m.program.listing.arms[i]? = m.routes[i]?.map fun r => (i, (r.function m i).name) := by
  simp only [program, Program.listing, List.getElem?_map, List.getElem?_mapIdx, Option.map_map]
  rfl

theorem target?_listing (index : Nat) :
    m.program.listing.target? index = m.routes[index]?.map fun r => (r.function m index).name := by
  have first : (m.program.routes.map fun f => (f.index, f.name)).find? (·.1 = index) =
      m.program.routes[index]?.map fun f => (f.index, f.name) := by
    rw [List.find?_map, ← find?_index_routes]
    rfl
  rw [Listing.target?, Program.listing, first, Option.map_map, program, List.getElem?_mapIdx,
    Option.map_map]
  rfl

theorem function?_listing (index : Nat) (r : Route) :
    m.program.listing.function? (r.function m index).name =
      m.routes[index]?.map fun r => (r.function m index).named := by
  have named : m.program.routes.find? (·.name = (r.function m index).name) =
      m.program.routes[index]? := by
    rw [← find?_index_routes]
    simp only [RouteFunction.name_inj, Route.function]
  have first : (m.program.routes.map RouteFunction.named).find?
      (·.name = (r.function m index).name) =
      (m.program.routes.find? (·.name = (r.function m index).name)).map RouteFunction.named := by
    rw [List.find?_map]
    rfl
  rw [Listing.function?, Program.listing, first, named, program, List.getElem?_mapIdx,
    Option.map_map]
  rfl

variable {m}

theorem target?_of_route {index : Nat} {r : Route} (listed : m.routes[index]? = some r) :
    m.program.listing.target? index = some (r.function m index).named.name := by
  rw [target?_listing, listed, Option.map_some]
  rfl

theorem function?_of_route {index : Nat} {r : Route} (listed : m.routes[index]? = some r) :
    m.program.listing.function? (r.function m index).named.name =
      some (r.function m index).named := by
  have found := m.function?_listing index r
  rwa [listed, Option.map_some] at found

theorem dispatch_of_route {σ S F : Type} (h : Host σ S F) {index : Nat} {r : Route}
    (listed : m.routes[index]? = some r) (world : σ) :
    let ended := Statement.invoke h world (r.function m index).body
    m.program.listing.dispatch h index world = (ended.1, ended.2.world) := by
  rw [Listing.dispatch, target?_of_route listed]
  simp only [function?_of_route listed]
  rfl

end Model

/-- A source is spelled out of as many patterns, functions and arms as there are routes, and the one
of every index is about the route of that index. An index without route has no arm of its own. -/
theorem route_tables_aligned (m : Model) :
    let e := m.program.listing
    e.Spelled m.config m.generate.source ∧
    e.patterns.length = m.routes.length ∧
    e.functions.length = m.routes.length ∧
    e.arms.length = m.routes.length ∧
    (e.functions.map (·.name)).Nodup ∧
    (∀ (i : Nat) (r : Route), m.routes[i]? = some r →
      (m.behaviorsFor r).Sublist m.behaviors ∧
      ∃ literal f, e.patterns[i]? = some literal ∧ StandsFor literal r.pattern ∧
        e.functions[i]? = some f ∧ f.Serves m r i ∧
        e.arms[i]? = some (i, f.name) ∧ e.target? i = some f.name ∧ e.function? f.name = some f) ∧
    ∀ index, m.routes.length ≤ index → e.target? index = none := by
  refine ⟨m.spells_source, by simp [Model.program, Program.listing],
    by simp [Model.program, Program.listing], by simp [Model.program, Program.listing],
    m.nodup_name_functions, fun i r listed => ?_, fun index beyond => ?_⟩
  · have pattern : m.program.listing.patterns[i]? = some (escapeText r.pattern) := by
      simp [Model.program, Program.listing, listed]
    have emitted : m.program.listing.functions[i]? = some (r.function m i).named := by
      rw [m.getElem?_functions_listing, listed, Option.map_some]
    have arm : m.program.listing.arms[i]? = some (i, (r.function m i).name) := by
      rw [m.getElem?_arms_listing, listed, Option.map_some]
    exact ⟨m.behaviorsFor_sublist r, _, _, pattern, standsFor_escapeText r.pattern, emitted,
      r.serves_function m i, arm, Model.target?_of_route listed, Model.function?_of_route listed⟩
  · rw [m.target?_listing, List.getElem?_eq_none beyond, Option.map_none]

theorem route_tables_aligned_quoting :
    let say : Route := { pattern := "say \"hi\"\n", handler := some " " }
    let m : Model := { behaviors := [.ofType "app::Logging"], routes := [{ pattern := "" }, say] }
    let e := m.program.listing
    e.Spelled m.config m.generate.source ∧
    m.routes[1]? = some say ∧
    (∃ literal f, e.patterns[1]? = some literal ∧ StandsFor literal "say \"hi\"\n" ∧
      e.functions[1]? = some f ∧ f.Serves m say 1 ∧
      e.arms[1]? = some (1, f.name) ∧ e.target? 1 = some f.name ∧ e.function? f.name = some f) ∧
    m.routes.length ≤ 2 ∧ e.target? 2 = none := by
  intro say m e
  obtain ⟨spelled, -, -, -, -, aligned, unknown⟩ := route_tables_aligned m
  have listed : m.routes[1]? = some say := rfl
  have beyond : m.routes.length ≤ 2 := Nat.le_refl 2
  exact ⟨spelled, listed, (aligned 1 say listed).2, beyond, unknown 2 beyond⟩

end RouteWeaver
