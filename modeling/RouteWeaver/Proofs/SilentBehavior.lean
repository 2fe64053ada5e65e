import RouteWeaver.Proofs.Protocol
import RouteWeaver.Proofs.RouteBodies

namespace RouteWeaver

variable {σ S F : Type}

namespace Call

def reaches (accessor : String) : Call σ S F → Bool
  | hook _ a _ _ _ _ _ => a = accessor
  | action .. => false

theorem reaches_hook {accessor a owner : String} {phase : Phase} {caught : Option F}
    {given left : S × σ} {outcome : Except F Unit} :
    (hook phase a owner caught given left outcome).reaches accessor = decide (a = accessor) :=
  rfl

theorem reaches_action {accessor : String} {a : Action} {given left : σ} {outcome : Except F Unit} :
    (action a given left outcome : Call σ S F).reaches accessor = false :=
  rfl

end Call

namespace Step

def reaches (accessor : String) : Step → Bool
  | hook _ a _ => a = accessor
  | action _ => false

/-- The instance and the variable are used together or not at all, and an error-hook of the
instance finds a fault. -/
def Paired (accessor owner : String) (caught : Option F) : Step → Prop
  | hook phase a o => (a = accessor ↔ o = owner) ∧ (a = accessor → phase = .error → caught.isSome)
  | action _ => True

end Step

/-- The second frame shows what the first one shows, to all but the hooks of one instance. -/
structure Frame.Hides (accessor owner : String) (fr fr' : Frame σ S F) : Prop where
  world : fr'.world = fr.world
  calls : (fr'.calls.filter fun call => !call.reaches accessor) = fr.calls
  objects : ∀ o, o ≠ owner → fr'.objects.lookup o = fr.objects.lookup o
  made : (fr'.objects.lookup owner).isSome

/-- Both runs end in the same way. -/
structure Ending.Hides (accessor owner : String) (e e' : Ending σ S F) : Prop where
  result : e'.1 = e.1
  frames : e.2.Hides accessor owner e'.2

theorem Ending.Hides.exists_eq {accessor owner : String} {e e' : Ending σ S F}
    (hides : Ending.Hides accessor owner e e') :
    ∃ r fr fr', e = (r, fr) ∧ e' = (r, fr') ∧ fr.Hides accessor owner fr' :=
  ⟨e.1, e.2, e'.2, rfl, Prod.ext hides.result rfl, hides.frames⟩

namespace Frame.Hides

variable {accessor owner : String} {fr fr' : Frame σ S F}

theorem perform (hides : fr.Hides accessor owner fr') (a : Action) (act : Dispatch.Act σ F Unit) :
    Ending.Hides accessor owner (fr.perform a act) (fr'.perform a act) := by
  rcases ran : act.run.run fr.world with ⟨outcome, world⟩
  simp only [Frame.perform, hides.world, ran]
  refine ⟨rfl, ⟨rfl, ?_, hides.objects, hides.made⟩⟩
  simp [Call.reaches_action, hides.calls]

theorem performOn (hides : fr.Hides accessor owner fr') {phase : Phase} {a o : String}
    (other : a ≠ accessor) (apart : o ≠ owner) (caught : Option F)
    (act : Dispatch.Act (S × σ) F Unit) :
    Ending.Hides accessor owner (fr.performOn phase a o caught act)
      (fr'.performOn phase a o caught act) := by
  have same := hides.objects o apart
  cases found : fr.objects.lookup o with
  | none =>
    rw [found] at same
    simp only [Frame.performOn, found, same]
    exact ⟨rfl, hides⟩
  | some object =>
    rw [found] at same
    rcases ran : act.run.run (object, fr.world) with ⟨outcome, left⟩
    simp only [Frame.performOn, found, same, hides.world, ran]
    refine ⟨rfl, ⟨rfl, ?_, ?_, ?_⟩⟩
    · simp [Call.reaches_hook, hides.calls, other]
    · intro k distinct
      simp only [List.lookup_cons, hides.objects k distinct]
    · have key : (owner == o) = false := by simpa using Ne.symm apart
      simp only [List.lookup_cons, key]
      exact hides.made

/-- A hook that does nothing gives back the object and the world that it was given. -/
theorem performOn_silent (hides : fr.Hides accessor owner fr') (phase : Phase)
    (caught : Option F) :
    ∃ fr'', fr'.performOn phase accessor owner caught (pure ()) = (.ok (), fr'') ∧
      fr.Hides accessor owner fr'' := by
  obtain ⟨object, found⟩ := Option.isSome_iff_exists.mp hides.made
  have ran : (pure () : Dispatch.Act (S × σ) F Unit).run.run (object, fr'.world) =
      (.ok (), (object, fr'.world)) := rfl
  refine ⟨⟨(owner, object) :: fr'.objects, fr'.world, fr'.calls ++
    [.hook phase accessor owner caught (object, fr'.world) (object, fr'.world) (.ok ())]⟩, ?_, ?_⟩
  · simp only [Frame.performOn, found, ran, Leave.mapError_ok]
  refine ⟨hides.world, ?_, ?_, by simp⟩
  · simp [Call.reaches_hook, hides.calls]
  · intro k distinct
    have key : (k == owner) = false := by simpa using distinct
    simp only [List.lookup_cons, key]
    exact hides.objects k distinct

end Frame.Hides

namespace Step

variable {h : Host σ S F} {accessor owner : String} {caught : Option F} {fr fr' : Frame σ S F}

theorem run_hides (hides : fr.Hides accessor owner fr') {step : Step}
    (paired : step.Paired accessor owner caught) (other : ¬ step.reaches accessor) :
    Ending.Hides accessor owner (step.run h caught fr) (step.run h caught fr') := by
  cases step with
  | action a =>
    simp only [run]
    cases h.act? a with
    | none => exact ⟨rfl, hides⟩
    | some act => exact hides.perform a act
  | hook phase a o =>
    have elsewhere : a ≠ accessor := by simpa [reaches] using other
    have apart : o ≠ owner := fun same => elsewhere (paired.1.mpr same)
    simp only [run]
    cases h.hooks? a with
    | none => exact ⟨rfl, hides⟩
    | some hooks =>
      cases chosen : phase.hook? caught hooks with
      | none =>
        simp only [chosen]
        exact ⟨rfl, hides⟩
      | some act =>
        simp only [chosen]
        exact hides.performOn elsewhere apart caught act

theorem run_silent (hides : fr.Hides accessor owner fr') (silent : h.hooks? accessor = some {})
    {step : Step} (paired : step.Paired accessor owner caught) (own : step.reaches accessor) :
    ∃ fr'', step.run h caught fr' = (.ok (), fr'') ∧ fr.Hides accessor owner fr'' := by
  cases step with
  | action => cases own
  | hook phase a o =>
    obtain rfl : a = accessor := by simpa [reaches] using own
    obtain rfl : o = owner := paired.1.mp rfl
    have chosen : phase.hook? caught ({} : Dispatch.Hooks σ S F) = some (pure ()) := by
      cases phase with
      | before => rfl
      | after => rfl
      | error =>
        obtain ⟨f, hf⟩ := Option.isSome_iff_exists.mp (paired.2 rfl rfl)
        simp [Phase.hook?, hf]
    simp only [run, silent, chosen]
    exact hides.performOn_silent phase caught

theorem runAll_hides (silent : h.hooks? accessor = some {}) {steps : List Step}
    (paired : ∀ step ∈ steps, step.Paired accessor owner caught)
    (hides : fr.Hides accessor owner fr') :
    Ending.Hides accessor owner
      (runAll h caught fr (steps.filter fun step => !step.reaches accessor))
      (runAll h caught fr' steps) := by
  -- Steps of the instance are taken by the second run alone, all others by both.
  induction steps generalizing fr fr' with
  | nil => exact ⟨rfl, hides⟩
  | cons step rest ih =>
    rw [List.forall_mem_cons] at paired
    by_cases own : step.reaches accessor
    · obtain ⟨fr'', ran, hides'⟩ := run_silent hides silent paired.1 own
      rw [List.filter_cons_of_neg (by simpa using own), runAll, ran]
      exact ih paired.2 hides'
    · obtain ⟨r, left, left', ran, ran', frames⟩ :=
        (run_hides (h := h) hides paired.1 own).exists_eq
      rw [List.filter_cons_of_pos (by simpa using own), runAll, runAll, ran, ran']
      cases r with
      | ok => exact ih paired.2 frames
      | error e => exact ⟨rfl, frames⟩

end Step

namespace Behavior

variable {before after : List Behavior} {extra : Behavior} {index : Nat}

theorem accessorPath_eq_iff {b c : Behavior} :
    b.accessorPath = c.accessorPath ↔ b.identifier = c.identifier := by
  rw [accessorPath, accessorPath, String.append_left_inj, String.append_right_inj]

theorem hook_paired {b : Behavior} {phase : Phase} {caught : Option F}
    (received : phase = .error → caught.isSome) :
    (b.hook index phase).Paired extra.accessorPath (extra.stateVariable index) caught := by
  refine ⟨?_, fun _ => received⟩
  rw [accessorPath_eq_iff, stateVariable_inj]
  simp

theorem filter_hooks (fresh : extra.identifier ∉ (before ++ after).map (·.identifier))
    (phase : Phase) :
    ((before ++ extra :: after).map (·.hook index phase)).filter
        (fun step => !step.reaches extra.accessorPath) =
      (before ++ after).map (·.hook index phase) := by
  have others {bs : List Behavior} (within : ∀ b ∈ bs, b ∈ before ++ after) :
      (bs.map (·.hook index phase)).filter (fun step => !step.reaches extra.accessorPath) =
        bs.map (·.hook index phase) := by
    apply List.filter_eq_self.mpr
    intro step called
    obtain ⟨b, active, rfl⟩ := List.mem_map.mp called
    have apart : b.identifier ≠ extra.identifier := by
      intro same
      exact fresh (same ▸ List.mem_map_of_mem (within b active))
    simpa [hook, Step.reaches, accessorPath_eq_iff] using apart
  have own : (extra.hook index phase).reaches extra.accessorPath := by
    simp [hook, Step.reaches]
  rw [List.map_append, List.map_cons, List.filter_append, List.filter_cons_of_neg (by simp [own]),
    others fun b active => List.mem_append_left _ active,
    others fun b active => List.mem_append_right _ active, List.map_append]

theorem filter_hooks_reverse (fresh : extra.identifier ∉ (before ++ after).map (·.identifier))
    (phase : Phase) :
    ((before ++ extra :: after).reverse.map (·.hook index phase)).filter
        (fun step => !step.reaches extra.accessorPath) =
      (before ++ after).reverse.map (·.hook index phase) := by
  rw [List.map_reverse, List.filter_reverse, filter_hooks fresh, List.map_reverse]

end Behavior

theorem Frame.opened_hides (h : Host σ S F) (route : Route) (index : Nat)
    (before after : List Behavior) (extra : Behavior) (world : σ) :
    (opened h route index (before ++ after) world).Hides extra.accessorPath
      (extra.stateVariable index) (opened h route index (before ++ extra :: after) world) where
  world := rfl
  calls := rfl
  objects o apart := by
    have key : (o == extra.stateVariable index) = false := by simpa using apart
    simp [opened, List.lookup_append, List.lookup_cons, key]
  made := opened_isSome h route index world (by simp)

namespace Statement

variable {h : Host σ S F} {accessor owner : String} {fr fr' : Frame σ S F}

/-- A region and its sweep, with and without the steps of the instance. -/
theorem runAll_guarded_hides (silent : h.hooks? accessor = some {}) (outcome : String)
    {steps sweep : List Step} (paired : ∀ step ∈ steps, step.Paired accessor owner (none : Option F))
    (paired' : ∀ f : F, ∀ step ∈ sweep, step.Paired accessor owner (some f))
    (hides : fr.Hides accessor owner fr') :
    Ending.Hides accessor owner
      (runAll h [] fr [.guard outcome (steps.filter fun step => !step.reaches accessor),
        .recover outcome (sweep.filter fun step => !step.reaches accessor), .succeed])
      (runAll h [] fr' [.guard outcome steps, .recover outcome sweep, .succeed]) := by
  obtain ⟨r, left, left', ran, ran', frames⟩ := (Step.runAll_hides silent paired hides).exists_eq
  cases r with
  | ok =>
    rw [runAll_region_of_ok ran, runAll_region_of_ok ran']
    exact ⟨rfl, frames⟩
  | error e =>
    cases e with
    | undefined name =>
      rw [runAll_region_of_undefined ran, runAll_region_of_undefined ran']
      exact ⟨rfl, frames⟩
    | fault f =>
      obtain ⟨s, last, last', swept, swept', frames'⟩ :=
        (Step.runAll_hides silent (paired' f) frames).exists_eq
      rw [runAll_region_of_fault ran swept, runAll_region_of_fault ran' swept']
      exact ⟨rfl, frames'⟩

end Statement

/-- A behavior without hooks of its own may be put anywhere among others: the invocation has the
same result, leaves the same world, and calls all the others and the action in the same order, on
the same objects and with the same faults. -/
theorem silent_behavior_unnoticed {h : Host σ S F} (route : Route) (index : Nat)
    {before after : List Behavior} {extra : Behavior} (action : Action)
    (fresh : extra.identifier ∉ (before ++ after).map (·.identifier))
    (silent : h.hooks? extra.accessorPath = some {}) (world : σ) :
    let plain := Statement.invoke h world
      (route.weave index (before ++ after) action ++ [.succeed])
    let extended := Statement.invoke h world
      (route.weave index (before ++ extra :: after) action ++ [.succeed])
    extended.1 = plain.1 ∧ extended.2.world = plain.2.world ∧
      (extended.2.calls.filter fun call => !call.reaches extra.accessorPath) = plain.2.calls := by
  have opened := Frame.opened_hides h route index before after extra world
  have region : ∀ step ∈ (before ++ extra :: after).map (·.hook index .before) ++
      .action action :: (before ++ extra :: after).reverse.map (·.hook index .after),
      step.Paired extra.accessorPath (extra.stateVariable index) (none : Option F) := by
    intro step called
    rcases List.mem_append.mp called with entering | rest
    · obtain ⟨b, -, rfl⟩ := List.mem_map.mp entering
      exact Behavior.hook_paired (by simp)
    · rcases List.mem_cons.mp rest with rfl | leaving
      · trivial
      · obtain ⟨b, -, rfl⟩ := List.mem_map.mp leaving
        exact Behavior.hook_paired (by simp)
  have sweep : ∀ f : F, ∀ step ∈ (before ++ extra :: after).reverse.map (·.hook index .error),
      step.Paired extra.accessorPath (extra.stateVariable index) (some f) := by
    intro f step called
    obtain ⟨b, -, rfl⟩ := List.mem_map.mp called
    exact Behavior.hook_paired fun _ => rfl
  have both := Statement.runAll_guarded_hides silent (outcomeVariable index) region sweep opened
  rw [List.filter_append, List.filter_cons_of_pos (by rfl), Behavior.filter_hooks fresh,
    Behavior.filter_hooks_reverse fresh, Behavior.filter_hooks_reverse fresh] at both
  rw [← Route.invoke_weave, ← Route.invoke_weave] at both
  exact ⟨both.result, both.frames.world, both.frames.calls⟩

open Brittle in
theorem silent_behavior_unnoticed_audit :
    let audit := Behavior.ofType "app::Audit"
    let linked := { host with
      hooks? := fun a => if a = audit.accessorPath then some {} else host.hooks? a }
    audit.identifier ∉ [logging, timing].map (·.identifier) ∧
    linked.hooks? audit.accessorPath = some {} ∧
    let plain := Statement.invoke linked []
      (deploy.weave 0 [logging, timing] (.handle "app::Deploy") ++ [.succeed])
    let extended := Statement.invoke linked []
      (deploy.weave 0 [logging, audit, timing] (.handle "app::Deploy") ++ [.succeed])
    extended.1 = plain.1 ∧ extended.2.world = plain.2.world ∧
      (extended.2.calls.filter fun call => !call.reaches audit.accessorPath) = plain.2.calls := by
  intro audit linked
  have fresh : audit.identifier ∉ ([logging] ++ [timing]).map (·.identifier) := by decide +kernel
  have silent : linked.hooks? audit.accessorPath = some {} := by simp [linked]
  exact ⟨fresh, silent,
    silent_behavior_unnoticed deploy 0 (.handle "app::Deploy") fresh silent []⟩

end RouteWeaver
