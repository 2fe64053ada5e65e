import RouteWeaver.Proofs.Invocation
import RouteWeaver.Proofs.SpelledPrograms

namespace RouteWeaver

variable {σ S F : Type}

namespace Protocol

theorem protected_of_inTurn {index : Nat} {behaviors : List Behavior} {action : Action}
    {calls : List (Call σ S F)} {r : Except F Unit}
    (turn : InTurn (behaviors.map (·.hook index .before) ++ .action action ::
      behaviors.reverse.map (·.hook index .after)) calls r) :
    Protected index behaviors action calls r := by
  rcases turn.split with ⟨f, rfl, entering⟩ | ⟨before, rest, rfl, entering, turn⟩
  · exact .beforeFailed entering
  · cases turn with
    | failed same fault => exact .actionFailed entering same fault
    | next same fine leaving => exact .acted entering same fine leaving

end Protocol

namespace Route

variable {h : Host σ S F} {behaviors : List Behavior} {action : Action}

theorem hook_defined {index : Nat} {fr : Frame σ S F} {caught : Option F} {phase : Phase}
    (linked : ∀ b ∈ behaviors, (h.hooks? b.accessorPath).isSome)
    (made : ∀ b ∈ behaviors, (fr.objects.lookup (b.stateVariable index)).isSome)
    (received : phase = .error → caught.isSome) {step : Step}
    (called : step ∈ behaviors.map (·.hook index phase)) : step.Defined h caught fr := by
  obtain ⟨b, active, rfl⟩ := List.mem_map.mp called
  exact ⟨linked b active, received, made b active⟩

theorem weave_of_ne_nil (route : Route) (index : Nat) (action : Action)
    (nonempty : behaviors ≠ []) :
    route.weave index behaviors action =
      Behavior.makeStates behaviors route index ++ [
        .guard (outcomeVariable index)
          (behaviors.map (·.hook index .before) ++ .action action ::
            behaviors.reverse.map (·.hook index .after)),
        .recover (outcomeVariable index) (behaviors.reverse.map (·.hook index .error))] := by
  cases behaviors with
  | nil => exact absurd rfl nonempty
  | cons => rfl

/-- An action alone ends as it would in a region that nothing else is in, so that all invocations
are those of a region and its sweep on fresh objects. -/
theorem invoke_weave (h : Host σ S F) (route : Route) (index : Nat) (behaviors : List Behavior)
    (action : Action) (world : σ) :
    Statement.invoke h world (route.weave index behaviors action ++ [.succeed]) =
      Statement.runAll h [] (Frame.opened h route index behaviors world) [
        .guard (outcomeVariable index)
          (behaviors.map (·.hook index .before) ++ .action action ::
            behaviors.reverse.map (·.hook index .after)),
        .recover (outcomeVariable index) (behaviors.reverse.map (·.hook index .error)),
        .succeed] := by
  by_cases none : behaviors = []
  · subst none
    simp only [weave, Frame.opened, Statement.invoke, Statement.runAll, Step.runAll, List.map_nil,
      List.reverse_nil, List.nil_append, List.cons_append]
    rcases (Step.action action).run h .none ⟨[], world, []⟩ with ⟨r, fr⟩
    cases r with
    | ok => simp
    | error e =>
      cases e with
      | fault f => simp
      | undefined name => rfl
  · rw [weave_of_ne_nil route index action none, List.append_assoc, Statement.invoke_makeStates]
    rfl

theorem run_sweep {index : Nat} {fr : Frame σ S F} (f : F)
    (linked : ∀ b ∈ behaviors, (h.hooks? b.accessorPath).isSome)
    (made : ∀ b ∈ behaviors, (fr.objects.lookup (b.stateVariable index)).isSome) :
    ∃ sweep r fr',
      Step.runAll h (some f) fr (behaviors.reverse.map (·.hook index .error)) =
        (r.mapError .fault, fr') ∧
      Protocol.Swept index behaviors f sweep r ∧ fr.Extends h fr' sweep := by
  have sweeps : ∀ step ∈ behaviors.reverse.map (·.hook index .error),
      step.Defined h (some f) fr := by
    intro step called
    rw [List.map_reverse, List.mem_reverse] at called
    exact hook_defined linked made (fun _ => rfl) called
  obtain ⟨sweep, r, fr', ran, turn, caughtAre, extended⟩ := Step.runAll_defined sweeps
  refine ⟨sweep, r, fr', ran, ⟨turn, fun call made => ?_⟩, extended⟩
  obtain ⟨b, -, same⟩ := List.mem_map.mp
    (turn.steps_prefix.subset (List.mem_map_of_mem made))
  rw [caughtAre call made, ← same]
  rfl

/-- The region is run on the fresh objects, and the sweep on what the region left of them. -/
theorem invoke_woven (route : Route) (index : Nat)
    (linked : ∀ b ∈ behaviors, (h.hooks? b.accessorPath).isSome)
    (defined : (h.act? action).isSome) (world : σ) :
    ∃ calls r fr,
      Statement.invoke h world (route.weave index behaviors action ++ [.succeed]) =
        (r.mapError .fault, fr) ∧
      Protocol index behaviors action calls r ∧
      (Frame.opened h route index behaviors world).Extends h fr calls := by
  have made : ∀ b ∈ behaviors, ((Frame.opened h route index behaviors world).objects.lookup
      (b.stateVariable index)).isSome :=
    fun b active => Frame.opened_isSome h route index world active
  have acts : ∀ step ∈ behaviors.map (·.hook index .before) ++ .action action ::
      behaviors.reverse.map (·.hook index .after),
      step.Defined h none (Frame.opened h route index behaviors world) := by
    intro step member
    rw [List.mem_append, List.mem_cons, List.map_reverse, List.mem_reverse] at member
    rcases member with called | rfl | called
    · exact hook_defined linked made (by simp) called
    · exact defined
    · exact hook_defined linked made (by simp) called
  obtain ⟨calls, r, fr, ran, turn, -, extended⟩ := Step.runAll_defined acts
  have region := Protocol.protected_of_inTurn turn
  rw [invoke_weave]
  cases r with
  | ok => exact ⟨calls, .ok (), fr, Statement.runAll_region_of_ok ran, .succeeded region, extended⟩
  | error f =>
    have made' : ∀ b ∈ behaviors, (fr.objects.lookup (b.stateVariable index)).isSome :=
      fun b active => extended.lookup_isSome (made b active)
    obtain ⟨sweep, r', fr', ran', swept, extended'⟩ := run_sweep f linked made'
    rw [Statement.runAll_region_of_fault ran ran']
    have whole := extended.trans extended'
    cases r' with
    | ok => exact ⟨calls ++ sweep, .error f, fr', rfl, .failed region swept, whole⟩
    | error g => exact ⟨calls ++ sweep, .error g, fr', rfl, .replaced region swept, whole⟩

end Route

namespace Brittle

def host : Host (List String) (List String) String where
  make type _ := [type]
  hooks?
    | "behaviors::logging()" => some { before := .change fun (o, w) => (o, w ++ ["entered"]) }
    | "behaviors::timing()" => some { onError := fun _ => throw "journal closed" }
    | _ => none
  handler? _ := some (throw "target unreachable")
  lines? _ := none
  raise := Dispatch.Fault.message

def logging : Behavior := ⟨"app::Logging", "Logging", "logging", .generated, []⟩

def timing : Behavior := ⟨"app::Timing", "Timing", "timing", .custom "app::TimingState", []⟩

def deploy : Route := { pattern := "deploy" }

def body : List Statement :=
  deploy.weave 0 [logging, timing] (.handle "app::Deploy") ++ [.succeed]

end Brittle

end RouteWeaver
