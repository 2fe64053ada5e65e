import RouteWeaver.Program.Protocol

/-!
Runs of woven routes. Steps whose names are all defined make their calls in turn, and every call
starts from what the calls before it left. The run of a woven route is put together from these
runs of steps, and follows the protocol.
-/

namespace RouteWeaver

open Dispatch (Act)

variable {σ S F : Type}

namespace Leave

@[simp]
theorem mapError_ok (u : Unit) : (Except.ok u : Except F Unit).mapError Leave.fault = .ok u :=
  rfl

@[simp]
theorem mapError_error (f : F) :
    (Except.error f : Except F Unit).mapError Leave.fault = .error (.fault f) :=
  rfl

end Leave

theorem Threaded.append {α : Type} {a b c : α} {xs ys : List (α × α)}
    (first : Threaded a xs b) (second : Threaded b ys c) : Threaded a (xs ++ ys) c := by
  induction first with
  | nil => exact second
  | cons _ ih => exact .cons (ih second)

namespace InTurn

theorem steps_prefix {steps : List Step} {calls : List (Call σ S F)} {r : Except F Unit}
    (turn : InTurn steps calls r) : calls.map Call.step <+: steps := by
  induction turn with
  | done => exact List.nil_prefix
  | failed same _ => simp [same]
  | next same _ _ ih =>
    obtain ⟨rest, hrest⟩ := ih
    exact ⟨rest, by simp [same, ← hrest]⟩

theorem ends_with_fault {steps : List Step} {calls : List (Call σ S F)} {r : Except F Unit}
    (turn : InTurn steps calls r) {call : Call σ S F} (made : call ∈ calls) {f : F}
    (fails : call.outcome = .error f) : r = .error f := by
  induction turn with
  | done => cases made
  | failed _ fault =>
    cases List.mem_singleton.mp made
    exact fault.symm.trans fails
  | next _ fine _ ih =>
    -- A call that is followed by others did not fail.
    rcases List.mem_cons.mp made with rfl | made
    · cases fine.symm.trans fails
    · exact ih made

/-- Either the first part fails, or all of it is called and then the second part in turn. -/
theorem split {first second : List Step} {calls : List (Call σ S F)} {r : Except F Unit}
    (turn : InTurn (first ++ second) calls r) :
    (∃ f, r = .error f ∧ InTurn first calls (.error f)) ∨
      ∃ before after, calls = before ++ after ∧ InTurn first before (.ok ()) ∧
        InTurn second after r := by
  induction first generalizing calls with
  | nil => exact .inr ⟨[], calls, rfl, .done, turn⟩
  | cons step rest ih =>
    cases turn with
    | failed same fault => exact .inl ⟨_, rfl, .failed same fault⟩
    | next same fine turn =>
      rcases ih turn with ⟨f, hr, turn⟩ | ⟨before, after, hc, turn, second⟩
      · exact .inl ⟨f, hr, .next same fine turn⟩
      · exact .inr ⟨_ :: before, after, by rw [hc, List.cons_append], .next same fine turn, second⟩

end InTurn

/-- The calls by which a run leads from one frame to another. -/
structure Frame.Extends (h : Host σ S F) (fr fr' : Frame σ S F) (calls : List (Call σ S F)) :
    Prop where
  appended : fr'.calls = fr.calls ++ calls
  worlds : Threaded fr.world (calls.map Call.worlds) fr'.world
  genuine : ∀ call ∈ calls, call.Genuine h
  objects : ∀ owner object, fr.objects.lookup owner = some object →
    ∃ object', fr'.objects.lookup owner = some object' ∧
      Threaded object (calls.filterMap (·.objects? owner)) object'

namespace Frame.Extends

variable {h : Host σ S F} {fr fr' fr'' : Frame σ S F} {calls calls' : List (Call σ S F)}

theorem refl (h : Host σ S F) (fr : Frame σ S F) : fr.Extends h fr [] where
  appended := (List.append_nil _).symm
  worlds := .nil
  genuine := by simp
  objects _ object found := ⟨object, found, .nil⟩

theorem trans (first : fr.Extends h fr' calls) (second : fr'.Extends h fr'' calls') :
    fr.Extends h fr'' (calls ++ calls') where
  appended := by rw [second.appended, first.appended, List.append_assoc]
  worlds := by
    rw [List.map_append]
    exact first.worlds.append second.worlds
  genuine call made := (List.mem_append.mp made).elim (first.genuine call) (second.genuine call)
  objects owner object found := by
    obtain ⟨object', found', threaded⟩ := first.objects owner object found
    obtain ⟨object'', found'', threaded'⟩ := second.objects owner object' found'
    refine ⟨object'', found'', ?_⟩
    rw [List.filterMap_append]
    exact threaded.append threaded'

theorem lookup_isSome (extended : fr.Extends h fr' calls) {owner : String}
    (found : (fr.objects.lookup owner).isSome) : (fr'.objects.lookup owner).isSome := by
  obtain ⟨object, found⟩ := Option.isSome_iff_exists.mp found
  obtain ⟨object', found', -⟩ := extended.objects owner object found
  exact Option.isSome_iff_exists.mpr ⟨object', found'⟩

end Frame.Extends

namespace Frame

theorem perform_extends {h : Host σ S F} (fr : Frame σ S F) {a : Action} {act : Act σ F Unit}
    (defined : h.act? a = some act) :
    ∃ call fr', fr.perform a act = (call.outcome.mapError .fault, fr') ∧
      call.step = .action a ∧ call.caught? = none ∧ fr.Extends h fr' [call] := by
  rcases ran : act.run.run fr.world with ⟨outcome, world⟩
  refine ⟨.action a fr.world world outcome,
    { fr with world, calls := fr.calls ++ [.action a fr.world world outcome] },
    by simp only [perform, ran, Call.outcome], rfl, rfl, ?_⟩
  exact {
    appended := rfl
    worlds := .cons .nil
    genuine := by simpa [Call.Genuine] using ⟨act, defined, ran⟩
    objects := fun _ object found => ⟨object, found, .nil⟩ }

theorem performOn_extends {h : Host σ S F} (fr : Frame σ S F) {phase : Phase}
    {accessor owner : String} {caught : Option F} {hooks : Dispatch.Hooks σ S F}
    {act : Act (S × σ) F Unit} {object : S} (linked : h.hooks? accessor = some hooks)
    (chosen : phase.hook? caught hooks = some act) (found : fr.objects.lookup owner = some object) :
    ∃ call fr', fr.performOn phase accessor owner caught act =
        (call.outcome.mapError .fault, fr') ∧
      call.step = .hook phase accessor owner ∧ call.caught? = caught ∧ fr.Extends h fr' [call] := by
  rcases ran : act.run.run (object, fr.world) with ⟨outcome, left⟩
  refine ⟨.hook phase accessor owner caught (object, fr.world) left outcome,
    ⟨(owner, left.1) :: fr.objects, left.2,
      fr.calls ++ [.hook phase accessor owner caught (object, fr.world) left outcome]⟩,
    by simp only [performOn, found, ran, Call.outcome], rfl, rfl, ?_⟩
  exact {
    appended := rfl
    worlds := .cons .nil
    genuine := by simpa [Call.Genuine] using ⟨hooks, linked, act, chosen, ran⟩
    objects := by
      -- A hook is about the object of its variable only.
      intro o start hstart
      by_cases same : o = owner
      · subst same
        cases found.symm.trans hstart
        exact ⟨left.1, by simp, by simpa [Call.objects?] using .cons .nil⟩
      · have other : (o == owner) = false := by simpa using same
        refine ⟨start, by simp [List.lookup_cons, other, hstart], ?_⟩
        simpa [Call.objects?, Ne.symm same] using Threaded.nil }

end Frame

namespace Step

def Defined (h : Host σ S F) (caught : Option F) (fr : Frame σ S F) : Step → Prop
  | hook phase accessor owner =>
    (h.hooks? accessor).isSome ∧ (phase = .error → caught.isSome) ∧
      (fr.objects.lookup owner).isSome
  | action a => (h.act? a).isSome

def given (caught : Option F) : Step → Option F
  | hook .. => caught
  | action _ => none

theorem Defined.mono {h : Host σ S F} {caught : Option F} {fr fr' : Frame σ S F}
    {calls : List (Call σ S F)} (extended : fr.Extends h fr' calls) {step : Step}
    (defined : step.Defined h caught fr) : step.Defined h caught fr' := by
  cases step with
  | action a => exact defined
  | hook phase accessor owner =>
    obtain ⟨linked, received, found⟩ := defined
    exact ⟨linked, received, extended.lookup_isSome found⟩

theorem run_defined {h : Host σ S F} {caught : Option F} {fr : Frame σ S F} {step : Step}
    (defined : step.Defined h caught fr) :
    ∃ call fr', step.run h caught fr = (call.outcome.mapError .fault, fr') ∧
      call.step = step ∧ call.caught? = step.given caught ∧ fr.Extends h fr' [call] := by
  cases step with
  | action a =>
    obtain ⟨act, hact⟩ := Option.isSome_iff_exists.mp defined
    obtain ⟨call, fr', ran, rest⟩ := fr.perform_extends hact
    exact ⟨call, fr', by simp only [run, hact, ran], rest⟩
  | hook phase accessor owner =>
    obtain ⟨linked, received, found⟩ := defined
    obtain ⟨hooks, hhooks⟩ := Option.isSome_iff_exists.mp linked
    obtain ⟨object, hobject⟩ := Option.isSome_iff_exists.mp found
    obtain ⟨act, hact⟩ : ∃ act, phase.hook? caught hooks = some act := by
      cases phase with
      | before => exact ⟨_, rfl⟩
      | after => exact ⟨_, rfl⟩
      | error =>
        obtain ⟨f, hf⟩ := Option.isSome_iff_exists.mp (received rfl)
        exact ⟨hooks.onError f, by simp [Phase.hook?, hf]⟩
    obtain ⟨call, fr', ran, rest⟩ := fr.performOn_extends hhooks hact hobject
    exact ⟨call, fr', by simp only [run, hhooks, hact, ran], rest⟩

theorem runAll_defined {h : Host σ S F} {caught : Option F} {steps : List Step}
    {fr : Frame σ S F} (defined : ∀ step ∈ steps, step.Defined h caught fr) :
    ∃ calls r fr', runAll h caught fr steps = (r.mapError .fault, fr') ∧
      InTurn steps calls r ∧ (∀ call ∈ calls, call.caught? = call.step.given caught) ∧
      fr.Extends h fr' calls := by
  -- What is defined before a step is defined after it, so that the steps behind it can be run.
  induction steps generalizing fr with
  | nil => exact ⟨[], .ok (), fr, rfl, .done, by simp, .refl h fr⟩
  | cons step rest ih =>
    obtain ⟨call, fr', ran, same, caughtIs, extended⟩ := run_defined (defined step (by simp))
    cases ending : call.outcome with
    | error f =>
      refine ⟨[call], .error f, fr', ?_, .failed same ending, ?_, extended⟩
      · simp only [runAll, ran, ending, Leave.mapError_error]
      · simpa [same] using caughtIs
    | ok =>
      have defined' : ∀ step ∈ rest, step.Defined h caught fr' := fun step member =>
        (defined step (List.mem_cons_of_mem _ member)).mono extended
      obtain ⟨calls, r, fr'', ran', turn, caughtAre, extended'⟩ := ih defined'
      refine ⟨call :: calls, r, fr'', ?_, .next same ending turn, ?_, extended.trans extended'⟩
      · simp only [runAll, ran, ending, Leave.mapError_ok, ran']
      · simpa [same] using ⟨caughtIs, caughtAre⟩

end Step

/-- The objects of an invocation before its first call: one for each behavior. -/
def Frame.opened (h : Host σ S F) (route : Route) (index : Nat) (behaviors : List Behavior)
    (world : σ) : Frame σ S F where
  objects := (behaviors.map fun b =>
    (b.stateVariable index, h.make b.stateType (b.stateObject route index).context)).reverse
  world
  calls := []

namespace Statement

theorem runAll_makeStates (h : Host σ S F) (outcomes : Outcomes F) (route : Route) (index : Nat)
    (behaviors : List Behavior) (rest : List Statement) (fr : Frame σ S F) :
    runAll h outcomes fr (Behavior.makeStates behaviors route index ++ rest) =
      runAll h outcomes
        ⟨(Frame.opened h route index behaviors fr.world).objects ++ fr.objects, fr.world, fr.calls⟩
        rest := by
  induction behaviors generalizing fr with
  | nil => rfl
  | cons b behaviors ih =>
    simp only [Behavior.makeStates, List.map_cons, List.cons_append, runAll]
    rw [← Behavior.makeStates, ih]
    simp [Frame.opened, Behavior.stateObject]

theorem invoke_makeStates (h : Host σ S F) (route : Route) (index : Nat)
    (behaviors : List Behavior) (rest : List Statement) (world : σ) :
    invoke h world (Behavior.makeStates behaviors route index ++ rest) =
      runAll h [] (Frame.opened h route index behaviors world) rest := by
  rw [invoke, runAll_makeStates, List.append_nil]
  rfl

section Region

variable {h : Host σ S F} {fr left last : Frame σ S F} {outcome : String} {steps sweep : List Step}

theorem runAll_region_of_ok (ran : Step.runAll h none fr steps = (.ok (), left)) :
    runAll h [] fr [.guard outcome steps, .recover outcome sweep, .succeed] = (.ok (), left) := by
  simp only [runAll, ran, List.lookup_cons, beq_self_eq_true]

/-- The fault of a region goes through its sweep to the caller, unless the sweep ends otherwise. -/
theorem runAll_region_of_fault {f : F} {r : Except (Leave F) Unit}
    (ran : Step.runAll h none fr steps = (.error (.fault f), left))
    (swept : Step.runAll h (some f) left sweep = (r, last)) :
    runAll h [] fr [.guard outcome steps, .recover outcome sweep, .succeed] =
      (r >>= fun _ => .error (.fault f), last) := by
  simp only [runAll, ran, List.lookup_cons, beq_self_eq_true, swept]
  cases r <;> rfl

theorem runAll_region_of_undefined {name : String}
    (ran : Step.runAll h none fr steps = (.error (.undefined name), left)) :
    runAll h [] fr [.guard outcome steps, .recover outcome sweep, .succeed] =
      (.error (.undefined name), left) := by
  simp only [runAll, ran]

end Region

end Statement

namespace Frame

variable (h : Host σ S F) (route : Route) (index : Nat) (world : σ)

theorem opened_cons (b : Behavior) (behaviors : List Behavior) :
    (opened h route index (b :: behaviors) world).objects =
      (opened h route index behaviors world).objects ++
        [(b.stateVariable index, h.make b.stateType (b.stateObject route index).context)] := by
  simp [opened]

theorem opened_isSome {behaviors : List Behavior} {b : Behavior} (active : b ∈ behaviors) :
    ((opened h route index behaviors world).objects.lookup (b.stateVariable index)).isSome := by
  rw [List.lookup_isSome_iff]
  exact ⟨_, List.mem_reverse.mpr (List.mem_map_of_mem active), by simp⟩

theorem opened_lookup {behaviors : List Behavior}
    (distinct : (behaviors.map (·.identifier)).Nodup) {b : Behavior} (active : b ∈ behaviors) :
    (opened h route index behaviors world).objects.lookup (b.stateVariable index) =
      some (h.make b.stateType (b.stateObject route index).context) := by
  induction behaviors with
  | nil => cases active
  | cons c behaviors ih =>
    rw [opened_cons, List.lookup_append]
    rw [List.map_cons, List.nodup_cons] at distinct
    rcases List.mem_cons.mp active with rfl | active
    · have absent : (opened h route index behaviors world).objects.lookup
          (b.stateVariable index) = none := by
        rw [List.lookup_eq_none_iff]
        intro entry member
        obtain ⟨c, hc, rfl⟩ := List.mem_map.mp (List.mem_reverse.mp member)
        have other : c.identifier ≠ b.identifier := fun same =>
          distinct.1 (same ▸ List.mem_map_of_mem hc)
        simpa [Behavior.stateVariable] using Ne.symm other
      simp [absent]
    · rw [ih distinct.2 active, Option.some_or]

/-- A run from the fresh objects hands each of them from hook to hook of its behavior. -/
theorem Extends.opened_threaded {h : Host σ S F} {route : Route} {index : Nat} {world : σ}
    {behaviors : List Behavior} {fr : Frame σ S F} {calls : List (Call σ S F)}
    (extended : (opened h route index behaviors world).Extends h fr calls)
    (distinct : (behaviors.map (·.identifier)).Nodup) {b : Behavior} (active : b ∈ behaviors) :
    ∃ object, Threaded (h.make b.stateType (b.stateObject route index).context)
      (calls.filterMap (·.objects? (b.stateVariable index))) object := by
  obtain ⟨object, -, threaded⟩ :=
    extended.objects _ _ (opened_lookup h route index world distinct active)
  exact ⟨object, threaded⟩

end Frame
end RouteWeaver
