import RouteWeaver.Proofs.FaultPreservation

/-!
The run that the protocol prescribes for hooks and an action. The calls of such a run are made in
turn, each of them does what the host defines, and each starts from what those before it left. That
leaves no choice, so that the statements of a woven route end as the run does.
-/

namespace RouteWeaver

variable {σ S F : Type}

/-- A run by the protocol of what a host defines, with an object of its own for each behavior. -/
structure Prescribed (h : Host σ S F) (route : Route) (index : Nat) (behaviors : List Behavior)
    (action : Action) (given : σ) (calls : List (Call σ S F)) (r : Except F Unit) (left : σ) :
    Prop where
  follows : Protocol index behaviors action calls r
  genuine : ∀ call ∈ calls, call.Genuine h
  worlds : Threaded given (calls.map Call.worlds) left
  objects : ∀ b ∈ behaviors, ∃ object,
    Threaded (h.make b.stateType (b.stateObject route index).context)
      (calls.filterMap (·.objects? (b.stateVariable index))) object

namespace Call

variable {phase : Phase} {accessor owner : String} {received : Option F} {given after : S × σ}
  {outcome : Except F Unit}

theorem objects?_own :
    (hook phase accessor owner received given after outcome).objects? owner =
      some (given.1, after.1) :=
  if_pos rfl

theorem objects?_other {o : String} (other : owner ≠ o) :
    (hook phase accessor owner received given after outcome).objects? o = none :=
  if_neg other

end Call

namespace Threaded

variable {α : Type} {a b c d : α} {changes : List (α × α)}

theorem nil_iff : Threaded a [] b ↔ a = b := by
  constructor
  · intro threaded
    cases threaded
    rfl
  · rintro rfl
    exact .nil

theorem cons_iff : Threaded a ((b, c) :: changes) d ↔ a = b ∧ Threaded c changes d := by
  constructor
  · intro threaded
    cases threaded with
    | cons rest => exact ⟨rfl, rest⟩
  · rintro ⟨rfl, rest⟩
    exact .cons rest

end Threaded

theorem Leave.mapError_inj {r r' : Except F Unit} :
    r.mapError Leave.fault = r'.mapError .fault ↔ r = r' := by
  cases r <;> cases r' <;> simp

namespace InTurn

variable {first second : List Step} {calls calls' : List (Call σ S F)}

theorem append {r : Except F Unit} (turn : InTurn first calls (.ok ()))
    (turn' : InTurn second calls' r) : InTurn (first ++ second) (calls ++ calls') r := by
  generalize ending : (.ok () : Except F Unit) = fine at turn
  induction turn with
  | done => exact turn'
  | failed => cases ending
  | next same well _ ih => exact .next same well (ih ending)

theorem append_of_error {f : F} (turn : InTurn first calls (.error f)) :
    InTurn (first ++ second) calls (.error f) := by
  generalize ending : (.error f : Except F Unit) = fault at turn ⊢
  induction turn with
  | done => cases ending
  | failed same fails => exact .failed same fails
  | next same well _ ih => exact .next same well (ih ending)

end InTurn

theorem Protocol.Protected.inTurn {index : Nat} {behaviors : List Behavior} {action : Action}
    {calls : List (Call σ S F)} {r : Except F Unit}
    (region : Protected index behaviors action calls r) :
    InTurn (behaviors.map (·.hook index .before) ++ .action action ::
      behaviors.reverse.map (·.hook index .after)) calls r := by
  cases region with
  | beforeFailed entering => exact entering.append_of_error
  | actionFailed entering same fails => exact entering.append (.failed same fails)
  | acted entering same fine leaving => exact entering.append (.next same fine leaving)

def Step.Owned (owners : List String) : Step → Prop
  | hook _ _ owner => owner ∈ owners
  | action _ => True

/-- Calls that start from the world and the objects of a frame. -/
structure Frame.Replays (fr : Frame σ S F) (owners : List String) (calls : List (Call σ S F))
    (left : σ) : Prop where
  worlds : Threaded fr.world (calls.map Call.worlds) left
  objects : ∀ owner ∈ owners, ∃ object object', fr.objects.lookup owner = some object ∧
    Threaded object (calls.filterMap (·.objects? owner)) object'

namespace Step

variable {h : Host σ S F} {fr : Frame σ S F} {owners : List String} {left : σ}
  {caught : Option F}

theorem run_action_replays {a : Action} {given after : σ} {outcome : Except F Unit}
    {more : List (Call σ S F)}
    (replays : fr.Replays owners (.action a given after outcome :: more) left)
    (genuine : (Call.action a given after outcome : Call σ S F).Genuine h) :
    ∃ fr', (Step.action a).run h caught fr = (outcome.mapError .fault, fr') ∧
      fr'.Replays owners more left := by
  obtain ⟨act, defined, ran⟩ := genuine
  obtain ⟨rfl, worlds⟩ := Threaded.cons_iff.mp replays.worlds
  refine ⟨{ fr with
    world := after
    calls := fr.calls ++ [.action a fr.world after outcome] }, ?_, worlds, ?_⟩
  · simp only [run, defined, Frame.perform, ran]
  · intro owner owned
    exact replays.objects owner owned

theorem run_hook_replays {phase : Phase} {accessor owner : String} {received : Option F}
    {given after : S × σ} {outcome : Except F Unit} {more : List (Call σ S F)}
    (replays : fr.Replays owners (.hook phase accessor owner received given after outcome :: more)
      left)
    (genuine : (Call.hook phase accessor owner received given after outcome).Genuine h)
    (same : phase = .error → received = caught) (owned : owner ∈ owners) :
    ∃ fr', (Step.hook phase accessor owner).run h caught fr = (outcome.mapError .fault, fr') ∧
      fr'.Replays owners more left := by
  obtain ⟨hooks, act, linked, chosen, ran⟩ := genuine
  have chosen' : phase.hook? caught hooks = some act := by
    cases phase with
    | before => exact chosen
    | after => exact chosen
    | error =>
      rw [← same rfl]
      exact chosen
  obtain ⟨object, object', found, threaded⟩ := replays.objects owner owned
  rw [List.filterMap_cons_some Call.objects?_own] at threaded
  obtain ⟨rfl, -⟩ := Threaded.cons_iff.mp threaded
  obtain ⟨world, worlds⟩ := Threaded.cons_iff.mp replays.worlds
  have start : (given.1, fr.world) = given := by rw [world]
  refine ⟨⟨(owner, after.1) :: fr.objects, after.2,
    fr.calls ++ [.hook phase accessor owner caught given after outcome]⟩, ?_, worlds, ?_⟩
  · simp only [run, linked, chosen', Frame.performOn, found, start, ran]
  · intro o member
    obtain ⟨object, object', found, threaded⟩ := replays.objects o member
    by_cases own : o = owner
    · subst own
      rw [List.filterMap_cons_some Call.objects?_own] at threaded
      obtain ⟨-, rest⟩ := Threaded.cons_iff.mp threaded
      exact ⟨after.1, object', by simp, rest⟩
    · have other : (o == owner) = false := by simpa using own
      rw [List.filterMap_cons_none (Call.objects?_other (Ne.symm own))] at threaded
      exact ⟨object, object', by simp [List.lookup_cons, other, found], threaded⟩

/-- A step has no choice but to make the call that is to be replayed. -/
theorem run_replays {call : Call σ S F} {more : List (Call σ S F)}
    (replays : fr.Replays owners (call :: more) left) (genuine : call.Genuine h)
    (received : call.isErrorHook → call.caught? = caught) (owned : call.step.Owned owners) :
    ∃ fr', call.step.run h caught fr = (call.outcome.mapError .fault, fr') ∧
      fr'.Replays owners more left := by
  cases call with
  | action => exact run_action_replays replays genuine
  | hook phase =>
    refine run_hook_replays replays genuine (fun error => ?_) owned
    subst error
    exact received rfl

theorem runAll_replays {steps : List Step} {calls : List (Call σ S F)} {r : Except F Unit}
    (turn : InTurn steps calls r) (more : List (Call σ S F))
    (replays : fr.Replays owners (calls ++ more) left)
    (genuine : ∀ call ∈ calls, call.Genuine h)
    (received : ∀ call ∈ calls, call.isErrorHook → call.caught? = caught)
    (owned : ∀ step ∈ steps, step.Owned owners) :
    ∃ fr', runAll h caught fr steps = (r.mapError .fault, fr') ∧
      fr'.Replays owners more left := by
  induction turn generalizing fr with
  | done => exact ⟨fr, rfl, replays⟩
  | @failed _ _ call f same fails =>
    subst same
    obtain ⟨fr', ran, rest⟩ := run_replays replays (genuine call (by simp))
      (received call (by simp)) (owned _ (by simp))
    refine ⟨fr', ?_, rest⟩
    simp only [runAll, ran, fails, Leave.mapError_error]
  | @next _ _ call _ _ same fine _ ih =>
    subst same
    obtain ⟨fr', ran, rest⟩ := run_replays replays (genuine call (by simp))
      (received call (by simp)) (owned _ (by simp))
    rw [List.forall_mem_cons] at genuine received owned
    obtain ⟨fr'', ran', rest'⟩ := ih rest genuine.2 received.2 owned.2
    refine ⟨fr'', ?_, rest'⟩
    simp only [runAll, ran, fine, Leave.mapError_ok, ran']

end Step

section Woven

variable {h : Host σ S F} {route : Route} {index : Nat} {behaviors : List Behavior}
  {action : Action} {given left : σ} {calls : List (Call σ S F)} {r : Except F Unit}

theorem Behavior.hook_owned {b : Behavior} (phase : Phase) (active : b ∈ behaviors) :
    (b.hook index phase).Owned (behaviors.map (·.stateVariable index)) :=
  List.mem_map_of_mem active

theorem Frame.opened_replays (distinct : (behaviors.map (·.identifier)).Nodup)
    (prescribed : Prescribed h route index behaviors action given calls r left) :
    (Frame.opened h route index behaviors given).Replays (behaviors.map (·.stateVariable index))
      calls left where
  worlds := prescribed.worlds
  objects := by
    intro owner owned
    obtain ⟨b, active, rfl⟩ := List.mem_map.mp owned
    obtain ⟨object, threaded⟩ := prescribed.objects b active
    exact ⟨_, object, opened_lookup h route index given distinct active, threaded⟩

theorem Route.run_region_replays {fr : Frame σ S F}
    (region : Protocol.Protected index behaviors action calls r) (more : List (Call σ S F))
    (replays : fr.Replays (behaviors.map (·.stateVariable index)) (calls ++ more) left)
    (genuine : ∀ call ∈ calls, call.Genuine h) :
    ∃ fr', Step.runAll h none fr (behaviors.map (·.hook index .before) ++ .action action ::
        behaviors.reverse.map (·.hook index .after)) = (r.mapError .fault, fr') ∧
      fr'.Replays (behaviors.map (·.stateVariable index)) more left := by
  refine Step.runAll_replays region.inTurn more replays genuine ?_ ?_
  · intro call made error
    exact absurd error (region.no_errorHook made)
  · intro step member
    rw [List.mem_append, List.mem_cons, List.map_reverse, List.mem_reverse] at member
    rcases member with called | rfl | called
    · obtain ⟨b, active, rfl⟩ := List.mem_map.mp called
      exact b.hook_owned .before active
    · trivial
    · obtain ⟨b, active, rfl⟩ := List.mem_map.mp called
      exact b.hook_owned .after active

theorem Route.run_sweep_replays {fr : Frame σ S F} {f : F}
    (swept : Protocol.Swept index behaviors f calls r)
    (replays : fr.Replays (behaviors.map (·.stateVariable index)) calls left)
    (genuine : ∀ call ∈ calls, call.Genuine h) :
    ∃ fr', Step.runAll h (some f) fr (behaviors.reverse.map (·.hook index .error)) =
      (r.mapError .fault, fr') ∧ fr'.world = left := by
  obtain ⟨fr', ran, rest⟩ := Step.runAll_replays swept.1 []
    (by rwa [List.append_nil]) genuine (fun call made _ => swept.2 call made) (by
      intro step called
      rw [List.map_reverse, List.mem_reverse] at called
      obtain ⟨b, active, rfl⟩ := List.mem_map.mp called
      exact b.hook_owned .error active)
  exact ⟨fr', ran, Threaded.nil_iff.mp rest.worlds⟩

/-- The statements of a woven route end as a run ends that the protocol prescribes. -/
theorem Prescribed.invoke_eq (distinct : (behaviors.map (·.identifier)).Nodup)
    (prescribed : Prescribed h route index behaviors action given calls r left) :
    ∃ fr, Statement.invoke h given (route.weave index behaviors action ++ [.succeed]) =
      (r.mapError .fault, fr) ∧ fr.world = left := by
  have start := Frame.opened_replays distinct prescribed
  rw [Route.invoke_weave]
  cases prescribed.follows with
  | succeeded region =>
    obtain ⟨fr, ran, rest⟩ := Route.run_region_replays region []
      (by rwa [List.append_nil]) prescribed.genuine
    exact ⟨fr, Statement.runAll_region_of_ok ran, Threaded.nil_iff.mp rest.worlds⟩
  | failed region swept =>
    have genuine := List.forall_mem_append.mp prescribed.genuine
    obtain ⟨fr, ran, rest⟩ := Route.run_region_replays region _ start genuine.1
    obtain ⟨fr', ran', world⟩ := Route.run_sweep_replays swept rest genuine.2
    exact ⟨fr', Statement.runAll_region_of_fault ran ran', world⟩
  | replaced region swept =>
    have genuine := List.forall_mem_append.mp prescribed.genuine
    obtain ⟨fr, ran, rest⟩ := Route.run_region_replays region _ start genuine.1
    obtain ⟨fr', ran', world⟩ := Route.run_sweep_replays swept rest genuine.2
    exact ⟨fr', Statement.runAll_region_of_fault ran ran', world⟩

theorem Prescribed.unique {left' : σ} {calls' : List (Call σ S F)} {r' : Except F Unit}
    (distinct : (behaviors.map (·.identifier)).Nodup)
    (prescribed : Prescribed h route index behaviors action given calls r left)
    (prescribed' : Prescribed h route index behaviors action given calls' r' left') :
    r' = r ∧ left' = left := by
  obtain ⟨fr, ran, world⟩ := prescribed.invoke_eq distinct
  obtain ⟨fr', ran', world'⟩ := prescribed'.invoke_eq distinct
  obtain ⟨ending, rfl⟩ := Prod.mk.inj (ran'.symm.trans ran)
  exact ⟨Leave.mapError_inj.mp ending, world'.symm.trans world⟩

theorem Route.invoke_prescribed (route : Route) (index : Nat)
    (distinct : (behaviors.map (·.identifier)).Nodup)
    (linked : ∀ b ∈ behaviors, (h.hooks? b.accessorPath).isSome)
    (defined : (h.act? action).isSome) (given : σ) :
    ∃ r fr, Statement.invoke h given (route.weave index behaviors action ++ [.succeed]) =
        (r.mapError .fault, fr) ∧
      Prescribed h route index behaviors action given fr.calls r fr.world := by
  obtain ⟨calls, r, fr, ran, follows, extended⟩ :=
    Route.invoke_woven route index linked defined given
  have made : fr.calls = calls := extended.appended
  refine ⟨r, fr, ran, ?_⟩
  rw [made]
  exact ⟨follows, extended.genuine, extended.worlds,
    fun b active => extended.opened_threaded distinct active⟩

end Woven

end RouteWeaver
