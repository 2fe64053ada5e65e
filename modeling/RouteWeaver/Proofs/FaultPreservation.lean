import RouteWeaver.Proofs.Protocol

/-!
What becomes of the first fault of an invocation. The sweep goes on as long as its error-hooks
succeed; one that fails ends it, and its own fault takes the place of the first.
-/

namespace RouteWeaver

variable {σ S F : Type}

namespace Call

theorem isErrorHook_iff {call : Call σ S F} :
    call.isErrorHook ↔ ∃ accessor owner, call.step = .hook .error accessor owner := by
  cases call with
  | hook phase => cases phase <;> simp [isErrorHook, step]
  | action => simp [isErrorHook, step]

end Call

theorem InTurn.isErrorHook {index : Nat} {phase : Phase} {behaviors : List Behavior}
    {calls : List (Call σ S F)} {r : Except F Unit}
    (turn : InTurn (behaviors.map (·.hook index phase)) calls r) {call : Call σ S F}
    (made : call ∈ calls) : call.isErrorHook ↔ phase = .error := by
  obtain ⟨b, -, same⟩ := List.mem_map.mp (turn.steps_prefix.subset (List.mem_map_of_mem made))
  rw [Call.isErrorHook_iff, ← same, Behavior.hook]
  simp

namespace Protocol

variable {index : Nat} {behaviors : List Behavior} {action : Action}

theorem Protected.no_errorHook {calls : List (Call σ S F)} {r : Except F Unit}
    (region : Protected index behaviors action calls r) {call : Call σ S F}
    (made : call ∈ calls) : ¬ call.isErrorHook := by
  have plain {c : Call σ S F} (same : c.step = .action action) : ¬ c.isErrorHook := by
    rw [Call.isErrorHook_iff, same]
    simp
  cases region with
  | beforeFailed entering => simp [entering.isErrorHook made]
  | actionFailed entering same =>
    rcases List.mem_append.mp made with made | made
    · simp [entering.isErrorHook made]
    · exact List.mem_singleton.mp made ▸ plain same
  | acted entering same _ leaving =>
    rcases List.mem_append.mp made with made | made
    · simp [entering.isErrorHook made]
    · rcases List.mem_cons.mp made with rfl | made
      · exact plain same
      · simp [leaving.isErrorHook made]

theorem Protected.ends_with_fault {calls : List (Call σ S F)} {r : Except F Unit}
    (region : Protected index behaviors action calls r) {call : Call σ S F}
    (made : call ∈ calls) {f : F} (fails : call.outcome = .error f) : r = .error f := by
  cases region with
  | beforeFailed entering => exact entering.ends_with_fault made fails
  | actionFailed entering _ fault =>
    rcases List.mem_append.mp made with made | made
    · cases entering.ends_with_fault made fails
    · rw [List.mem_singleton.mp made, fault] at fails
      exact fails
  | acted entering _ fine leaving =>
    rcases List.mem_append.mp made with made | made
    · cases entering.ends_with_fault made fails
    · rcases List.mem_cons.mp made with rfl | made
      · cases fine.symm.trans fails
      · exact leaving.ends_with_fault made fails

end Protocol

/-- A fault of a call that is no error-hook is the one that the sweep is given. -/
theorem Protocol.swept_of_fault {index : Nat} {behaviors : List Behavior} {action : Action}
    {calls : List (Call σ S F)} {r : Except F Unit}
    (follows : Protocol index behaviors action calls r) {call : Call σ S F}
    (made : call ∈ calls) (early : ¬ call.isErrorHook) {f : F}
    (fails : call.outcome = .error f) :
    ∃ sweep r', Swept index behaviors f sweep r' ∧ calls.filter Call.isErrorHook = sweep ∧
      (r = .error f ↔ r' = .ok () ∨ r' = .error f) := by
  -- Error-hooks are all in the sweep, so the faulty call is not.
  have separate {region sweep : List (Call σ S F)} {f' : F} {r' : Except F Unit}
      (first : Protected index behaviors action region (.error f'))
      (swept : Swept index behaviors f' sweep r') (made : call ∈ region ++ sweep) :
      f' = f ∧ (region ++ sweep).filter Call.isErrorHook = sweep := by
    constructor
    · rcases List.mem_append.mp made with made | made
      · exact Except.error.inj (first.ends_with_fault made fails)
      · exact absurd ((swept.1.isErrorHook made).mpr rfl) early
    · rw [List.filter_append, List.filter_eq_nil_iff.mpr fun c hc => first.no_errorHook hc,
        List.nil_append, List.filter_eq_self.mpr fun c hc => (swept.1.isErrorHook hc).mpr rfl]
  cases follows with
  | succeeded region => cases region.ends_with_fault made fails
  | failed region swept =>
    obtain ⟨rfl, errors⟩ := separate region swept made
    exact ⟨_, .ok (), swept, errors, by simp⟩
  | @replaced _ _ _ g region swept =>
    obtain ⟨rfl, errors⟩ := separate region swept made
    exact ⟨_, .error g, swept, errors, by simp⟩

theorem Protocol.Swept.map_pairs_iff {index : Nat} {behaviors : List Behavior} {f : F}
    {sweep : List (Call σ S F)} {r : Except F Unit} (swept : Swept index behaviors f sweep r) :
    (sweep.map fun call => (call.step, call.caught?)) =
        behaviors.reverse.map (fun b => (b.hook index .error, some f)) ↔
      sweep.map Call.step = behaviors.reverse.map (·.hook index .error) := by
  have steps : (sweep.map fun call => (call.step, call.caught?)) =
      (sweep.map Call.step).map (·, some f) := by
    rw [List.map_map]
    exact List.map_congr_left fun call made => by simp [swept.2 call made]
  have hooks : behaviors.reverse.map (fun b => (b.hook index .error, some f)) =
      (behaviors.reverse.map (·.hook index .error)).map (·, some f) := by
    rw [List.map_map]
    rfl
  rw [steps, hooks]
  exact List.map_inj_right fun _ _ same => congrArg Prod.fst same

/-- How the error-hooks of behaviors end, given a fault. -/
def Host.Answers (h : Host σ S F) (behaviors : List Behavior)
    (answers : Behavior → F → Except F Unit) : Prop :=
  ∀ b ∈ behaviors, ∃ hooks, h.hooks? b.accessorPath = some hooks ∧
    ∀ f given, ((hooks.onError f).run.run given).1 = answers b f

namespace Host.Answers

variable {h : Host σ S F} {behaviors : List Behavior} {answers : Behavior → F → Except F Unit}

theorem linked (answered : h.Answers behaviors answers) :
    ∀ b ∈ behaviors, (h.hooks? b.accessorPath).isSome := by
  intro b active
  obtain ⟨hooks, found, -⟩ := answered b active
  exact Option.isSome_iff_exists.mpr ⟨hooks, found⟩

theorem outcome_eq (answered : h.Answers behaviors answers) {b : Behavior}
    (active : b ∈ behaviors) {index : Nat} {f : F} {call : Call σ S F}
    (same : call.step = b.hook index .error) (caughtIs : call.caught? = some f)
    (genuine : call.Genuine h) : call.outcome = answers b f := by
  obtain ⟨hooks, found, ends⟩ := answered b active
  cases call with
  | action => cases same
  | hook phase accessor owner caught given left outcome =>
    obtain ⟨rfl, rfl, rfl⟩ := Step.hook.inj same
    cases caughtIs
    obtain ⟨hooks', act, found', chosen, ran⟩ := genuine
    cases found.symm.trans found'
    cases chosen
    exact (congrArg Prod.fst ran).symm.trans (ends f given)

theorem whole_sweep_iff {index : Nat} {f : F} (answered : h.Answers behaviors answers)
    {sweep : List (Call σ S F)} {r : Except F Unit}
    (turn : InTurn (behaviors.map (·.hook index .error)) sweep r)
    (caughtAre : ∀ call ∈ sweep, call.caught? = some f)
    (genuine : ∀ call ∈ sweep, call.Genuine h) :
    (sweep.map Call.step = behaviors.map (·.hook index .error) ∧
        (r = .ok () ∨ r = .error f)) ↔
      (∀ b ∈ behaviors.dropLast, answers b f = .ok ()) ∧
        ∀ b ∈ behaviors.getLast?, answers b f = .ok () ∨ answers b f = .error f := by
  -- An error-hook that fails ends the sweep, so that it may be none but the last one.
  induction behaviors generalizing sweep with
  | nil =>
    cases turn
    simp
  | cons b others ih =>
    have answeredHere {call : Call σ S F} (same : call.step = b.hook index .error)
        (made : call ∈ sweep) : call.outcome = answers b f :=
      answered.outcome_eq List.mem_cons_self same (caughtAre call made) (genuine call made)
    cases turn with
    | failed same fault =>
      have ends := (answeredHere same (by simp)).symm.trans fault
      cases others with
      | nil => simp [same, ends]
      | cons c others => simp [ends]
    | next same fine turn =>
      have ends := (answeredHere same (by simp)).symm.trans fine
      have rest := ih (fun c active => answered c (List.mem_cons_of_mem _ active)) turn
        (fun call made => caughtAre call (List.mem_cons_of_mem _ made))
        (fun call made => genuine call (List.mem_cons_of_mem _ made))
      cases others with
      | nil => simpa [same, ends] using rest
      | cons c others => simpa [same, ends] using rest

end Host.Answers

/-- A fault of a before-hook, of the action or of an after-hook reaches all error-hooks and the
caller just when none of them fails. The behavior that is declared first is swept last, and may
fail with the same fault. -/
theorem fault_preserved_iff {h : Host σ S F} (route : Route) (index : Nat)
    {behaviors : List Behavior} {action : Action} {answers : Behavior → F → Except F Unit}
    (answered : h.Answers behaviors answers) (defined : (h.act? action).isSome) (world : σ)
    {r : Except (Leave F) Unit} {fr : Frame σ S F}
    (ran : Statement.invoke h world (route.weave index behaviors action ++ [.succeed]) = (r, fr))
    {call : Call σ S F} (made : call ∈ fr.calls) (early : ¬ call.isErrorHook) {f : F}
    (fails : call.outcome = .error f) :
    FaultPreserved index behaviors f fr.calls r ↔
      (∀ b ∈ behaviors.tail, answers b f = .ok ()) ∧
        ∀ b ∈ behaviors.head?, answers b f = .ok () ∨ answers b f = .error f := by
  obtain ⟨calls, r', fr', ran', follows, extended⟩ :=
    Route.invoke_woven route index answered.linked defined world
  obtain ⟨rfl, rfl⟩ := Prod.mk.inj (ran'.symm.trans ran)
  have all : fr'.calls = calls := extended.appended
  rw [all] at made
  obtain ⟨sweep, ending, swept, errors, kept⟩ := follows.swept_of_fault made early fails
  have genuine : ∀ c ∈ sweep, c.Genuine h := fun c hc =>
    extended.genuine c (List.mem_filter.mp (errors ▸ hc)).1
  have answered' : h.Answers behaviors.reverse answers := fun b active =>
    answered b (List.mem_reverse.mp active)
  have whole := answered'.whole_sweep_iff swept.1 swept.2 genuine
  rw [List.dropLast_reverse, List.getLast?_reverse] at whole
  have withFault := swept.map_pairs_iff
  have result : r'.mapError Leave.fault = .error (.fault f) ↔ r' = .error f := by
    cases r' <;> simp
  rw [FaultPreserved, all, errors, withFault, result, kept, whole]
  simp only [List.mem_reverse]

open Brittle in
theorem fault_preserved_iff_logging :
    let ending := Statement.invoke host []
      (deploy.weave 0 [logging] (.handle "app::Deploy") ++ [.succeed])
    host.Answers [logging] (fun _ _ => .ok ()) ∧
    (∃ call ∈ ending.2.calls, ¬ call.isErrorHook ∧ call.outcome = .error "target unreachable") ∧
    FaultPreserved 0 [logging] "target unreachable" ending.2.calls ending.1 := by
  intro ending
  have answered : host.Answers [logging] (fun _ _ => .ok ()) := by
    intro b active
    obtain rfl := List.mem_singleton.mp active
    exact ⟨_, rfl, fun _ _ => rfl⟩
  have faulty : ∃ call ∈ ending.2.calls,
      ¬ call.isErrorHook ∧ call.outcome = .error "target unreachable" :=
    ⟨.action (.handle "app::Deploy") ["entered"] ["entered"] (.error "target unreachable"),
      List.mem_of_getElem? (i := 1) rfl, by simp [Call.isErrorHook], rfl⟩
  obtain ⟨call, made, early, fails⟩ := faulty
  have defined : (host.act? (.handle "app::Deploy")).isSome := rfl
  have ran : Statement.invoke host [] (deploy.weave 0 [logging] (.handle "app::Deploy") ++
    [.succeed]) = (ending.1, ending.2) := rfl
  refine ⟨answered, ⟨call, made, early, fails⟩, ?_⟩
  exact (fault_preserved_iff deploy 0 answered defined [] ran made early fails).mpr (by simp)

open Brittle in
/-- The handler's fault is lost: the behavior that is declared last is told of it first, fails,
and the other one is never told. -/
theorem brittle_loses_fault :
    (∃ call ∈ (Statement.invoke host [] body).2.calls,
      ¬ call.isErrorHook ∧ call.outcome = .error "target unreachable") ∧
    ¬ FaultPreserved 0 [logging, timing] "target unreachable"
      (Statement.invoke host [] body).2.calls (Statement.invoke host [] body).1 := by
  constructor
  · exact ⟨.action (.handle "app::Deploy") ["entered"] ["entered"] (.error "target unreachable"),
      List.mem_of_getElem? (i := 2) rfl, by simp [Call.isErrorHook], rfl⟩
  · rintro ⟨-, kept⟩
    have ending : (Statement.invoke host [] body).1 = .error (.fault "journal closed") := rfl
    rw [ending] at kept
    simp at kept

end RouteWeaver
