import RouteWeaver.Proofs.DeployModel
import RouteWeaver.Proofs.PrescribedRuns
import RouteWeaver.Proofs.SilentBehavior

namespace RouteWeaver

namespace Protocol

variable {σ S F : Type} {index : Nat} {behaviors : List Behavior} {action : Action}
  {calls : List (Call σ S F)} {r : Except F Unit}

theorem step_mem_hooksAround (follows : Protocol index behaviors action calls r)
    {call : Call σ S F} (made : call ∈ calls) :
    call.step ∈ Behavior.hooksAround behaviors index action := by
  have early {region : List (Call σ S F)} {r : Except F Unit}
      (first : Protected index behaviors action region r) (member : call ∈ region) :
      call.step ∈ Behavior.hooksAround behaviors index action := by
    have turn := first.inTurn
    have step := turn.steps_prefix.subset (List.mem_map_of_mem member)
    simp only [Behavior.hooksAround, List.mem_append, List.mem_cons] at step ⊢
    rcases step with before | acted | after
    · exact .inl before
    · exact .inr (.inl acted)
    · exact .inr (.inr (.inl after))
  have late {sweep : List (Call σ S F)} {f : F} {r : Except F Unit}
      (swept : Swept index behaviors f sweep r) (member : call ∈ sweep) :
      call.step ∈ Behavior.hooksAround behaviors index action := by
    have turn := swept.1
    have step := turn.steps_prefix.subset (List.mem_map_of_mem member)
    simp only [Behavior.hooksAround, List.mem_append, List.mem_cons]
    exact .inr (.inr (.inr step))
  cases follows with
  | succeeded region => exact early region made
  | failed region swept => exact (List.mem_append.mp made).elim (early region) (late swept)
  | replaced region swept => exact (List.mem_append.mp made).elim (early region) (late swept)

/-- Only an invocation that fails calls error-hooks. -/
theorem failed_of_errorHook (follows : Protocol index behaviors action calls r)
    {call : Call σ S F} (made : call ∈ calls) (error : call.isErrorHook) : ∃ f, r = .error f := by
  cases follows with
  | succeeded region => exact absurd error (region.no_errorHook made)
  | @failed _ _ f => exact ⟨f, rfl⟩
  | @replaced _ _ _ g => exact ⟨g, rfl⟩

end Protocol

namespace Deploy

open Dispatch (Act Hooks Terminal)

attribute [local irreducible] model program?

structure Request where
  index : UInt64
  arguments : List String
deriving DecidableEq, Repr

def Request.Fails (q : Request) (f : Fault) : Prop :=
  (q.index = 0 ∧ q.arguments.head? = some "moon" ∧ f = .unreachable "moon") ∨
  (q.index = 3 ∧ f = .dispatch (.missingHandler "rollback")) ∨
  (4 ≤ q.index ∧ f = .dispatch (.unknownRoute q.index.toNat))

structure Exchange (τ : Type) where
  request : Request
  given : World τ
  result : Except (Leave Fault) Unit
  left : World τ

def Exchange.entries {τ : Type} (e : Exchange τ) : List String :=
  e.left.journal.drop e.given.journal.length

namespace Exchange

variable {τ : Type} (answer : Request → World τ → Except (Leave Fault) Unit × World τ)
  (w : World τ) (requests : List Request)

end Exchange

theorem target_eq_moon {arguments : List String} :
    target arguments = "moon" ↔ arguments.head? = some "moon" := by
  cases arguments with
  | nil => simp [target]
  | cons first rest => simp [target]

/-- The result and the entries of a call are no matter of the terminal and of the world. -/
theorem exists_dispatch_eq (q : Request) :
    ∃ (r : Except (Leave Fault) Unit) (entries : List String),
      (∀ l, r = .error l ↔ ∃ f, l = Leave.fault f ∧ q.Fails f) ∧
      ∀ (τ : Type) (terminal : Terminal τ Fault) (w : World τ),
        dispatch terminal q.index.toNat q.arguments w = (r, entries.foldl World.noted w) := by
  obtain ⟨index, arguments⟩ := q
  have range : index = 0 ∨ index = 1 ∨ index = 2 ∨ index = 3 ∨ 4 ≤ index := by
    simp only [← UInt64.toNat_inj, UInt64.le_iff_toNat_le, UInt64.reduceToNat]
    omega
  rcases range with rfl | rfl | rfl | rfl | beyond
  · by_cases far : target arguments = "moon"
    · refine ⟨_, _, ?_, fun τ terminal w => dispatch_far terminal w far⟩
      simp [Request.Fails, target_eq_moon.mp far, eq_comm]
    · refine ⟨_, _, ?_, fun τ terminal w => dispatch_near terminal w far⟩
      simp [Request.Fails, mt target_eq_moon.mpr far]
  · refine ⟨_, _, ?_, fun τ terminal w => dispatch_status terminal arguments w⟩
    simp [Request.Fails]
  · refine ⟨_, _, ?_, fun τ terminal w => dispatch_version terminal arguments w⟩
    simp [Request.Fails]
  · refine ⟨_, _, ?_, fun τ terminal w => dispatch_rollback terminal arguments w⟩
    simp [Request.Fails, eq_comm]
  · have within : 4 ≤ index.toNat := UInt64.le_iff_toNat_le.mp beyond
    have zero : index ≠ 0 := by
      rintro rfl
      exact absurd beyond (by decide)
    have three : index ≠ 3 := by
      rintro rfl
      exact absurd beyond (by decide)
    refine ⟨_, [], ?_, fun τ terminal w => dispatch_unknown terminal arguments w within⟩
    simp [Request.Fails, zero, three, beyond, eq_comm]

theorem run_eq {q : Request} {r : Except (Leave Fault) Unit} {entries : List String}
    (answers : ∀ (τ : Type) (terminal : Terminal τ Fault) (w : World τ),
      dispatch terminal q.index.toNat q.arguments w = (r, entries.foldl World.noted w)) :
    run q.index.toNat q.arguments = (r, entries) := by
  simp only [run, answers, World.journal_noted, List.nil_append]

section Calls

variable {τ : Type} (terminal : Terminal τ Fault)

def serve (q : Request) (w : World τ) : Except (Leave Fault) Unit × World τ :=
  dispatch terminal q.index.toNat q.arguments w

/-- A hook that does not always succeed, of the behavior that a holder keeps. -/
def MayFail (type : String) (phase : Phase) : Prop :=
  ∃ holder ∈ model.program.listing.behaviors, holder.type = type ∧
    ∃ arguments hooks caught act given,
      (host model.program.listing terminal arguments).hooks? (holder.path "behaviors") =
        some hooks ∧
      phase.hook? caught hooks = some act ∧ (act.run.run given).1 ≠ .ok ()

/-- The call is the invocation of a route by the function that its index leads to, and the only run
that the protocol prescribes for the behaviors of that route. The error-hook of the audit is not
called. -/
structure Exchange.Routed (e : Exchange τ) (route : Route) (f : NamedFunction)
    (r : Except Fault Unit) (fr : Frame (World τ) State Fault) : Prop where
  found : model.routes[e.request.index.toNat]? = some route
  target : model.program.listing.target? e.request.index.toNat = some f.name
  function : model.program.listing.function? f.name = some f
  invoked : Statement.invoke (host model.program.listing terminal e.request.arguments) e.given
    f.body = (r.mapError .fault, fr)
  result : e.result = r.mapError .fault
  left : e.left = fr.world
  prescribed : Prescribed (host model.program.listing terminal e.request.arguments) route
    e.request.index.toNat (model.behaviorsFor route) route.action e.given fr.calls r e.left
  only : ∀ calls r' left', Prescribed (host model.program.listing terminal e.request.arguments)
    route e.request.index.toNat (model.behaviorsFor route) route.action e.given calls r' left' →
      r' = r ∧ left' = e.left
  quiet : ∀ call ∈ fr.calls, call.isErrorHook → ∀ b ∈ model.behaviors,
    call.reaches b.accessorPath → b.type ≠ "crate::app::Audit"

structure Exchange.Follows (e : Exchange τ) : Prop where
  journal : e.left.journal = e.given.journal ++ e.entries
  routed : e.request.index < 4 → ∃ route f r fr, e.Routed terminal route f r fr
  unrouted : 4 ≤ e.request.index → e.left = e.given ∧ e.entries = []
  fails : ∀ l, e.result = .error l ↔ ∃ f, l = .fault f ∧ e.request.Fails f

theorem length_routes : model.routes.length = 4 := by
  rw [model_eq]
  rfl

/-- A call of a route is the run that the protocol prescribes for it. -/
theorem dispatch_prescribed (arguments : List String) (w : World τ) {index : Nat} {route : Route}
    (found : model.routes[index]? = some route) :
    ∃ r fr, Statement.invoke (host listing terminal arguments) w (route.function model index).body =
        (r.mapError .fault, fr) ∧
      dispatch terminal index arguments w = (r.mapError .fault, fr.world) ∧
      Prescribed (host listing terminal arguments) route index (model.behaviorsFor route)
        route.action w fr.calls r fr.world := by
  have hooks : ∀ b ∈ model.behaviorsFor route,
      ((host listing terminal arguments).hooks? b.accessorPath).isSome := by
    intro b active
    exact hooks?_isSome terminal arguments ((model.behaviorsFor_sublist route).subset active)
  have acts := act?_isSome terminal arguments (List.mem_of_getElem? found)
  obtain ⟨r, fr, ran, prescribed⟩ :=
    Route.invoke_prescribed route index (identifiers_nodup route) hooks acts w
  refine ⟨r, fr, ran, ?_, prescribed⟩
  have dispatched := Model.dispatch_of_route (host listing terminal arguments) found w
  simp only [listing_model, Route.function, ran] at dispatched
  rw [dispatch_eq, dispatched]

theorem audit_inactive : ∀ i ∈ [0, 3], ∀ route ∈ described.routes[i]?,
    ∀ b ∈ described.behaviorsFor route, b.type ≠ "crate::app::Audit" := by
  decide +kernel

theorem type_of_accessorPath : ∀ b ∈ described.behaviors, ∀ c ∈ described.behaviors,
    b.accessorPath = c.accessorPath → b.type = c.type := by
  decide +kernel

/-- The audit is active on no route whose calls fail. -/
theorem audit_silent {q : Request} {route : Route}
    (found : model.routes[q.index.toNat]? = some route) {r : Except Fault Unit}
    {calls : List (Call (World τ) State Fault)}
    (follows : Protocol q.index.toNat (model.behaviorsFor route) route.action calls r)
    (fails : ∀ f, r = .error f → q.Fails f) :
    ∀ call ∈ calls, call.isErrorHook → ∀ b ∈ model.behaviors, call.reaches b.accessorPath →
      b.type ≠ "crate::app::Audit" := by
  intro call made error b declared reaches
  obtain ⟨f, failed⟩ := follows.failed_of_errorHook made error
  have index : q.index.toNat ∈ [0, 3] := by
    rcases fails f failed with ⟨zero, -⟩ | ⟨three, -⟩ | ⟨beyond, -⟩
    · simp [zero]
    · simp [three]
    · have none : model.routes[q.index.toNat]? = none := by
        rw [List.getElem?_eq_none_iff, length_routes]
        exact UInt64.le_iff_toNat_le.mp beyond
      rw [none] at found
      cases found
  obtain ⟨c, active, type⟩ : ∃ c ∈ model.behaviorsFor route, b.type = c.type := by
    cases call with
    | action => cases reaches
    | hook phase accessor owner =>
      obtain ⟨c, active, accessor, -⟩ :=
        Behavior.hook_of_mem_hooksAround (follows.step_mem_hooksAround made)
      have same : b.accessorPath = c.accessorPath := by
        rw [← accessor]
        exact (of_decide_eq_true reaches).symm
      have declared' := (model.behaviorsFor_sublist route).subset active
      rw [model_eq] at declared declared'
      exact ⟨c, active, type_of_accessorPath b declared c declared' same⟩
  rw [type]
  rw [model_eq] at found active
  exact audit_inactive _ index route found c active

variable {terminal}

theorem Exchange.exists_routed {e : Exchange τ}
    (served : serve terminal e.request e.given = (e.result, e.left))
    (fails : ∀ f, e.result = .error (.fault f) → e.request.Fails f)
    (known : e.request.index < 4) : ∃ route f r fr, e.Routed terminal route f r fr := by
  have within : e.request.index.toNat < model.routes.length := by
    rw [length_routes]
    exact UInt64.lt_iff_toNat_lt.mp known
  have found := List.getElem?_eq_getElem within
  obtain ⟨r, fr, ran, ends, prescribed⟩ :=
    dispatch_prescribed terminal e.request.arguments e.given found
  obtain ⟨result, left⟩ := Prod.mk.inj (served.symm.trans ends)
  rw [← left] at prescribed
  rw [← listing_model] at ran prescribed
  exact ⟨_, _, r, fr, {
    found
    target := Model.target?_of_route found
    function := Model.function?_of_route found
    invoked := ran
    result
    left
    prescribed
    only := fun _ _ _ other => prescribed.unique (identifiers_nodup _) other
    quiet := audit_silent found prescribed.follows fun f failed =>
      fails f (by rw [result, failed, Leave.mapError_error]) }⟩

theorem Exchange.follows {e : Exchange τ}
    (served : serve terminal e.request e.given = (e.result, e.left)) :
    (e.result, e.entries) = run e.request.index.toNat e.request.arguments ∧
      e.Follows terminal := by
  obtain ⟨r, entries, fails, answers⟩ := exists_dispatch_eq e.request
  have answer := answers τ terminal e.given
  obtain ⟨result, left⟩ := Prod.mk.inj (served.symm.trans answer)
  have added : e.entries = entries := by
    rw [Exchange.entries, left, World.journal_noted, List.drop_left]
  rw [← result] at fails
  refine ⟨by rw [result, added, run_eq answers], ?journal, ?routed, ?unrouted, fails⟩
  case journal => rw [added, left, World.journal_noted]
  case routed =>
    refine exists_routed served fun f failed => ?_
    obtain ⟨_, ⟨⟩, refused⟩ := (fails _).mp failed
    exact refused
  case unrouted =>
    intro beyond
    have unknown := dispatch_unknown terminal e.request.arguments e.given
      (UInt64.le_iff_toNat_le.mp beyond)
    obtain ⟨-, left'⟩ := Prod.mk.inj (served.symm.trans unknown)
    exact ⟨left', by rw [Exchange.entries, left', List.drop_length]⟩

theorem hook_succeeds {hooks : Hooks (World τ) State Fault} {phase : Phase}
    {caught : Option Fault} {act : Act (State × World τ) Fault Unit}
    (before : ∀ given, (hooks.before.run.run given).1 = .ok ())
    (after : ∀ given, (hooks.after.run.run given).1 = .ok ())
    (onError : phase = .error → ∀ f given, ((hooks.onError f).run.run given).1 = .ok ())
    (chosen : phase.hook? caught hooks = some act) (given : State × World τ) :
    (act.run.run given).1 = .ok () := by
  cases phase with
  | before =>
    cases chosen
    exact before given
  | after =>
    cases chosen
    exact after given
  | error =>
    obtain ⟨f, -, rfl⟩ := Option.map_eq_some_iff.mp chosen
    exact onError rfl f given

theorem among_on_succeeds {S : Type} {get? : State → Option S} {set : S → State}
    {act : Act (S × World τ) Fault Unit} (fine : ∀ given, (act.run.run given).1 = .ok ())
    (given : State × World τ) : ((among.on get? set act).run.run given).1 = .ok () := by
  obtain ⟨state, w⟩ := given
  cases found : get? state with
  | none => simp only [among.on, ExceptT.run_mk, StateT.run, found]
  | some object =>
    simp only [among.on, ExceptT.run_mk, StateT.run, found]
    exact fine _

/-- Of all hooks of the tool, only the error-hook of the audit may fail. -/
theorem Instance.hook_succeeds {i : Instance} {phase : Phase} {caught : Option Fault}
    {act : Act (State × World τ) Fault Unit} (quiet : i = .audit → phase ≠ .error)
    (chosen : phase.hook? caught (i.hooks terminal) = some act) (given : State × World τ) :
    (act.run.run given).1 = .ok () := by
  refine Deploy.hook_succeeds ?before ?after ?onError chosen given
  case before => cases i <;> exact among_on_succeeds fun _ => rfl
  case after => cases i <;> exact among_on_succeeds fun _ => rfl
  case onError =>
    intro error f
    cases i with
    | audit => exact absurd error (quiet rfl)
    | logging => exact among_on_succeeds fun _ => rfl
    | timing => exact among_on_succeeds fun _ => rfl

theorem type_of_audit : ∀ h ∈ holders,
    instanceAt? listing (h.path "behaviors") = some .audit → h.type = "crate::app::Audit" := by
  decide +kernel

theorem MayFail.audit {type : String} {phase : Phase} (fails : MayFail terminal type phase) :
    type = "crate::app::Audit" ∧ phase = .error := by
  obtain ⟨holder, held, rfl, arguments, hooks, caught, act, given, linked, chosen, failed⟩ := fails
  rw [listing_model] at held linked
  obtain ⟨i, found, rfl⟩ := Option.map_eq_some_iff.mp linked
  by_contra other
  refine failed (Instance.hook_succeeds (fun audit error => other ⟨?_, error⟩) chosen given)
  exact type_of_audit holder held (found.trans (congrArg some audit))

end Calls

def closed : Terminal Unit Fault where
  writeLine _ := throw (.terminal "closed")
  writeErrorLine _ := throw (.terminal "closed")

end Deploy
end RouteWeaver
