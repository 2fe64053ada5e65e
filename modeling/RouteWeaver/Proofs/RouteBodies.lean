import RouteWeaver.Program.Listing

namespace RouteWeaver

namespace Statement

def object? : Statement → Option StateObject
  | makeState object => some object
  | _ => none

/-- The steps of a statement, as they are written. -/
def steps : Statement → List Step
  | perform step => [step]
  | guard _ steps | recover _ steps => steps
  | makeState _ | succeed => []

/-- The variable of the outcome that a statement keeps or looks at. -/
def outcome? : Statement → Option String
  | guard outcome _ | recover outcome _ => some outcome
  | _ => none

end Statement

namespace Text

theorem toDigits_inj {i j : Nat} : Nat.toDigits 10 i = Nat.toDigits 10 j ↔ i = j := by
  refine ⟨fun same => ?_, congrArg _⟩
  rw [← Nat.ofDigitChars_ten_toDigits (n := i), same, Nat.ofDigitChars_ten_toDigits]

theorem toDigits_append_inj {i j : Nat} {x y : List Char} :
    Nat.toDigits 10 i ++ '_' :: x = Nat.toDigits 10 j ++ '_' :: y ↔ i = j ∧ x = y := by
  refine ⟨fun same => ?_, fun ⟨index, rest⟩ => by rw [index, rest]⟩
  have digits (n : Nat) (z : List Char) :
      (Nat.toDigits 10 n ++ '_' :: z).takeWhile (· ≠ '_') = Nat.toDigits 10 n := by
    rw [List.takeWhile_append_of_pos]
    · simp
    · intro c digit
      simpa using ne_of_mem_of_not_mem digit Nat.underscore_not_in_toDigits
  have index : Nat.toDigits 10 i = Nat.toDigits 10 j := by rw [← digits i x, same, digits]
  rw [index, List.append_cancel_left_eq, List.cons.injEq] at same
  exact ⟨toDigits_inj.mp index, same.2⟩

end Text

namespace RouteFunction

theorem name_inj {f g : RouteFunction} : f.name = g.name ↔ f.index = g.index := by
  rw [name, name, String.append_right_inj, Nat.toString_eq_ofList_toDigits,
    Nat.toString_eq_ofList_toDigits, String.ofList_inj, Text.toDigits_inj]

end RouteFunction

namespace NamedFunction

def objects (f : NamedFunction) : List StateObject :=
  f.body.filterMap Statement.object?

def steps (f : NamedFunction) : List Step :=
  f.body.flatMap Statement.steps

def outcomes (f : NamedFunction) : List String :=
  f.body.filterMap Statement.outcome?

end NamedFunction

namespace Behavior

theorem stateVariable_inj {b c : Behavior} {i j : Nat} :
    b.stateVariable i = c.stateVariable j ↔ i = j ∧ b.identifier = c.identifier := by
  rw [← String.toList_inj, stateVariable, stateVariable]
  simp [Text.toDigits_append_inj, String.toList_inj]

/-- The hooks of behaviors, in the order in which a woven body has them. -/
def hooksAround (behaviors : List Behavior) (index : Nat) (action : Action) : List Step :=
  behaviors.map (·.hook index .before) ++ .action action ::
    (behaviors.reverse.map (·.hook index .after) ++ behaviors.reverse.map (·.hook index .error))

theorem action_mem_hooksAround {behaviors : List Behavior} {index : Nat}
    {action action' : Action} :
    .action action' ∈ hooksAround behaviors index action ↔ action' = action := by
  simp [hooksAround, hook]

theorem hook_of_mem_hooksAround {behaviors : List Behavior} {index : Nat} {action : Action}
    {phase : Phase} {accessor owner : String}
    (called : .hook phase accessor owner ∈ hooksAround behaviors index action) :
    ∃ b ∈ behaviors, accessor = b.accessorPath ∧ owner = b.stateVariable index := by
  have hook_eq (p : Phase) (b : Behavior) :
      b.hook index p = .hook phase accessor owner → accessor = b.accessorPath ∧
        owner = b.stateVariable index := by
    intro same
    obtain ⟨-, accessors, owners⟩ := Step.hook.inj same
    exact ⟨accessors.symm, owners.symm⟩
  simp only [hooksAround, List.mem_append, List.mem_cons, List.mem_map, List.mem_reverse,
    reduceCtorEq, false_or] at called
  rcases called with ⟨b, active, same⟩ | ⟨b, active, same⟩ | ⟨b, active, same⟩ <;>
    exact ⟨b, active, hook_eq _ b same⟩

theorem filterMap_object_makeStates (behaviors : List Behavior) (route : Route) (index : Nat) :
    (makeStates behaviors route index).filterMap Statement.object? =
      behaviors.map (·.stateObject route index) := by
  rw [makeStates, List.filterMap_map, ← List.filterMap_eq_map]
  rfl

theorem flatMap_steps_makeStates (behaviors : List Behavior) (route : Route) (index : Nat) :
    (makeStates behaviors route index).flatMap Statement.steps = [] := by
  rw [makeStates, List.flatMap_map, List.flatMap_eq_nil_iff]
  exact fun _ _ => rfl

theorem filterMap_outcome_makeStates (behaviors : List Behavior) (route : Route) (index : Nat) :
    (makeStates behaviors route index).filterMap Statement.outcome? = [] := by
  rw [makeStates, List.filterMap_map, List.filterMap_eq_nil_iff]
  exact fun _ _ => rfl

end Behavior

namespace Model

theorem behaviorsFor_sublist (m : Model) (r : Route) : (m.behaviorsFor r).Sublist m.behaviors := by
  rw [behaviorsFor]
  split
  · exact .refl _
  · exact List.filter_sublist

theorem mem_behaviorsFor_iff {m : Model} {r : Route} {references : List String}
    (lists : r.behaviors = some references) (b : Behavior) :
    b ∈ m.behaviorsFor r ↔ b ∈ m.behaviors ∧ ∃ reference ∈ references, b.answersTo reference := by
  simp [behaviorsFor, lists]

theorem getElem?_functions_listing (m : Model) (i : Nat) :
    m.program.listing.functions[i]? = m.routes[i]?.map fun r => (r.function m i).named := by
  simp only [program, Program.listing, List.getElem?_map, List.getElem?_mapIdx, Option.map_map]
  rfl

theorem mem_functions_listing {m : Model} {f : NamedFunction}
    (listed : f ∈ m.program.listing.functions) :
    ∃ (i : Nat) (r : Route), m.routes[i]? = some r ∧ f = (r.function m i).named := by
  obtain ⟨i, found⟩ := List.mem_iff_getElem?.mp listed
  rw [getElem?_functions_listing] at found
  obtain ⟨r, there, rfl⟩ := Option.map_eq_some_iff.mp found
  exact ⟨i, r, there, rfl⟩

end Model

namespace Route

variable (m : Model) (r : Route) (i : Nat)

theorem body_function :
    ∃ rest, (r.function m i).body = Behavior.makeStates (m.behaviorsFor r) r i ++ rest ∧
      (∀ s ∈ rest, s.object? = none) ∧
      rest.flatMap Statement.steps = Behavior.hooksAround (m.behaviorsFor r) i r.action ∧
      ∀ outcome ∈ rest.filterMap Statement.outcome?, outcome = outcomeVariable i := by
  rw [function]
  -- A body without behaviors is written in its own way.
  cases m.behaviorsFor r with
  | nil =>
    refine ⟨[.perform (.action r.action), .succeed], rfl, ?_, rfl, ?_⟩
    · simp [Statement.object?]
    · simp [Statement.outcome?]
  | cons b behaviors =>
    refine ⟨_, List.append_assoc _ _ _, ?_, ?_, ?_⟩
    · simp [Statement.object?]
    · simp [Statement.steps, Behavior.hooksAround]
    · simp [Statement.outcome?]

theorem objects_function :
    (r.function m i).named.objects = (m.behaviorsFor r).map (·.stateObject r i) := by
  obtain ⟨rest, body, stateless, -⟩ := r.body_function m i
  have none : rest.filterMap Statement.object? = [] := List.filterMap_eq_nil_iff.mpr stateless
  rw [NamedFunction.objects, RouteFunction.named, body, List.filterMap_append, none,
    Behavior.filterMap_object_makeStates, List.append_nil]

theorem steps_function :
    (r.function m i).named.steps = Behavior.hooksAround (m.behaviorsFor r) i r.action := by
  obtain ⟨rest, body, -, steps, -⟩ := r.body_function m i
  rw [NamedFunction.steps, RouteFunction.named, body, List.flatMap_append, steps, Behavior.flatMap_steps_makeStates,
    List.nil_append]

theorem eq_outcomeVariable {outcome : String} (kept : outcome ∈ (r.function m i).named.outcomes) :
    outcome = outcomeVariable i := by
  obtain ⟨rest, body, -, -, outcomes⟩ := r.body_function m i
  rw [NamedFunction.outcomes, RouteFunction.named, body, List.filterMap_append, Behavior.filterMap_outcome_makeStates,
    List.nil_append] at kept
  exact outcomes outcome kept

end Route
end RouteWeaver
