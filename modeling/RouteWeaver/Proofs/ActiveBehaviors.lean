import Mathlib.Data.Fin.Basic
import Mathlib.Data.List.FinRange
import Mathlib.Logic.Relation
import RouteWeaver.Proofs.Identifiers
import RouteWeaver.Proofs.RouteBodies

namespace RouteWeaver

open Text

/-- The indices that satisfy a property, in order. -/
structure Picks {n : Nat} (P : Fin n → Prop) (positions : List (Fin n)) : Prop where
  ordered : positions.Pairwise (· < ·)
  complete : ∀ i, i ∈ positions ↔ P i

namespace Picks

variable {n : Nat} {P : Fin (n + 1) → Prop} {Q : Fin n → Prop} {positions : List (Fin n)}

theorem ordered_map_succ (picks : Picks Q positions) :
    (positions.map Fin.succ).Pairwise (· < ·) := by
  rw [List.pairwise_map]
  exact picks.ordered.imp Fin.succ_lt_succ_iff.mpr

theorem succ_mem_iff (picks : Picks Q positions) (i : Fin n) :
    i.succ ∈ positions.map Fin.succ ↔ Q i := by
  rw [List.mem_map_of_injective (Fin.succ_injective n), picks.complete]

theorem cons (picks : Picks Q positions) (first : P 0) (later : ∀ i, P i.succ ↔ Q i) :
    Picks P (0 :: positions.map Fin.succ) where
  ordered := by
    rw [List.pairwise_cons]
    refine ⟨?_, picks.ordered_map_succ⟩
    intro j member
    obtain ⟨i, -, rfl⟩ := List.mem_map.mp member
    exact Fin.succ_pos i
  complete := by
    intro i
    cases i using Fin.cases with
    | zero => simp [first]
    | succ i =>
      rw [List.mem_cons, or_iff_right (Fin.succ_ne_zero i), picks.succ_mem_iff, later]

theorem skip (picks : Picks Q positions) (first : ¬ P 0) (later : ∀ i, P i.succ ↔ Q i) :
    Picks P (positions.map Fin.succ) where
  ordered := picks.ordered_map_succ
  complete := by
    intro i
    cases i using Fin.cases with
    | zero =>
      have absent : 0 ∉ positions.map Fin.succ := by simp [Fin.succ_ne_zero]
      exact iff_of_false absent first
    | succ i => rw [picks.succ_mem_iff, later]

end Picks

namespace Behavior

/-- What a definition says; the identifier is granted by the model. -/
def declared (b : Behavior) : String × String × StateKind × List String :=
  (b.type, b.name, b.state, b.dependencies)

def IsFirst (definitions : List Behavior) (i : Fin definitions.length) : Prop :=
  ∀ j < i, definitions[j].key ≠ definitions[i].key

variable {b : Behavior} {definitions : List Behavior}

theorem isFirst_zero : IsFirst (b :: definitions) 0 := by
  intro j before
  exact absurd before (Fin.not_lt_zero j)

theorem isFirst_succ (i : Fin definitions.length) :
    IsFirst (b :: definitions) i.succ ↔
      b.key ≠ definitions[i].key ∧ IsFirst definitions i := by
  constructor
  · intro first
    refine ⟨first 0 (Fin.succ_pos i), ?_⟩
    intro j before
    exact first j.succ (Fin.succ_lt_succ_iff.mpr before)
  · rintro ⟨apart, first⟩ j before
    cases j using Fin.cases with
    | zero => exact apart
    | succ j => exact first j (Fin.succ_lt_succ_iff.mp before)

theorem exists_picks_distinctFrom (seen : List String) (definitions : List Behavior) :
    ∃ positions,
      Picks (fun i => definitions[i].key ∉ seen ∧ IsFirst definitions i) positions ∧
      distinctFrom seen definitions = positions.map fun i => definitions[i] := by
  induction definitions generalizing seen with
  | nil => exact ⟨[], ⟨.nil, fun i => i.elim0⟩, rfl⟩
  | cons b definitions ih =>
    rw [distinctFrom]
    split
    · rename_i old
      obtain ⟨positions, picks, kept⟩ := ih seen
      refine ⟨positions.map Fin.succ, picks.skip ?_ ?_, ?_⟩
      · exact fun first => first.1 old
      · intro i
        rw [isFirst_succ]
        constructor
        · rintro ⟨fresh, -, first⟩
          exact ⟨fresh, first⟩
        · rintro ⟨fresh, first⟩
          exact ⟨fresh, ne_of_mem_of_not_mem old fresh, first⟩
      · rw [kept, List.map_map]
        rfl
    · rename_i new
      obtain ⟨positions, picks, kept⟩ := ih (b.key :: seen)
      refine ⟨0 :: positions.map Fin.succ, picks.cons ⟨new, isFirst_zero⟩ ?_, ?_⟩
      · intro i
        rw [isFirst_succ, List.mem_cons, not_or, ne_comm, and_left_comm, and_assoc]
        rfl
      · rw [kept, List.map_cons, List.map_map]
        rfl

theorem map_declared_withGrantedIdentifiers (behaviors : List Behavior) :
    (withGrantedIdentifiers behaviors).map declared = behaviors.map declared := by
  rw [withGrantedIdentifiers, List.map_map]
  rfl

theorem answersTo_congr {r r' : String} (same : trimmed r = trimmed r') :
    b.answersTo r = b.answersTo r' := by
  rw [answersTo, answersTo, same]

end Behavior

namespace Model

/-- One change to the references of a route: another order, one of them once more, other blanks
around one, or one more that no behavior answers to. -/
inductive Rephrases (m : Model) : List String → List String → Prop
  | reordered {l l'} : l.Perm l' → Rephrases m l l'
  | repeated {r l} : r ∈ l → Rephrases m l (r :: l)
  | padded {before r after l} (front : ∀ c ∈ before, isBlank c) (back : ∀ c ∈ after, isBlank c) :
      Rephrases m (r :: l) (String.ofList (before ++ (r.toList ++ after)) :: l)
  | unknown {r l} : (∀ b ∈ m.behaviors, ¬ b.answersTo r) → Rephrases m l (r :: l)

/-- The behaviors of a route: registered ones in their order, none of them twice, and by the
references of the route when it has a list. -/
structure ActiveOn (m : Model) (route : Route) (active : List Behavior) : Prop where
  ordered : active.Sublist m.behaviors
  distinct : (active.map Behavior.key).Nodup
  unlisted : route.behaviors = none → active = m.behaviors
  listed : ∀ references, route.behaviors = some references → ∀ b,
    b ∈ active ↔ b ∈ m.behaviors ∧ ∃ r ∈ references, b.answersTo r
  empty : route.behaviors = some [] → active = []

variable {m : Model} {l l' : List String}

theorem Rephrases.answered_iff (change : m.Rephrases l l') {b : Behavior} (kept : b ∈ m.behaviors) :
    (∃ r ∈ l, b.answersTo r) ↔ ∃ r ∈ l', b.answersTo r := by
  cases change with
  | reordered same => simp only [same.mem_iff]
  | repeated listed =>
    rw [List.exists_mem_cons_iff]
    constructor
    · exact .inr
    · rintro (answers | answered)
      · exact ⟨_, listed, answers⟩
      · exact answered
  | @padded _ r _ _ front back =>
    rw [List.exists_mem_cons_iff, List.exists_mem_cons_iff,
      Behavior.answersTo_congr (trimmed_padded r front back)]
  | unknown absent => rw [List.exists_mem_cons_iff, or_iff_right (absent b kept)]

theorem answered_iff_of_eqvGen (rephrased : Relation.EqvGen m.Rephrases l l') {b : Behavior}
    (kept : b ∈ m.behaviors) : (∃ r ∈ l, b.answersTo r) ↔ ∃ r ∈ l', b.answersTo r := by
  induction rephrased with
  | rel l l' change => exact change.answered_iff kept
  | refl l => exact Iff.rfl
  | symm l l' _ ih => exact ih.symm
  | trans l l' l'' _ _ ih ih' => exact ih.trans ih'

theorem behaviorsFor_congr {route route' : Route} (lists : route.behaviors = some l)
    (lists' : route'.behaviors = some l')
    (same : ∀ b ∈ m.behaviors, (∃ r ∈ l, b.answersTo r) ↔ ∃ r ∈ l', b.answersTo r) :
    m.behaviorsFor route' = m.behaviorsFor route := by
  simp only [behaviorsFor, lists, lists']
  apply List.filter_congr
  intro b kept
  rw [Bool.eq_iff_iff, List.any_eq_true, List.any_eq_true]
  exact (same b kept).symm

theorem activeOn_behaviorsFor (types : (m.behaviors.map Behavior.key).Nodup) (route : Route) :
    m.ActiveOn route (m.behaviorsFor route) where
  ordered := behaviorsFor_sublist m route
  distinct := types.sublist ((behaviorsFor_sublist m route).map Behavior.key)
  unlisted := by
    intro unlisted
    rw [behaviorsFor, unlisted]
  listed := fun _ lists => mem_behaviorsFor_iff lists
  empty := by
    intro lists
    simp [behaviorsFor, lists]

end Model

/-- A model keeps the first definition of each type, with all that it declares and in the order of
the definitions. A route picks its behaviors from these by its references, and picks the same ones
when the references are written in another way. -/
theorem active_behaviors (config : Config) (definitions : List Behavior) (services : List Service)
    (routes : List Route) (route : Route) :
    let m := Model.ofDefinitions config definitions services routes
    (∃ positions : List (Fin definitions.length), Picks (Behavior.IsFirst definitions) positions ∧
      m.behaviors.map Behavior.declared = positions.map fun i => definitions[i].declared) ∧
    m.ActiveOn route (m.behaviorsFor route) ∧
    ∀ references references' route', Relation.EqvGen m.Rephrases references references' →
      route.behaviors = some references → route'.behaviors = some references' →
      m.behaviorsFor route' = m.behaviorsFor route := by
  intro m
  refine ⟨?_, ?_, ?_⟩
  · obtain ⟨positions, picks, kept⟩ := Behavior.exists_picks_distinctFrom [] definitions
    refine ⟨positions, ⟨picks.ordered, by simpa using picks.complete⟩, ?_⟩
    have declared : m.behaviors.map Behavior.declared =
        (Behavior.distinctFrom [] definitions).map Behavior.declared :=
      Behavior.map_declared_withGrantedIdentifiers _
    rw [declared, kept, List.map_map]
    rfl
  · apply Model.activeOn_behaviorsFor
    have types : m.behaviors.map Behavior.key = (Behavior.distinct definitions).map Behavior.key :=
      Behavior.map_key_withGrantedIdentifiers _
    rw [types]
    exact Behavior.nodup_keys_distinctFrom [] definitions
  · intro references references' route' rephrased lists lists'
    apply Model.behaviorsFor_congr lists lists'
    exact fun b kept => Model.answered_iff_of_eqvGen rephrased kept

theorem active_behaviors_timing :
    let definitions := [Behavior.ofType "app::Logging", { Behavior.ofType " app::Logging" with
      name := "Audit" }, Behavior.ofType "app::Timing"]
    let m := Model.ofDefinitions {} definitions [] []
    let references := ["Timing", "app::Logging"]
    let references' := [" app::Logging", "Audit", "Timing", "Timing"]
    Relation.EqvGen m.Rephrases references references' ∧
    m.behaviorsFor { pattern := "deploy", behaviors := some references' } =
      m.behaviorsFor { pattern := "deploy", behaviors := some references } := by
  intro definitions m references references'
  have again : m.Rephrases references ("Timing" :: references) := .repeated (by simp [references])
  have unknown : ∀ b ∈ m.behaviors, ¬ b.answersTo "Audit" := by decide +kernel
  have more : m.Rephrases ("Timing" :: references) ("Audit" :: "Timing" :: references) :=
    .unknown unknown
  have front : ("Audit" :: "Timing" :: references).Perm
      ["app::Logging", "Audit", "Timing", "Timing"] := by
    decide
  have blank : String.ofList ([' '] ++ ("app::Logging".toList ++ [])) = " app::Logging" := by
    decide
  have space : ∀ c ∈ [' '], isBlank c := List.forall_mem_singleton.mpr rfl
  have padded := @Model.Rephrases.padded m [' '] "app::Logging" [] ["Audit", "Timing", "Timing"]
    space (by simp)
  rw [blank] at padded
  have rephrased : Relation.EqvGen m.Rephrases references references' :=
    .trans _ _ _ (.trans _ _ _ (.rel _ _ again) (.rel _ _ more))
      (.trans _ _ _ (.rel _ _ (.reordered front)) (.rel _ _ padded))
  obtain ⟨-, -, same⟩ := active_behaviors {} definitions [] []
    { pattern := "deploy", behaviors := some references }
  exact ⟨rephrased, same references references' _ rephrased rfl rfl⟩

end RouteWeaver
