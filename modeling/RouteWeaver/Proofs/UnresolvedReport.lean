import Mathlib.Data.List.Pairwise
import RouteWeaver.Proofs.DecidingRule
import RouteWeaver.Proofs.SpelledPrograms

/-!
The report of unresolved dependencies against the constructor calls that are emitted. Both go
through the same constructor arguments: the report lists those that nothing serves, in order, and
these are the ones that stand in a call as failure markers.
-/

namespace RouteWeaver

open Text

structure Slot where
  index : Nat
  behavior : Behavior
  position : Nat
  request : String

namespace Slot

def Of (m : Model) (s : Slot) : Prop :=
  m.behaviors[s.index]? = some s.behavior ∧ s.behavior.dependencies[s.position]? = some s.request

def Before (s s' : Slot) : Prop :=
  s.index < s'.index ∨ s.index = s'.index ∧ s.position < s'.position

def entry (s : Slot) : Unresolved :=
  ⟨s.behavior.name, s.request, s.position⟩

end Slot

namespace Behavior

def slots (b : Behavior) (index : Nat) : List Slot :=
  b.dependencies.zipIdx.map fun d => ⟨index, b, d.2, d.1⟩

theorem mem_slots {b : Behavior} {index : Nat} {s : Slot} :
    s ∈ b.slots index ↔ s.index = index ∧ s.behavior = b ∧
      b.dependencies[s.position]? = some s.request := by
  rw [slots, List.mem_map]
  constructor
  · rintro ⟨d, listed, rfl⟩
    exact ⟨rfl, rfl, List.mem_zipIdx_iff_getElem?.mp listed⟩
  · rintro ⟨rfl, rfl, there⟩
    exact ⟨(s.request, s.position), List.mem_zipIdx_iff_getElem?.mpr there, rfl⟩

theorem pairwise_slots (b : Behavior) (index : Nat) : (b.slots index).Pairwise Slot.Before := by
  have positions : (b.dependencies.zipIdx.map Prod.snd).Pairwise (· < ·) := by
    rw [List.zipIdx_map_snd]
    exact List.pairwise_lt_range'
  rw [slots, List.pairwise_map]
  exact (List.pairwise_map.mp positions).imp fun less => .inr ⟨rfl, less⟩

theorem unresolved_eq_slots (b : Behavior) (t : RuleTable) (index : Nat) :
    b.unresolved t =
      ((b.slots index).filter fun s => (t.resolve s.request).isUnresolved).map Slot.entry := by
  rw [unresolved, slots, List.filter_map, List.map_map]
  rfl

end Behavior

namespace Model

def slots (m : Model) : List Slot :=
  m.behaviors.zipIdx.flatMap fun b => b.1.slots b.2

variable {m : Model}

theorem mem_slots {s : Slot} : s ∈ m.slots ↔ s.Of m := by
  rw [slots, List.mem_flatMap, Slot.Of]
  constructor
  · rintro ⟨b, listed, inside⟩
    obtain ⟨index, behavior, request⟩ := Behavior.mem_slots.mp inside
    rw [index, behavior]
    exact ⟨List.mem_zipIdx_iff_getElem?.mp listed, request⟩
  · rintro ⟨behavior, request⟩
    exact ⟨(s.behavior, s.index), List.mem_zipIdx_iff_getElem?.mpr behavior,
      Behavior.mem_slots.mpr ⟨rfl, rfl, request⟩⟩

theorem pairwise_slots (m : Model) : m.slots.Pairwise Slot.Before := by
  have indices : (m.behaviors.zipIdx.map Prod.snd).Pairwise (· < ·) := by
    rw [List.zipIdx_map_snd]
    exact List.pairwise_lt_range'
  rw [slots, List.pairwise_flatMap]
  refine ⟨fun b _ => b.1.pairwise_slots b.2, (List.pairwise_map.mp indices).imp ?_⟩
  intro b c less s hs s' hs'
  rw [← (Behavior.mem_slots.mp hs).1, ← (Behavior.mem_slots.mp hs').1] at less
  exact .inl less

theorem unresolved_eq_slots (m : Model) : m.unresolved =
    (m.slots.filter fun s => (m.ruleTable.resolve s.request).isUnresolved).map Slot.entry := by
  calc m.unresolved
    _ = (m.behaviors.zipIdx.map Prod.fst).flatMap fun b => b.unresolved m.ruleTable := by
      rw [unresolved, List.zipIdx_map_fst]
    _ = m.behaviors.zipIdx.flatMap fun b => ((b.1.slots b.2).filter fun s =>
          (m.ruleTable.resolve s.request).isUnresolved).map Slot.entry := by
      rw [List.flatMap_map]
      congr 1
      funext b
      exact b.1.unresolved_eq_slots m.ruleTable b.2
    _ = _ := by rw [slots, List.filter_flatMap, List.map_flatMap]

theorem isUnresolved_iff (m : Model) (request : String) :
    (m.ruleTable.resolve request).isUnresolved ↔ m.Unserved request := by
  obtain ⟨rule, decides, kind, -⟩ := m.exists_decidingRule? request
  exact (RuleTable.resolve_isUnresolved_iff decides).trans kind

/-- What is unresolved depends on the requests that nothing serves, and not on expressions. -/
theorem unresolved_congr {m m' : Model} (behaviors : m.behaviors = m'.behaviors)
    (served : ∀ request, m.Unserved request ↔ m'.Unserved request) :
    m.unresolved = m'.unresolved := by
  have slots : m.slots = m'.slots := by rw [Model.slots, behaviors, Model.slots]
  rw [unresolved_eq_slots, unresolved_eq_slots, slots]
  refine congrArg (List.map Slot.entry) (List.filter_congr fun s _ => ?_)
  rw [Bool.eq_iff_iff, isUnresolved_iff, isUnresolved_iff]
  exact served s.request

/-- A rule gives the argument of a slot in the constructor call of its holder. -/
def Writes (m : Model) (e : Listing) (s : Slot) (rule : Rule) : Prop :=
  m.ruleTable.decidingRule? (trimmed s.request) = some rule ∧
    ∃ holder type arguments, e.behaviors[s.index]? = some holder ∧
      holder.construction = .new type arguments ∧
      arguments.length = s.behavior.dependencies.length ∧
      arguments[s.position]? = some (rule.strategy.expression (trimmed s.request)
        (m.ruleTable.matched rule.matcher (trimmed s.request)))

theorem writes_of_decidingRule? {s : Slot} (slot : s.Of m) {rule : Rule}
    (decides : m.ruleTable.decidingRule? (trimmed s.request) = some rule) :
    m.Writes m.program.listing s rule := by
  obtain ⟨behavior, request⟩ := slot
  have held : m.program.listing.behaviors[s.index]? = some (s.behavior.holder m.ruleTable) := by
    rw [Program.listing, program, List.getElem?_map, behavior, Option.map_some]
  refine ⟨decides, _, _, _, held, rfl, ?_, ?_⟩
  · rw [List.length_map, Behavior.arguments, List.length_map]
  · rw [List.getElem?_map, Behavior.arguments, List.getElem?_map, request, Option.map_some,
      Option.map_some, RuleTable.resolve_of_decidingRule? decides]

end Model

/-- The report has one entry for each constructor argument that nothing serves, in the order of the
behaviors and then of the positions, and in the source these are the arguments that the failure
marker stands in for. The program is complete just when it stands nowhere. -/
theorem unresolved_reported_exactly (m : Model) :
    let e := m.program.listing
    e.Spelled m.config m.generate.source ∧
    (∃ reported : List Slot, reported.Pairwise Slot.Before ∧
      (∀ s, s ∈ reported ↔ s.Of m ∧ m.Unserved s.request) ∧
      m.generate.unresolved = reported.map Slot.entry) ∧
    (∀ s : Slot, s.Of m →
      ∃ rule, m.Writes e s rule ∧ (rule.strategy = .failureMarker ↔ m.Unserved s.request)) ∧
    (m.generate.isComplete ↔
      ∀ (s : Slot) (rule : Rule), s.Of m → m.Writes e s rule →
        rule.strategy ≠ .failureMarker) := by
  intro e
  have written (s : Slot) (slot : s.Of m) :
      ∃ rule, m.Writes e s rule ∧ (rule.strategy = .failureMarker ↔ m.Unserved s.request) := by
    obtain ⟨rule, decides, -, marker⟩ := m.exists_decidingRule? s.request
    exact ⟨rule, Model.writes_of_decidingRule? slot decides, marker⟩
  have listed (s : Slot) :
      s ∈ m.slots.filter (fun s => (m.ruleTable.resolve s.request).isUnresolved) ↔
        s.Of m ∧ m.Unserved s.request := by
    rw [List.mem_filter, Model.mem_slots, Model.isUnresolved_iff]
  refine ⟨m.spells_source, ⟨_, m.pairwise_slots.filter _, listed, m.unresolved_eq_slots⟩,
    written, ?_⟩
  have complete : m.generate.isComplete ↔ ∀ s : Slot, s.Of m → ¬ m.Unserved s.request := by
    rw [Generated.isComplete, Model.generate, m.unresolved_eq_slots, List.isEmpty_iff,
      List.map_eq_nil_iff, List.eq_nil_iff_forall_not_mem]
    simp only [listed, not_and]
  rw [complete]
  constructor
  · intro served s rule slot writes marker
    obtain ⟨other, writes', iff⟩ := written s slot
    -- One rule decides on a request, so that no other one writes its line.
    obtain rfl : other = rule := Option.some.inj (writes'.1.symm.trans writes.1)
    exact served s slot (iff.mp marker)
  · intro unmarked s slot unserved
    obtain ⟨rule, writes, iff⟩ := written s slot
    exact unmarked s rule slot writes (iff.mpr unserved)

namespace Notifying

def notify : Behavior :=
  ⟨"app::Notify", "Notify", "notify", .generated, [" ", "app::Mailer", "app::Log", "app::Mailer "]⟩

def model : Model where
  config := { loggerMarker := "" }
  behaviors := [⟨"app::Audit", "Audit", "audit", .generated, ["dyn ::Terminal"]⟩, notify]
  services := [⟨"::app::Log", "app::FileLog", "file_log"⟩]

end Notifying

open Notifying in
theorem unresolved_reported_exactly_notify :
    let s : Slot := ⟨1, notify, 3, "app::Mailer "⟩
    let e := model.program.listing
    e.Spelled model.config model.generate.source ∧ s.Of model ∧ model.Unserved s.request ∧
    ⟨"Notify", "app::Mailer ", 3⟩ ∈ model.generate.unresolved ∧ ¬ model.generate.isComplete ∧
    ∃ rule, model.Writes e s rule ∧ rule.strategy = .failureMarker := by
  intro s e
  have slot : s.Of model := ⟨rfl, rfl⟩
  have unserved : model.Unserved s.request :=
    (model.unserved_iff s.request).mpr (by decide +kernel)
  obtain ⟨spelled, ⟨reported, -, listed, report⟩, written, complete⟩ :=
    unresolved_reported_exactly model
  obtain ⟨rule, writes, marker⟩ := written s slot
  have entry : s.entry ∈ model.generate.unresolved := by
    rw [report]
    exact List.mem_map_of_mem ((listed s).mpr ⟨slot, unserved⟩)
  refine ⟨spelled, slot, unserved, entry, fun finished => ?_, rule, writes, marker.mpr unserved⟩
  exact complete.mp finished s rule slot writes (marker.mpr unserved)

end RouteWeaver
