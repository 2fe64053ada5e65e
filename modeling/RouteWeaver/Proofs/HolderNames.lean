import RouteWeaver.Program
import RouteWeaver.Proofs.NameCharacters
import RouteWeaver.Proofs.ServiceHolders

/-!
Names of holders. A holder declares its static and its accessor function, two items of one
namespace. The static is named for the accessor in capitals, which tells the two apart unless the
name of the accessor has no letter to capitalize.
-/

namespace RouteWeaver

namespace Name

variable {name other : String}

def capitals (name : String) : String :=
  String.ofList (name.toList.map Char.toUpper)

def lettered (name : String) : Bool :=
  name.toList.any Char.isLower

theorem toList_capitals (name : String) :
    (capitals name).toList = name.toList.map Char.toUpper := by
  rw [capitals, String.toList_ofList]

theorem not_lettered_capitals (name : String) : ¬ lettered (capitals name) := by
  intro letters
  obtain ⟨d, capital, letter⟩ := List.any_eq_true.mp letters
  rw [toList_capitals] at capital
  obtain ⟨c, -, rfl⟩ := List.mem_map.mp capital
  rw [Char.isLower_toUpper_eq_false] at letter
  cases letter

theorem capitals_of_not_lettered (letterless : ¬ lettered name) : capitals name = name := by
  have fixed : ∀ c ∈ name.toList, c.toUpper = c := by
    intro c member
    apply Char.toUpper_eq_of_not_isLower
    intro letter
    exact letterless (List.any_eq_true.mpr ⟨c, member, letter⟩)
  rw [capitals, List.map_congr_left fixed, List.map_id', String.ofList_toList]

theorem capitals_inj (granted : Granted name) (granted' : Granted other) :
    capitals name = capitals other ↔ name = other := by
  have back {n : String} (granted : Granted n) :
      String.ofList ((capitals n).toList.map Char.toLower) = n := by
    have fixed : ∀ c ∈ n.toList, c.toUpper.toLower = c := fun c member =>
      toLower_toUpper (granted.isNameChar c member)
    rw [toList_capitals, List.map_map]
    exact (congrArg String.ofList (List.map_congr_left fixed)).trans (by simp)
  constructor
  · intro same
    rw [← back granted, same, back granted']
  · exact congrArg capitals

theorem capitals_eq_iff (granted : Granted name) (granted' : Granted other) :
    capitals name = other ↔ name = other ∧ ¬ lettered name := by
  constructor
  · rintro rfl
    have letterless := not_lettered_capitals name
    have same : name = capitals name :=
      (capitals_inj granted granted').mp (capitals_of_not_lettered letterless).symm
    exact ⟨same, same ▸ letterless⟩
  · rintro ⟨rfl, letterless⟩
    exact capitals_of_not_lettered letterless

theorem nodup_capitals_append_iff {names : List String} (granted : ∀ n ∈ names, Granted n) :
    (names.map capitals ++ names).Nodup ↔ names.Nodup ∧ ∀ n ∈ names, lettered n := by
  rw [List.nodup_append]
  constructor
  · rintro ⟨-, distinct, apart⟩
    refine ⟨distinct, fun n member => ?_⟩
    by_contra letterless
    exact apart _ (List.mem_map_of_mem member) n member (capitals_of_not_lettered letterless)
  · rintro ⟨distinct, lettered⟩
    refine ⟨?_, distinct, ?_⟩
    · refine List.Nodup.map_on (fun n hn k hk same => ?_) distinct
      exact (capitals_inj (granted n hn) (granted k hk)).mp same
    · intro _ capital k hk same
      obtain ⟨n, hn, rfl⟩ := List.mem_map.mp capital
      exact ((capitals_eq_iff (granted n hn) (granted k hk)).mp same).2 (lettered n hn)

end Name

namespace Holder

def names (h : Holder) : List String :=
  [h.staticName, h.accessor]

theorem flatMap_names_perm (holders : List Holder) :
    ((holders.map (·.accessor)).map Name.capitals ++ holders.map (·.accessor)).Perm
      (holders.flatMap names) := by
  have zipped := List.map_append_flatMap_perm holders staticName fun h => [h.accessor]
  rw [← List.map_eq_flatMap] at zipped
  rw [List.map_map]
  exact zipped

theorem length_flatMap_names (holders : List Holder) :
    (holders.flatMap names).length = 2 * holders.length := by
  rw [← (flatMap_names_perm holders).length_eq, List.length_append, List.length_map,
    List.length_map, Nat.two_mul]

theorem nodup_names_iff {holders : List Holder}
    (granted : ∀ name ∈ holders.map (·.accessor), Name.Granted name) :
    (holders.flatMap names).Nodup ↔ (holders.map (·.accessor)).Nodup ∧
      ∀ name ∈ holders.map (·.accessor), Name.lettered name := by
  rw [← (flatMap_names_perm holders).nodup_iff]
  exact Name.nodup_capitals_append_iff granted

end Holder

namespace Model

variable {m : Model}

theorem accessors_behaviors_program :
    m.program.behaviors.map (·.accessor) = m.behaviors.map (·.identifier) := by
  rw [program, List.map_map]
  rfl

theorem mem_accessors_services_program {name : String} :
    name ∈ m.program.services.map (·.accessor) ↔ name ∈ m.services.map (·.storage) := by
  have names : m.program.services.map (·.accessor) =
      (Service.shared m.services).map Service.Shared.storage := by
    rw [program, Service.holders, List.map_map]
    rfl
  rw [names]
  exact (Service.grouped_shared m.services).storage_mem_iff name

theorem nodup_accessors_services_program : (m.program.services.map (·.accessor)).Nodup := by
  rw [program, Service.holders, List.map_map]
  exact (Service.grouped_shared m.services).distinct

end Model

/-- The holders of each section declare different names just when no two of them have one accessor,
which cannot be of services, and each accessor has a letter. -/
theorem holder_names_nodup_iff {m : Model} (named : m.Named) :
    (m.program.behaviors.flatMap Holder.names).length = 2 * m.behaviors.length ∧
    ((m.program.behaviors.flatMap Holder.names).Nodup ↔
      (m.behaviors.map (·.identifier)).Nodup ∧ ∀ b ∈ m.behaviors, Name.lettered b.identifier) ∧
    ((m.program.services.flatMap Holder.names).Nodup ↔
      ∀ s ∈ m.services, Name.lettered s.storage) := by
  refine ⟨?_, ?_, ?_⟩
  · rw [Holder.length_flatMap_names, Model.program, List.length_map]
  · have granted : ∀ name ∈ m.program.behaviors.map (·.accessor), Name.Granted name := by
      rw [Model.accessors_behaviors_program]
      exact List.forall_mem_map.mpr named.identifiers
    rw [Holder.nodup_names_iff granted, Model.accessors_behaviors_program, List.forall_mem_map]
  · have granted : ∀ name ∈ m.program.services.map (·.accessor), Name.Granted name := by
      simp only [Model.mem_accessors_services_program]
      exact List.forall_mem_map.mpr named.storages
    rw [Holder.nodup_names_iff granted, and_iff_right Model.nodup_accessors_services_program]
    simp only [Model.mem_accessors_services_program, List.forall_mem_map]

theorem holder_names_nodup_logging :
    let m := Model.ofDefinitions {} [.ofType "audit::Logging", .ofType "trace::Logging"]
      [.ofTypes "dyn Clock" "WallClock", .ofTypes "dyn Timer" "WallClock"] []
    m.Named ∧ (m.program.behaviors.flatMap Holder.names).Nodup ∧
      (m.program.services.flatMap Holder.names).Nodup := by
  intro m
  have named : m.Named := by
    refine Model.named_ofDefinitions {} [] ?_ ?_
    · simp [Behavior.ofType, Name.Granted.asked]
    · simp [Service.ofTypes, Name.Granted.asked]
  have identifiers : m.behaviors.map (·.identifier) = ["logging_97cbce23", "logging_7f94c28d"] := by
    decide +kernel
  have storages : m.services.map (·.storage) = ["wall_clock", "wall_clock"] := by decide +kernel
  have letters : ∀ name ∈ m.behaviors.map (·.identifier), Name.lettered name := by
    rw [identifiers]
    decide
  have letters' : ∀ name ∈ m.services.map (·.storage), Name.lettered name := by
    rw [storages]
    decide
  obtain ⟨-, behaviors, services⟩ := holder_names_nodup_iff named
  refine ⟨named, behaviors.mpr ⟨?_, List.forall_mem_map.mp letters⟩,
    services.mpr (List.forall_mem_map.mp letters')⟩
  rw [identifiers]
  decide

/-- The characters of the type become underscores, which have no capitals. -/
theorem letterless_names_meet :
    let m := Model.ofDefinitions {} [.ofType "app::日本"] [.ofTypes "dyn Clock" "app::時計"] []
    m.Named ∧ (m.behaviors.map (·.identifier)).Nodup ∧
    (m.program.behaviors.flatMap Holder.names) = ["__", "__"] ∧
    (m.program.services.flatMap Holder.names) = ["__", "__"] := by
  refine ⟨?_, by decide +kernel⟩
  refine Model.named_ofDefinitions {} [] ?_ ?_
  · simp [Behavior.ofType, Name.Granted.asked]
  · simp [Service.ofTypes, Name.Granted.asked]

end RouteWeaver
