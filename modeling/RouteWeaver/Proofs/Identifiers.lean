import Mathlib.Data.List.Nodup
import RouteWeaver.Model
import RouteWeaver.Proofs.GrantedNames

namespace RouteWeaver

namespace Behavior

theorem distinctFrom_sublist (seen : List String) (behaviors : List Behavior) :
    (distinctFrom seen behaviors).Sublist behaviors := by
  induction behaviors generalizing seen with
  | nil => exact .slnil
  | cons b behaviors ih =>
    rw [distinctFrom]
    split
    · exact (ih seen).cons b
    · exact (ih (b.key :: seen)).cons_cons b

theorem key_notMem_of_mem_distinctFrom {seen : List String} {behaviors : List Behavior}
    {b : Behavior} (kept : b ∈ distinctFrom seen behaviors) : b.key ∉ seen := by
  induction behaviors generalizing seen with
  | nil => cases kept
  | cons c behaviors ih =>
    rw [distinctFrom] at kept
    split at kept
    · exact ih kept
    · rename_i fresh
      rcases List.mem_cons.mp kept with rfl | kept
      · exact fresh
      · exact fun old => ih kept (List.mem_cons_of_mem _ old)

theorem nodup_keys_distinctFrom (seen : List String) (behaviors : List Behavior) :
    ((distinctFrom seen behaviors).map key).Nodup := by
  induction behaviors generalizing seen with
  | nil => exact .nil
  | cons b behaviors ih =>
    rw [distinctFrom]
    split
    · exact ih seen
    · rw [List.map_cons, List.nodup_cons]
      refine ⟨fun member => ?_, ih (b.key :: seen)⟩
      obtain ⟨c, kept, same⟩ := List.mem_map.mp member
      exact key_notMem_of_mem_distinctFrom kept (by simp [same])

theorem key_mem_distinctFrom {seen : List String} {behaviors : List Behavior} {b : Behavior}
    (defined : b ∈ behaviors) : b.key ∈ seen ∨ b.key ∈ (distinctFrom seen behaviors).map key := by
  induction behaviors generalizing seen with
  | nil => cases defined
  | cons c behaviors ih =>
    rw [distinctFrom]
    split
    · rename_i old
      rcases List.mem_cons.mp defined with rfl | defined
      · exact .inl old
      · exact ih defined
    · rw [List.map_cons, List.mem_cons]
      rcases List.mem_cons.mp defined with rfl | defined
      · exact .inr (.inl rfl)
      · have later : b.key ∈ c.key :: seen ∨ _ := ih defined
        rcases later with old | kept
        · exact (List.mem_cons.mp old).elim (fun same => .inr (.inl same)) .inl
        · exact .inr (.inr kept)

theorem mem_of_mem_distinct {behaviors : List Behavior} {b : Behavior}
    (kept : b ∈ distinct behaviors) : b ∈ behaviors :=
  (distinctFrom_sublist [] behaviors).subset kept

theorem mem_keys_distinct_iff (behaviors : List Behavior) (k : String) :
    k ∈ (distinct behaviors).map key ↔ k ∈ behaviors.map key := by
  constructor
  · intro kept
    exact ((distinctFrom_sublist [] behaviors).map key).subset kept
  · intro member
    obtain ⟨b, defined, rfl⟩ := List.mem_map.mp member
    exact (key_mem_distinctFrom defined).resolve_left (by simp)

theorem map_key_withGrantedIdentifiers (behaviors : List Behavior) :
    (withGrantedIdentifiers behaviors).map key = behaviors.map key := by
  rw [withGrantedIdentifiers, List.map_map]
  rfl

theorem map_identifier_withGrantedIdentifiers (behaviors : List Behavior) :
    (withGrantedIdentifiers behaviors).map (·.identifier) =
      behaviors.map fun b => b.request.granted (behaviors.map request) := by
  rw [withGrantedIdentifiers, List.map_map]
  rfl

theorem nodup_granted_iff {behaviors : List Behavior} (fresh : ∀ b ∈ behaviors, b.Fresh)
    (types : (behaviors.map key).Nodup) :
    (behaviors.map fun b => b.request.granted (behaviors.map request)).Nodup ↔
      Name.Separable (behaviors.map key) := by
  have meet {b c : Behavior} (hb : b ∈ behaviors) (hc : c ∈ behaviors) :
      b.request.granted (behaviors.map request) = c.request.granted (behaviors.map request) ↔
        b.key = c.key ∨ Name.Clash (behaviors.map key) b.key c.key :=
    Name.Request.granted_eq_granted_iff fresh hb hc
  constructor
  · rintro names _ mb _ mc clash
    obtain ⟨b, hb, rfl⟩ := List.mem_map.mp mb
    obtain ⟨c, hc, rfl⟩ := List.mem_map.mp mc
    have same := List.inj_on_of_nodup_map names hb hc ((meet hb hc).mpr (.inr clash))
    exact clash.1 (congrArg key same)
  · intro separable
    refine List.Nodup.map_on (fun b hb c hc same => ?_) types.of_map
    have keys : b.key = c.key := ((meet hb hc).mp same).resolve_right
      (separable _ (List.mem_map_of_mem hb) _ (List.mem_map_of_mem hc))
    exact List.inj_on_of_nodup_map types hb hc keys

end Behavior

/-- The behaviors of a model have different types, and they have different identifiers just when
no two of the types are granted one name. -/
theorem identifiers_nodup_iff (config : Config) {behaviors : List Behavior}
    (fresh : ∀ b ∈ behaviors, b.Fresh) (services : List Service) (routes : List Route) :
    ((Model.ofDefinitions config behaviors services routes).behaviors.map Behavior.key).Nodup ∧
    (((Model.ofDefinitions config behaviors services routes).behaviors.map
        (·.identifier)).Nodup ↔
      Name.Separable (behaviors.map Behavior.key)) := by
  have types : ((Behavior.distinct behaviors).map Behavior.key).Nodup :=
    Behavior.nodup_keys_distinctFrom [] behaviors
  have kept : ∀ b ∈ Behavior.distinct behaviors, b.Fresh :=
    fun b hb => fresh b (Behavior.mem_of_mem_distinct hb)
  rw [Model.ofDefinitions, Behavior.map_key_withGrantedIdentifiers,
    Behavior.map_identifier_withGrantedIdentifiers, Behavior.nodup_granted_iff kept types,
    Name.Separable.congr (Behavior.mem_keys_distinct_iff behaviors)]
  exact ⟨types, Iff.rfl⟩

theorem identifiers_nodup_iff_logging :
    (∀ b ∈ [Behavior.ofType "audit::Logging", .ofType "trace::Logging"], b.Fresh) ∧
    (((Model.ofDefinitions {} [.ofType "audit::Logging", .ofType "trace::Logging"] []
        []).behaviors.map (·.identifier)).Nodup ↔
      Name.Separable ["audit::Logging", "trace::Logging"]) := by
  have fresh : ∀ b ∈ [Behavior.ofType "audit::Logging", .ofType "trace::Logging"], b.Fresh := by
    simp [Behavior.Fresh, Behavior.ofType]
  exact ⟨fresh, (identifiers_nodup_iff {} fresh [] []).2⟩

/-- The third type asks for the name that the first one is granted with its mark. -/
theorem ab_identifiers_meet :
    (∀ b ∈ ["a::Ab", "b::Ab", "c::ab_74e42580"].map Behavior.ofType, b.Fresh) ∧
    ¬ ((Model.ofDefinitions {} (["a::Ab", "b::Ab", "c::ab_74e42580"].map Behavior.ofType) []
        []).behaviors.map (·.identifier)).Nodup := by
  constructor
  · simp [Behavior.Fresh, Behavior.ofType]
  · decide +kernel

end RouteWeaver
