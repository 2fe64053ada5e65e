import Mathlib.Data.Option.Basic
import RouteWeaver.Program
import RouteWeaver.Proofs.GrantedNames
import RouteWeaver.Proofs.ServiceHolders

namespace RouteWeaver

open Text

namespace RuleTable

theorem mem_of_findService {t : RuleTable} {requested : String} {s : Service}
    (found : t.findService requested = some s) : s ∈ t.services := by
  rw [findService] at found
  split at found
  · contradiction
  · rcases (Option.orElse_eq_some _ _ _).mp found with exactly | ⟨-, compared⟩
    · exact List.mem_of_find?_eq_some exactly
    · exact List.mem_of_find?_eq_some compared

theorem standard_service_rule {c : Config} {rule : Rule} (member : rule ∈ Rule.standard c)
    (kind : rule.kind = .service) : rule = ⟨.service, .registeredService, .serviceAccessor⟩ := by
  simp only [Rule.standard, List.mem_cons, List.not_mem_nil, or_false] at member
  rcases member with rfl | rfl | rfl | rfl | rfl | rfl <;> first | rfl | cases kind

theorem resolve_service {c : Config} {services : List Service} {request : String}
    (answered : ((standard c services).resolve request).rule = .service) :
    ∃ s, (standard c services).findService (trimmed request) = some s ∧
      ((standard c services).resolve request).expression = s.accessor := by
  rw [resolve, resolveTrimmed] at answered ⊢
  split at answered
  · rename_i rule found
    obtain rfl := standard_service_rule (List.mem_of_find?_eq_some found) answered
    have taken := List.find?_some found
    obtain ⟨s, hs⟩ := Option.isSome_iff_exists.mp taken
    exact ⟨s, hs, by simp [Strategy.expression, matched, hs]⟩
  · contradiction

end RuleTable

namespace Service

def stored (s : Service) : String :=
  trimmed s.implementation

theorem map_stored_withGrantedStorage (services : List Service) :
    (withGrantedStorage services).map stored = services.map stored := by
  rw [withGrantedStorage, List.map_map]
  rfl

/-- Services share a storage name when they store one type, and when two types are granted one
name. -/
theorem storage_eq_storage_iff {services : List Service} (fresh : ∀ s ∈ services, s.Fresh)
    {s s' : Service} (hs : s ∈ withGrantedStorage services)
    (hs' : s' ∈ withGrantedStorage services) :
    s.storage = s'.storage ↔
      s.stored = s'.stored ∨ Name.Clash (services.map stored) s.stored s'.stored := by
  obtain ⟨r, hr, rfl⟩ := List.mem_map.mp hs
  obtain ⟨r', hr', rfl⟩ := List.mem_map.mp hs'
  exact Name.Request.granted_eq_granted_iff fresh hr hr'

theorem storage_tells_apart_iff {services : List Service} (fresh : ∀ s ∈ services, s.Fresh) :
    (∀ s ∈ withGrantedStorage services, ∀ s' ∈ withGrantedStorage services,
        s.storage = s'.storage ↔ s.stored = s'.stored) ↔
      Name.Separable (services.map stored) := by
  rw [← map_stored_withGrantedStorage]
  constructor
  · intro apart t ht u hu clash
    obtain ⟨s, hs, rfl⟩ := List.mem_map.mp ht
    obtain ⟨s', hs', rfl⟩ := List.mem_map.mp hu
    rw [map_stored_withGrantedStorage] at clash
    have same := (storage_eq_storage_iff fresh hs hs').mpr (.inr clash)
    exact clash.1 ((apart s hs s' hs').mp same)
  · intro separable s hs s' hs'
    have apart := separable _ (List.mem_map_of_mem hs) _ (List.mem_map_of_mem hs')
    rw [map_stored_withGrantedStorage] at apart
    exact (storage_eq_storage_iff fresh hs hs').trans (or_iff_left apart)

end Service

/-- The holder is the only one of its name, and it has the type of the service when no other
implementation is granted that name. Storage names tell implementations apart just when no two of
them are granted one name. -/
theorem service_bound_iff (config : Config) (behaviors : List Behavior) {services : List Service}
    (fresh : ∀ s ∈ services, s.Fresh) (routes : List Route) :
    let m := Model.ofDefinitions config behaviors services routes
    (∀ request, (m.ruleTable.resolve request).rule = .service →
      ∃ s first : Service, ∃ holder : Holder,
        m.ruleTable.findService (trimmed request) = some s ∧ s ∈ m.services ∧
        (m.ruleTable.resolve request).expression = s.accessor ∧
        m.services.find? (·.storage = s.storage) = some first ∧
        m.program.services.filter (·.accessor = s.storage) = [holder] ∧
        holder.type = first.stored ∧
        (holder.type = s.stored ↔
          ¬ Name.Clash (services.map Service.stored) first.stored s.stored)) ∧
    ((∀ s ∈ m.services, ∀ s' ∈ m.services, s.storage = s'.storage ↔ s.stored = s'.stored) ↔
      Name.Separable (services.map Service.stored)) := by
  intro m
  refine ⟨fun request answered => ?_, Service.storage_tells_apart_iff fresh⟩
  obtain ⟨s, found, expression⟩ := RuleTable.resolve_service answered
  have hs : s ∈ m.services := RuleTable.mem_of_findService found
  obtain ⟨g, leads, only⟩ := Service.holders_filter_accessor hs
  have hg : g.first ∈ m.services := List.mem_of_find?_eq_some leads
  have shared : g.first.storage = s.storage := by simpa using List.find?_some leads
  refine ⟨s, g.first, g.holder, found, hs, expression, leads, only, rfl, ?_⟩
  constructor
  · exact fun same clash => clash.1 same
  · exact ((Service.storage_eq_storage_iff fresh hg hs).mp shared).resolve_right

theorem service_bound_iff_clock :
    let services := [Service.ofTypes "dyn Clock" "WallClock", .ofTypes "dyn Timer" "WallClock"]
    let m := Model.ofDefinitions {} [] services []
    (∀ s ∈ services, s.Fresh) ∧ (m.ruleTable.resolve " dyn Timer").rule = .service ∧
    ∃ s, ∃ holder, m.ruleTable.findService (trimmed " dyn Timer") = some s ∧
      m.program.services.filter (·.accessor = s.storage) = [holder] ∧ holder.type = s.stored := by
  intro services m
  have fresh : ∀ s ∈ services, s.Fresh := by
    simp [services, Service.Fresh, Service.ofTypes]
  have answered : (m.ruleTable.resolve " dyn Timer").rule = .service := by decide +kernel
  have stored : ∀ s ∈ m.services, s.stored = trimmed "WallClock" := by
    simp [m, services, Model.ofDefinitions, Service.withGrantedStorage, Service.stored,
      Service.ofTypes]
  obtain ⟨s, first, holder, found, hs, -, leads, only, -, bound⟩ :=
    (service_bound_iff {} [] fresh []).1 " dyn Timer" answered
  have same : first.stored = s.stored :=
    (stored first (List.mem_of_find?_eq_some leads)).trans (stored s hs).symm
  exact ⟨fresh, answered, s, holder, found, only, bound.mpr fun clash => clash.1 same⟩

namespace Misbound

def services : List Service :=
  [.ofTypes "dyn a::X" "a::Ab", .ofTypes "dyn b::X" "b::Ab", .ofTypes "dyn c::X" "c::ab_74e42580"]

def model : Model :=
  Model.ofDefinitions {} [] services []

end Misbound

theorem ab_service_misbound :
    (∀ s ∈ Misbound.services, s.Fresh) ∧
    Misbound.model.ruleTable.resolve "dyn c::X" = ⟨"services::ab_74e42580()", .service⟩ ∧
    (Misbound.model.ruleTable.findService "dyn c::X").map (·.implementation) =
      some "c::ab_74e42580" ∧
    (Misbound.model.program.services.filter (·.accessor = "ab_74e42580")).map (·.type) =
      ["a::Ab"] := by
  constructor
  · simp [Misbound.services, Service.Fresh, Service.ofTypes]
  · decide +kernel

end RouteWeaver
