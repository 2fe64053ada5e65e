import Mathlib.Data.List.Nodup
import RouteWeaver.Program.Holder

namespace RouteWeaver.Service

namespace Shared

def storage (g : Shared) : String :=
  g.first.storage

def members (g : Shared) : List Service :=
  g.first :: g.others

theorem map_storage_insert (s : Service) (groups : List Shared) :
    (insert s groups).map storage =
      if s.storage ∈ groups.map storage then groups.map storage
      else groups.map storage ++ [s.storage] := by
  induction groups with
  | nil => rfl
  | cons g groups ih =>
    rw [insert]
    by_cases same : g.first.storage = s.storage
    · simp [same, storage]
    · have other : s.storage ≠ g.storage := fun h => same h.symm
      rw [if_neg same, List.map_cons, ih, List.map_cons]
      by_cases known : s.storage ∈ groups.map storage
      · rw [if_pos known, if_pos (List.mem_cons_of_mem _ known)]
      · rw [if_neg known, if_neg (List.not_mem_cons_of_ne_of_not_mem other known),
          List.cons_append]

theorem mem_insert {s : Service} {groups : List Shared} (distinct : (groups.map storage).Nodup)
    {g : Shared} (member : g ∈ insert s groups) :
    (g ∈ groups ∧ g.storage ≠ s.storage) ∨
    (∃ h ∈ groups, h.storage = s.storage ∧ g = { h with others := h.others ++ [s] }) ∨
    (s.storage ∉ groups.map storage ∧ g = ⟨s, []⟩) := by
  induction groups with
  | nil => exact .inr (.inr ⟨List.not_mem_nil, List.mem_singleton.mp member⟩)
  | cons h groups ih =>
    rw [List.map_cons, List.nodup_cons] at distinct
    obtain ⟨fresh, distinct⟩ := distinct
    rw [insert] at member
    by_cases same : h.first.storage = s.storage
    · rw [if_pos same] at member
      rcases List.mem_cons.mp member with rfl | member
      · exact .inr (.inl ⟨h, List.mem_cons_self, same, rfl⟩)
      · -- Names are distinct, so that no group behind this one has the name.
        refine .inl ⟨List.mem_cons_of_mem _ member, fun meet => fresh ?_⟩
        rw [storage, same, ← meet]
        exact List.mem_map_of_mem member
    · rw [if_neg same] at member
      rcases List.mem_cons.mp member with rfl | member
      · exact .inl ⟨List.mem_cons_self, same⟩
      · rcases ih distinct member with ⟨old, other⟩ | ⟨h', old, found⟩ | ⟨unknown, rfl⟩
        · exact .inl ⟨List.mem_cons_of_mem _ old, other⟩
        · exact .inr (.inl ⟨h', List.mem_cons_of_mem _ old, found⟩)
        · exact .inr (.inr ⟨List.not_mem_cons_of_ne_of_not_mem (Ne.symm same) unknown, rfl⟩)

/-- A service more is in one group, and all that were in the groups still are. -/
theorem perm_flatMap_members_insert (s : Service) (groups : List Shared) :
    ((insert s groups).flatMap members).Perm (groups.flatMap members ++ [s]) := by
  induction groups with
  | nil => exact .refl [s]
  | cons g groups ih =>
    rw [insert]
    split
    · have moved : ([s] ++ groups.flatMap members).Perm (groups.flatMap members ++ [s]) :=
        List.perm_append_comm
      simpa [members] using moved.append_left g.members
    · simpa using ih.append_left g.members

theorem perm_flatMap_members_insertAll (services : List Service) (groups : List Shared) :
    ((services.foldl (fun groups s => insert s groups) groups).flatMap members).Perm
      (groups.flatMap members ++ services) := by
  induction services generalizing groups with
  | nil => simp
  | cons s services ih =>
    have later := ih (insert s groups)
    have first := (perm_flatMap_members_insert s groups).append_right services
    simpa using later.trans first

end Shared

/-- The groups hold the services, each group all those of its storage name. -/
structure Grouped (groups : List Shared) (services : List Service) : Prop where
  distinct : (groups.map Shared.storage).Nodup
  /-- Names are in order of first occurrence. -/
  names : groups.map Shared.storage = (services.map (·.storage)).eraseDups
  members : ∀ g ∈ groups, g.members = services.filter (·.storage = g.storage)

namespace Grouped

variable {groups : List Shared} {services : List Service}

theorem storage_mem_iff (grouped : Grouped groups services) (name : String) :
    name ∈ groups.map Shared.storage ↔ name ∈ services.map (·.storage) := by
  rw [grouped.names, List.mem_eraseDups]

theorem nil : Grouped [] [] :=
  ⟨.nil, rfl, fun _ member => absurd member List.not_mem_nil⟩

theorem insert (grouped : Grouped groups services) (s : Service) :
    Grouped (Shared.insert s groups) (services ++ [s]) where
  distinct := by
    rw [Shared.map_storage_insert]
    split
    · exact grouped.distinct
    · rename_i unknown
      exact List.nodup_append_comm.mp (List.nodup_cons.mpr ⟨unknown, grouped.distinct⟩)
  names := by
    have known := grouped.storage_mem_iff s.storage
    rw [Shared.map_storage_insert, List.map_append, List.eraseDups_append, ← grouped.names]
    by_cases h : s.storage ∈ groups.map Shared.storage
    · have old := known.mp h
      rw [if_pos h, List.map_singleton, List.removeAll,
        List.filter_cons_of_neg (by simpa using old), List.filter_nil, List.eraseDups_nil,
        List.append_nil]
    · have new := mt known.mpr h
      rw [if_neg h, List.map_singleton, List.removeAll,
        List.filter_cons_of_pos (by simpa using new)]
      rfl
  members := by
    intro g member
    rw [List.filter_append]
    rcases Shared.mem_insert grouped.distinct member with
      ⟨old, other⟩ | ⟨h, old, same, rfl⟩ | ⟨unknown, rfl⟩
    · simp [grouped.members g old, Ne.symm other]
    · have before : h.first :: h.others = services.filter (·.storage = h.first.storage) :=
        grouped.members h old
      have added : [s].filter (·.storage = h.first.storage) = [s] := by
        simp [← same, Shared.storage]
      rw [Shared.storage, ← before, added]
      rfl
    · have before : services.filter (·.storage = s.storage) = [] := by
        rw [List.filter_eq_nil_iff]
        intro s' seen same
        refine unknown ((grouped.storage_mem_iff _).mpr ?_)
        exact of_decide_eq_true same ▸ List.mem_map_of_mem seen
      rw [Shared.storage, before]
      simp [Shared.members]

theorem insertAll {done : List Service} (grouped : Grouped groups done) (rest : List Service) :
    Grouped (rest.foldl (fun groups s => Shared.insert s groups) groups) (done ++ rest) := by
  induction rest generalizing groups done with
  | nil => simpa using grouped
  | cons s rest ih => simpa using ih (grouped.insert s)

end Grouped

theorem grouped_shared (services : List Service) : Grouped (shared services) services :=
  Grouped.nil.insertAll services

variable {services : List Service} {s : Service}

theorem shared_filter_storage (member : s ∈ services) :
    ∃ g, (shared services).filter (·.storage = s.storage) = [g] := by
  have grouped := grouped_shared services
  have known : s.storage ∈ (shared services).map Shared.storage :=
    (grouped.storage_mem_iff _).mpr (List.mem_map_of_mem member)
  have once := List.count_eq_one_of_mem grouped.distinct known
  rw [← List.length_eq_one_iff, ← List.countP_eq_length_filter, ← once, List.count, List.countP_map]
  rfl

/-- Under the storage name of a service stands one holder, made for the first service of that
name. -/
theorem holders_filter_accessor (member : s ∈ services) :
    ∃ g : Shared, services.find? (·.storage = s.storage) = some g.first ∧
      (holders services).filter (·.accessor = s.storage) = [g.holder] := by
  obtain ⟨g, only⟩ := shared_filter_storage member
  obtain ⟨kept, same⟩ := List.mem_filter.mp (only ▸ List.mem_singleton_self g)
  refine ⟨g, ?_, ?_⟩
  · rw [← List.head?_filter, ← of_decide_eq_true same, ← (grouped_shared services).members g kept]
    rfl
  · rw [holders, List.filter_map]
    exact congrArg (List.map Shared.holder) only

end RouteWeaver.Service
