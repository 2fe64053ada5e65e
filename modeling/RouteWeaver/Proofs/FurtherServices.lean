import RouteWeaver.Proofs.ResolutionPriority

namespace RouteWeaver

open Text

variable {c : Config} {services : List Service} {type : String} {r : Resolution} {s : Service}

namespace First

variable {P : Service → Prop}

theorem append (leads : First services P s) (more : List Service) :
    First (services ++ more) P s := by
  obtain ⟨before, after, rfl, holds, others⟩ := leads
  exact ⟨before, after ++ more, by simp, holds, others⟩

theorem append_of_forall_not {more : List Service} (absent : ∀ r ∈ services, ¬ P r)
    (leads : First more P s) : First (services ++ more) P s := by
  obtain ⟨before, after, rfl, holds, others⟩ := leads
  refine ⟨services ++ before, after, by simp, holds, ?_⟩
  intro r member
  rcases List.mem_append.mp member with front | back
  · exact absent r front
  · exact others r back

theorem exists_of_mem [DecidablePred P] (registered : ∃ r ∈ services, P r) :
    ∃ s, First services P s := by
  obtain ⟨r, member, holds⟩ := registered
  have found : (services.find? fun r => P r).isSome :=
    List.find?_isSome.mpr ⟨r, member, by simpa using holds⟩
  obtain ⟨s, leads⟩ := Option.isSome_iff_exists.mp found
  exact ⟨s, first_iff.mpr leads⟩

end First

/-- A request that a service serves whose type is spelled otherwise is taken over by the further
services: one of them is of exactly the requested type. -/
structure Overtaken (services more : List Service) (type : String) (r : Resolution) : Prop where
  served : r.rule = .service
  inexact : ∀ s ∈ services, trimmed s.type ≠ type
  exactly : ∃ s ∈ more, trimmed s.type = type

theorem Config.IsRegistered.append (registered : c.IsRegistered services type)
    (more : List Service) : c.IsRegistered (services ++ more) type := by
  obtain ⟨s, listed, same⟩ := registered
  exact ⟨s, List.mem_append_left more listed, same⟩

theorem Config.isRegistered_of_type_eq (listed : s ∈ services) (same : trimmed s.type = type) :
    c.IsRegistered services type := by
  refine ⟨s, listed, ?_⟩
  rw [same]
  exact (Config.equates_iff services).mpr rfl

namespace Answered

variable {more : List Service}

/-- No condition but that of the services looks at them, and theirs goes on to hold. -/
theorem append (answered : Answered c services type r) (decided : r.rule ≠ .unresolved)
    (kept : ¬ Overtaken services more type r) : Answered c (services ++ more) type r := by
  cases answered with
  | missing unnamed => exact .missing unnamed
  | intrinsic named intrinsic => exact .intrinsic named intrinsic
  | configuration named ordinary configuration =>
    exact .configuration named ordinary configuration
  | logger named ordinary unmarked logger within =>
    exact .logger named ordinary unmarked logger within
  | service named ordinary unmarked silent registered serves =>
    apply Answered.service named ordinary unmarked silent (registered.append more)
    cases serves with
    | exact leads => exact .exact (leads.append more)
    | compared inexact leads =>
      refine .compared ?_ (leads.append more)
      intro t member
      rcases List.mem_append.mp member with front | back
      · exact inexact t front
      · exact fun same => kept ⟨rfl, inexact, t, back, same⟩
  | unresolved => exact absurd rfl decided

theorem append_of_overtaken (answered : Answered c services type r)
    (overtaken : Overtaken services more type r)
    (leads : First more (fun t => trimmed t.type = type) s) :
    Answered c (services ++ more) type ⟨s.accessor, .service⟩ := by
  have served := overtaken.served
  cases answered with
  | service named ordinary unmarked silent registered _ =>
    apply Answered.service named ordinary unmarked silent (registered.append more)
    exact .exact (leads.append_of_forall_not overtaken.inexact)
  | missing | intrinsic | configuration | logger | unresolved => cases served

end Answered

/-- Whatever is registered behind the services, a request that was resolved keeps its rule. It keeps
its expression too, unless it is taken over by the first further service of exactly its type. What
a registered type resolves to never changes. -/
theorem further_services_keep_resolution (c : Config) (services more : List Service)
    (request : String) :
    let before := (RuleTable.standard c services).resolve request
    let after := (RuleTable.standard c (services ++ more)).resolve request
    (before.rule ≠ .unresolved →
      after.rule = before.rule ∧
      (¬ Overtaken services more (trimmed request) before →
        after.expression = before.expression) ∧
      (Overtaken services more (trimmed request) before →
        ∃ s, First more (fun t => trimmed t.type = trimmed request) s ∧
          after.expression = s.accessor)) ∧
    ((∃ s ∈ services, trimmed s.type = trimmed request) → after = before) := by
  intro before after
  obtain ⟨r, answered⟩ := RuleTable.exists_answered c services (trimmed request)
  have settled : before = r := RuleTable.resolve_of_answered answered
  have unchanged (decided : r.rule ≠ .unresolved)
      (kept : ¬ Overtaken services more (trimmed request) r) : after = r :=
    RuleTable.resolve_of_answered (answered.append decided kept)
  rw [settled]
  constructor
  · intro decided
    by_cases overtaken : Overtaken services more (trimmed request) r
    · obtain ⟨s, leads⟩ := First.exists_of_mem overtaken.exactly
      have changed : after = ⟨s.accessor, .service⟩ :=
        RuleTable.resolve_of_answered (answered.append_of_overtaken overtaken leads)
      rw [changed]
      exact ⟨overtaken.served.symm, fun kept => absurd overtaken kept, fun _ => ⟨s, leads, rfl⟩⟩
    · rw [unchanged decided overtaken]
      exact ⟨rfl, fun _ => rfl, fun other => absurd other overtaken⟩
  · rintro ⟨s, listed, same⟩
    apply unchanged
    · cases answered with
      | unresolved _ _ _ _ unregistered =>
        exact absurd (Config.isRegistered_of_type_eq listed same) unregistered
      | missing | intrinsic | configuration | logger | service => simp
    · exact fun overtaken => overtaken.inexact s listed same

theorem further_services_keep_resolution_store :
    let services := [Service.ofTypes "::app::Store" "app::SqliteStore"]
    let more := [Service.ofTypes "app::Store" "app::MemoryStore",
      .ofTypes " app::Store" "app::DiskStore"]
    let before := (RuleTable.standard {} services).resolve "app::Store "
    let after := (RuleTable.standard {} (services ++ more)).resolve "app::Store "
    before = ⟨"services::sqlite_store()", .service⟩ ∧
    Overtaken services more "app::Store" before ∧ after.rule = before.rule ∧
    (∃ s, First more (fun t => trimmed t.type = "app::Store") s ∧
      after.expression = s.accessor) ∧
    (RuleTable.standard {} (services ++ more)).resolve "::app::Store" =
      (RuleTable.standard {} services).resolve "::app::Store" := by
  intro services more before after
  have resolved : before = ⟨"services::sqlite_store()", .service⟩ := by decide +kernel
  have overtaken : Overtaken services more (trimmed "app::Store ") before := by
    refine ⟨by rw [resolved], ?_, ?_⟩
    · simp only [services, List.forall_mem_singleton]
      decide
    · exact ⟨_, List.mem_cons_self, by decide⟩
  have decided : before.rule ≠ .unresolved := by
    rw [resolved]
    decide
  obtain ⟨keeps, -⟩ := further_services_keep_resolution {} services more "app::Store "
  obtain ⟨rule, -, taken⟩ := keeps decided
  obtain ⟨-, fixed⟩ := further_services_keep_resolution {} services more "::app::Store"
  exact ⟨resolved, overtaken, rule, taken overtaken,
    fixed ⟨_, List.mem_singleton_self _, by decide⟩⟩

end RouteWeaver
