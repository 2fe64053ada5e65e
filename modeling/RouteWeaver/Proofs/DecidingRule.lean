import Mathlib.Data.List.Infix
import RouteWeaver.Program
import RouteWeaver.Proofs.Trimming

namespace RouteWeaver

open Text

theorem Text.occurs_iff_isInfix {part text : List Char} : occurs part text ↔ part <:+: text := by
  induction text with
  | nil => simp [occurs]
  | cons c cs ih => simp [occurs, List.infix_cons_iff, ih]

namespace RuleTable

variable {t : RuleTable} {requested : String}

theorem isOneOf_iff (isTrimmed : trimmed requested = requested) (names : List String) :
    t.isOneOf names requested ↔ ∃ n ∈ names, t.compared (trimmed n) = t.compared requested := by
  rw [isOneOf, List.any_eq_true]
  constructor
  · rintro ⟨n, listed, same⟩
    rw [Bool.or_eq_true, decide_eq_true_eq, decide_eq_true_eq] at same
    rcases same with rfl | same
    · exact ⟨n, listed, by rw [isTrimmed]⟩
    · exact ⟨n, listed, same⟩
  · rintro ⟨n, listed, same⟩
    exact ⟨n, listed, by simp [same]⟩

/-- A service of exactly the requested type also compares equal to it. -/
theorem findService_isSome_iff (t : RuleTable) (requested : String) :
    (t.findService requested).isSome ↔ requested ≠ "" ∧
      ∃ s ∈ t.services, t.compared (trimmed s.type) = t.compared requested := by
  rw [findService]
  split
  · simp [*]
  · rename_i named
    simp only [Option.orElse_eq_orElse, Option.orElse_eq_or, Option.isSome_or, List.find?_isSome,
      Bool.or_eq_true, decide_eq_true_eq]
    constructor
    · rintro (⟨s, listed, same⟩ | found)
      · exact ⟨named, s, listed, by rw [same]⟩
      · exact ⟨named, found⟩
    · exact fun found => .inr found.2

def decidingRule? (t : RuleTable) (requested : String) : Option Rule :=
  t.rules.find? fun rule => t.takes rule.matcher requested

theorem takes_of_decidingRule? {rule : Rule}
    (decides : t.decidingRule? requested = some rule) :
    rule ∈ t.rules ∧ t.takes rule.matcher requested := by
  rw [decidingRule?] at decides
  have taken := List.find?_some decides
  exact ⟨List.mem_of_find?_eq_some decides, taken⟩

variable {request : String} {rule : Rule}

theorem resolve_of_decidingRule?
    (decides : t.decidingRule? (trimmed request) = some rule) :
    t.resolve request = ⟨rule.strategy.expression (trimmed request)
      (t.matched rule.matcher (trimmed request)), rule.kind⟩ := by
  rw [decidingRule?] at decides
  rw [resolve, resolveTrimmed, decides]

theorem resolve_of_decidingRule?_eq_none (leaves : t.decidingRule? (trimmed request) = none) :
    t.resolve request = ⟨unresolvedExpression (trimmed request), .unresolved⟩ := by
  rw [decidingRule?] at leaves
  rw [resolve, resolveTrimmed, leaves]

theorem resolve_isUnresolved_iff (decides : t.decidingRule? (trimmed request) = some rule) :
    (t.resolve request).isUnresolved ↔ rule.kind = .unresolved := by
  rw [resolve_of_decidingRule? decides, Resolution.isUnresolved, decide_eq_true_eq]

end RuleTable

namespace Rule

/-- The rule that takes whatever the others leave. -/
def fallback : Rule :=
  ⟨.unresolved, .any, .failureMarker⟩

def serving (c : Config) : List Rule :=
  (standard c).dropLast

theorem standard_eq_append (c : Config) : standard c = serving c ++ [fallback] := rfl

theorem not_fallback_of_mem_serving {c : Config} {rule : Rule} (listed : rule ∈ serving c) :
    rule.kind ≠ .unresolved ∧ rule.strategy ≠ .failureMarker := by
  simp only [serving, standard, List.dropLast, List.mem_cons, List.not_mem_nil, or_false] at listed
  rcases listed with rfl | rfl | rfl | rfl | rfl <;> simp

end Rule

namespace RuleTable

/-- Some standard rule decides on every request. It is the fallback when no other one takes the
request, and no other one is of its kind or writes its marker. -/
theorem exists_decidingRule?_standard (c : Config) (services : List Service) (requested : String) :
    ∃ rule, (standard c services).decidingRule? requested = some rule ∧
      (rule.kind = .unresolved ↔
        ∀ r ∈ Rule.serving c, (standard c services).takes r.matcher requested = false) ∧
      (rule.strategy = .failureMarker ↔
        ∀ r ∈ Rule.serving c, (standard c services).takes r.matcher requested = false) := by
  have split : (standard c services).decidingRule? requested =
      ((Rule.serving c).find? fun r => (standard c services).takes r.matcher requested).or
        (some Rule.fallback) := by
    rw [decidingRule?, standard, Rule.standard_eq_append, List.find?_append]
    rfl
  cases found : (Rule.serving c).find? fun r => (standard c services).takes r.matcher requested with
  | none =>
    refine ⟨Rule.fallback, by rw [split, found, Option.none_or], ?_⟩
    have left : ∀ r ∈ Rule.serving c, (standard c services).takes r.matcher requested = false := by
      simpa using List.find?_eq_none.mp found
    exact ⟨iff_of_true rfl left, iff_of_true rfl left⟩
  | some rule =>
    have listed := List.mem_of_find?_eq_some found
    have serving := Rule.not_fallback_of_mem_serving listed
    have takes := List.find?_some found
    have taken : ¬ ∀ r ∈ Rule.serving c,
        (standard c services).takes r.matcher requested = false := fun left =>
      Bool.false_ne_true ((left rule listed).symm.trans takes)
    exact ⟨rule, by rw [split, found, Option.some_or], iff_of_false serving.1 taken,
      iff_of_false serving.2 taken⟩

end RuleTable

namespace Model

def compared (m : Model) (type : String) : ComparedName :=
  ComparedName.ofType m.config.namespaceMarker (trimmed type)

/-- Nothing serves the request: it names a type that is no intrinsic, neither the configuration nor
a logger, and no service. -/
structure Unserved (m : Model) (request : String) : Prop where
  named : trimmed request ≠ ""
  intrinsic : ∀ n ∈ m.config.intrinsicTypes, m.compared n ≠ m.compared request
  configuration : m.config.configurationMarker ≠ "" →
    ¬ m.config.configurationMarker.toList <:+: (trimmed request).toList
  logger : m.config.loggerMarker ≠ "" →
    ¬ m.config.loggerMarker.toList <:+: (trimmed request).toList
  service : ∀ s ∈ m.services, m.compared s.type ≠ m.compared request

theorem unserved_iff (m : Model) (request : String) :
    m.Unserved request ↔ ∀ r ∈ Rule.serving m.config,
      m.ruleTable.takes r.matcher (trimmed request) = false := by
  have oneOf : m.ruleTable.isOneOf m.config.intrinsicTypes (trimmed request) ↔
      ∃ n ∈ m.config.intrinsicTypes, m.compared n = m.compared request :=
    RuleTable.isOneOf_iff (trimmed_trimmed request) m.config.intrinsicTypes
  have registered : (m.ruleTable.findService (trimmed request)).isSome ↔ trimmed request ≠ "" ∧
      ∃ s ∈ m.services, m.compared s.type = m.compared request :=
    m.ruleTable.findService_isSome_iff (trimmed request)
  simp only [Rule.serving, Rule.standard, List.dropLast, List.forall_mem_cons, RuleTable.takes]
  simp only [← Bool.not_eq_true, oneOf, registered, Bool.and_eq_true, decide_eq_true_eq,
    occurs_iff_isInfix]
  constructor
  · rintro ⟨named, intrinsic, configuration, logger, service⟩
    refine ⟨named, ?_, ?_, ?_, ?_, List.forall_mem_nil _⟩
    · exact fun ⟨n, listed, same⟩ => intrinsic n listed same
    · exact fun ⟨marker, holds⟩ => configuration marker holds
    · exact fun ⟨marker, holds⟩ => logger marker holds
    · exact fun ⟨_, s, listed, same⟩ => service s listed same
  · rintro ⟨named, intrinsic, configuration, logger, service, -⟩
    refine ⟨named, ?_, ?_, ?_, ?_⟩
    · exact fun n listed same => intrinsic ⟨n, listed, same⟩
    · exact fun marker holds => configuration ⟨marker, holds⟩
    · exact fun marker holds => logger ⟨marker, holds⟩
    · exact fun s listed same => service ⟨named, s, listed, same⟩

/-- On every request some rule decides. It is of the last kind, and writes the failure marker, for
just those requests that nothing serves. -/
theorem exists_decidingRule? (m : Model) (request : String) :
    ∃ rule, m.ruleTable.decidingRule? (trimmed request) = some rule ∧
      (rule.kind = .unresolved ↔ m.Unserved request) ∧
      (rule.strategy = .failureMarker ↔ m.Unserved request) := by
  rw [unserved_iff]
  exact RuleTable.exists_decidingRule?_standard m.config m.services (trimmed request)

end Model
end RouteWeaver
