import RouteWeaver.Proofs.ClosedComments
import RouteWeaver.Proofs.UnresolvedReport

namespace RouteWeaver

open Text

/-- The rule points to a service without having matched one, and is not of the last kind. -/
structure Rule.Astray (r : Rule) : Prop where
  strategy : r.strategy = .serviceAccessor
  matcher : r.matcher ≠ .registeredService
  kind : r.kind ≠ .unresolved

namespace RuleTable

variable {t : RuleTable} {request : String} {rule : Rule}

/-- A matcher that takes a request comes with a service just when it asks for one. -/
theorem matched_eq_none_iff {m : Matcher} {requested : String} (taken : t.takes m requested) :
    t.matched m requested = none ↔ m ≠ .registeredService := by
  cases m with
  | registeredService =>
    have found : (t.findService requested).isSome := taken
    rw [matched, ← Option.not_isSome_iff_eq_none]
    exact iff_of_false (not_not_intro found) (not_not_intro rfl)
  | _ => simp [matched]

theorem marksFailure_iff (decides : t.decidingRule? (trimmed request) = some rule) :
    t.MarksFailure request ↔ rule.strategy = .failureMarker ∨
      rule.strategy = .serviceAccessor ∧ rule.matcher ≠ .registeredService := by
  have unmatched := t.matched_eq_none_iff (takes_of_decidingRule? decides).2
  rw [← unmatched, MarksFailure]
  constructor
  · exact fun marks => marks rule decides
  · intro written other decides'
    obtain rfl : rule = other := Option.some.inj (decides.symm.trans decides')
    exact written

/-- No rule that has gone astray decides on the request. -/
def Straight (t : RuleTable) (request : String) : Prop :=
  ∀ rule, t.decidingRule? (trimmed request) = some rule → ¬ rule.Astray

theorem straight_iff (decides : t.decidingRule? (trimmed request) = some rule) :
    t.Straight request ↔ ¬ rule.Astray := by
  rw [Straight, decides]
  exact ⟨fun straight => straight rule rfl, fun straight _ same => Option.some.inj same ▸ straight⟩

end RuleTable

/-- The report of a behavior tells the positions whose requests are answered by the last kind. -/
theorem Behavior.mem_unresolved_iff (b : Behavior) (t : RuleTable) (request : String)
    (position : Nat) :
    ⟨b.name, request, position⟩ ∈ b.unresolved t ↔
      b.dependencies[position]? = some request ∧ (t.resolve request).isUnresolved := by
  rw [unresolved, List.mem_map]
  constructor
  · rintro ⟨d, listed, same⟩
    obtain ⟨-, rfl, rfl⟩ := Unresolved.mk.inj same
    obtain ⟨there, unanswered⟩ := List.mem_filter.mp listed
    exact ⟨List.mem_zipIdx_iff_getElem?.mp there, unanswered⟩
  · rintro ⟨there, unanswered⟩
    refine ⟨(request, position), List.mem_filter.mpr ⟨?_, unanswered⟩, rfl⟩
    exact List.mem_zipIdx_iff_getElem?.mpr there

/-- Where markers of their own are of the last kind, a request that gets a marker is answered as
unresolved, and each behavior that makes it reports it, just when the rule that decides has not gone
astray. -/
theorem marked_failures_reported_iff {t : RuleTable}
    (kinds : ∀ rule ∈ t.rules, rule.strategy = .failureMarker → rule.kind = .unresolved)
    {request : String} (marks : t.MarksFailure request) :
    ((t.resolve request).rule = .unresolved ↔ t.Straight request) ∧
    ((t.resolve request).isUnresolved ↔ t.Straight request) ∧
    ∀ (b : Behavior) (position : Nat), b.dependencies[position]? = some request →
      (⟨b.name, request, position⟩ ∈ b.unresolved t ↔ t.Straight request) := by
  have last : (t.resolve request).isUnresolved ↔ t.Straight request := by
    cases decides : t.decidingRule? (trimmed request) with
    | none =>
      have answer := RuleTable.resolve_of_decidingRule?_eq_none decides
      refine iff_of_true (by rw [answer]; rfl) fun rule decides' => ?_
      cases decides.symm.trans decides'
    | some rule =>
      rw [RuleTable.straight_iff decides, RuleTable.resolve_isUnresolved_iff decides]
      constructor
      · exact fun kind astray => astray.kind kind
      · intro straight
        rcases (RuleTable.marksFailure_iff decides).mp marks with marker | ⟨strategy, matcher⟩
        · exact kinds rule (RuleTable.takes_of_decidingRule? decides).1 marker
        · by_contra kind
          exact straight ⟨strategy, matcher, kind⟩
  refine ⟨?_, last, fun b position there => ?_⟩
  · rw [← last, Resolution.isUnresolved, decide_eq_true_eq]
  · rw [b.mem_unresolved_iff, last]
    exact and_iff_right there

namespace Mailing

def notify : Behavior :=
  ⟨"app::Notify", "Notify", "notify", .generated, ["app::Clock", " app::Mailer"]⟩

def table : RuleTable where
  rules := [⟨.unresolved, .contains "Queue", .failureMarker⟩,
    ⟨.unresolved, .contains "Mail", .serviceAccessor⟩,
    ⟨.service, .registeredService, .serviceAccessor⟩]
  services := [⟨"app::Clock", "app::WallClock", "wall_clock"⟩]
  namespaceMarker := "::"

def trusting : RuleTable where
  rules := [⟨.service, .any, .serviceAccessor⟩]
  services := []
  namespaceMarker := "::"

end Mailing

open Mailing in
theorem marked_failures_reported_iff_mailer :
    (∀ rule ∈ table.rules, rule.strategy = .failureMarker → rule.kind = .unresolved) ∧
    table.MarksFailure " app::Mailer" ∧
    ⟨"Notify", " app::Mailer", 1⟩ ∈ notify.unresolved table := by
  have kinds : ∀ rule ∈ table.rules,
      rule.strategy = .failureMarker → rule.kind = .unresolved := by decide
  have decides : table.decidingRule? (trimmed " app::Mailer") =
      some ⟨.unresolved, .contains "Mail", .serviceAccessor⟩ := by decide +kernel
  have marks : table.MarksFailure " app::Mailer" :=
    (RuleTable.marksFailure_iff decides).mpr (.inr (by decide))
  have straight : table.Straight " app::Mailer" :=
    (RuleTable.straight_iff decides).mpr fun astray => astray.kind rfl
  obtain ⟨-, -, report⟩ := marked_failures_reported_iff kinds marks
  exact ⟨kinds, marks, (report notify 1 rfl).mpr straight⟩

open Mailing in
/-- The marker that is written is taken for the accessor of a service. -/
theorem unmatched_service_hides_failure :
    (∀ rule ∈ trusting.rules, rule.strategy = .failureMarker → rule.kind = .unresolved) ∧
    trusting.MarksFailure " app::Mailer" ∧ ¬ trusting.Straight " app::Mailer" ∧
    trusting.resolve " app::Mailer" = ⟨unresolvedExpression "app::Mailer", .service⟩ ∧
    notify.unresolved trusting = [] := by
  have decides : trusting.decidingRule? (trimmed " app::Mailer") =
      some ⟨.service, .any, .serviceAccessor⟩ := by decide +kernel
  have marks : trusting.MarksFailure " app::Mailer" :=
    (RuleTable.marksFailure_iff decides).mpr (.inr (by decide))
  refine ⟨by decide, marks, ?_, ?_, ?_⟩
  · rw [RuleTable.straight_iff decides, not_not]
    exact ⟨rfl, by decide, by decide⟩
  · decide +kernel
  · decide +kernel

end RouteWeaver
