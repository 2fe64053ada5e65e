import RouteWeaver.Proofs.CutTexts
import RouteWeaver.Proofs.DecidingRule

/-!
What the standard table answers to a request. The relation names, in order of priority, the six
conditions under which a request is answered and the answer under each of them; names are compared
by what is left of them without `dyn` and without one namespace marker.
-/

namespace RouteWeaver

open Text

/-- At most one marker at the front is left out. An empty marker marks nothing. -/
inductive Unmarked (marker : List Char) : List Char → List Char → Prop where
  | marked {path} (marks : marker ≠ []) : Unmarked marker (marker ++ path) path
  | plain {path} (unmarked : marker = [] ∨ ¬ marker <+: path) : Unmarked marker path path

/-- How a type name is compared. The blanks behind `dyn` do not count. -/
inductive Compared (marker : List Char) : List Char → ComparedName → Prop where
  | dynamic {blanks rest path} (blank : ∀ c ∈ blanks, isBlank c)
      (starts : ∀ c ∈ rest.head?, isBlank c = false) (cut : Unmarked marker rest path) :
      Compared marker ("dyn ".toList ++ (blanks ++ rest)) ⟨true, path⟩
  | plain {name path} (static : ¬ "dyn ".toList <+: name) (cut : Unmarked marker name path) :
      Compared marker name ⟨false, path⟩

theorem unmarked_iff {marker text path : List Char} :
    Unmarked marker text path ↔ ComparedName.withoutMarker marker text = path := by
  constructor
  · rintro (⟨marks⟩ | ⟨rfl | unmarked⟩)
    · obtain ⟨m, ms, rfl⟩ := List.exists_cons_of_ne_nil marks
      rw [ComparedName.withoutMarker, after?_eq_some_iff.mpr rfl, Option.getD_some]
    · rfl
    · cases marker with
      | nil => rfl
      | cons m ms =>
        rw [ComparedName.withoutMarker, after?_eq_none_iff.mpr unmarked, Option.getD_none]
  · rintro rfl
    cases marker with
    | nil => exact .plain (.inl rfl)
    | cons m ms =>
      rw [ComparedName.withoutMarker]
      cases found : after? (m :: ms) text with
      | none => exact .plain (.inr (after?_eq_none_iff.mp found))
      | some path =>
        obtain rfl := after?_eq_some_iff.mp found
        exact .marked (List.cons_ne_nil m ms)

theorem trimStart_append_of_blank {blanks rest : List Char} (blank : ∀ c ∈ blanks, isBlank c)
    (starts : ∀ c ∈ rest.head?, isBlank c = false) : trimStart (blanks ++ rest) = rest := by
  rw [trimStart_append_left blank]
  cases rest with
  | nil => rfl
  | cons c rest => exact List.dropWhile_cons_of_neg (by simp [starts c rfl])

theorem compared_iff {marker type : String} {name : ComparedName} :
    Compared marker.toList type.toList name ↔ ComparedName.ofType marker type = name := by
  rw [ComparedName.ofType]
  constructor
  · intro compares
    generalize type.toList = chars at compares ⊢
    cases compares with
    | dynamic blank starts cut =>
      simp only [after?_eq_some_iff.mpr rfl, trimStart_append_of_blank blank starts,
        unmarked_iff.mp cut]
    | plain static cut =>
      simp only [after?_eq_none_iff.mpr static, unmarked_iff.mp cut]
  · rintro rfl
    cases found : after? "dyn ".toList type.toList with
    | none => exact .plain (after?_eq_none_iff.mp found) (unmarked_iff.mpr rfl)
    | some rest =>
      have parts : type.toList =
          "dyn ".toList ++ (rest.takeWhile isBlank ++ rest.dropWhile isBlank) := by
        rw [List.takeWhile_append_dropWhile, after?_eq_some_iff.mp found]
      rw [parts]
      refine .dynamic (fun c member => List.mem_takeWhile_imp member) ?_ (unmarked_iff.mpr rfl)
      intro c first
      have kept := List.head?_dropWhile_not isBlank rest
      rw [Option.mem_def.mp first] at kept
      simpa using kept

namespace Config

def Equates (c : Config) (type type' : String) : Prop :=
  ∃ name, Compared c.namespaceMarker.toList type.toList name ∧
    Compared c.namespaceMarker.toList type'.toList name

def IsIntrinsic (c : Config) (type : String) : Prop :=
  ∃ n ∈ c.intrinsicTypes, c.Equates (trimmed n) type

def IsRegistered (c : Config) (services : List Service) (type : String) : Prop :=
  ∃ s ∈ services, c.Equates (trimmed s.type) type

end Config

/-- The text holds the marker. No text holds an empty one. -/
def Holds (type marker : String) : Prop :=
  marker ≠ "" ∧ marker.toList <:+: type.toList

/-- The category of a requested logger: what stands between the first `<` and the last `>`, unless
that is blank. -/
inductive Category (placeholder type : String) : String → Prop where
  | argument {before between after}
      (split : type.toList = before ++ '<' :: (between ++ '>' :: after)) (first : '<' ∉ before)
      (last : '>' ∉ after) (named : trim between ≠ []) :
      Category placeholder type (String.ofList (trim between))
  | placeholder (unnamed : ∀ before between after,
      type.toList = before ++ '<' :: (between ++ '>' :: after) → '<' ∉ before → '>' ∉ after →
        trim between = []) :
      Category placeholder type placeholder

def First (services : List Service) (P : Service → Prop) (s : Service) : Prop :=
  ∃ before after, services = before ++ s :: after ∧ P s ∧ ∀ r ∈ before, ¬ P r

/-- The service that a type name stands for: the first of exactly that type, and only when there
is none, the first whose type compares equal. -/
inductive Serves (c : Config) (services : List Service) (type : String) (s : Service) : Prop where
  | exact (leads : First services (fun r => trimmed r.type = type) s)
  | compared (inexact : ∀ r ∈ services, trimmed r.type ≠ type)
      (leads : First services (fun r => c.Equates (trimmed r.type) type) s)

/-- The answer to a request for a trimmed type, by the first condition that applies. -/
inductive Answered (c : Config) (services : List Service) (type : String) : Resolution → Prop where
  | missing (unnamed : type = "") : Answered c services type ⟨defaultExpression, .missing⟩
  | intrinsic (named : type ≠ "") (intrinsic : c.IsIntrinsic type) :
      Answered c services type ⟨c.terminalAccessor, .intrinsic⟩
  | configuration (named : type ≠ "") (ordinary : ¬ c.IsIntrinsic type)
      (configuration : Holds type c.configurationMarker) :
      Answered c services type ⟨c.configurationAccessor, .configuration⟩
  | logger {category} (named : type ≠ "") (ordinary : ¬ c.IsIntrinsic type)
      (unmarked : ¬ Holds type c.configurationMarker) (logger : Holds type c.loggerMarker)
      (within : Category c.loggerPlaceholder type category) :
      Answered c services type
        ⟨c.runtimePath "NullLogger" ++ "::<" ++ category ++ ">::new()", .logger⟩
  | service {s} (named : type ≠ "") (ordinary : ¬ c.IsIntrinsic type)
      (unmarked : ¬ Holds type c.configurationMarker) (silent : ¬ Holds type c.loggerMarker)
      (registered : c.IsRegistered services type) (serves : Serves c services type s) :
      Answered c services type ⟨s.accessor, .service⟩
  | unresolved (named : type ≠ "") (ordinary : ¬ c.IsIntrinsic type)
      (unmarked : ¬ Holds type c.configurationMarker) (silent : ¬ Holds type c.loggerMarker)
      (unregistered : ¬ c.IsRegistered services type) :
      Answered c services type ⟨unresolvedExpression type, .unresolved⟩

theorem Config.equates_iff {c : Config} (services : List Service) {type type' : String} :
    c.Equates type type' ↔ (RuleTable.standard c services).compared type =
      (RuleTable.standard c services).compared type' := by
  simp only [Equates, compared_iff, RuleTable.compared, RuleTable.standard]
  constructor
  · rintro ⟨name, same, same'⟩
    exact same.trans same'.symm
  · exact fun same => ⟨_, same, rfl⟩

theorem first_iff {services : List Service} {P : Service → Prop} [DecidablePred P] {s : Service} :
    First services P s ↔ services.find? (fun r => P r) = some s := by
  rw [List.find?_eq_some_iff_append, First]
  simp only [decide_eq_true_eq, Bool.not_eq_true', decide_eq_false_iff_not]
  constructor
  · rintro ⟨before, after, split, holds, others⟩
    exact ⟨holds, before, after, split, others⟩
  · rintro ⟨holds, before, after, split, others⟩
    exact ⟨before, after, split, holds, others⟩

theorem genericArgument_eq_some_iff {type argument : String} :
    genericArgument type = some argument ↔ ∃ before between after,
      type.toList = before ++ '<' :: (between ++ '>' :: after) ∧ '<' ∉ before ∧ '>' ∉ after ∧
        trim between ≠ [] ∧ argument = String.ofList (trim between) := by
  have shown (between : List Char) :
      (some (String.ofList (trim between)) |>.filter (· ≠ "")) = some argument ↔
        trim between ≠ [] ∧ argument = String.ofList (trim between) := by
    rw [Option.filter_eq_some_iff, Option.some_inj]
    constructor
    · rintro ⟨rfl, named⟩
      exact ⟨by simpa using named, rfl⟩
    · rintro ⟨named, rfl⟩
      exact ⟨rfl, by simpa using named⟩
  rw [genericArgument]
  constructor
  · intro found
    split at found
    · cases found
    · rename_i before rest opened
      split at found
      · cases found
      · rename_i after between closed
        rw [← after.reverse_reverse, ← between.reverse_reverse,
          cutFirst_reverse_eq_some_iff] at closed
        obtain ⟨rfl, last⟩ := closed
        obtain ⟨split, first⟩ := cutFirst_eq_some_iff.mp opened
        exact ⟨before, _, _, split, first, last, (shown _).mp found⟩
  · rintro ⟨before, between, after, split, first, last, named, rfl⟩
    simp only [cutFirst_eq_some_iff.mpr ⟨split, first⟩,
      cutFirst_reverse_eq_some_iff.mpr ⟨rfl, last⟩, List.reverse_reverse]
    exact (shown between).mpr ⟨named, rfl⟩

theorem category_iff {placeholder type category : String} :
    Category placeholder type category ↔ (genericArgument type).getD placeholder = category := by
  constructor
  · rintro (⟨split, first, last, named⟩ | unnamed)
    · rw [genericArgument_eq_some_iff.mpr ⟨_, _, _, split, first, last, named, rfl⟩,
        Option.getD_some]
    · cases found : genericArgument type with
      | none => rfl
      | some argument =>
        obtain ⟨_, _, _, split, first, last, named, -⟩ := genericArgument_eq_some_iff.mp found
        exact absurd (unnamed _ _ _ split first last) named
  · rintro rfl
    cases found : genericArgument type with
    | none =>
      refine .placeholder fun before between after split first last => ?_
      by_contra named
      have argument := genericArgument_eq_some_iff.mpr
        ⟨before, between, after, split, first, last, named, rfl⟩
      rw [found] at argument
      cases argument
    | some argument =>
      obtain ⟨_, _, _, split, first, last, named, rfl⟩ := genericArgument_eq_some_iff.mp found
      exact .argument split first last named

namespace RuleTable

variable {c : Config} {services : List Service} {type : String}

theorem takes_oneOf_iff (isTrimmed : trimmed type = type) :
    (standard c services).takes (.oneOf c.intrinsicTypes) type ↔ c.IsIntrinsic type := by
  simp only [takes, isOneOf_iff isTrimmed, Config.IsIntrinsic,
    Config.equates_iff services]

theorem takes_contains_iff {marker : String} :
    (standard c services).takes (.contains marker) type ↔ Holds type marker := by
  simp only [takes, Bool.and_eq_true, decide_eq_true_eq, occurs_iff_isInfix, Holds]

theorem takes_registeredService_iff :
    (standard c services).takes .registeredService type ↔
      type ≠ "" ∧ c.IsRegistered services type := by
  simp only [takes, findService_isSome_iff, Config.IsRegistered,
    Config.equates_iff services]
  rfl

theorem serves_iff {s : Service} (named : type ≠ "") :
    Serves c services type s ↔ (standard c services).findService type = some s := by
  have exactly {s : Service} : First services (fun r => trimmed r.type = type) s ↔
      services.find? (fun r => trimmed r.type = type) = some s := first_iff
  have compares {s : Service} : First services (fun r => c.Equates (trimmed r.type) type) s ↔
      services.find? (fun r => (standard c services).compared (trimmed r.type) =
        (standard c services).compared type) = some s := by
    simp only [Config.equates_iff services]
    exact first_iff
  rw [findService, if_neg named]
  show _ ↔ (services.find? (fun r => trimmed r.type = type) <|>
    services.find? fun r => (standard c services).compared (trimmed r.type) =
      (standard c services).compared type) = some s
  rw [Option.orElse_eq_orElse, Option.orElse_eq_or, Option.or_eq_some_iff, ← exactly, ← compares,
    List.find?_eq_none]
  simp only [decide_eq_true_eq]
  constructor
  · intro serves
    cases serves with
    | exact leads => exact .inl leads
    | compared inexact leads => exact .inr ⟨inexact, leads⟩
  · rintro (leads | ⟨inexact, leads⟩)
    · exact .exact leads
    · exact .compared inexact leads

theorem takes_missing_iff : (standard c services).takes .missing type ↔ type = "" := by
  simp only [takes, decide_eq_true_eq]

theorem decidingRule?_standard (c : Config) (services : List Service) (type : String) :
    (standard c services).decidingRule? type =
      (Rule.standard c).find? fun rule => (standard c services).takes rule.matcher type := rfl

theorem resolve_of_answered {request : String} {r : Resolution}
    (answered : Answered c services (trimmed request) r) :
    (standard c services).resolve request = r := by
  have decides := decidingRule?_standard c services (trimmed request)
  have oneOf : (standard c services).takes (.oneOf c.intrinsicTypes) (trimmed request) ↔
      c.IsIntrinsic (trimmed request) := takes_oneOf_iff (trimmed_trimmed request)
  have passed {m : Matcher} {P : Prop} (taken : (standard c services).takes m (trimmed request) ↔ P)
      (fails : ¬ P) : (standard c services).takes m (trimmed request) = false :=
    Bool.eq_false_iff.mpr (mt taken.mp fails)
  -- Each case passes over the rules before the one that decides.
  cases answered with
  | missing unnamed =>
    simp only [Rule.standard, List.find?_cons, takes_missing_iff.mpr unnamed] at decides
    rw [resolve_of_decidingRule? decides]
    rfl
  | intrinsic named intrinsic =>
    simp only [Rule.standard, List.find?_cons, passed takes_missing_iff named,
      oneOf.mpr intrinsic] at decides
    rw [resolve_of_decidingRule? decides]
    rfl
  | configuration named ordinary configuration =>
    simp only [Rule.standard, List.find?_cons, passed takes_missing_iff named,
      passed oneOf ordinary, takes_contains_iff.mpr configuration] at decides
    rw [resolve_of_decidingRule? decides]
    rfl
  | logger named ordinary unmarked logger within =>
    simp only [Rule.standard, List.find?_cons, passed takes_missing_iff named,
      passed oneOf ordinary, passed takes_contains_iff unmarked,
      takes_contains_iff.mpr logger] at decides
    rw [resolve_of_decidingRule? decides, Strategy.expression, category_iff.mp within]
  | service named ordinary unmarked silent registered serves =>
    simp only [Rule.standard, List.find?_cons, passed takes_missing_iff named,
      passed oneOf ordinary, passed takes_contains_iff unmarked, passed takes_contains_iff silent,
      takes_registeredService_iff.mpr ⟨named, registered⟩] at decides
    rw [resolve_of_decidingRule? decides, Strategy.expression, matched,
      (serves_iff named).mp serves]
    rfl
  | unresolved named ordinary unmarked silent unregistered =>
    simp only [Rule.standard, List.find?_cons, passed takes_missing_iff named,
      passed oneOf ordinary, passed takes_contains_iff unmarked, passed takes_contains_iff silent,
      passed takes_registeredService_iff (mt And.right unregistered)] at decides
    rw [resolve_of_decidingRule? decides]
    rfl

theorem exists_answered (c : Config) (services : List Service) (type : String) :
    ∃ r, Answered c services type r := by
  by_cases unnamed : type = ""
  · exact ⟨_, .missing unnamed⟩
  by_cases intrinsic : c.IsIntrinsic type
  · exact ⟨_, .intrinsic unnamed intrinsic⟩
  by_cases configuration : Holds type c.configurationMarker
  · exact ⟨_, .configuration unnamed intrinsic configuration⟩
  by_cases logger : Holds type c.loggerMarker
  · exact ⟨_, .logger unnamed intrinsic configuration logger (category_iff.mpr rfl)⟩
  by_cases registered : c.IsRegistered services type
  · obtain ⟨s, found⟩ := Option.isSome_iff_exists.mp
      (takes_registeredService_iff.mpr ⟨unnamed, registered⟩)
    exact ⟨_, .service unnamed intrinsic configuration logger registered
      ((serves_iff unnamed).mpr found)⟩
  · exact ⟨_, .unresolved unnamed intrinsic configuration logger registered⟩

end RuleTable

/-- A request is answered by the first of the six conditions that its trimmed text satisfies, with
the expression of that condition. -/
theorem resolve_eq_iff_answered (c : Config) (services : List Service) (request : String)
    (r : Resolution) :
    (RuleTable.standard c services).resolve request = r ↔
      Answered c services (trimmed request) r := by
  constructor
  · rintro rfl
    obtain ⟨r, answered⟩ := RuleTable.exists_answered c services (trimmed request)
    rwa [RuleTable.resolve_of_answered answered]
  · exact RuleTable.resolve_of_answered

end RouteWeaver
