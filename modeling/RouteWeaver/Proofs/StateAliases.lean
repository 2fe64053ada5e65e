import RouteWeaver.Program
import RouteWeaver.Proofs.NameCharacters

/-!
Names of state aliases. The alias of a behavior is its identifier in capitalized words, without
underscores. Capitals tell where the words start, but for those that start with a digit: names
have one alias when they are equal up to underscores that no letter follows.
-/

namespace RouteWeaver

namespace Name

open Text

/-- The name without the underscores that no letter follows. -/
def worded : List Char → List Char
  | [] => []
  | c :: rest =>
    if c = '_' ∧ ¬ rest.head?.any Char.isLower then worded rest else c :: worded rest

/-- What the words of a name in capitals tell of the name. -/
def spelled (name : String) : String :=
  String.ofList (worded ('_' :: name.toList))

/-- The words in capitals, when one of them `starts` with the next character. -/
def capitalsFrom (starts : Bool) : List Char → List Char
  | [] => []
  | c :: rest =>
    if c = '_' then capitalsFrom true rest
    else (if starts then c.toUpper else c) :: capitalsFrom false rest

/-- Words in capitals, read back. -/
def uncapitalized : List Char → List Char
  | [] => []
  | c :: rest =>
    if c.isUpper then '_' :: c.toLower :: uncapitalized rest else c :: uncapitalized rest

variable {c : Char} {chars rest : List Char}

theorem isUpper_toUpper (letter : c.isLower) : c.toUpper.isUpper := by
  rw [Char.isUpper_toUpper_eq_isAlpha, Char.isAlpha, letter, Bool.or_true]

theorem flatMap_capitalized_pieces (legal : ∀ c ∈ chars, isNameChar c) :
    ∃ word others, pieces '_' chars = word :: others ∧
      word ++ others.flatMap capitalized = capitalsFrom false chars ∧
      capitalized word ++ others.flatMap capitalized = capitalsFrom true chars := by
  induction chars with
  | nil => exact ⟨[], [], rfl, rfl, rfl⟩
  | cons c chars ih =>
    obtain ⟨word, others, cut, later, starting⟩ := ih fun d member =>
      legal d (List.mem_cons_of_mem c member)
    rw [pieces]
    by_cases underscore : c = '_'
    · refine ⟨[], word :: others, by rw [if_pos underscore, cut], ?_, ?_⟩ <;>
        simpa [capitalsFrom, underscore, capitalized] using starting
    · refine ⟨c :: word, others, by rw [if_neg underscore, cut], ?_, ?_⟩
      · simpa [capitalsFrom, underscore] using later
      · rw [capitalized, upper_eq_toUpper (legal c List.mem_cons_self)]
        simpa [capitalsFrom, underscore] using later

theorem toList_pascal {name : String} (granted : Granted name) :
    (pascal name).toList = capitalsFrom false ('_' :: name.toList) := by
  obtain ⟨word, others, cut, -, starting⟩ := flatMap_capitalized_pieces granted.isNameChar
  rw [pascal, String.toList_ofList, cut, List.flatMap_cons, starting]
  rfl

/-- Without a letter to capitalize it is all one where a word starts. -/
theorem capitalsFrom_of_not_letter (plain : ¬ chars.head?.any Char.isLower) :
    capitalsFrom true chars = capitalsFrom false chars := by
  cases chars with
  | nil => rfl
  | cons c rest =>
    have fixed : c.toUpper = c := Char.toUpper_eq_of_not_isLower (by simpa using plain)
    rw [capitalsFrom, capitalsFrom, if_pos rfl, if_neg Bool.false_ne_true, fixed]

theorem ne_underscore_of_isLower (letter : c.isLower) : c ≠ '_' := by
  rintro rfl
  simp at letter

/-- An underscore is dropped, or kept together with the letter that follows it. -/
@[elab_as_elim]
theorem worded_induction {motive : List Char → Prop} (nil : motive [])
    (dropped : ∀ rest, ¬ rest.head?.any Char.isLower → motive rest → motive ('_' :: rest))
    (kept : ∀ c rest, c.isLower → motive rest → motive ('_' :: c :: rest))
    (other : ∀ c rest, c ≠ '_' → motive rest → motive (c :: rest)) :
    (chars : List Char) → motive chars
  | [] => nil
  | [c] => by
    by_cases underscore : c = '_'
    · exact underscore ▸ dropped [] (by simp) nil
    · exact other c [] underscore nil
  | c :: d :: rest => by
    by_cases underscore : c = '_'
    · subst underscore
      by_cases letter : d.isLower
      · exact kept d rest letter (worded_induction nil dropped kept other rest)
      · exact dropped (d :: rest) (by simpa using letter)
          (worded_induction nil dropped kept other (d :: rest))
    · exact other c (d :: rest) underscore (worded_induction nil dropped kept other (d :: rest))

theorem worded_dropped (plain : ¬ rest.head?.any Char.isLower) :
    worded ('_' :: rest) = worded rest := by
  rw [worded, if_pos ⟨rfl, plain⟩]

theorem worded_other (apart : c ≠ '_') : worded (c :: rest) = c :: worded rest := by
  rw [worded, if_neg fun underscore => apart underscore.1]

theorem worded_kept (letter : c.isLower) :
    worded ('_' :: c :: rest) = '_' :: c :: worded rest := by
  rw [worded, if_neg (by simp [letter]), worded_other (ne_underscore_of_isLower letter)]

theorem capitalsFrom_underscore (starts : Bool) :
    capitalsFrom starts ('_' :: rest) = capitalsFrom true rest := by
  rw [capitalsFrom, if_pos rfl]

theorem capitalsFrom_other (apart : c ≠ '_') :
    capitalsFrom false (c :: rest) = c :: capitalsFrom false rest := by
  rw [capitalsFrom, if_neg apart, if_neg Bool.false_ne_true]

theorem capitalsFrom_kept (letter : c.isLower) :
    capitalsFrom false ('_' :: c :: rest) = c.toUpper :: capitalsFrom false rest := by
  rw [capitalsFrom_underscore, capitalsFrom, if_neg (ne_underscore_of_isLower letter), if_pos rfl]

theorem capitalsFrom_dropped (plain : ¬ rest.head?.any Char.isLower) :
    capitalsFrom false ('_' :: rest) = capitalsFrom false rest := by
  rw [capitalsFrom_underscore, capitalsFrom_of_not_letter plain]

theorem capitalsFrom_worded (chars : List Char) :
    capitalsFrom false (worded chars) = capitalsFrom false chars := by
  induction chars using worded_induction with
  | nil => rfl
  | dropped rest plain ih => rw [worded_dropped plain, ih, capitalsFrom_dropped plain]
  | kept c rest letter ih =>
    rw [worded_kept letter, capitalsFrom_kept letter, ih, capitalsFrom_kept letter]
  | other c rest apart ih =>
    rw [worded_other apart, capitalsFrom_other apart, ih, capitalsFrom_other apart]

theorem uncapitalized_capitalsFrom (legal : ∀ c ∈ chars, isNameChar c) :
    uncapitalized (capitalsFrom false chars) = worded chars := by
  induction chars using worded_induction with
  | nil => rfl
  | dropped rest plain ih =>
    rw [worded_dropped plain, capitalsFrom_dropped plain, ih (List.forall_mem_cons.mp legal).2]
  | kept c rest letter ih =>
    obtain ⟨-, start, later⟩ := by simpa only [List.forall_mem_cons] using legal
    rw [worded_kept letter, capitalsFrom_kept letter, uncapitalized,
      if_pos (isUpper_toUpper letter), toLower_toUpper start, ih later]
  | other c rest apart ih =>
    obtain ⟨start, later⟩ := List.forall_mem_cons.mp legal
    rw [worded_other apart, capitalsFrom_other apart, uncapitalized,
      if_neg (not_isUpper_of_isNameChar start), ih later]

/-- Names have one image when they are spelled alike. -/
theorem pascal_eq_iff {name other : String} (granted : Granted name) (granted' : Granted other) :
    pascal name = pascal other ↔ spelled name = spelled other := by
  have read {n : String} (granted : Granted n) :
      spelled n = String.ofList (uncapitalized (pascal n).toList) := by
    have legal : ∀ c ∈ '_' :: n.toList, isNameChar c :=
      List.forall_mem_cons.mpr ⟨rfl, granted.isNameChar⟩
    rw [toList_pascal granted, uncapitalized_capitalsFrom legal, spelled]
  have written {n : String} (granted : Granted n) :
      pascal n = String.ofList (capitalsFrom false (spelled n).toList) := by
    rw [spelled, String.toList_ofList, capitalsFrom_worded, ← toList_pascal granted,
      String.ofList_toList]
  constructor
  · intro same
    rw [read granted, read granted', same]
  · intro same
    rw [written granted, written granted', same]

end Name

namespace Model

variable {m : Model}

def stateless (m : Model) : List Behavior :=
  m.behaviors.filter fun b => !b.hasCustomState

theorem aliasNames_program :
    m.program.aliases.map (·.name) = m.stateless.map (·.generatedStateName) := by
  rw [program, Behavior.stateAliases, List.map_map]
  rfl

theorem map_stateType_stateless : m.stateless.map (·.stateType) =
    m.stateless.map fun b => "behaviors::" ++ b.generatedStateName := by
  refine List.map_congr_left fun b member => ?_
  have generated := (List.mem_filter.mp member).2
  rw [Behavior.stateType]
  cases kind : b.state with
  | custom type => simp [Behavior.hasCustomState, kind] at generated
  | generated => rfl

/-- What tells the spellings of two identifiers apart tells their aliases apart. -/
theorem nodup_stateless_iff (named : m.Named) {f : Behavior → String}
    (image : ∀ b c : Behavior, f b = f c ↔ b.generatedStateName = c.generatedStateName) :
    (m.stateless.map f).Nodup ↔
      (m.stateless.map fun b => Name.spelled b.identifier).Nodup := by
  unfold List.Nodup
  rw [List.pairwise_map, List.pairwise_map]
  refine List.Pairwise.iff_of_mem fun {b c} hb hc => not_congr ?_
  have granted (d : Behavior) (member : d ∈ m.stateless) : Name.Granted d.identifier :=
    named.identifiers d (List.mem_filter.mp member).1
  rw [image, Behavior.generatedStateName, Behavior.generatedStateName, String.append_left_inj,
    Name.pascal_eq_iff (granted b hb) (granted c hc)]

end Model

/-- Aliases have different names, and behaviors have different aliases for their states, just when
the identifiers of the behaviors that have an alias are spelled differently. -/
theorem alias_names_nodup_iff {m : Model} (named : m.Named) :
    ((m.program.aliases.map (·.name)).Nodup ↔
      (m.stateless.map fun b => Name.spelled b.identifier).Nodup) ∧
    ((m.stateless.map (·.stateType)).Nodup ↔
      (m.stateless.map fun b => Name.spelled b.identifier).Nodup) := by
  rw [Model.aliasNames_program, Model.map_stateType_stateless]
  constructor
  · exact Model.nodup_stateless_iff named fun b c => Iff.rfl
  · refine Model.nodup_stateless_iff named fun b c => ?_
    rw [String.append_right_inj]

theorem alias_names_nodup_logging :
    let m := Model.ofDefinitions {} [.ofType "audit::Logging", .ofType "trace::Logging",
      { Behavior.ofType "app::Retry2" with state := .custom "app::Attempts" },
      .ofType "app::Retry_2"] [] []
    m.Named ∧ (m.program.aliases.map (·.name)).Nodup ∧ (m.stateless.map (·.stateType)).Nodup := by
  intro m
  have named : m.Named := by
    refine Model.named_ofDefinitions {} [] ?_ ?_
    · simp [Behavior.ofType, Name.Granted.asked]
    · simp
  obtain ⟨names, types⟩ := alias_names_nodup_iff named
  exact ⟨named, names.mpr (by decide +kernel), types.mpr (by decide +kernel)⟩

/-- No letter follows the underscore that tells the identifiers apart. -/
theorem retry_aliases_meet :
    let m := Model.ofDefinitions {} [.ofType "app::Retry2", .ofType "app::Retry_2"] [] []
    m.Named ∧ m.behaviors.map (·.identifier) = ["retry2", "retry_2"] ∧
    m.program.aliases.map (·.name) = ["Retry2State", "Retry2State"] := by
  refine ⟨?_, by decide +kernel⟩
  refine Model.named_ofDefinitions {} [] ?_ ?_
  · simp [Behavior.ofType, Name.Granted.asked]
  · simp

end RouteWeaver
