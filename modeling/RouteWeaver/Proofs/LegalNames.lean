import RouteWeaver.Proofs.HolderNames
import RouteWeaver.Proofs.StateAliases

/-!
Which granted names can name an item. A granted name has the right characters and does not start
with a digit, but it may be a lone underscore, which names nothing. The name of a state type drops
all underscores of the identifier, the one that keeps a digit from standing first included.
-/

namespace RouteWeaver

namespace Name

open Text

def startsName (c : Char) : Bool :=
  c.isAlpha || c = '_'

/-- A name that an item can have, reserved words apart. -/
structure Legal (name : String) : Prop where
  start : ∃ c rest, name.toList = c :: rest ∧ startsName c
  characters : name.toList.all isWordChar
  named : name ≠ "_"

def numbered (name : String) : Bool :=
  (name.toList.dropWhile (· = '_')).head?.any Char.isDigit

variable {c : Char} {chars : List Char} {name : String}

theorem isNameChar_cases (legal : isNameChar c) : c.isLower ∨ c.isDigit ∨ c = '_' := by
  simpa only [isNameChar, Bool.or_eq_true, decide_eq_true_eq, or_assoc] using legal

theorem not_isLower_of_isDigit (digit : c.isDigit) : ¬ c.isLower := by
  intro letter
  have codes := isDigit_iff_toNat.mp digit
  have codes' := isLower_iff_toNat.mp letter
  omega

theorem isWordChar_of_isNameChar (legal : isNameChar c) : isWordChar c := by
  rcases isNameChar_cases legal with letter | digit | rfl
  · simp [isWordChar, Char.isAlphanum, Char.isAlpha, letter]
  · simp [isWordChar, Char.isAlphanum, digit]
  · rfl

theorem toUpper_underscore : '_'.toUpper = '_' := by
  decide

theorem isWordChar_toUpper (legal : isNameChar c) : isWordChar c.toUpper := by
  rcases isNameChar_cases legal with letter | digit | rfl
  · simp [isWordChar, Char.isAlphanum, Char.isAlpha, letter]
  · rw [Char.toUpper_eq_of_not_isLower (not_isLower_of_isDigit digit)]
    exact isWordChar_of_isNameChar legal
  · rw [toUpper_underscore]
    rfl

/-- Of the characters of names, only digits cannot stand first. -/
theorem startsName_iff (legal : isNameChar c) : startsName c ↔ ¬ c.isDigit := by
  rcases isNameChar_cases legal with letter | digit | rfl
  · have apart : ¬ c.isDigit := fun digit => not_isLower_of_isDigit digit letter
    simp [startsName, Char.isAlpha, letter, apart]
  · have codes := isDigit_iff_toNat.mp digit
    have small := not_isLower_of_isDigit digit
    have capital : ¬ c.isUpper := not_isUpper_of_isNameChar legal
    have apart : c ≠ '_' := by
      rintro rfl
      cases digit
    simp [startsName, Char.isAlpha, small, capital, apart, digit]
  · decide

theorem startsName_toUpper (legal : isNameChar c) : startsName c.toUpper ↔ startsName c := by
  rcases isNameChar_cases legal with letter | digit | rfl
  · simp [startsName, Char.isAlpha, letter]
  · rw [Char.toUpper_eq_of_not_isLower (not_isLower_of_isDigit digit)]
  · rw [toUpper_underscore]

theorem legalized_start (chars : List Char) :
    ∃ c rest, legalized chars = c :: rest ∧ ¬ c.isDigit := by
  unfold legalized
  split
  · exact ⟨'u', "nnamed".toList, rfl, by decide⟩
  · rename_i c rest _
    split
    · exact ⟨'_', c :: rest, rfl, by decide⟩
    · rename_i plain
      exact ⟨c, rest, rfl, plain⟩

theorem Granted.start (granted : Granted name) :
    ∃ c rest, name.toList = c :: rest ∧ ¬ c.isDigit := by
  induction granted with
  | asked type =>
    rw [identifier, String.toList_ofList]
    exact legalized_start _
  | marked type _ ih =>
    obtain ⟨c, rest, chars, plain⟩ := ih
    refine ⟨c, rest ++ "_".toList ++ (mark type).toList, ?_, plain⟩
    simp [chars]

theorem legal_iff (granted : Granted name) : Legal name ↔ name ≠ "_" := by
  constructor
  · intro legal
    exact legal.named
  · intro named
    obtain ⟨c, rest, chars, plain⟩ := granted.start
    have first : isNameChar c := granted.isNameChar c (by simp [chars])
    have characters : ∀ d ∈ name.toList, isWordChar d := by
      intro d member
      exact isWordChar_of_isNameChar (granted.isNameChar d member)
    exact ⟨⟨c, rest, chars, (startsName_iff first).mpr plain⟩, List.all_eq_true.mpr characters,
      named⟩

theorem capitals_eq_underscore (granted : Granted name) : capitals name = "_" ↔ name = "_" := by
  constructor
  · intro same
    have images : name.toList.map Char.toUpper = ['_'] := by
      rw [← toList_capitals, same]
      rfl
    obtain ⟨c, single, image⟩ := List.map_eq_singleton_iff.mp images
    have first : isNameChar c := granted.isNameChar c (by simp [single])
    have underscore : c = '_' := by
      rw [← toLower_toUpper first, image]
      decide
    rw [← String.toList_inj, single, underscore]
    rfl
  · rintro rfl
    decide

theorem legal_capitals_iff (granted : Granted name) : Legal (capitals name) ↔ name ≠ "_" := by
  constructor
  · intro legal same
    exact legal.named ((capitals_eq_underscore granted).mpr same)
  · intro named
    obtain ⟨c, rest, chars, plain⟩ := granted.start
    have first : isNameChar c := granted.isNameChar c (by simp [chars])
    have start : startsName c.toUpper :=
      (startsName_toUpper first).mpr ((startsName_iff first).mpr plain)
    have characters : ∀ d ∈ (capitals name).toList, isWordChar d := by
      intro d member
      rw [toList_capitals] at member
      obtain ⟨e, listed, rfl⟩ := List.mem_map.mp member
      exact isWordChar_toUpper (granted.isNameChar e listed)
    refine ⟨⟨c.toUpper, rest.map Char.toUpper, ?_, start⟩, List.all_eq_true.mpr characters, ?_⟩
    · rw [toList_capitals, chars, List.map_cons]
    · exact fun same => named ((capitals_eq_underscore granted).mp same)

theorem isWordChar_of_mem_capitalsFrom {starts : Bool} (legal : ∀ c ∈ chars, isNameChar c)
    {d : Char} (member : d ∈ capitalsFrom starts chars) : isWordChar d := by
  induction chars generalizing starts with
  | nil => cases member
  | cons c rest ih =>
    rw [List.forall_mem_cons] at legal
    rw [capitalsFrom] at member
    split at member
    · exact ih legal.2 member
    · rcases List.mem_cons.mp member with rfl | later
      · split
        · exact isWordChar_toUpper legal.1
        · exact isWordChar_of_isNameChar legal.1
      · exact ih legal.2 later

/-- Leading underscores leave nothing but the capital behind them. -/
theorem capitalsFrom_dropWhile (chars : List Char) :
    capitalsFrom true (chars.dropWhile (· = '_')) = capitalsFrom true chars := by
  induction chars with
  | nil => rfl
  | cons c rest ih =>
    by_cases underscore : c = '_'
    · rw [List.dropWhile_cons_of_pos (by simpa using underscore), ih, underscore,
        capitalsFrom_underscore]
    · rw [List.dropWhile_cons_of_neg (by simpa using underscore)]

theorem toList_stateName (granted : Granted name) :
    (pascal name ++ "State").toList = capitalsFrom true name.toList ++ "State".toList := by
  rw [String.toList_append, toList_pascal granted, capitalsFrom_underscore]

theorem stateName_start (granted : Granted name) :
    (∃ c rest, (pascal name ++ "State").toList = c :: rest ∧ startsName c) ↔ ¬ numbered name := by
  rw [toList_stateName granted, ← capitalsFrom_dropWhile, numbered]
  cases behind : name.toList.dropWhile (· = '_') with
  | nil =>
    -- A name of underscores gives its state type nothing to stand in front.
    exact iff_of_true ⟨'S', "tate".toList, rfl, by decide⟩ (by simp)
  | cons c rest =>
    have apart : c ≠ '_' := by
      have stopped := List.head?_dropWhile_not (· = '_') name.toList
      simpa [behind] using stopped
    have member : c ∈ name.toList := by
      have suffix := List.dropWhile_suffix (l := name.toList) (· = '_')
      exact suffix.subset (by simp [behind])
    have legal := granted.isNameChar c member
    have digit : startsName c.toUpper ↔ ¬ c.isDigit :=
      (startsName_toUpper legal).trans (startsName_iff legal)
    rw [capitalsFrom, if_neg apart, if_pos rfl]
    simpa using digit

theorem legal_stateName_iff (granted : Granted name) :
    Legal (pascal name ++ "State") ↔ ¬ numbered name := by
  rw [← stateName_start granted]
  constructor
  · intro legal
    exact legal.start
  · intro start
    have characters : ∀ d ∈ (pascal name ++ "State").toList, isWordChar d := by
      intro d member
      rw [toList_stateName granted] at member
      rcases List.mem_append.mp member with front | tail
      · exact isWordChar_of_mem_capitalsFrom granted.isNameChar front
      · exact List.all_eq_true.mp (by decide : "State".toList.all isWordChar) d tail
    refine ⟨start, List.all_eq_true.mpr characters, ?_⟩
    intro same
    have letter : 'S' ∈ (pascal name ++ "State").toList := by simp
    rw [same] at letter
    exact absurd letter (by decide)

end Name

/-- The items of behaviors and services have names that items can have, but for those whose
granted name is a lone underscore, and for the state types of those whose granted name has a digit
behind its leading underscores. -/
theorem names_legal_iff {b : Behavior} (granted : Name.Granted b.identifier) {g : Service.Shared}
    (stored : Name.Granted g.first.storage) :
    ((Name.Legal b.identifier ↔ b.identifier ≠ "_") ∧
      (Name.Legal b.staticName ↔ b.identifier ≠ "_") ∧
      (Name.Legal b.generatedStateName ↔ ¬ Name.numbered b.identifier)) ∧
    (Name.Legal g.holder.accessor ↔ g.first.storage ≠ "_") ∧
    (Name.Legal g.holder.staticName ↔ g.first.storage ≠ "_") := by
  refine ⟨⟨?_, ?_, ?_⟩, ?_, ?_⟩
  · exact Name.legal_iff granted
  · exact Name.legal_capitals_iff granted
  · exact Name.legal_stateName_iff granted
  · exact Name.legal_iff stored
  · exact Name.legal_capitals_iff stored

theorem names_legal_iff_logging :
    let b := Behavior.ofType "app::_2Logging"
    let g : Service.Shared := ⟨.ofTypes "dyn Clock" "app::WallClock", []⟩
    Name.Granted b.identifier ∧ Name.Granted g.first.storage ∧
    (Name.Legal b.identifier ∧ Name.Legal b.staticName ∧ ¬ Name.Legal b.generatedStateName) ∧
    Name.Legal g.holder.accessor ∧ Name.Legal g.holder.staticName := by
  intro b g
  have granted : Name.Granted b.identifier := .asked _
  have stored : Name.Granted g.first.storage := .asked _
  have identifier : b.identifier ≠ "_" := by decide +kernel
  have digit : Name.numbered b.identifier := by decide +kernel
  have storage : g.first.storage ≠ "_" := by decide +kernel
  obtain ⟨⟨named, static, state⟩, accessor, holder⟩ := names_legal_iff granted stored
  exact ⟨granted, stored,
    ⟨named.mpr identifier, static.mpr identifier, fun legal => state.mp legal digit⟩,
    accessor.mpr storage, holder.mpr storage⟩

/-- The underscore that keeps a digit from standing first is none of the state type's. A type
without a letter or digit may be left with an underscore and nothing else. -/
theorem digit_starts_state_name :
    (Behavior.ofType "app::_2fa").identifier = "_2fa" ∧
    (Behavior.ofType "app::_2fa").generatedStateName = "2faState" ∧ ¬ Name.Legal "2faState" ∧
    (Behavior.ofType "app::日").identifier = "_" ∧ ¬ Name.Legal "_" := by
  refine ⟨by decide +kernel, by decide +kernel, ?_, by decide +kernel, ?_⟩
  · intro legal
    obtain ⟨c, rest, chars, start⟩ := legal.start
    cases chars
    cases start
  · intro legal
    exact legal.named rfl

end RouteWeaver
