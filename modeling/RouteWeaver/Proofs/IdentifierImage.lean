import RouteWeaver.Proofs.CutTexts
import RouteWeaver.Proofs.LegalNames

namespace RouteWeaver

namespace Name

open Text

structure IsIdentifier (name : String) : Prop where
  characters : ∀ c ∈ name.toList, isNameChar c
  start : ∃ c rest, name.toList = c :: rest ∧ ¬ c.isDigit

theorem Granted.isIdentifier {name : String} (granted : Granted name) : IsIdentifier name where
  characters := granted.isNameChar
  start := granted.start

theorem isIdentifier_identifier (type : String) : IsIdentifier (identifier type) :=
  (Granted.asked type).isIdentifier

variable {c : Char} {chars : List Char}

theorem plain_of_isNameChar (legal : isNameChar c) :
    ¬ isBlank c ∧ ¬ isUpper c ∧ c ∉ [' ', '<', ':'] := by
  have each : ∀ n < 128, isNameChar (Char.ofNat n) →
      ¬ isBlank (Char.ofNat n) ∧ ¬ isUpper (Char.ofNat n) ∧ Char.ofNat n ∉ [' ', '<', ':'] := by
    decide +kernel
  exact forall_ascii (P := fun c => isNameChar c → ¬ isBlank c ∧ ¬ isUpper c ∧ c ∉ [' ', '<', ':'])
    each (isNameChar_ascii legal) legal

theorem notMem_of_isNameChar (legal : ∀ c ∈ chars, isNameChar c) {mark : Char}
    (other : mark ∈ [' ', '<', ':']) : mark ∉ chars :=
  fun member => (plain_of_isNameChar (legal mark member)).2.2 other

theorem trim_of_isNameChar (legal : ∀ c ∈ chars, isNameChar c) : trim chars = chars :=
  trim_of_forall_not_isBlank fun c member => (plain_of_isNameChar (legal c member)).1

theorem concrete_of_isNameChar (legal : ∀ c ∈ chars, isNameChar c) : concrete chars = chars := by
  have blank : ' ' ∉ chars := notMem_of_isNameChar legal (by simp)
  rw [concrete, after?_of_notMem (by decide) blank, after?_of_notMem (by decide) blank]
  rfl

theorem shortChars_of_isNameChar (legal : ∀ c ∈ chars, isNameChar c) :
    shortChars chars = chars := by
  have bare : chars.takeWhile (· ≠ '<') = chars := by
    apply List.takeWhile_eq_self_iff.mpr
    intro c member
    have argument : '<' ∉ chars := notMem_of_isNameChar legal (by simp)
    exact decide_eq_true (ne_of_mem_of_not_mem member argument)
  have segment : ':' ∉ chars := notMem_of_isNameChar legal (by simp)
  rw [shortChars, trim_of_isNameChar legal, concrete_of_isNameChar legal, bare,
    afterLast_of_notMem (by decide) segment, trim_of_isNameChar legal]

theorem snakeAfter_of_isNameChar (legal : ∀ c ∈ chars, isNameChar c) (previous : Option Char) :
    snakeAfter previous chars = chars := by
  induction chars generalizing previous with
  | nil => rfl
  | cons c rest ih =>
    rw [List.forall_mem_cons] at legal
    have small := (plain_of_isNameChar legal.1).2.1
    rw [snakeAfter, if_neg small, ih legal.2]

theorem legalized_of_start {rest : List Char} (legal : ∀ d ∈ c :: rest, isNameChar d)
    (start : ¬ c.isDigit) : legalized (c :: rest) = c :: rest := by
  have kept : ∀ d ∈ c :: rest, (if isWordChar d then d else '_') = d := fun d member =>
    if_pos (isWordChar_of_isNameChar (legal d member))
  rw [legalized, List.map_congr_left kept, List.map_id']
  simp [start]

/-- An identifier is its own identifier. -/
theorem identifier_of_isIdentifier {name : String} (legal : IsIdentifier name) :
    identifier name = name := by
  obtain ⟨c, rest, chars, start⟩ := legal.start
  have characters := legal.characters
  rw [identifier, shortChars_of_isNameChar characters, snakeChars_eq,
    snakeAfter_of_isNameChar characters, chars,
    legalized_of_start (chars ▸ characters) start, ← chars, String.ofList_toList]

theorem isIdentifier_iff_exists {name : String} :
    IsIdentifier name ↔ ∃ type, identifier type = name := by
  constructor
  · intro legal
    exact ⟨name, identifier_of_isIdentifier legal⟩
  · rintro ⟨type, rfl⟩
    exact isIdentifier_identifier type

theorem isIdentifier_iff_fixed {name : String} : IsIdentifier name ↔ identifier name = name := by
  constructor
  · exact identifier_of_isIdentifier
  · intro fixed
    exact isIdentifier_iff_exists.mpr ⟨name, fixed⟩

end Name

/-- The identifiers of types are the names of ASCII letters in lower case, digits and underscores
that start with no digit, and they are the names that are their own identifiers. Statics of
behaviors have the same name just when the behaviors have the same identifier. -/
theorem identifiers_are_fixed_names {b b' : Behavior} (granted : Name.Granted b.identifier)
    (granted' : Name.Granted b'.identifier) :
    (∀ name, (∃ type, Name.identifier type = name) ↔ Name.IsIdentifier name) ∧
    (∀ name, Name.identifier name = name ↔ Name.IsIdentifier name) ∧
    (∀ type, Name.identifier (Name.identifier type) = Name.identifier type) ∧
    (b.identifier ≠ b'.identifier ↔ b.staticName ≠ b'.staticName) := by
  refine ⟨fun name => ?_, fun name => ?_, fun type => ?_, ?_⟩
  · exact Name.isIdentifier_iff_exists.symm
  · exact Name.isIdentifier_iff_fixed.symm
  · exact Name.identifier_of_isIdentifier (Name.isIdentifier_identifier type)
  · exact not_congr (Name.capitals_inj granted granted').symm

theorem identifiers_are_fixed_names_key :
    let b := Behavior.ofType "dyn app::\u212AeyRing<u8>"
    let b' := Behavior.ofType "app::key"
    Name.Granted b.identifier ∧ Name.Granted b'.identifier ∧ b.identifier = "key_ring" ∧
    b'.identifier = "key" ∧ b.staticName ≠ b'.staticName ∧
    Name.identifier b.identifier = b.identifier := by
  intro b b'
  have granted : Name.Granted b.identifier := .asked _
  have granted' : Name.Granted b'.identifier := .asked _
  have ring : b.identifier = "key_ring" := by decide +kernel
  have key : b'.identifier = "key" := by decide +kernel
  have differ : b.identifier ≠ b'.identifier := by
    rw [ring, key]
    decide
  obtain ⟨-, -, again, static⟩ := identifiers_are_fixed_names granted granted'
  exact ⟨granted, granted', ring, key, static.mp differ, again _⟩

end RouteWeaver
