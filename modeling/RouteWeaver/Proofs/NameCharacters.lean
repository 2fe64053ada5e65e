import RouteWeaver.Proofs.Identifiers
import RouteWeaver.Proofs.LoadedModels
import RouteWeaver.Proofs.SnakeCase

namespace RouteWeaver

namespace Name

open Text

def isNameChar (c : Char) : Bool :=
  c.isLower || c.isDigit || c = '_'

variable {c : Char}

theorem isNameChar_ascii (legal : isNameChar c) : c.toNat < 128 := by
  simp only [isNameChar, Bool.or_eq_true, decide_eq_true_eq] at legal
  rcases legal with (letter | digit) | rfl
  · have codes := isLower_iff_toNat.mp letter
    omega
  · have codes := isDigit_iff_toNat.mp digit
    omega
  · decide

theorem not_isUpper_of_isNameChar (legal : isNameChar c) : ¬ c.isUpper := by
  intro capital
  have codes := isUpper_iff_toNat.mp capital
  simp only [isNameChar, Bool.or_eq_true, decide_eq_true_eq] at legal
  rcases legal with (letter | digit) | rfl
  · have codes' := isLower_iff_toNat.mp letter
    omega
  · have codes' := isDigit_iff_toNat.mp digit
    omega
  · cases capital

theorem toLower_toUpper (legal : isNameChar c) : c.toUpper.toLower = c := by
  rw [Char.toLower_toUpper_eq_toLower]
  exact Char.toLower_eq_of_not_isUpper (not_isUpper_of_isNameChar legal)

theorem upper_eq_toUpper (legal : isNameChar c) : upper c = [c.toUpper] := by
  have each : ∀ n < 128, isNameChar (Char.ofNat n) →
      upper (Char.ofNat n) = [(Char.ofNat n).toUpper] := by
    decide +kernel
  exact forall_ascii (P := fun c => isNameChar c → upper c = [c.toUpper]) each
    (isNameChar_ascii legal) legal

theorem not_isUpper_of_mem_snakeAfter {previous : Option Char} {chars : List Char} {d : Char}
    (member : d ∈ snakeAfter previous chars) : ¬ d.isUpper := by
  induction chars generalizing previous with
  | nil => cases member
  | cons c rest ih =>
    rw [snakeAfter] at member
    split at member
    · rcases List.mem_append.mp member with front | later
      · rcases List.mem_append.mp front with mark | lowered
        · split at mark
          · obtain rfl := List.mem_singleton.mp mark
            decide
          · cases mark
        · exact not_isUpper_of_mem_lower lowered
      · exact ih later
    · rename_i small
      rcases List.mem_cons.mp member with rfl | later
      · exact fun capital => small (isUpper_of_ascii capital)
      · exact ih later

theorem isNameChar_of_mem_legalized {name : List Char} (small : ∀ c ∈ name, ¬ c.isUpper) {d : Char}
    (member : d ∈ legalized name) : isNameChar d := by
  have kept : ∀ d ∈ name.map (fun c => if isWordChar c then c else '_'), isNameChar d := by
    intro d member
    obtain ⟨c, listed, rfl⟩ := List.mem_map.mp member
    split
    · rename_i word
      have uncapital := small c listed
      simp only [isWordChar, Char.isAlphanum, Char.isAlpha] at word
      simp only [isNameChar]
      grind
    · decide
  have unnamed : "unnamed".toList.all isNameChar := by decide
  rw [legalized] at member
  split at member
  · exact List.all_eq_true.mp unnamed d member
  · rename_i c rest chars
    rw [chars] at kept
    split at member
    · rcases List.mem_cons.mp member with rfl | member
      · decide
      · exact kept d member
    · exact kept d member

theorem isNameChar_digitChar : ∀ n < 16, isNameChar (Nat.digitChar n) := by
  decide

theorem isNameChar_of_mem_hexByte {b : UInt8} {d : Char} (member : d ∈ hexByte b) :
    isNameChar d := by
  have bound := b.toNat_lt
  simp only [hexByte, List.mem_cons, List.not_mem_nil, or_false] at member
  rcases member with rfl | rfl
  · exact isNameChar_digitChar _ (by omega)
  · exact isNameChar_digitChar _ (by omega)

/-- The names that types can be granted: what one asks for, and any of these with a mark. -/
inductive Granted : String → Prop
  | asked (type : String) : Granted (identifier type)
  | marked {name : String} (type : String) : Granted name → Granted (name ++ "_" ++ mark type)

theorem Request.granted_granted {r : Request} (start : Granted r.identifier)
    (requests : List Request) : Granted (r.granted requests) := by
  rw [Request.granted]
  split
  · exact .marked r.type start
  · exact start

theorem Granted.isNameChar {name : String} (granted : Granted name) :
    ∀ c ∈ name.toList, isNameChar c := by
  induction granted with
  | asked type =>
    intro c member
    rw [identifier, String.toList_ofList, snakeChars_eq] at member
    exact isNameChar_of_mem_legalized (fun _ => not_isUpper_of_mem_snakeAfter) member
  | marked type _ ih =>
    intro c member
    rw [String.toList_append, String.toList_append] at member
    rcases List.mem_append.mp member with front | digits
    · rcases List.mem_append.mp front with front | underscore
      · exact ih c front
      · obtain rfl := List.mem_singleton.mp underscore
        decide
    · rw [mark, String.toList_ofList] at digits
      obtain ⟨b, -, digit⟩ := List.mem_flatMap.mp digits
      exact isNameChar_of_mem_hexByte digit

end Name

/-- Behaviors and services of a model have names that their types were granted. -/
structure Model.Named (m : Model) : Prop where
  identifiers : ∀ b ∈ m.behaviors, Name.Granted b.identifier
  storages : ∀ s ∈ m.services, Name.Granted s.storage

theorem Model.named_ofDefinitions (config : Config) {behaviors : List Behavior}
    {services : List Service} (routes : List Route)
    (identifiers : ∀ b ∈ behaviors, Name.Granted b.identifier)
    (storages : ∀ s ∈ services, Name.Granted s.storage) :
    (Model.ofDefinitions config behaviors services routes).Named where
  identifiers := by
    intro b registered
    obtain ⟨c, kept, rfl⟩ := List.mem_map.mp registered
    exact Name.Request.granted_granted (identifiers c (Behavior.mem_of_mem_distinct kept)) _
  storages := by
    intro s registered
    obtain ⟨t, kept, rfl⟩ := List.mem_map.mp registered
    exact Name.Request.granted_granted (storages t kept) _

theorem Model.named_of_load {files : FileSystem} {path : String} {m : Model}
    (loads : Model.load files path = .ok m) : m.Named := by
  obtain ⟨definitions, fresh, rfl⟩ := Model.fresh_of_load loads
  refine Model.named_ofDefinitions _ _ (fun b defined => ?_) (fun s defined => ?_)
  · rw [fresh.behaviors b defined]
    exact .asked b.type
  · rw [fresh.services s defined]
    exact .asked s.implementation

end RouteWeaver
