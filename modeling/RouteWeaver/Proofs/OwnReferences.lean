import RouteWeaver.Proofs.CutTexts
import RouteWeaver.Proofs.NameCharacters
import RouteWeaver.Proofs.RouteBodies

namespace RouteWeaver

open Text

namespace Text

def Rerooted (path path' : List Char) : Prop :=
  ∃ m n rest, path = marks m ++ rest ∧ path' = marks n ++ rest

theorem rerooted_iff {path path' : List Char} :
    Rerooted path path' ↔ dropLeadingMarks path = dropLeadingMarks path' := by
  constructor
  · rintro ⟨m, n, rest, rfl, rfl⟩
    rw [dropLeadingMarks_marks_append, dropLeadingMarks_marks_append]
  · intro same
    obtain ⟨m, split⟩ := exists_dropLeadingMarks path
    obtain ⟨n, split'⟩ := exists_dropLeadingMarks path'
    exact ⟨m, n, dropLeadingMarks path', by rw [← same, ← split], split'⟩

theorem trimEnd_marks (n : Nat) : trimEnd (marks n) = marks n := by
  induction n with
  | zero => rfl
  | succ n ih =>
    have separator : trimEnd [':', ':'] = [':', ':'] := by decide
    have split : marks (n + 1) = [':', ':'] ++ marks n := marks_succ n
    rw [split, trimEnd_append separator, ih]

theorem trim_marks_append {rest : List Char} (n : Nat) (tidy : trimEnd rest = rest) :
    trim (marks (n + 1) ++ rest) = marks (n + 1) ++ rest := by
  have front : trimStart (marks (n + 1) ++ rest) = marks (n + 1) ++ rest := by
    rw [marks_succ]
    exact List.dropWhile_cons_of_neg (by decide)
  rw [trim, front, trimEnd_append (trimEnd_marks (n + 1)), tidy]

theorem trimEnd_dropLeadingMarks {path : List Char} (tidy : trimEnd path = path) :
    trimEnd (dropLeadingMarks path) = dropLeadingMarks path := by
  obtain ⟨n, split⟩ := exists_dropLeadingMarks path
  rw [split, trimEnd_append (trimEnd_marks n), List.append_cancel_left_eq] at tidy
  exact tidy

/-- Trimming does no more than to drop separators only where it does nothing. -/
theorem trim_eq_self_of_dropLeadingMarks {path : List Char}
    (same : dropLeadingMarks (trim path) = dropLeadingMarks path) : trim path = path := by
  have tidy : trimEnd (dropLeadingMarks path) = dropLeadingMarks path := by
    rw [← same]
    exact trimEnd_dropLeadingMarks (trimEnd_trimEnd _)
  obtain ⟨m, split⟩ := exists_dropLeadingMarks path
  cases m with
  | zero =>
    obtain ⟨n, split'⟩ := exists_dropLeadingMarks (trim path)
    have whole : path = dropLeadingMarks path := split
    have longer : trim path = marks n ++ path := by rw [split', same, ← whole]
    have shorter := length_trim_le path
    have none : marks n = [] := by
      apply List.eq_nil_of_length_eq_zero
      have total := congrArg List.length longer
      rw [List.length_append] at total
      omega
    rw [longer, none, List.nil_append]
  | succ m =>
    have kept := trim_marks_append m tidy
    rwa [← split] at kept

end Text

namespace Behavior

variable {b : Behavior}

theorem answersTo_iff {r : String} :
    b.answersTo r ↔ trimmed r = b.name ∨ trimmed r = b.identifier ∨
      Rerooted (trimmed r).toList b.type.toList := by
  simp [answersTo, rootless, rerooted_iff, or_assoc]

/-- The references that the names of a behavior make up: the names as they stand, and the trimmed
type with other separators in front and any blanks around it. -/
inductive OwnReference (b : Behavior) : String → Prop
  | name : OwnReference b b.name
  | identifier : OwnReference b b.identifier
  | type : OwnReference b b.type
  | path {before path after} (front : ∀ c ∈ before, isBlank c) (back : ∀ c ∈ after, isBlank c)
      (same : Rerooted path (trim b.type.toList)) :
      OwnReference b (String.ofList (before ++ (path ++ after)))

theorem OwnReference.unpadded {path : List Char} (same : Rerooted path (trim b.type.toList)) :
    b.OwnReference (String.ofList path) := by
  have padded := @OwnReference.path b [] path [] (by simp) (by simp) same
  rwa [List.nil_append, List.append_nil] at padded

/-- No blanks stand where a reference cannot have them: around the type, behind the separators that
the type starts with, and around the display name. A text that loses blanks there is a reference
all the same when it then is another name of the behavior. -/
structure Referable (b : Behavior) : Prop where
  type : trimmed b.type = b.type
  path : trim (rootless b.type) = rootless b.type ∨ trim (rootless b.type) = b.name.toList ∨
    trim (rootless b.type) = b.identifier.toList
  name : trimmed b.name = b.name ∨ trimmed b.name = b.identifier ∨
    Rerooted (trimmed b.name).toList b.type.toList

theorem trimmed_type_of_answers (answers : ∀ r, b.OwnReference r → b.answersTo r) :
    trimmed b.type = b.type := by
  -- A path of the type that is longer than both names is left to the type to answer to.
  let n := b.name.toList.length + b.identifier.toList.length
  let path := marks (n + 1) ++ dropLeadingMarks (trim b.type.toList)
  have tidy : trim path = path :=
    trim_marks_append n (trimEnd_dropLeadingMarks (trimEnd_trimEnd _))
  have long : n < path.length := by
    have enough : (marks (n + 1)).length = 2 * (n + 1) := by
      simp [marks, mul_comm]
    simp only [path, List.length_append]
    omega
  have own : b.OwnReference (String.ofList path) := by
    apply OwnReference.unpadded
    rw [rerooted_iff, dropLeadingMarks_marks_append, dropLeadingMarks_dropLeadingMarks]
  have shown : trimmed (String.ofList path) = String.ofList path := by
    rw [trimmed, String.toList_ofList, tidy]
  rcases answersTo_iff.mp (answers _ own) with name | identifier | type
  · have size : path.length = b.name.toList.length := by
      rw [← name, shown, String.toList_ofList]
    omega
  · have size : path.length = b.identifier.toList.length := by
      rw [← identifier, shown, String.toList_ofList]
    omega
  · rw [shown, String.toList_ofList, rerooted_iff, dropLeadingMarks_marks_append,
      dropLeadingMarks_dropLeadingMarks] at type
    rw [trimmed, trim_eq_self_of_dropLeadingMarks type, String.ofList_toList]

theorem trim_type_of_trimmed (tidy : trimmed b.type = b.type) :
    trim b.type.toList = b.type.toList := by
  rw [← toList_trimmed, tidy]

theorem referable_of_answers (answers : ∀ r, b.OwnReference r → b.answersTo r) : b.Referable where
  type := trimmed_type_of_answers answers
  path := by
    have tidy := trim_type_of_trimmed (trimmed_type_of_answers answers)
    have own : b.OwnReference (String.ofList (rootless b.type)) := by
      apply OwnReference.unpadded
      rw [rerooted_iff, tidy, rootless, dropLeadingMarks_dropLeadingMarks]
    have shown : (trimmed (String.ofList (rootless b.type))).toList = trim (rootless b.type) := by
      rw [toList_trimmed, String.toList_ofList]
    rw [← shown]
    rcases answersTo_iff.mp (answers _ own) with name | identifier | type
    · exact .inr (.inl (congrArg String.toList name))
    · exact .inr (.inr (congrArg String.toList identifier))
    · refine .inl ?_
      rw [shown, rerooted_iff] at type
      rw [shown]
      apply trim_eq_self_of_dropLeadingMarks
      rw [type, rootless, dropLeadingMarks_dropLeadingMarks]
  name := answersTo_iff.mp (answers _ .name)

theorem Referable.answersTo_path (referable : b.Referable) {before path after : List Char}
    (front : ∀ c ∈ before, isBlank c) (back : ∀ c ∈ after, isBlank c)
    (same : Rerooted path (trim b.type.toList)) :
    b.answersTo (String.ofList (before ++ (path ++ after))) := by
  have tidy := trim_type_of_trimmed referable.type
  have shown : trimmed (String.ofList (before ++ (path ++ after))) = String.ofList (trim path) := by
    rw [trimmed, String.toList_ofList, trim_padded front back]
  have root : dropLeadingMarks path = rootless b.type := by
    rw [rerooted_iff.mp same, tidy, rootless]
  have typed (kept : trim path = path) :
      Rerooted (String.ofList (trim path)).toList b.type.toList := by
    rw [kept, String.toList_ofList, ← tidy]
    exact same
  rw [answersTo_iff, shown]
  obtain ⟨n, split⟩ := exists_dropLeadingMarks path
  cases n with
  | zero =>
    have whole : path = rootless b.type := by rw [← root]; exact split
    rcases referable.path with kept | name | identifier
    · exact .inr (.inr (typed (by rw [whole, kept])))
    · exact .inl (by rw [whole, name, String.ofList_toList])
    · exact .inr (.inl (by rw [whole, identifier, String.ofList_toList]))
  | succ n =>
    refine .inr (.inr (typed ?_))
    have ends : trimEnd (dropLeadingMarks path) = dropLeadingMarks path := by
      rw [root, rootless]
      exact trimEnd_dropLeadingMarks (by rw [← tidy]; exact trimEnd_trimEnd _)
    have kept := trim_marks_append n ends
    rwa [← split] at kept

theorem trimmed_of_granted {name : String} (granted : Name.Granted name) : trimmed name = name := by
  have visible : ∀ c ∈ name.toList, ¬ isBlank c := by
    have each : ∀ n < 128, Name.isNameChar (Char.ofNat n) → ¬ isBlank (Char.ofNat n) := by decide
    intro c member
    have legal := granted.isNameChar c member
    exact forall_ascii (P := fun c => Name.isNameChar c → ¬ isBlank c) each
      (Name.isNameChar_ascii legal) legal
  rw [trimmed, trim_of_forall_not_isBlank visible, String.ofList_toList]

theorem answersTo_identifier (granted : Name.Granted b.identifier) :
    b.answersTo b.identifier := by
  rw [answersTo_iff, trimmed_of_granted granted]
  exact .inr (.inl rfl)

theorem Referable.answersTo (referable : b.Referable) (granted : Name.Granted b.identifier)
    {r : String} (own : b.OwnReference r) : b.answersTo r := by
  cases own with
  | name => exact answersTo_iff.mpr referable.name
  | identifier => exact answersTo_identifier granted
  | type =>
    rw [answersTo_iff, referable.type]
    exact .inr (.inr (rerooted_iff.mpr rfl))
  | path front back same => exact referable.answersTo_path front back same

end Behavior

/-- The behavior answers to its own references, and is active where a route lists one of them. -/
def Model.Recognizes (m : Model) (b : Behavior) : Prop :=
  ∀ r, b.OwnReference r → b.answersTo r ∧ ∀ route references, route.behaviors = some references →
    r ∈ references → b ∈ m.behaviorsFor route

/-- A registered behavior answers to its identifier. It answers to all its own references just when
its type and its display name have no blanks where they are in the way. -/
theorem own_references_recognized_iff {m : Model} (named : m.Named) {b : Behavior}
    (registered : b ∈ m.behaviors) :
    b.answersTo b.identifier ∧ (m.Recognizes b ↔ b.Referable) := by
  have granted := named.identifiers b registered
  refine ⟨Behavior.answersTo_identifier granted, ?_⟩
  constructor
  · intro recognizes
    exact Behavior.referable_of_answers fun r own => (recognizes r own).1
  · intro referable r own
    have answers := referable.answersTo granted own
    refine ⟨answers, ?_⟩
    intro route references lists listed
    exact (Model.mem_behaviorsFor_iff lists b).mpr ⟨registered, r, listed, answers⟩

theorem own_references_recognized_iff_logging :
    let b : Behavior := { Behavior.ofType "::app::Logging" with name := "Request log" }
    let m := Model.ofDefinitions {} [b] [] []
    m.Named ∧ b ∈ m.behaviors ∧ b.Referable ∧ m.Recognizes b ∧
      b ∈ m.behaviorsFor { pattern := "deploy", behaviors := some ["Audit", "Request log"] } := by
  intro b m
  have named : m.Named := by
    refine Model.named_ofDefinitions {} [] ?_ (by simp)
    simp [b, Behavior.ofType, Name.Granted.asked]
  have registered : b ∈ m.behaviors := by decide +kernel
  have referable : b.Referable := ⟨by decide, .inl (by decide), .inl (by decide)⟩
  obtain ⟨-, iff⟩ := own_references_recognized_iff named registered
  have recognizes := iff.mpr referable
  exact ⟨named, registered, referable, recognizes, (recognizes _ .name).2 _ _ rfl (by simp [b])⟩

/-- The first behavior has a blank behind its type, the second one behind its display name. -/
theorem blank_keeps_reference_out :
    let logging := Behavior.ofType "app::Logging "
    let timing : Behavior := { Behavior.ofType "app::Timing" with name := "Timing " }
    let m := Model.ofDefinitions {} [logging, timing] [] []
    m.Named ∧ m.behaviors = [logging, timing] ∧
    (logging.OwnReference "app::Logging " ∧ ¬ logging.answersTo "app::Logging ") ∧
    (timing.OwnReference "Timing " ∧ ¬ timing.answersTo "Timing ") ∧
    m.behaviorsFor { pattern := "deploy", behaviors := some ["app::Logging ", "Timing "] } = [] := by
  intro logging timing m
  have named : m.Named := by
    refine Model.named_ofDefinitions {} [] ?_ (by simp)
    simp [logging, timing, Behavior.ofType, Name.Granted.asked]
  exact ⟨named, by decide +kernel, ⟨.type, by decide +kernel⟩, ⟨.name, by decide +kernel⟩,
    by decide +kernel⟩

end RouteWeaver
