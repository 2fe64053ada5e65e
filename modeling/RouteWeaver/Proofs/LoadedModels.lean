import RouteWeaver.Model.Source

namespace RouteWeaver

theorem bind_eq_ok {ε α β : Type} {x : Except ε α} {f : α → Except ε β} {b : β} :
    x >>= f = .ok b ↔ ∃ a, x = .ok a ∧ f a = .ok b := by
  cases x with
  | error e => simp [bind, Except.bind]
  | ok a => simp [bind, Except.bind]

theorem map_eq_ok {ε α β : Type} {x : Except ε α} {f : α → β} {b : β} :
    f <$> x = .ok b ↔ ∃ a, x = .ok a ∧ f a = b := by
  cases x with
  | error e => simp [Functor.map, Except.map]
  | ok a => simp [Functor.map, Except.map]

namespace Reader

theorem refuse_ne_ok {α : Type} {place : Place} {d : Datum} {wanted : String} {a : α} :
    refuse place d wanted ≠ .ok a := by
  rw [refuse]
  split <;> simp [mismatch]

variable {α : Type} {read : Place → Datum → Except Problem α} {P : α → Prop}

theorem forall_of_items (each : ∀ place d a, read place d = .ok a → P a) {place : Place}
    {closed : Bool} {i : Nat} {ds : List Datum} {as : List α}
    (done : items read place closed i ds = .ok as) : ∀ a ∈ as, P a := by
  induction ds generalizing i as with
  | nil =>
    rw [items] at done
    split at done
    · cases done
      exact fun a member => absurd member List.not_mem_nil
    · cases done
  | cons d ds ih =>
    rw [items] at done
    obtain ⟨a, first, done⟩ := bind_eq_ok.mp done
    obtain ⟨others, rest, done⟩ := bind_eq_ok.mp done
    cases done
    exact List.forall_mem_cons.mpr ⟨each _ _ _ first, ih rest⟩

theorem forall_of_list (each : ∀ place d a, read place d = .ok a → P a) {place : Place} {d : Datum}
    {as : List α} (done : list read place d = .ok as) : ∀ a ∈ as, P a := by
  rw [list] at done
  split at done
  · exact forall_of_items each done
  · split at done
    · cases done
      exact fun a member => absurd member List.not_mem_nil
    · exact absurd done refuse_ne_ok
  · exact absurd done refuse_ne_ok

end Reader

namespace Shape

variable {α : Type} {shape : Shape α} {P : α → Prop}

/-- What holds of the record without fields, and what every field keeps. -/
structure Keeps (shape : Shape α) (P : α → Prop) : Prop where
  start : P shape.start
  put : ∀ name outer place d r r', P r → shape.put name outer place d r = .ok r' → P r'

theorem Keeps.entries (keeps : shape.Keeps P) {place : Place} {closed : Bool}
    {seen seen' : List String} {r r' : α} {es : List (Datum × Datum)} (before : P r)
    (done : shape.entries place closed seen r es = .ok (seen', r')) : P r' := by
  induction es generalizing seen r with
  | nil =>
    rw [Shape.entries] at done
    split at done
    · cases done
      exact before
    · cases done
  | cons e es ih =>
    obtain ⟨key, value⟩ := e
    rw [Shape.entries] at done
    obtain ⟨field, named, done⟩ := bind_eq_ok.mp done
    split at done
    · split at done
      · cases done
      · obtain ⟨record, put, done⟩ := bind_eq_ok.mp done
        exact ih (keeps.put _ _ _ _ _ _ before put) done
    · split at done
      · cases done
      · obtain ⟨_, skipped, done⟩ := bind_eq_ok.mp done
        exact ih before done

theorem Keeps.positions (keeps : shape.Keeps P) {form : Form} {place : Place} {closed : Bool}
    {total i : Nat} {r r' : α} {names : List String} {ds : List Datum} (before : P r)
    (done : shape.positions form place closed total i r names ds = .ok r') : P r' := by
  induction ds generalizing i r names with
  | nil =>
    cases names with
    | nil =>
      rw [Shape.positions] at done
      split at done
      · cases done
        exact before
      · cases done
    | cons name names =>
      rw [Shape.positions] at done
      split at done
      · cases done
      · split at done
        · cases done
        · cases done
          exact before
  | cons d ds ih =>
    cases names with
    | nil =>
      rw [Shape.positions] at done
      split at done <;> cases done
    | cons name names =>
      rw [Shape.positions] at done
      obtain ⟨record, put, done⟩ := bind_eq_ok.mp done
      exact ih (keeps.put _ _ _ _ _ _ before put) done

theorem Keeps.ofEntries (keeps : shape.Keeps P) {place : Place} {closed : Bool}
    {es : List (Datum × Datum)} {r : α} (done : shape.ofEntries place closed es = .ok r) :
    P r := by
  rw [Shape.ofEntries] at done
  obtain ⟨⟨seen, record⟩, read, done⟩ := bind_eq_ok.mp done
  have kept : P record := keeps.entries keeps.start read
  cases missing : shape.required.find? (· ∉ seen) with
  | some name =>
    simp only [missing] at done
    cases done
  | none =>
    simp only [missing] at done
    cases done
    exact kept

theorem Keeps.read (keeps : shape.Keeps P) {form : Form} {place : Place} {d : Datum} {r : α}
    (done : shape.read form place d = .ok r) : P r := by
  rw [Shape.read] at done
  split at done
  · exact keeps.ofEntries done
  · split at done
    · exact keeps.positions keeps.start done
    · exact absurd done Reader.refuse_ne_ok
  · split at done
    · exact keeps.ofEntries done
    · exact absurd done Reader.refuse_ne_ok
  · exact absurd done Reader.refuse_ne_ok

end Shape

namespace Schema

variable {form : Form}

theorem fresh_of_behavior {place : Place} {d : Datum} {b : Behavior}
    (done : behavior form place d = .ok b) : b.Fresh := by
  obtain ⟨f, -, rfl⟩ := map_eq_ok.mp done
  rfl

theorem fresh_of_service {place : Place} {d : Datum} {s : Service}
    (done : service form place d = .ok s) : s.Fresh := by
  obtain ⟨f, -, rfl⟩ := map_eq_ok.mp done
  rfl

/-- The definitions of a model are fresh. -/
structure ModelFields.Fresh (f : ModelFields) : Prop where
  behaviors : ∀ b ∈ f.behaviors, b.Fresh
  services : ∀ s ∈ f.services, s.Fresh

theorem keeps_fresh (form : Form) : (modelShape form).Keeps ModelFields.Fresh where
  start := ⟨fun _ member => absurd member List.not_mem_nil,
    fun _ member => absurd member List.not_mem_nil⟩
  put := by
    intro name outer place d f f' fresh done
    simp only [modelShape] at done
    split at done
    · obtain ⟨config, -, rfl⟩ := map_eq_ok.mp done
      exact ⟨fresh.behaviors, fresh.services⟩
    · obtain ⟨behaviors, read, rfl⟩ := map_eq_ok.mp done
      exact ⟨Reader.forall_of_list (fun _ _ _ => fresh_of_behavior) read, fresh.services⟩
    · obtain ⟨services, read, rfl⟩ := map_eq_ok.mp done
      exact ⟨fresh.behaviors, Reader.forall_of_list (fun _ _ _ => fresh_of_service) read⟩
    · obtain ⟨routes, -, rfl⟩ := map_eq_ok.mp done
      exact ⟨fresh.behaviors, fresh.services⟩
    · cases done
      exact fresh

theorem fresh_of_modelFields {d : Document} {f : ModelFields}
    (done : modelFields form d = .ok f) : f.Fresh := by
  obtain ⟨f', read, done⟩ := bind_eq_ok.mp done
  split at done
  · cases done
    exact (keeps_fresh form).read read
  · cases done

end Schema

/-- Every model that is read from a file is made of fresh definitions. -/
theorem Model.fresh_of_load {files : FileSystem} {path : String} {m : Model}
    (loads : Model.load files path = .ok m) :
    ∃ definitions : Schema.ModelFields, definitions.Fresh ∧ definitions.model = m := by
  obtain ⟨source, -, loads⟩ := bind_eq_ok.mp loads
  obtain ⟨definitions, read, rfl⟩ := map_eq_ok.mp loads
  refine ⟨definitions, ?_, rfl⟩
  unfold Source.fields at read
  cases parsed : Schema.modelFields source.format.form (source.format.parse source.text) with
  | error problem =>
    rw [parsed] at read
    cases read
  | ok definitions' =>
    rw [parsed] at read
    cases read
    exact Schema.fresh_of_modelFields parsed

end RouteWeaver
