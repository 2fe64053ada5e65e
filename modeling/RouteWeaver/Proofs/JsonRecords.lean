import Mathlib.Data.List.Count
import RouteWeaver.Proofs.JsonDocuments
import RouteWeaver.Proofs.LoadedModels

/-!
Records in JSON values. A record is an object that has each of its fields at most once, the
required ones among them, with values that the fields admit; a strict one has no other members.
A shape that reads fields as they are described reads records and nothing else.
-/

namespace RouteWeaver

theorem exists_bind_ok {ε α β : Type} {x : Except ε α} {f : α → Except ε β} :
    (∃ b, x >>= f = .ok b) ↔ ∃ a, x = .ok a ∧ ∃ b, f a = .ok b := by
  simp only [bind_eq_ok]
  exact ⟨fun ⟨b, a, done, next⟩ => ⟨a, done, b, next⟩, fun ⟨a, done, b, next⟩ => ⟨b, a, done, next⟩⟩

theorem exists_map_ok {ε α β : Type} {x : Except ε α} {f : α → β} :
    (∃ b, f <$> x = .ok b) ↔ ∃ a, x = .ok a := by
  simp only [map_eq_ok]
  exact ⟨fun ⟨_, a, done, _⟩ => ⟨a, done⟩, fun ⟨a, done⟩ => ⟨_, a, done, rfl⟩⟩

theorem iff_of_refused {ε α : Type} {x : Except ε α} {e : ε} {p : Prop} (refused : x = .error e)
    (other : ¬ p) : (∃ a, x = .ok a) ↔ p := by
  refine iff_of_false ?_ other
  rintro ⟨a, done⟩
  rw [refused] at done
  cases done

theorem exists_mapError_ok {ε ε' α : Type} {x : Except ε α} {f : ε → ε'} :
    (∃ a, x.mapError f = .ok a) ↔ ∃ a, x = .ok a := by
  cases x with
  | error e => exact iff_of_refused rfl (by rintro ⟨_, ⟨⟩⟩)
  | ok a => exact iff_of_true ⟨a, rfl⟩ ⟨a, rfl⟩

namespace Json

namespace Number

/-- A number is read as a whole number of 64 bits or as a floating-point number. -/
theorem scalar_cases {n : Number} {s : Scalar} (value : n.scalar = some s) :
    (∃ i, s = .integer i) ∨ ∃ x, s = .floating x := by
  have floating (read : n.floating = some s) : ∃ x, s = .floating x := by
    rw [Number.floating] at read
    obtain ⟨x, -, rfl⟩ := Option.map_eq_some_iff.mp read
    exact ⟨_, rfl⟩
  rw [scalar] at value
  split at value
  · split at value
    · split at value
      · exact .inl ⟨_, (Option.some.inj value).symm⟩
      · split at value
        · exact .inl ⟨_, (Option.some.inj value).symm⟩
        · exact .inr (floating value)
    · exact .inr (floating value)

end Number

namespace Value

mutual

theorem settled_within : ∀ (v : Value) (room : Nat), (v.within room).settled = v.within room
  | null, _ => rfl
  | boolean _, _ => rfl
  | number n, _ => by
    rw [within, datum]
    split <;> rfl
  | string _, _ => rfl
  | array vs, 0 => by rw [within_array_zero, Datum.settled]
  | array vs, room + 1 => by rw [within_array_succ, Datum.settled, settled_items vs room]
  | object ms, 0 => by rw [within_object_zero, Datum.settled]
  | object ms, room + 1 => by rw [within_object_succ, Datum.settled, settled_members ms room]

theorem settled_items : ∀ (vs : List Value) (room : Nat),
    Datum.settledItems (vs.map (within room)) = vs.map (within room)
  | [], _ => rfl
  | v :: vs, room => by
    rw [List.map_cons, Datum.settledItems, settled_within v, settled_items vs]

theorem settled_members : ∀ (ms : List (String × Value)) (room : Nat),
    Datum.settledEntries (entriesWithin room ms) = entriesWithin room ms
  | [], _ => rfl
  | (k, v) :: ms, room => by
    rw [entriesWithin_cons, Datum.settledEntries, settled_within v, settled_members ms room]
    rfl

end

theorem settled_datum (v : Value) : v.datum.settled = v.datum := by
  have same := settled_within v v.depth
  rwa [within_eq_datum (Nat.le_refl _)] at same

theorem unit_bind_eq_ok {ε : Type} {x y : Except ε Unit} :
    (x >>= fun _ => y) = .ok () ↔ x = .ok () ∧ y = .ok () := by
  rw [bind_eq_ok]
  exact ⟨fun ⟨_, done, later⟩ => ⟨done, later⟩, fun ⟨done, later⟩ => ⟨(), done, later⟩⟩

theorem readable_array_iff (vs : List Value) : (array vs).Readable ↔ ∀ v ∈ vs, v.Readable := by
  rw [Readable, numbers]
  induction vs with
  | nil => exact iff_of_true nofun nofun
  | cons v vs ih => rw [itemsNumbers, List.forall_mem_append, List.forall_mem_cons, ih]; rfl

theorem readable_object_iff (ms : List (String × Value)) :
    (object ms).Readable ↔ ∀ m ∈ ms, m.2.Readable := by
  rw [Readable, numbers]
  induction ms with
  | nil => exact iff_of_true nofun nofun
  | cons m ms ih => rw [membersNumbers, List.forall_mem_append, List.forall_mem_cons, ih]; rfl

theorem membersDepth_le_iff {ms : List (String × Value)} {room : Nat} :
    membersDepth ms ≤ room ↔ ∀ m ∈ ms, m.2.depth ≤ room := by
  induction ms with
  | nil => exact iff_of_true (Nat.zero_le room) nofun
  | cons m ms ih => rw [List.forall_mem_cons, ← ih, membersDepth, Nat.max_le]

theorem itemsDepth_le_iff {vs : List Value} {room : Nat} :
    itemsDepth vs ≤ room ↔ ∀ v ∈ vs, v.depth ≤ room := by
  induction vs with
  | nil => exact iff_of_true (Nat.zero_le room) nofun
  | cons v vs ih => rw [List.forall_mem_cons, ← ih, itemsDepth, Nat.max_le]

def Keepable (room : Nat) (v : Value) : Prop :=
  v.Readable ∧ v.depth ≤ room

theorem keepable_array_iff (vs : List Value) (room : Nat) :
    Keepable (room + 1) (.array vs) ↔ ∀ v ∈ vs, Keepable room v := by
  rw [Keepable, readable_array_iff, depth, Nat.succ_le_succ_iff, itemsDepth_le_iff]
  exact forall₂_and.symm

theorem keepable_object_iff (ms : List (String × Value)) (room : Nat) :
    Keepable (room + 1) (.object ms) ↔ ∀ m ∈ ms, Keepable room m.2 := by
  rw [Keepable, readable_object_iff, depth, Nat.succ_le_succ_iff, membersDepth_le_iff]
  exact forall₂_and.symm

mutual

theorem keep_within_iff : ∀ (v : Value) (room : Nat) (place : Place),
    Reader.keep place (v.within room) = .ok () ↔ Keepable room v
  | null, _, _ => iff_of_true rfl ⟨nofun, Nat.zero_le _⟩
  | boolean _, _, _ => iff_of_true rfl ⟨nofun, Nat.zero_le _⟩
  | string _, _, _ => iff_of_true rfl ⟨nofun, Nat.zero_le _⟩
  | number n, room, place => by
    have bound : (number n).depth ≤ room := Nat.zero_le room
    rw [Keepable, and_iff_left bound, within, datum, Readable, numbers, List.forall_mem_singleton]
    cases value : n.scalar with
    | none => exact iff_of_false nofun nofun
    | some s =>
      refine iff_of_true ?_ rfl
      obtain ⟨i, rfl⟩ | ⟨x, rfl⟩ := Number.scalar_cases value <;> rfl
  | array vs, 0, place => by
    rw [within_array_zero]
    exact iff_of_false nofun fun kept => Nat.not_succ_le_zero _ kept.2
  | array vs, room + 1, place => by
    rw [within_array_succ, Reader.keep, keepItems_iff vs room place 0, keepable_array_iff]
  | object ms, 0, place => by
    rw [within_object_zero]
    exact iff_of_false nofun fun kept => Nat.not_succ_le_zero _ kept.2
  | object ms, room + 1, place => by
    rw [within_object_succ, Reader.keep, keepEntries_iff ms room place, keepable_object_iff]

theorem keepItems_iff : ∀ (vs : List Value) (room : Nat) (place : Place) (i : Nat),
    Reader.keepItems place true i (vs.map (within room)) = .ok () ↔ ∀ v ∈ vs, Keepable room v
  | [], _, _, _ => iff_of_true rfl nofun
  | v :: vs, room, place, i => by
    rw [List.map_cons, Reader.keepItems, unit_bind_eq_ok, keep_within_iff v,
      keepItems_iff vs room place (i + 1), List.forall_mem_cons]

theorem keepEntries_iff : ∀ (ms : List (String × Value)) (room : Nat) (place : Place),
    Reader.keepEntries place true (entriesWithin room ms) = .ok () ↔
      ∀ m ∈ ms, Keepable room m.2
  | [], _, _ => iff_of_true rfl nofun
  | (k, v) :: ms, room, place => by
    have name : Reader.keep place (keyDatum k) = .ok () := rfl
    rw [entriesWithin_cons, Reader.keepEntries, unit_bind_eq_ok, unit_bind_eq_ok,
      keep_within_iff v, keepEntries_iff ms room place, List.forall_mem_cons]
    exact and_iff_right name

end

def IsArray (v : Value) : Prop :=
  ∃ vs, v = .array vs

def IsText (v : Value) : Prop :=
  ∃ s, v = .string s

def IsFlag (v : Value) : Prop :=
  ∃ b, v = .boolean b

def IsCharacter (v : Value) : Prop :=
  ∃ s, v = .string s ∧ s.toList.length = 1

def IsOptional (P : Value → Prop) (v : Value) : Prop :=
  v = .null ∨ P v

def IsListOf (P : Value → Prop) (v : Value) : Prop :=
  ∃ vs, v = .array vs ∧ ∀ w ∈ vs, P w

/-- The reader succeeds for the values with the property. -/
def Reads {α : Type} (read : Place → Datum → Except Problem α) (P : Value → Prop) (v : Value) :
    Prop :=
  ∀ place, (∃ a, read place v.datum = .ok a) ↔ P v

variable {α : Type} {read : Place → Datum → Except Problem α} {P : Value → Prop}

theorem datum_number (n : Number) : (∃ i, (number n).datum = .scalar (.ofScalar (.integer i))) ∨
    (∃ x, (number n).datum = .scalar (.ofScalar (.floating x))) ∨
      (number n).datum = .unreadable true := by
  rw [datum]
  split
  · rename_i value
    obtain ⟨i, rfl⟩ | ⟨x, rfl⟩ := Number.scalar_cases value
    · exact .inl ⟨i, rfl⟩
    · exact .inr (.inl ⟨x, rfl⟩)
  · exact .inr (.inr rfl)

/-- A string is all that is read as a text, whatever the text is wanted for. -/
theorem textAs_within_iff {v : Value} {room : Nat} {wanted : String} {place : Place} {s : String} :
    Reader.textAs wanted place (v.within room) = .ok s ↔ v = .string s := by
  cases v with
  | string s' =>
    have read : Reader.textAs wanted place ((string s').within room) = .ok s' := rfl
    rw [read, Except.ok.injEq, Value.string.injEq]
  | number n =>
    rw [within_eq_datum (Nat.zero_le room)]
    rcases datum_number n with ⟨_, same⟩ | ⟨_, same⟩ | same <;> rw [same] <;>
      exact iff_of_false nofun nofun
  | array vs => cases room <;> exact iff_of_false nofun nofun
  | object ms => cases room <;> exact iff_of_false nofun nofun
  | _ => exact iff_of_false nofun nofun

theorem textAs_datum_iff {v : Value} {wanted : String} {place : Place} {s : String} :
    Reader.textAs wanted place v.datum = .ok s ↔ v = .string s := by
  rw [← within_eq_datum (Nat.le_refl v.depth), textAs_within_iff]

theorem reads_text (v : Value) : Reads Reader.text IsText v :=
  fun _ => exists_congr fun _ => textAs_datum_iff

theorem reads_flag (v : Value) : Reads Reader.flag IsFlag v := by
  intro place
  cases v with
  | boolean b => exact iff_of_true ⟨b, rfl⟩ ⟨b, rfl⟩
  | number n =>
    rcases datum_number n with ⟨_, same⟩ | ⟨_, same⟩ | same <;> rw [same] <;>
      exact iff_of_refused rfl (by rintro ⟨_, ⟨⟩⟩)
  | _ => exact iff_of_refused rfl (by rintro ⟨_, ⟨⟩⟩)

theorem reads_character (v : Value) : Reads Reader.character IsCharacter v := by
  intro place
  refine exists_bind_ok.trans (exists_congr fun s => and_congr textAs_datum_iff ?_)
  rw [List.length_eq_one_iff]
  refine exists_congr fun c => ⟨fun done => ?_, fun chars => by rw [chars]; rfl⟩
  split at done
  · rename_i c' chars
    cases done
    exact chars
  · cases done

theorem optional_datum {v : Value} (present : v ≠ .null) (outer place : Place) :
    Reader.optional read outer place v.datum = some <$> read place v.datum := by
  cases v with
  | null => exact absurd rfl present
  | number n => rcases datum_number n with ⟨_, same⟩ | ⟨_, same⟩ | same <;> rw [same] <;> rfl
  | _ => rfl

theorem Reads.optional {v : Value} (reads : Reads read P v) (outer place : Place) :
    (∃ a, Reader.optional read outer place v.datum = .ok a) ↔ IsOptional P v := by
  by_cases null : v = .null
  · subst null
    exact iff_of_true ⟨none, rfl⟩ (.inl rfl)
  · rw [optional_datum null, exists_map_ok, reads place, IsOptional, or_iff_right null]

theorem items_datums {vs : List Value} (reads : ∀ w ∈ vs, Reads read P w) (place : Place)
    (i : Nat) : (∃ as, Reader.items read place true i (datums vs) = .ok as) ↔ ∀ w ∈ vs, P w := by
  induction vs generalizing i with
  | nil => exact iff_of_true ⟨[], rfl⟩ nofun
  | cons v vs ih =>
    obtain ⟨first, others⟩ := List.forall_mem_cons.mp reads
    rw [List.forall_mem_cons, ← first (.item place i), ← ih others (i + 1), datums, Reader.items,
      exists_bind_ok]
    constructor
    · rintro ⟨a, done, all⟩
      obtain ⟨as, rest, -⟩ := exists_bind_ok.mp all
      exact ⟨⟨a, done⟩, as, rest⟩
    · rintro ⟨⟨a, done⟩, as, rest⟩
      exact ⟨a, done, exists_bind_ok.mpr ⟨as, rest, _, rfl⟩⟩

theorem Reads.list {v : Value} (reads : ∀ vs, v = .array vs → ∀ w ∈ vs, Reads read P w) :
    Reads (Reader.list read) (IsListOf P) v := by
  intro place
  cases v with
  | array vs =>
    refine (items_datums (reads vs rfl) place 0).trans ⟨fun each => ⟨vs, rfl, each⟩, ?_⟩
    rintro ⟨_, ⟨⟩, each⟩
    exact each
  | number n =>
    rcases datum_number n with ⟨_, same⟩ | ⟨_, same⟩ | same <;> rw [same] <;>
      exact iff_of_refused rfl (by rintro ⟨_, ⟨⟩, -⟩)
  | _ => exact iff_of_refused rfl (by rintro ⟨_, ⟨⟩, -⟩)

end Value

structure Field where
  name : String
  required : Bool := false
  /-- The values that the field may have. -/
  admits : Value → Prop
  /-- No record in the value is written as an array. -/
  plain : Value → Prop := fun _ => True

/-- The members make a record. A strict record has no other members than its fields. -/
structure Fits (strict : Bool) (fields : List Field) (ms : List (String × Value)) : Prop where
  known : strict → ∀ m ∈ ms, m.1 ∈ fields.map Field.name
  once : ∀ f ∈ fields, (ms.map Prod.fst).count f.name ≤ 1
  complete : ∀ f ∈ fields, f.required → f.name ∈ ms.map Prod.fst
  admitted : ∀ m ∈ ms, ∀ f ∈ fields, f.name = m.1 → f.admits m.2

def Value.IsRecord (strict : Bool) (fields : List Field) (v : Value) : Prop :=
  ∃ ms, v = .object ms ∧ Fits strict fields ms

def Value.IsPlain (fields : List Field) (v : Value) : Prop :=
  ¬ v.IsArray ∧ ∀ ms, v = .object ms → ∀ m ∈ ms, ∀ f ∈ fields, f.name = m.1 → f.plain m.2

def Value.HasPlainItems (plain : Value → Prop) (v : Value) : Prop :=
  ∀ vs, v = .array vs → ∀ w ∈ vs, plain w

/-- Behind the fields in `seen`, the members may stand in a record. -/
structure GoesOn (strict : Bool) (fields : List Field) (seen : List String)
    (ms : List (String × Value)) : Prop where
  known : strict → ∀ m ∈ ms, m.1 ∈ fields.map Field.name
  once : ∀ f ∈ fields, (ms.map Prod.fst).count f.name ≤ 1
  fresh : ∀ f ∈ fields, f.name ∈ seen → f.name ∉ ms.map Prod.fst
  admitted : ∀ m ∈ ms, ∀ f ∈ fields, f.name = m.1 → f.admits m.2

variable {strict : Bool} {fields : List Field} {seen : List String} {k : String} {v : Value}
  {ms : List (String × Value)}

theorem goesOn_cons_iff (known : k ∈ fields.map Field.name) :
    GoesOn strict fields seen ((k, v) :: ms) ↔
      k ∉ seen ∧ (∀ f ∈ fields, f.name = k → f.admits v) ∧
        GoesOn strict fields (k :: seen) ms := by
  obtain ⟨f, listed, rfl⟩ := List.mem_map.mp known
  constructor
  · rintro ⟨all, once, fresh, admitted⟩
    obtain ⟨first, admitted⟩ := List.forall_mem_cons.mp admitted
    have single : f.name ∉ ms.map Prod.fst := by
      have count := once f listed
      rw [List.map_cons, List.count_cons_self, Nat.succ_le_succ_iff, Nat.le_zero] at count
      exact List.count_eq_zero.mp count
    refine ⟨fun old => fresh f listed old List.mem_cons_self, first,
      fun s => (List.forall_mem_cons.mp (all s)).2, ?_, ?_, admitted⟩
    · exact fun g member => (List.count_le_count_cons ..).trans (once g member)
    · intro g member old later
      rcases List.mem_cons.mp old with same | old
      · exact single (same ▸ later)
      · exact fresh g member old (List.mem_cons_of_mem _ later)
  · rintro ⟨unseen, first, all, once, fresh, admitted⟩
    have single : f.name ∉ ms.map Prod.fst := fresh f listed List.mem_cons_self
    refine ⟨fun s => List.forall_mem_cons.mpr ⟨known, all s⟩, ?_, ?_,
      List.forall_mem_cons.mpr ⟨first, admitted⟩⟩
    · intro g member
      rw [List.map_cons]
      by_cases same : g.name = f.name
      · rw [same, List.count_cons_self, List.count_eq_zero.mpr single]
      · rw [List.count_cons_of_ne (Ne.symm same)]
        exact once g member
    · intro g member old later
      rcases List.mem_cons.mp later with same | later
      · have name : g.name = f.name := same
        exact unseen (name ▸ old)
      · exact fresh g member (List.mem_cons_of_mem _ old) later

theorem goesOn_cons_iff_of_unknown (unknown : k ∉ fields.map Field.name) :
    GoesOn strict fields seen ((k, v) :: ms) ↔ strict = false ∧ GoesOn strict fields seen ms := by
  have differs : ∀ f ∈ fields, k ≠ f.name := fun f listed same =>
    unknown (List.mem_map.mpr ⟨f, listed, same.symm⟩)
  constructor
  · rintro ⟨all, once, fresh, admitted⟩
    have lax : strict = false := by
      cases strict with
      | false => rfl
      | true => exact absurd (all rfl _ List.mem_cons_self) unknown
    refine ⟨lax, fun s => (List.forall_mem_cons.mp (all s)).2, ?_, ?_,
      (List.forall_mem_cons.mp admitted).2⟩
    · exact fun f listed => (List.count_le_count_cons ..).trans (once f listed)
    · exact fun f listed old later => fresh f listed old (List.mem_cons_of_mem _ later)
  · rintro ⟨rfl, -, once, fresh, admitted⟩
    refine ⟨nofun, fun f listed => ?_, fun f listed old later => ?_,
      List.forall_mem_cons.mpr ⟨fun f listed same => absurd same.symm (differs f listed), admitted⟩⟩
    · rw [List.map_cons, List.count_cons_of_ne (differs f listed)]
      exact once f listed
    · exact fresh f listed old ((List.mem_cons.mp later).resolve_left (Ne.symm (differs f listed)))

end Json

/-- A shape reads the fields as they are described. Records that are read so far have `P`. -/
structure Shape.Implements {α : Type} (shape : Shape α) (strict : Bool) (fields : List Json.Field)
    (P : α → Prop) : Prop where
  names : shape.fields = fields.map Json.Field.name
  required : shape.required = (fields.filter (·.required)).map Json.Field.name
  strict : shape.strict = strict
  keeps : shape.Keeps P
  put : ∀ f ∈ fields, ∀ v, v.Readable → f.plain v → ∀ outer place r, P r →
    ((∃ r', shape.put f.name outer place v.datum r = .ok r') ↔ f.admits v)

namespace Shape

open Json

variable {α : Type} {shape : Shape α} {strict : Bool} {fields : List Field} {P : α → Prop}
  {seen seen' : List String} {r r' : α} {k : String} {v : Value} {ms : List (String × Value)}

theorem keeps_true (shape : Shape α) : shape.Keeps fun _ => True :=
  ⟨trivial, fun _ _ _ _ _ _ _ _ => trivial⟩

theorem entries_cons_of_mem (known : k ∈ shape.fields) (d : Datum) (es : List (Datum × Datum))
    (place : Place) :
    shape.entries place true seen r ((Value.keyDatum k, d) :: es) =
      if k ∈ seen then Reader.mismatch place (.duplicateField k)
      else shape.put k place (.field place k) d r >>= fun r' =>
        shape.entries place true (k :: seen) r' es := by
  have named : shape.field? place (Value.keyDatum k) =
      .ok (if k ∈ shape.fields then some k else none, k) := rfl
  rw [Shape.entries, named, if_pos known]
  rfl

theorem entries_cons_of_not_mem (unknown : k ∉ shape.fields) {d : Datum} (whole : d.whole = true)
    (es : List (Datum × Datum)) (place : Place) :
    shape.entries place true seen r ((Value.keyDatum k, d) :: es) =
      if shape.strict then Reader.mismatch place (.unknownField k shape.fields)
      else shape.entries place true seen r es := by
  have named : shape.field? place (Value.keyDatum k) =
      .ok (if k ∈ shape.fields then some k else none, k) := rfl
  have skips : Reader.skip d = .ok () := by rw [Reader.skip, whole, if_pos rfl]
  rw [Shape.entries, named, if_neg unknown, skips]
  rfl

theorem mem_seen_of_entries {place : Place}
    (done : shape.entries place true seen r (Value.entries ms) = .ok (seen', r')) (n : String)
    (known : n ∈ shape.fields) : n ∈ seen' ↔ n ∈ seen ∨ n ∈ ms.map Prod.fst := by
  induction ms generalizing seen r with
  | nil =>
    cases done
    simp
  | cons m ms ih =>
    obtain ⟨k, v⟩ := m
    by_cases field : k ∈ shape.fields
    · rw [Value.entries_cons, entries_cons_of_mem field] at done
      split at done
      · cases done
      · obtain ⟨_, -, done⟩ := bind_eq_ok.mp done
        rw [ih done, List.map_cons, List.mem_cons, List.mem_cons, or_assoc, or_left_comm]
    · rw [Value.entries_cons, entries_cons_of_not_mem field v.whole_datum] at done
      split at done
      · cases done
      · have differs : n ≠ k := fun same => field (same ▸ known)
        rw [ih done, List.map_cons, List.mem_cons, or_iff_right differs]

namespace Implements

theorem entries_iff (imp : shape.Implements strict fields P) (readable : ∀ m ∈ ms, m.2.Readable)
    (plain : ∀ m ∈ ms, ∀ f ∈ fields, f.name = m.1 → f.plain m.2) (place : Place)
    (before : P r) :
    (∃ out, shape.entries place true seen r (Value.entries ms) = .ok out) ↔
      GoesOn strict fields seen ms := by
  -- Of the record so far only `P` matters, whatever the members before have put into it.
  induction ms generalizing seen r with
  | nil =>
    exact iff_of_true ⟨_, rfl⟩
      ⟨fun _ => nofun, fun _ _ => Nat.zero_le 1, fun _ _ _ => nofun, nofun⟩
  | cons m ms ih =>
    obtain ⟨k, v⟩ := m
    obtain ⟨first, readable⟩ := List.forall_mem_cons.mp readable
    obtain ⟨plain', plain⟩ := List.forall_mem_cons.mp plain
    by_cases known : k ∈ shape.fields
    · have put : (∃ r', shape.put k place (.field place k) v.datum r = .ok r') ↔
          ∀ f ∈ fields, f.name = k → f.admits v := by
        obtain ⟨f, listed, rfl⟩ := List.mem_map.mp (imp.names ▸ known)
        constructor
        · rintro done g listed' same
          rw [← same] at done
          exact (imp.put g listed' v first (plain' g listed' same) _ _ r before).mp done
        · intro admitted
          exact (imp.put f listed v first (plain' f listed rfl) _ _ r before).mpr
            (admitted f listed rfl)
      rw [Value.entries_cons, entries_cons_of_mem known, goesOn_cons_iff (imp.names ▸ known), ← put]
      split
      · rename_i old
        exact iff_of_refused rfl fun goes => goes.1 old
      · rename_i unseen
        rw [exists_bind_ok]
        constructor
        · rintro ⟨r', done, rest⟩
          exact ⟨unseen, ⟨r', done⟩,
            (ih readable plain (imp.keeps.put _ _ _ _ _ _ before done)).mp rest⟩
        · rintro ⟨-, ⟨r', done⟩, goes⟩
          exact ⟨r', done, (ih readable plain (imp.keeps.put _ _ _ _ _ _ before done)).mpr goes⟩
    · rw [Value.entries_cons, entries_cons_of_not_mem known v.whole_datum,
        goesOn_cons_iff_of_unknown (imp.names ▸ known), ← ih readable plain before, ← imp.strict]
      cases shape.strict with
      | true => exact iff_of_refused rfl fun goes => Bool.noConfusion goes.1
      | false => simp

theorem ofEntries_iff (imp : shape.Implements strict fields P)
    (readable : ∀ m ∈ ms, m.2.Readable)
    (plain : ∀ m ∈ ms, ∀ f ∈ fields, f.name = m.1 → f.plain m.2) (place : Place) :
    (∃ r, shape.ofEntries place true (Value.entries ms) = .ok r) ↔ Fits strict fields ms := by
  have goes : (∃ out, shape.entries place true [] shape.start (Value.entries ms) = .ok out) ↔
      GoesOn strict fields [] ms := imp.entries_iff readable plain place imp.keeps.start
  have complete (seen : List String) : shape.required.find? (· ∉ seen) = none ↔
      ∀ f ∈ fields, f.required → f.name ∈ seen := by
    simp [imp.required]
  rw [Shape.ofEntries, exists_bind_ok]
  constructor
  · rintro ⟨⟨seen, r⟩, done, r', finished⟩
    have listed := mem_seen_of_entries done
    obtain ⟨known, once, -, admitted⟩ := goes.mp ⟨_, done⟩
    cases missing : shape.required.find? (· ∉ seen) with
    | some name =>
      simp only [missing] at finished
      cases finished
    | none =>
      refine ⟨known, once, fun f member required => ?_, admitted⟩
      have found := (complete seen).mp missing f member required
      have name : f.name ∈ shape.fields := imp.names ▸ List.mem_map_of_mem member
      simpa using (listed f.name name).mp found
  · rintro ⟨known, once, all, admitted⟩
    obtain ⟨⟨seen, r⟩, done⟩ := goes.mpr
      ⟨known, once, fun _ _ old => absurd old List.not_mem_nil, admitted⟩
    have listed := mem_seen_of_entries done
    have none : shape.required.find? (· ∉ seen) = none := by
      refine (complete seen).mpr fun f member required => ?_
      have name : f.name ∈ shape.fields := imp.names ▸ List.mem_map_of_mem member
      exact (listed f.name name).mpr (.inr (all f member required))
    exact ⟨(seen, r), done, r, by simp only [none]; rfl⟩

theorem read_iff (imp : shape.Implements strict fields P) {v : Value} (readable : v.Readable)
    (plain : v.IsPlain fields) (form : Form) :
    v.Reads (shape.read form) (Value.IsRecord strict fields) := by
  intro place
  cases v with
  | object ms =>
    refine (imp.ofEntries_iff ((Value.readable_object_iff ms).mp readable) (plain.2 ms rfl) place).trans
      ⟨fun fits => ⟨ms, rfl, fits⟩, ?_⟩
    rintro ⟨_, ⟨⟩, fits⟩
    exact fits
  | array vs => exact absurd ⟨vs, rfl⟩ plain.1
  | number n =>
    rcases Value.datum_number n with ⟨_, same⟩ | ⟨_, same⟩ | same <;> rw [same] <;>
      exact iff_of_refused rfl (by rintro ⟨_, ⟨⟩, -⟩)
  | _ => exact iff_of_refused rfl (by rintro ⟨_, ⟨⟩, -⟩)

end Implements
end Shape
end RouteWeaver
