import RouteWeaver.Proofs.ReorderedModels

namespace RouteWeaver

namespace Shape

open Json Value

variable {α : Type}

/-- Reading the members one after the other turns one record into another. -/
inductive Fills (shape : Shape α) (place : Place) : α → List (String × Value) → α → Prop where
  | nil (r : α) : Fills shape place r [] r
  | cons {k : String} {v : Value} {ms : List (String × Value)} {r r' r'' : α}
      (put : shape.put k place (.field place k) v.datum r = .ok r')
      (others : Fills shape place r' ms r'') : Fills shape place r ((k, v) :: ms) r''

variable {shape : Shape α} {place : Place}

theorem entries_of_fills {seen : List String} {r r' : α} {ms : List (String × Value)}
    (fills : shape.Fills place r ms r') (known : ms.map Prod.fst ⊆ shape.fields)
    (once : (ms.map Prod.fst).Nodup) (fresh : ∀ k ∈ ms.map Prod.fst, k ∉ seen) :
    shape.entries place true seen r (Value.entries ms) =
      .ok ((ms.map Prod.fst).reverse ++ seen, r') := by
  induction fills generalizing seen with
  | nil r => rfl
  | @cons k v ms r r' r'' put others ih =>
    rw [List.map_cons] at known once fresh
    obtain ⟨known, rest⟩ := List.cons_subset.mp known
    obtain ⟨apart, once⟩ := List.nodup_cons.mp once
    obtain ⟨unseen, fresh⟩ := List.forall_mem_cons.mp fresh
    have later : ∀ n ∈ ms.map Prod.fst, n ∉ k :: seen := by
      intro n listed
      rw [List.mem_cons, not_or]
      exact ⟨fun same => apart (same ▸ listed), fresh n listed⟩
    rw [Value.entries_cons, entries_cons_of_mem known, if_neg unseen, put, List.map_cons,
      List.reverse_cons, List.append_assoc]
    exact ih rest once later

theorem read_of_fills {r : α} {ms : List (String × Value)}
    (fills : shape.Fills place shape.start ms r) (names : ms.map Prod.fst = shape.fields)
    (once : shape.fields.Nodup) (required : shape.required ⊆ shape.fields) (form : Form) :
    shape.read form place (object ms).datum = .ok r := by
  have done := entries_of_fills fills (names ▸ List.Subset.refl _) (names ▸ once)
    fun _ _ => List.not_mem_nil
  have complete : shape.required.find? (· ∉ (ms.map Prod.fst).reverse ++ []) = none := by
    rw [List.find?_eq_none]
    intro n wanted
    simpa [names] using required wanted
  have finish : shape.ofEntries place true (Value.entries ms) = .ok r := by
    rw [ofEntries, done]
    simp only [bind, Except.bind, complete]
    rfl
  rw [datum]
  exact finish

end Shape

namespace Json.Value

open Schema

def ReadsBack {α : Type} (read : Place → Datum → Except Problem α) (write : α → Value) : Prop :=
  ∀ a place, read place (write a).datum = .ok a

variable {α : Type} {read : Place → Datum → Except Problem α} {write : α → Value}

theorem readsBack_text : ReadsBack Reader.text string :=
  fun _ _ => rfl

theorem readsBack_character : ReadsBack Reader.character character := by
  intro c place
  exact bind_eq_ok.mpr ⟨String.singleton c, rfl, by rw [String.toList_singleton]; rfl⟩

theorem ReadsBack.optional (back : ReadsBack read write) (present : ∀ a, write a ≠ .null)
    (outer : Place) : ReadsBack (Reader.optional read outer) (Value.optional write) := by
  intro o place
  cases o with
  | none => rfl
  | some a => rw [Value.optional, optional_datum (present a), back a place]; rfl

theorem ReadsBack.list (back : ReadsBack read write) :
    ReadsBack (Reader.list read) (Value.list write) := by
  intro as place
  have items (i : Nat) : Reader.items read place true i (datums (as.map write)) = .ok as := by
    induction as generalizing i with
    | nil => rfl
    | cons a as ih =>
      rw [List.map_cons, datums, Reader.items, back a, ih]
      rfl
  rw [Value.list, datum]
  exact items 0

theorem readsBack_texts : ReadsBack (Reader.list Reader.text) (Value.list string) :=
  readsBack_text.list

theorem readsBack_config (form : Form) : ReadsBack (configShape.read form) Config.value := by
  intro c place
  have doc := readsBack_text.optional nofun place c.moduleDoc (.field place "module_doc")
  have types := readsBack_texts c.intrinsicTypes (.field place "intrinsic_types")
  refine Shape.read_of_fills ?_ rfl (by decide) (by decide) form
  exact .cons rfl <| .cons (map_eq_ok.mpr ⟨_, doc, rfl⟩) <| .cons rfl <|
    .cons (map_eq_ok.mpr ⟨_, types, rfl⟩) <| .cons rfl <| .cons rfl <| .cons rfl <| .cons rfl <|
    .cons rfl <| .cons rfl <| .nil _

theorem readable_string (s : String) : (string s).Readable := List.forall_mem_nil _

theorem readable_boolean (b : Bool) : (boolean b).Readable := List.forall_mem_nil _

theorem readable_optional (readable : ∀ a, (write a).Readable) (o : Option α) :
    (Value.optional write o).Readable := by
  cases o with
  | none => exact List.forall_mem_nil _
  | some a => exact readable a

theorem readable_fields (s : Segment) : ∀ m ∈ s.fields, m.2.Readable := by
  cases s with
  | literal value => exact List.forall_mem_singleton.mpr (readable_string value)
  | parameter name isOptional =>
    exact List.forall_mem_cons.mpr
      ⟨readable_string name, List.forall_mem_singleton.mpr (readable_boolean isOptional)⟩
  | option long short value =>
    have first := readable_optional fun c => readable_string (String.singleton c)
    have second := readable_optional readable_string
    exact List.forall_mem_cons.mpr ⟨readable_string long, List.forall_mem_cons.mpr
      ⟨first short, List.forall_mem_singleton.mpr (second value)⟩⟩

theorem read_fields (s : Segment) :
    (segmentShape s.kind).read ⟨true, .fields⟩ .root (object s.fields).datum = .ok s := by
  have names : s.fields.map Prod.fst = (segmentShape s.kind).fields := by cases s <;> rfl
  have once (kind : SegmentKind) : (segmentShape kind).fields.Nodup := by cases kind <;> decide
  have required (kind : SegmentKind) :
      (segmentShape kind).required ⊆ (segmentShape kind).fields := by
    cases kind <;> decide
  refine Shape.read_of_fills ?_ names (once s.kind) (required s.kind) _
  cases s with
  | literal value => exact .cons rfl (.nil _)
  | parameter name isOptional => exact .cons rfl (.cons rfl (.nil _))
  | option long short value =>
    have first := readsBack_character.optional nofun .root short (.field .root "short")
    have second := readsBack_text.optional nofun .root value (.field .root "value")
    exact .cons rfl <| .cons (map_eq_ok.mpr ⟨_, first, rfl⟩) <|
      .cons (map_eq_ok.mpr ⟨_, second, rfl⟩) (.nil _)

theorem readsBack_segment (outer : Place) : ReadsBack (segment outer) Segment.value := by
  intro s place
  have readable : ∀ m ∈ ("kind", Value.string s.kind.name) :: s.fields, m.2.Readable :=
    List.forall_mem_cons.mpr ⟨readable_string _, readable_fields s⟩
  have kinds_one : kinds (("kind", .string s.kind.name) :: s.fields) = named (some s.kind) := by
    cases s <;> rfl
  have others_fields : others (("kind", .string s.kind.name) :: s.fields) = s.fields := by
    cases s <;> rfl
  have settles : (Datum.mapping (Value.entries s.fields) true).settled = (object s.fields).datum :=
    settled_datum (.object s.fields)
  refine (segment_entries_iff readable outer place s).mpr ⟨s.kind, kinds_one, ?_⟩
  rw [others_fields, segmentOf, settles, read_fields]
  rfl

theorem readsBack_route (form : Form) : ReadsBack (routeShape.read form) Route.value := by
  intro r place
  have segments := (readsBack_segment (.field place "segments")).list r.segments
    (.field place "segments")
  have handler := readsBack_text.optional nofun place r.handler (.field place "handler")
  have behaviors := readsBack_texts.optional nofun place r.behaviors (.field place "behaviors")
  refine Shape.read_of_fills ?_ rfl (by decide) (by decide) form
  exact .cons rfl <| .cons (map_eq_ok.mpr ⟨_, segments, rfl⟩) <|
    .cons (map_eq_ok.mpr ⟨_, handler, rfl⟩) <| .cons (map_eq_ok.mpr ⟨_, behaviors, rfl⟩) (.nil _)

/-- The order in which the members of objects come to stand makes no difference. -/
theorem ReadsBack.reordered (back : ReadsBack read write) (respects : Respects read) {a : α}
    {v : Value} (alike : (write a).Reordered v) (place : Place) : read place v.datum = .ok a := by
  have same := respects alike (max (write a).depth v.depth) place
  rw [within_eq_datum (Nat.le_max_left ..), within_eq_datum (Nat.le_max_right ..)] at same
  exact (toOption_eq_iff.mp same a).mp (back a place)

mutual

/-- The value with the members of each object in the order of their keys. -/
def sorted : Value → Value
  | null => null
  | boolean b => boolean b
  | number n => number n
  | string s => string s
  | array vs => array (sortedItems vs)
  | object ms => object ((sortedMembers ms).mergeSort fun m n => decide (m.1 ≤ n.1))

def sortedItems : List Value → List Value
  | [] => []
  | v :: vs => v.sorted :: sortedItems vs

def sortedMembers : List (String × Value) → List (String × Value)
  | [] => []
  | (k, v) :: ms => (k, v.sorted) :: sortedMembers ms

end

mutual

theorem reordered_sorted : ∀ v : Value, v.Reordered v.sorted
  | null | boolean _ | number _ | string _ => .same _
  | array vs => by
    rw [sorted]
    exact .array (reordered_sortedItems vs)
  | object ms => by
    rw [sorted]
    exact .of_sameMembers (sameMembers_sorted ms) (List.mergeSort_perm ..).symm

theorem reordered_sortedItems : ∀ vs : List Value, List.Forall₂ Reordered vs (sortedItems vs)
  | [] => .nil
  | v :: vs => .cons (reordered_sorted v) (reordered_sortedItems vs)

theorem sameMembers_sorted : ∀ ms : List (String × Value),
    List.Forall₂ SameMember ms (sortedMembers ms)
  | [] => .nil
  | (_, v) :: ms => .cons ⟨rfl, reordered_sorted v⟩ (sameMembers_sorted ms)

end

end Json.Value

open Json Schema

/-- Routes and settings that are written are read back as they were. -/
theorem written_reads_back (form : Form) (place : Place) :
    (∀ (r : Route) (v : Value), r.value.Reordered v →
      routeShape.read form place v.datum = .ok r) ∧
    (∀ (c : Config) (v : Value), c.value.Reordered v →
      configShape.read form place v.datum = .ok c) ∧
    ∀ (r : Route) (v : Value), Value.Reordered ({ r with behaviors := none } : Route).value v →
      ¬ Value.Reordered ({ r with behaviors := some [] } : Route).value v := by
  have route {r : Route} {v : Value} (written : r.value.Reordered v) :=
    (Value.readsBack_route form).reordered (Value.orderly_route.respects_read form) written place
  refine ⟨fun r v => route, fun c v written => ?_, fun r v absent empty => ?_⟩
  · exact (Value.readsBack_config form).reordered (Value.orderly_config.respects_read form) written
      place
  · have same := (route absent).symm.trans (route empty)
    cases same

theorem written_reads_back_sorted :
    let r : Route := ⟨"go {file}", [.literal "go", .parameter "file" false,
      .option "quiet" (some 'q') none], some "crate::Go", some []⟩
    let c : Config := { moduleDoc := some "Routes." }
    r.value.Reordered r.value.sorted ∧ c.value.Reordered c.value.sorted ∧
      routeShape.read form .root r.value.sorted.datum = .ok r ∧
        configShape.read form .root c.value.sorted.datum = .ok c ∧
          ¬ ({ r with behaviors := none } : Route).value.Reordered r.value.sorted := by
  intro r c
  have route := r.value.reordered_sorted
  have config := c.value.reordered_sorted
  obtain ⟨routes, configs, apart⟩ := written_reads_back form .root
  exact ⟨route, config, routes r _ route, configs c _ config,
    fun absent => apart r _ absent route⟩

end RouteWeaver
