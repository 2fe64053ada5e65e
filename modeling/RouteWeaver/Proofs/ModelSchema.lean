import RouteWeaver.Proofs.JsonRecords
import RouteWeaver.Proofs.NumberRange

namespace RouteWeaver.Json

open Schema Value

namespace Value

def configSchema : List Field :=
  [{ name := "runtime_crate", admits := IsText },
    { name := "module_doc", admits := IsOptional IsText },
    { name := "inner_attributes", admits := IsFlag },
    { name := "intrinsic_types", admits := IsListOf IsText },
    { name := "terminal_accessor", admits := IsText },
    { name := "configuration_marker", admits := IsText },
    { name := "configuration_accessor", admits := IsText },
    { name := "logger_marker", admits := IsText },
    { name := "logger_placeholder", admits := IsText },
    { name := "namespace_marker", admits := IsText }]

def behaviorSchema : List Field :=
  [{ name := "type", required := true, admits := IsText },
    { name := "name", admits := IsOptional IsText },
    { name := "state", admits := IsOptional IsText },
    { name := "dependencies", admits := IsListOf IsText }]

def serviceSchema : List Field :=
  [{ name := "type", required := true, admits := IsText },
    { name := "implementation", admits := IsOptional IsText }]

def segmentSchema : SegmentKind → List Field
  | .literal => [{ name := "value", required := true, admits := IsText }]
  | .parameter =>
    [{ name := "name", required := true, admits := IsText },
      { name := "optional", admits := IsFlag }]
  | .option =>
    [{ name := "long", required := true, admits := IsText },
      { name := "short", admits := IsOptional IsCharacter },
      { name := "value", admits := IsOptional IsText }]

def kindField (kind : SegmentKind) : Field :=
  { name := "kind", required := true, admits := (· = .string kind.name) }

def IsSegment (v : Value) : Prop :=
  ∃ kind, v.IsRecord false (kindField kind :: segmentSchema kind)

def routeSchema : List Field :=
  [{ name := "pattern", required := true, admits := IsText },
    { name := "segments", admits := IsListOf IsSegment, plain := HasPlainItems (¬ ·.IsArray) },
    { name := "handler", admits := IsOptional IsText },
    { name := "behaviors", admits := IsOptional (IsListOf IsText) }]

def modelSchema : List Field :=
  [{ name := "config", admits := IsRecord false configSchema, plain := IsPlain configSchema },
    { name := "behaviors", admits := IsListOf (IsRecord true behaviorSchema),
      plain := HasPlainItems (IsPlain behaviorSchema) },
    { name := "services", admits := IsListOf (IsRecord true serviceSchema),
      plain := HasPlainItems (IsPlain serviceSchema) },
    { name := "routes", admits := IsListOf (IsRecord true routeSchema),
      plain := HasPlainItems (IsPlain routeSchema) }]

def IsModel (v : Value) : Prop :=
  v.IsRecord true modelSchema

theorem reads_texts (v : Value) : Reads (Reader.list Reader.text) (IsListOf IsText) v :=
  .list fun _ _ w _ => reads_text w

theorem implements_config : configShape.Implements false configSchema fun _ => True where
  names := rfl
  required := rfl
  strict := rfl
  keeps := Shape.keeps_true _
  put := by
    intro f member v readable plain outer place r _
    have text := reads_text v place
    have texts := reads_texts v place
    have flag := reads_flag v place
    have doc := (reads_text v).optional outer place
    simp only [configSchema, List.mem_cons, List.not_mem_nil, or_false] at member
    rcases member with rfl | rfl | rfl | rfl | rfl | rfl | rfl | rfl | rfl | rfl
    · exact exists_map_ok.trans text
    · exact exists_map_ok.trans doc
    · exact exists_map_ok.trans flag
    · exact exists_map_ok.trans texts
    all_goals exact exists_map_ok.trans text

theorem implements_behavior : behaviorShape.Implements true behaviorSchema fun _ => True where
  names := rfl
  required := rfl
  strict := rfl
  keeps := Shape.keeps_true _
  put := by
    intro f member v _ _ outer place r _
    have optional := (reads_text v).optional outer place
    simp only [behaviorSchema, List.mem_cons, List.not_mem_nil, or_false] at member
    rcases member with rfl | rfl | rfl | rfl
    · exact exists_map_ok.trans (reads_text v place)
    · exact exists_map_ok.trans optional
    · exact exists_map_ok.trans optional
    · exact exists_map_ok.trans (reads_texts v place)

theorem implements_service : serviceShape.Implements true serviceSchema fun _ => True where
  names := rfl
  required := rfl
  strict := rfl
  keeps := Shape.keeps_true _
  put := by
    intro f member v _ _ outer place r _
    simp only [serviceSchema, List.mem_cons, List.not_mem_nil, or_false] at member
    rcases member with rfl | rfl
    · exact exists_map_ok.trans (reads_text v place)
    · exact exists_map_ok.trans ((reads_text v).optional outer place)

def IsOfKind : SegmentKind → Segment → Prop
  | .literal, .literal _ | .parameter, .parameter .. | .option, .option .. => True
  | _, _ => False

theorem implements_segment (kind : SegmentKind) :
    (segmentShape kind).Implements false (segmentSchema kind) (IsOfKind kind) where
  names := by cases kind <;> rfl
  required := by cases kind <;> rfl
  strict := by cases kind <;> rfl
  keeps := by
    refine ⟨by cases kind <;> trivial, ?_⟩
    intro name outer place d r r' before done
    cases kind
    all_goals
      simp only [segmentShape] at done
      split at done
    all_goals first
      | cases done; exact before
      | obtain ⟨_, -, rfl⟩ := map_eq_ok.mp done; trivial
  put := by
    intro f member v _ _ outer place r before
    cases kind with
    | literal =>
      obtain rfl := List.mem_singleton.mp member
      cases r with
      | literal => exact exists_map_ok.trans (reads_text v place)
      | _ => cases before
    | parameter =>
      cases r with
      | parameter =>
        rcases List.mem_pair.mp member with rfl | rfl
        · exact exists_map_ok.trans (reads_text v place)
        · exact exists_map_ok.trans (reads_flag v place)
      | _ => cases before
    | option =>
      cases r with
      | option =>
        simp only [segmentSchema, List.mem_cons, List.not_mem_nil, or_false] at member
        rcases member with rfl | rfl | rfl
        · exact exists_map_ok.trans (reads_text v place)
        · exact exists_map_ok.trans ((reads_character v).optional outer place)
        · exact exists_map_ok.trans ((reads_text v).optional outer place)
      | _ => cases before

def kinds (ms : List (String × Value)) : List Value :=
  (ms.filter (·.1 = "kind")).map Prod.snd

def others (ms : List (String × Value)) : List (String × Value) :=
  ms.filter (·.1 ≠ "kind")

section Members

variable {k : String} (v : Value) (ms : List (String × Value))

theorem kinds_cons_kind : kinds (("kind", v) :: ms) = v :: kinds ms := by
  simp [kinds]

theorem kinds_cons_other (other : k ≠ "kind") : kinds ((k, v) :: ms) = kinds ms := by
  simp [kinds, other]

theorem others_cons_kind : others (("kind", v) :: ms) = others ms := by
  simp [others]

theorem others_cons_other (other : k ≠ "kind") : others ((k, v) :: ms) = (k, v) :: others ms := by
  simp [others, other]

end Members

def named (kind : Option SegmentKind) : List Value :=
  (kind.map fun k => .string k.name).toList

theorem named_inj {kind kind' : Option SegmentKind} (same : named kind = named kind') :
    kind = kind' := by
  rcases kind with - | - | - | - <;> rcases kind' with - | - | - | - <;>
    first | rfl | simp [named, SegmentKind.name] at same

/-- A kind is written once: behind one that is found there is no other. -/
theorem named_append_cons_iff {kind found : Option SegmentKind} {v : Value} {vs : List Value} :
    named kind ++ v :: vs = named found ↔
      kind = none ∧ ∃ k, v = .string k.name ∧ named (some k) ++ vs = named found := by
  cases kind with
  | some kind =>
    refine iff_of_false ?_ (by rintro ⟨⟨⟩, -⟩)
    intro same
    cases found <;> simp [named] at same
  | none =>
    rw [and_iff_right rfl]
    constructor
    · intro same
      cases found with
      | none => cases same
      | some kind =>
        obtain ⟨rfl, rest⟩ := List.cons.inj same
        exact ⟨kind, rfl, same⟩
    · rintro ⟨kind, rfl, same⟩
      exact same

theorem ofName?_eq_some_iff {s : String} {kind : SegmentKind} :
    SegmentKind.ofName? s = some kind ↔ s = kind.name := by
  constructor
  · intro found
    have same := List.find?_some found
    exact (of_decide_eq_true same).symm
  · rintro rfl
    cases kind <;> decide

theorem read_kind_iff (v : Value) (room : Nat) (place : Place) (kind : SegmentKind) :
    SegmentKind.read place (v.within room) = .ok kind ↔ v = .string kind.name := by
  refine bind_eq_ok.trans ?_
  simp only [textAs_within_iff]
  constructor
  · rintro ⟨s, rfl, known⟩
    split at known
    · rename_i found
      cases known
      rw [ofName?_eq_some_iff.mp found]
    · cases known
  · rintro rfl
    refine ⟨kind.name, rfl, ?_⟩
    rw [ofName?_eq_some_iff.mpr rfl]
    rfl

section Among

variable {k : String} {d : Datum} {es kept : List (Datum × Datum)} {place : Place}
  {kind found : Option SegmentKind}

theorem kindAmong_cons_kind_iff :
    kindAmong place true kind ((keyDatum "kind", d) :: es) = .ok (found, kept) ↔
      kind = none ∧ ∃ k, SegmentKind.read (.field place "kind") d = .ok k ∧
        kindAmong place true (some k) es = .ok (found, kept) := by
  cases kind with
  | some kind => exact iff_of_false (by rintro ⟨⟩) (by rintro ⟨⟨⟩, -⟩)
  | none =>
    rw [and_iff_right rfl]
    exact bind_eq_ok

theorem kindAmong_cons_other_iff (other : k ≠ "kind") :
    kindAmong place true kind ((keyDatum k, d) :: es) = .ok (found, kept) ↔
      Reader.keep (.field place k) d = .ok () ∧ ∃ kept',
        kindAmong place true kind es = .ok (found, kept') ∧ kept = (keyDatum k, d) :: kept' := by
  have name : isKindKey (keyDatum k) = false := by
    simpa [isKindKey, keyDatum, Reading.ofScalar] using other
  have unfolded : kindAmong place true kind ((keyDatum k, d) :: es) =
      Reader.keep (.field place k) d >>= fun _ =>
        (fun found => (found.1, (keyDatum k, d) :: found.2)) <$> kindAmong place true kind es := by
    rw [kindAmong, name]
    rfl
  rw [unfolded, bind_eq_ok]
  constructor
  · rintro ⟨⟨⟩, first, mapped⟩
    obtain ⟨⟨found', kept'⟩, done, same⟩ := map_eq_ok.mp mapped
    obtain ⟨rfl, rfl⟩ := Prod.mk.inj same
    exact ⟨first, kept', done, rfl⟩
  · rintro ⟨first, kept', done, rfl⟩
    exact ⟨(), first, map_eq_ok.mpr ⟨_, done, rfl⟩⟩

end Among

/-- The kind is found when it is written once and all other members can be kept. -/
theorem kindAmong_iff (ms : List (String × Value)) (room : Nat) (place : Place)
    (kind found : Option SegmentKind) (kept : List (Datum × Datum)) :
    kindAmong place true kind (entriesWithin room ms) = .ok (found, kept) ↔
      (∀ m ∈ others ms, Keepable room m.2) ∧ named kind ++ kinds ms = named found ∧
        kept = entriesWithin room (others ms) := by
  induction ms generalizing kind kept with
  | nil =>
    have done : kindAmong place true kind (entriesWithin room []) = .ok (kind, []) := rfl
    have none : ∀ m ∈ others [], Keepable room m.2 := nofun
    have same : kind = found ↔ named kind ++ kinds [] = named found := by
      rw [show kinds [] = [] from rfl, List.append_nil]
      exact ⟨congrArg named, named_inj⟩
    rw [done, Except.ok.injEq, Prod.mk.injEq, and_iff_right none, same]
    exact and_congr_right' eq_comm
  | cons m ms ih =>
    obtain ⟨k, v⟩ := m
    rw [entriesWithin_cons]
    by_cases name : k = "kind"
    · subst name
      rw [kindAmong_cons_kind_iff, kinds_cons_kind, others_cons_kind, named_append_cons_iff]
      simp only [read_kind_iff, ih]
      grind
    · rw [kindAmong_cons_other_iff name, kinds_cons_other v ms name,
        others_cons_other v ms name, List.forall_mem_cons, keep_within_iff]
      constructor
      · rintro ⟨first, kept', done, rfl⟩
        obtain ⟨keeps, same, rfl⟩ := (ih _ _).mp done
        exact ⟨⟨first, keeps⟩, same, rfl⟩
      · rintro ⟨⟨first, keeps⟩, same, rfl⟩
        exact ⟨first, _, (ih _ _).mpr ⟨keeps, same, rfl⟩, rfl⟩

/-- A segment that is an object has one kind, and its fields are the other members. -/
theorem segment_mapping_iff (ms : List (String × Value)) (room : Nat) (outer place : Place)
    (s : Segment) :
    segment outer place (.mapping (entriesWithin room ms) true) = .ok s ↔
      (∀ m ∈ others ms, Keepable room m.2) ∧ ∃ kind, kinds ms = named (some kind) ∧
        segmentOf outer kind ((object (others ms)).within (room + 1)) = .ok s := by
  rw [within_object_succ]
  refine bind_eq_ok.trans ?_
  constructor
  · rintro ⟨⟨found, kept⟩, done, done'⟩
    obtain ⟨keeps, same, rfl⟩ := (kindAmong_iff ms room place none found kept).mp done
    cases found with
    | none => cases done'
    | some kind => exact ⟨keeps, kind, same, done'⟩
  · rintro ⟨keeps, kind, same, done⟩
    exact ⟨_, (kindAmong_iff ms room place none (some kind) _).mpr ⟨keeps, same, rfl⟩, done⟩

theorem count_others {n : String} (other : n ≠ "kind") (ms : List (String × Value)) :
    ((others ms).map Prod.fst).count n = (ms.map Prod.fst).count n := by
  have names : (others ms).map Prod.fst = (ms.map Prod.fst).filter (· ≠ "kind") := by
    rw [others, List.filter_map]
    rfl
  rw [names, List.count_filter (by simpa using other)]

theorem mem_others_iff {n : String} (other : n ≠ "kind") (ms : List (String × Value)) :
    n ∈ (others ms).map Prod.fst ↔ n ∈ ms.map Prod.fst := by
  rw [← List.count_pos_iff, count_others other, List.count_pos_iff]

theorem length_kinds (ms : List (String × Value)) :
    (kinds ms).length = (ms.map Prod.fst).count "kind" := by
  rw [kinds, List.length_map, List.count_eq_length_filter, List.filter_map, List.length_map]
  congr 1

theorem kinds_eq_named_iff (kind : SegmentKind) (ms : List (String × Value)) :
    kinds ms = named (some kind) ↔
      (ms.map Prod.fst).count "kind" = 1 ∧ ∀ m ∈ ms, m.1 = "kind" → m.2 = .string kind.name := by
  have single : named (some kind) = List.replicate 1 (.string kind.name) := rfl
  rw [single, List.eq_replicate_iff, length_kinds]
  refine and_congr_right fun _ => ⟨fun all m member name => all m.2 ?_, fun all v listed => ?_⟩
  · exact List.mem_map_of_mem (List.mem_filter.mpr ⟨member, decide_eq_true name⟩)
  · obtain ⟨m, kept, rfl⟩ := List.mem_map.mp listed
    obtain ⟨member, name⟩ := List.mem_filter.mp kept
    exact all m member (of_decide_eq_true name)

theorem name_ne_kind (kind : SegmentKind) : ∀ f ∈ segmentSchema kind, f.name ≠ "kind" := by
  cases kind <;> simp [segmentSchema]

theorem fits_kind_iff (kind : SegmentKind) (ms : List (String × Value)) :
    Fits false (kindField kind :: segmentSchema kind) ms ↔
      kinds ms = named (some kind) ∧ Fits false (segmentSchema kind) (others ms) := by
  have other := name_ne_kind kind
  rw [kinds_eq_named_iff]
  constructor
  · rintro ⟨-, once, complete, admitted⟩
    obtain ⟨atMost, once⟩ := List.forall_mem_cons.mp once
    obtain ⟨atLeast, complete⟩ := List.forall_mem_cons.mp complete
    have present : 0 < (ms.map Prod.fst).count "kind" := List.count_pos_iff.mpr (atLeast rfl)
    refine ⟨⟨Nat.le_antisymm atMost present, fun m member name => ?_⟩, nofun, ?_, ?_, ?_⟩
    · exact admitted m member (kindField kind) List.mem_cons_self name.symm
    · intro f listed
      rw [count_others (other f listed)]
      exact once f listed
    · exact fun f listed required =>
        (mem_others_iff (other f listed) ms).mpr (complete f listed required)
    · exact fun m member f listed =>
        admitted m (List.mem_of_mem_filter member) f (List.mem_cons_of_mem _ listed)
  · rintro ⟨⟨single, values⟩, -, once, complete, admitted⟩
    refine ⟨nofun, List.forall_mem_cons.mpr ⟨Nat.le_of_eq single, ?_⟩,
      List.forall_mem_cons.mpr ⟨fun _ => ?_, ?_⟩, fun m member =>
      List.forall_mem_cons.mpr ⟨fun name => values m member name.symm, ?_⟩⟩
    · intro f listed
      rw [← count_others (other f listed)]
      exact once f listed
    · exact List.count_pos_iff.mp (Nat.lt_of_lt_of_eq Nat.one_pos single.symm)
    · exact fun f listed required =>
        (mem_others_iff (other f listed) ms).mp (complete f listed required)
    · intro f listed name
      have kept : m ∈ others ms := List.mem_filter.mpr
        ⟨member, by simpa [← name] using other f listed⟩
      exact admitted m kept f listed name

theorem plain_segmentSchema (kind : SegmentKind) : ∀ f ∈ segmentSchema kind, ∀ v, f.plain v := by
  cases kind <;> simp [segmentSchema]

theorem segmentOf_iff {ms : List (String × Value)} (readable : ∀ m ∈ ms, m.2.Readable)
    (kind : SegmentKind) (outer : Place) :
    (∃ s, segmentOf outer kind (.mapping (entries ms) true) = .ok s) ↔
      Fits false (segmentSchema kind) ms := by
  have settles : (Datum.mapping (entries ms) true).settled = .mapping (entries ms) true :=
    settled_datum (.object ms)
  rw [segmentOf, settles, exists_mapError_ok]
  exact (implements_segment kind).ofEntries_iff readable
    (fun m _ f listed _ => plain_segmentSchema kind f listed m.2) .root

theorem segment_entries_iff {ms : List (String × Value)} (readable : ∀ m ∈ ms, m.2.Readable)
    (outer place : Place) (s : Segment) :
    segment outer place (.mapping (entries ms) true) = .ok s ↔
      ∃ kind, kinds ms = named (some kind) ∧
        segmentOf outer kind (.mapping (entries (others ms)) true) = .ok s := by
  have keeps : ∀ m ∈ others ms, Keepable (membersDepth ms) m.2 := by
    intro m kept
    have member := List.mem_of_mem_filter kept
    exact ⟨readable m member,
      membersDepth_le_iff.mp (Nat.le_refl _) m member⟩
  have all : entriesWithin (membersDepth ms) ms = entries ms :=
    entriesWithin_eq_entries (Nat.le_refl _)
  have others_all : entriesWithin (membersDepth ms) (others ms) = entries (others ms) :=
    entriesWithin_eq_entries (membersDepth_le_iff.mpr fun m kept => (keeps m kept).2)
  rw [← all, segment_mapping_iff, and_iff_right keeps, within_object_succ, others_all]

theorem reads_segment {v : Value} (readable : v.Readable) (plain : ¬ v.IsArray) (outer : Place) :
    v.Reads (segment outer) IsSegment := by
  intro place
  cases v with
  | object ms =>
    have readable := (readable_object_iff ms).mp readable
    have inner : ∀ m ∈ others ms, m.2.Readable := fun m kept =>
      readable m (List.mem_of_mem_filter kept)
    have read := segment_entries_iff readable outer place
    constructor
    · rintro ⟨s, done⟩
      obtain ⟨kind, same, done'⟩ := (read s).mp done
      have fits := (segmentOf_iff inner kind outer).mp ⟨s, done'⟩
      exact ⟨kind, ms, rfl, (fits_kind_iff kind ms).mpr ⟨same, fits⟩⟩
    · rintro ⟨kind, _, ⟨⟩, fits⟩
      obtain ⟨same, fits⟩ := (fits_kind_iff kind ms).mp fits
      obtain ⟨s, done⟩ := (segmentOf_iff inner kind outer).mpr fits
      exact ⟨s, (read s).mpr ⟨kind, same, done⟩⟩
  | array vs => exact absurd ⟨vs, rfl⟩ plain
  | number n =>
    rcases datum_number n with ⟨_, same⟩ | ⟨_, same⟩ | same <;> rw [same] <;>
      exact iff_of_refused rfl (by rintro ⟨_, _, ⟨⟩, -⟩)
  | _ => exact iff_of_refused rfl (by rintro ⟨_, _, ⟨⟩, -⟩)

theorem implements_route : routeShape.Implements true routeSchema fun _ => True where
  names := rfl
  required := rfl
  strict := rfl
  keeps := Shape.keeps_true _
  put := by
    intro f member v readable plain outer place r _
    simp only [routeSchema, List.mem_cons, List.not_mem_nil, or_false] at member
    rcases member with rfl | rfl | rfl | rfl
    · exact exists_map_ok.trans (reads_text v place)
    · have segments : v.Reads (Reader.list (segment place)) (IsListOf IsSegment) := by
        refine .list fun vs same w listed => ?_
        subst same
        exact reads_segment ((readable_array_iff vs).mp readable w listed) (plain vs rfl w listed)
          place
      exact exists_map_ok.trans (segments place)
    · exact exists_map_ok.trans ((reads_text v).optional outer place)
    · exact exists_map_ok.trans ((reads_texts v).optional outer place)

theorem reads_records {α : Type} {read : Place → Datum → Except Problem α} {fields : List Field}
    (reads : ∀ w : Value, w.Readable → w.IsPlain fields → w.Reads read (IsRecord true fields))
    {v : Value} (readable : v.Readable) (plain : v.HasPlainItems (IsPlain fields)) :
    v.Reads (Reader.list read) (IsListOf (IsRecord true fields)) := by
  refine .list fun vs same w listed => ?_
  subst same
  exact reads w ((readable_array_iff vs).mp readable w listed) (plain vs rfl w listed)

theorem implements_model (form : Form) :
    (modelShape form).Implements true modelSchema fun _ => True where
  names := rfl
  required := rfl
  strict := rfl
  keeps := Shape.keeps_true _
  put := by
    intro f member v readable plain outer place r _
    simp only [modelSchema, List.mem_cons, List.not_mem_nil, or_false] at member
    rcases member with rfl | rfl | rfl | rfl
    · exact exists_map_ok.trans (implements_config.read_iff readable plain form place)
    · have reads : ∀ w : Value, w.Readable → w.IsPlain behaviorSchema →
          w.Reads (behavior form) (IsRecord true behaviorSchema) := fun w readable plain place =>
        exists_map_ok.trans (implements_behavior.read_iff readable plain form place)
      exact exists_map_ok.trans (reads_records reads readable plain place)
    · have reads : ∀ w : Value, w.Readable → w.IsPlain serviceSchema →
          w.Reads (service form) (IsRecord true serviceSchema) := fun w readable plain place =>
        exists_map_ok.trans (implements_service.read_iff readable plain form place)
      exact exists_map_ok.trans (reads_records reads readable plain place)
    · have reads : ∀ w : Value, w.Readable → w.IsPlain routeSchema →
          w.Reads (routeShape.read form) (IsRecord true routeSchema) := fun w readable plain =>
        implements_route.read_iff readable plain form
      exact exists_map_ok.trans (reads_records reads readable plain place)

end Value

def Value.InRange (v : Value) : Prop :=
  ∀ n ∈ v.numbers, n.InRange

/-- A text of a value loads as a model just when the value is one. -/
theorem model_loads_iff {v : Value} {text : String} (written : v.Written text)
    (inRange : v.InRange) (shallow : v.depth ≤ depthLimit) (plain : v.IsPlain modelSchema) :
    (∃ m, Source.model ⟨.json, text⟩ = .ok m) ↔ v.IsModel := by
  have readable : v.Readable := fun n member => Number.scalar_isSome (inRange n member)
  have read := (implements_model form).read_iff readable plain form .root
  have parsed : Format.json.parse text = ⟨v.datum, true⟩ := Value.parse_of_written written shallow
  rw [Source.model, exists_map_ok, Source.fields, parsed, exists_mapError_ok, Schema.modelFields,
    Schema.document, exists_bind_ok, Value.IsModel, ← read]
  exact exists_congr fun f => and_iff_left ⟨f, rfl⟩

theorem written_around {v : Value} {before after : List Token} {t : Token}
    {left word right : String} (tokens : v.tokens = before ++ t :: after)
    (spelled : SpellsToken t word.toList)
    (simple : before.all Token.isSimple = true ∧ after.all Token.isSimple = true)
    (first : left.toList = before.flatMap Token.word)
    (last : right.toList = after.flatMap Token.word) : v.Written (left ++ word ++ right) := by
  rw [Value.Written, tokens, String.toList_append, String.toList_append, List.append_assoc, first,
    last]
  exact (spells_words simple.1).append (.token spelled (spells_words simple.2))

theorem isPlain_object_iff {fields : List Field} {ms : List (String × Value)} :
    (object ms).IsPlain fields ↔ ∀ m ∈ ms, ∀ f ∈ fields, f.name = m.1 → f.plain m.2 := by
  constructor
  · exact fun plain => plain.2 ms rfl
  · rintro each
    refine ⟨nofun, ?_⟩
    rintro _ ⟨⟩
    exact each

theorem hasPlainItems_array_iff {plain : Value → Prop} {vs : List Value} :
    (array vs).HasPlainItems plain ↔ ∀ w ∈ vs, plain w := by
  constructor
  · exact fun each => each vs rfl
  · rintro each _ ⟨⟩
    exact each

def oneRoute (pattern : String) : Value :=
  .object [("routes", .array [.object [("pattern", .string pattern)]])]

def oneRouteText (word : String) : String :=
  "\x7b\"routes\":[\x7b\"pattern\":" ++ word ++ "\x7d]\x7d"

theorem written_oneRoute {pattern word : String}
    (spelled : SpellsToken (.string (some pattern)) word.toList) :
    (oneRoute pattern).Written (oneRouteText word) := by
  have tokens : (oneRoute pattern).tokens =
      [.openObject, .string (some "routes"), .colon, .openArray, .openObject,
        .string (some "pattern"), .colon] ++ .string (some pattern) ::
          [.closeObject, .closeArray, .closeObject] := rfl
  exact written_around tokens spelled (by decide) rfl rfl

theorem isModel_oneRoute (pattern : String) : (oneRoute pattern).IsModel := by
  have single : ∀ f ∈ routeSchema, ["pattern"].count f.name ≤ 1 := by decide
  have route : Fits true routeSchema [("pattern", .string pattern)] :=
    ⟨by simp [routeSchema], single, by simp [routeSchema], by simp [routeSchema, Value.IsText]⟩
  have single' : ∀ f ∈ modelSchema, ["routes"].count f.name ≤ 1 := by decide
  refine ⟨_, rfl, by simp [modelSchema], single', by simp [modelSchema], ?_⟩
  simpa [modelSchema, Value.IsListOf] using ⟨_, rfl, route⟩

theorem isPlain_oneRoute (pattern : String) : (oneRoute pattern).IsPlain modelSchema := by
  simp [oneRoute, isPlain_object_iff, hasPlainItems_array_iff, modelSchema, routeSchema]

theorem model_loads_iff_go :
    (oneRoute "go").Written (oneRouteText "\"go\"") ∧ (oneRoute "go").InRange ∧
      (oneRoute "go").depth ≤ depthLimit ∧ (oneRoute "go").IsPlain modelSchema ∧
      ∃ m, Source.model ⟨.json, oneRouteText "\"go\""⟩ = .ok m := by
  have written : (oneRoute "go").Written (oneRouteText "\"go\"") :=
    written_oneRoute (Token.spells_word rfl)
  have inRange : (oneRoute "go").InRange := nofun
  have shallow : (oneRoute "go").depth ≤ depthLimit := by decide
  have plain := isPlain_oneRoute "go"
  exact ⟨written, inRange, shallow, plain,
    (model_loads_iff written inRange shallow plain).mpr (isModel_oneRoute "go")⟩

def extraMember (n : Number) : Value :=
  .object [("routes", .array [.object [("pattern", .string "go"), ("segments", .array [.object
    [("kind", .string "literal"), ("value", .string "x"), ("extra", .number n)]])]])]

def extraMemberText (word : String) : String :=
  "\x7b\"routes\":[\x7b\"pattern\":\"go\",\"segments\":[\x7b\"kind\":\"literal\"," ++
    "\"value\":\"x\",\"extra\":" ++ word ++ "\x7d]\x7d]\x7d"

theorem written_extraMember {n : Number} {word : String}
    (spelled : SpellsToken (.number n) word.toList) :
    (extraMember n).Written (extraMemberText word) := by
  have tokens : (extraMember n).tokens =
      [.openObject, .string (some "routes"), .colon, .openArray, .openObject,
        .string (some "pattern"), .colon, .string (some "go"), .comma, .string (some "segments"),
        .colon, .openArray, .openObject, .string (some "kind"), .colon, .string (some "literal"),
        .comma, .string (some "value"), .colon, .string (some "x"), .comma,
        .string (some "extra"), .colon] ++ .number n ::
          [.closeObject, .closeArray, .closeObject, .closeArray, .closeObject] := rfl
  exact written_around tokens spelled (by decide) rfl rfl

theorem isModel_extraMember (n : Number) : (extraMember n).IsModel := by
  have segment : Value.IsSegment (.object
      [("kind", .string "literal"), ("value", .string "x"), ("extra", .number n)]) := by
    have once : ∀ f ∈ kindField .literal :: segmentSchema .literal,
        ["kind", "value", "extra"].count f.name ≤ 1 := by decide
    refine ⟨.literal, _, rfl, nofun, once, ?_, ?_⟩
    · simp [kindField, segmentSchema]
    · simp [kindField, segmentSchema, SegmentKind.name, Value.IsText]
  have route : Fits true routeSchema [("pattern", .string "go"), ("segments", .array [.object
      [("kind", .string "literal"), ("value", .string "x"), ("extra", .number n)]])] := by
    have once : ∀ f ∈ routeSchema, ["pattern", "segments"].count f.name ≤ 1 := by decide
    refine ⟨by simp [routeSchema], once, by simp [routeSchema], ?_⟩
    simpa [routeSchema, Value.IsText, Value.IsListOf] using segment
  have once : ∀ f ∈ modelSchema, ["routes"].count f.name ≤ 1 := by decide
  refine ⟨_, rfl, by simp [modelSchema], once, by simp [modelSchema], ?_⟩
  simpa [modelSchema, Value.IsListOf] using ⟨_, rfl, route⟩

theorem isPlain_extraMember (n : Number) : (extraMember n).IsPlain modelSchema := by
  simp [extraMember, isPlain_object_iff, hasPlainItems_array_iff, modelSchema, routeSchema,
    Value.IsArray]

theorem ne_ok_of_isNone {ε α : Type} {x : Except ε α} (none : x.toOption.isNone = true) (a : α) :
    x ≠ .ok a := by
  rintro rfl
  cases none

theorem not_loads_extraMember {n : Number} (unread : n.scalar = none) {text : String}
    (written : (extraMember n).Written text) (m : Model) : Source.model ⟨.json, text⟩ ≠ .ok m := by
  have shallow : (extraMember n).depth ≤ depthLimit := Nat.le_of_ble_eq_true rfl
  have parsed : Format.json.parse text = ⟨(extraMember n).datum, true⟩ :=
    Value.parse_of_written written shallow
  rw [Source.model, Source.fields, parsed]
  simp only [extraMember, Value.datum, Value.datums, Value.entries, unread]
  refine ne_ok_of_isNone ?_ m
  decide +kernel

/-- The value keeps to the schema, but no model is loaded from the text. -/
def Refused (v : Value) (text : String) : Prop :=
  v.Written text ∧ v.depth ≤ depthLimit ∧ v.IsPlain modelSchema ∧ v.IsModel ∧
    ∀ m, Source.model ⟨.json, text⟩ ≠ .ok m

theorem refused_extraMember {n : Number} (unread : n.scalar = none) {word : String}
    (spelled : SpellsToken (.number n) word.toList) :
    Refused (extraMember n) (extraMemberText word) :=
  have written := written_extraMember spelled
  ⟨written, Nat.le_of_ble_eq_true rfl, isPlain_extraMember n, isModel_extraMember n,
    not_loads_extraMember unread written⟩

/-- A number that is too great only after its digits and its power of ten have been rounded. -/
def nearTheGreatest : Number :=
  ⟨false, "1797693134862315708".toList, none, some (false, "290".toList)⟩

theorem nearTheGreatest_le : nearTheGreatest.magnitude ≤ 2 ^ 1024 - 2 ^ 971 := by
  have less : 1797693134862315708 * 10 ^ 290 + 2 ^ 971 ≤ 2 ^ 1024 := by decide +kernel
  have value : nearTheGreatest.magnitude = (1797693134862315708 : Nat) * 10 ^ (290 : Int) := by
    have digits : Text.natOf 10 (nearTheGreatest.whole ++ nearTheGreatest.fraction.getD []) =
        1797693134862315708 := by decide +kernel
    have power : nearTheGreatest.power - (nearTheGreatest.fraction.getD []).length = 290 := by
      decide +kernel
    rw [Number.magnitude, digits, power]
  rw [value, le_sub_iff_add_le]
  exact_mod_cast less

def paddedOne (zeros : Nat) : Number :=
  ⟨false, ['0'], some (List.replicate zeros '0' ++ ['1']), some (false, "2147483648".toList)⟩

theorem magnitude_paddedOne (zeros : Nat) :
    (paddedOne zeros).magnitude = 10 ^ (2147483647 - zeros : Int) := by
  have one : Text.natOf 10 ((paddedOne zeros).whole ++ (paddedOne zeros).fraction.getD []) = 1 :=
    (Number.appended_zeros (zeros + 1) ['1']).trans rfl
  have length : ((paddedOne zeros).fraction.getD []).length = zeros + 1 := by
    rw [paddedOne, Option.getD_some, List.length_append, List.length_replicate]
    rfl
  have power : (paddedOne zeros).power = 2147483648 := by
    have digits : Text.natOf 10 "2147483648".toList = 2147483648 := by decide +kernel
    exact congrArg Int.ofNat digits
  have exponent : (2147483648 : Int) - (zeros + 1 : Nat) = 2147483647 - zeros := by omega
  rw [Number.magnitude, one, length, power, exponent, Nat.cast_one, one_mul]

theorem scalar_paddedOne (zeros : Nat) : (paddedOne zeros).scalar = none := by
  have whole : Number.gather 0 (paddedOne zeros).whole = (0, []) := rfl
  have fraction : Number.gather 0 ((paddedOne zeros).fraction.getD []) = (1, []) :=
    (Number.gather_zeros zeros ['1']).trans rfl
  have long : ¬ Text.natOf 10 "2147483648".toList < Number.exponentLimit := by decide +kernel
  have floating : (paddedOne zeros).floating = none := by
    rw [Number.floating, whole]
    dsimp only
    rw [fraction]
    dsimp only [paddedOne]
    rw [if_neg long]
    rfl
  rw [Number.scalar, whole]
  exact floating

theorem spellsToken_paddedOne (zeros : Nat) :
    ∃ word : String, SpellsToken (.number (paddedOne zeros)) word.toList := by
  have digits : IsDigits (List.replicate zeros '0' ++ ['1']) := by
    refine ⟨by simp, ?_⟩
    rw [List.forall_mem_append, List.forall_mem_singleton]
    refine ⟨?_, rfl⟩
    intro d listed
    rw [List.eq_of_mem_replicate listed]
    rfl
  have digits' : IsDigits "2147483648".toList := by decide +kernel
  have spelled : SpellsToken (.number (paddedOne zeros)) _ :=
    .number (.inl rfl) (.present digits) (.unsigned (.inl rfl) digits')
  rw [← String.toList_ofList (l := _ ++ _)] at spelled
  exact ⟨_, spelled⟩

/-- Documents that keep to the schema are refused for a number just below the greatest one, for an
exponent of 32 bits, and for half a pair of code units in the place of any text. -/
theorem schema_not_enough :
    Refused (extraMember nearTheGreatest) (extraMemberText "1797693134862315708e290") ∧
      nearTheGreatest.magnitude ≤ 2 ^ 1024 - 2 ^ 971 ∧
    (∃ word, Refused (extraMember (paddedOne 2147483646)) (extraMemberText word)) ∧
      (paddedOne 2147483646).magnitude = 10 ∧
    (∀ pattern word, SpellsToken (.string (some pattern)) word.toList →
      (oneRoute pattern).Written (oneRouteText word) ∧ (oneRoute pattern).IsModel) ∧
      Text.natural? 16 "d800".toList = some 0xD800 ∧
      ∀ m, Source.model ⟨.json, oneRouteText "\"\\ud800\""⟩ ≠ .ok m := by
  refine ⟨?_, nearTheGreatest_le, ?_, ?_, ?_, by decide +kernel, ?_⟩
  · have unread : nearTheGreatest.scalar = none := by decide +kernel
    have whole : IsWhole "1797693134862315708".toList := by decide
    have power : IsDigits "290".toList := by decide +kernel
    exact refused_extraMember unread (.number whole .absent (.unsigned (.inl rfl) power))
  · obtain ⟨word, spelled⟩ := spellsToken_paddedOne 2147483646
    exact ⟨word, refused_extraMember (scalar_paddedOne _) spelled⟩
  · exact magnitude_paddedOne 2147483646
  · exact fun pattern word spelled => ⟨written_oneRoute spelled, isModel_oneRoute pattern⟩
  · exact ne_ok_of_isNone (by decide +kernel)

end RouteWeaver.Json
