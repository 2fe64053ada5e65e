import RouteWeaver.Program
import RouteWeaver.Proofs.MemberOrder

namespace RouteWeaver.Json

open Schema

namespace Value

def configSlots : List (Shape.Slot Config) :=
  [⟨"runtime_crate", String, fun _ => Reader.text, fun v c => { c with runtimeCrate := v }⟩,
    ⟨"module_doc", Option String, Reader.optional Reader.text,
      fun v c => { c with moduleDoc := v }⟩,
    ⟨"inner_attributes", Bool, fun _ => Reader.flag, fun v c => { c with innerAttributes := v }⟩,
    ⟨"intrinsic_types", List String, fun _ => Reader.list Reader.text,
      fun v c => { c with intrinsicTypes := v }⟩,
    ⟨"terminal_accessor", String, fun _ => Reader.text,
      fun v c => { c with terminalAccessor := v }⟩,
    ⟨"configuration_marker", String, fun _ => Reader.text,
      fun v c => { c with configurationMarker := v }⟩,
    ⟨"configuration_accessor", String, fun _ => Reader.text,
      fun v c => { c with configurationAccessor := v }⟩,
    ⟨"logger_marker", String, fun _ => Reader.text,
      fun v c => { c with loggerMarker := v }⟩,
    ⟨"logger_placeholder", String, fun _ => Reader.text,
      fun v c => { c with loggerPlaceholder := v }⟩,
    ⟨"namespace_marker", String, fun _ => Reader.text,
      fun v c => { c with namespaceMarker := v }⟩]

theorem madeOf_config : configShape.MadeOf configSlots where
  names := rfl
  put := by
    simp only [configSlots, List.forall_mem_cons, List.not_mem_nil, false_implies, implies_true,
      and_true]
    exact ⟨fun _ _ _ _ => rfl, fun _ _ _ _ => rfl, fun _ _ _ _ => rfl, fun _ _ _ _ => rfl,
      fun _ _ _ _ => rfl, fun _ _ _ _ => rfl, fun _ _ _ _ => rfl, fun _ _ _ _ => rfl,
      fun _ _ _ _ => rfl, fun _ _ _ _ => rfl⟩
  apart := by
    simp only [configSlots, List.pairwise_cons, List.forall_mem_cons, List.not_mem_nil,
      false_implies, implies_true, List.Pairwise.nil, and_true]

theorem orderly_config : configShape.Orderly := by
  refine madeOf_config.orderly ?_
  simp only [configSlots, List.forall_mem_cons, List.not_mem_nil, false_implies, implies_true,
    and_true, respects_text, respects_text.optional, respects_flag, respects_text.list]

def behaviorSlots : List (Shape.Slot BehaviorFields) :=
  [⟨"type", String, fun _ => Reader.text, fun v b => { b with type := v }⟩,
    ⟨"name", Option String, Reader.optional Reader.text, fun v b => { b with name := v }⟩,
    ⟨"state", Option String, Reader.optional Reader.text, fun v b => { b with state := v }⟩,
    ⟨"dependencies", List String, fun _ => Reader.list Reader.text,
      fun v b => { b with dependencies := v }⟩]

theorem madeOf_behavior : behaviorShape.MadeOf behaviorSlots where
  names := rfl
  put := by
    simp only [behaviorSlots, List.forall_mem_cons, List.not_mem_nil, false_implies, implies_true,
      and_true]
    exact ⟨fun _ _ _ _ => rfl, fun _ _ _ _ => rfl, fun _ _ _ _ => rfl, fun _ _ _ _ => rfl⟩
  apart := by
    simp only [behaviorSlots, List.pairwise_cons, List.forall_mem_cons, List.not_mem_nil,
      false_implies, implies_true, List.Pairwise.nil, and_true]

theorem orderly_behavior : behaviorShape.Orderly := by
  refine madeOf_behavior.orderly ?_
  simp only [behaviorSlots, List.forall_mem_cons, List.not_mem_nil, false_implies, implies_true,
    and_true, respects_text, respects_text.optional, respects_text.list]

def serviceSlots : List (Shape.Slot ServiceFields) :=
  [⟨"type", String, fun _ => Reader.text, fun v s => { s with type := v }⟩,
    ⟨"implementation", Option String, Reader.optional Reader.text,
      fun v s => { s with implementation := v }⟩]

theorem madeOf_service : serviceShape.MadeOf serviceSlots where
  names := rfl
  put := by
    simp only [serviceSlots, List.forall_mem_cons, List.not_mem_nil, false_implies, implies_true,
      and_true]
    exact ⟨fun _ _ _ _ => rfl, fun _ _ _ _ => rfl⟩
  apart := by
    simp only [serviceSlots, List.pairwise_cons, List.forall_mem_cons, List.not_mem_nil,
      false_implies, implies_true, List.Pairwise.nil, and_true]

theorem orderly_service : serviceShape.Orderly := by
  refine madeOf_service.orderly ?_
  simp only [serviceSlots, List.forall_mem_cons, List.not_mem_nil, false_implies, implies_true,
    and_true, respects_text, respects_text.optional]

theorem commutes_parameter : (segmentShape .parameter).Commutes "name" "optional" := by
  intro outer place place' d d' r
  cases r with
  | parameter n o =>
    exact Shape.bind_comm (Reader.text place d) (Reader.flag place' d') (Segment.parameter · o)
      (Segment.parameter n) Segment.parameter rfl rfl (fun _ => rfl) fun _ => rfl
  | _ => rfl

theorem commutes_long_short : (segmentShape .option).Commutes "long" "short" := by
  intro outer place place' d d' r
  cases r with
  | option l c v =>
    exact Shape.bind_comm (Reader.text place d) (Reader.optional Reader.character outer place' d')
      (Segment.option · c v) (Segment.option l · v) (Segment.option · · v) rfl rfl (fun _ => rfl)
      fun _ => rfl
  | _ => rfl

theorem commutes_long_value : (segmentShape .option).Commutes "long" "value" := by
  intro outer place place' d d' r
  cases r with
  | option l c v =>
    exact Shape.bind_comm (Reader.text place d) (Reader.optional Reader.text outer place' d')
      (Segment.option · c v) (Segment.option l c) (Segment.option · c ·) rfl rfl (fun _ => rfl)
      fun _ => rfl
  | _ => rfl

theorem commutes_short_value : (segmentShape .option).Commutes "short" "value" := by
  intro outer place place' d d' r
  cases r with
  | option l c v =>
    exact Shape.bind_comm (Reader.optional Reader.character outer place d)
      (Reader.optional Reader.text outer place' d') (Segment.option l · v) (Segment.option l c)
      (Segment.option l) rfl rfl (fun _ => rfl) fun _ => rfl
  | _ => rfl

theorem orderly_segment (kind : SegmentKind) : (segmentShape kind).Orderly where
  respects := by
    intro name known outer r
    cases kind with
    | literal =>
      obtain rfl := List.mem_singleton.mp known
      cases r with
      | literal => exact respects_text.map _
      | _ => exact fun _ _ _ _ _ => rfl
    | parameter =>
      cases r with
      | parameter =>
        rcases List.mem_pair.mp known with rfl | rfl
        · exact respects_text.map _
        · exact respects_flag.map _
      | _ => rcases List.mem_pair.mp known with rfl | rfl <;> exact fun _ _ _ _ _ => rfl
    | option =>
      have known : name = "long" ∨ name = "short" ∨ name = "value" := by
        simpa [segmentShape] using known
      cases r with
      | option =>
        rcases known with rfl | rfl | rfl
        · exact respects_text.map _
        · exact (respects_character.optional outer).map _
        · exact (respects_text.optional outer).map _
      | _ => rcases known with rfl | rfl | rfl <;> exact fun _ _ _ _ _ => rfl
  commutes := by
    have pairs : (segmentShape kind).fields.Pairwise (segmentShape kind).Commutes := by
      cases kind with
      | literal => exact List.pairwise_singleton ..
      | parameter => exact List.pairwise_pair.mpr commutes_parameter
      | option =>
        simp only [segmentShape, List.pairwise_cons, List.forall_mem_cons, List.not_mem_nil,
          false_implies, implies_true, List.Pairwise.nil, and_true]
        exact ⟨⟨commutes_long_short, commutes_long_value⟩, commutes_short_value⟩
    have symm : Std.Symm (segmentShape kind).Commutes := ⟨fun _ _ => .symm⟩
    exact fun m known n known' other => pairs.forall known known' other

theorem forall_items_congr {P : Value → Prop}
    (same : ∀ {v w : Value}, v.Reordered w → (P v ↔ P w)) {vs ws : List Value}
    (items : List.Forall₂ Reordered vs ws) : (∀ v ∈ vs, P v) ↔ ∀ w ∈ ws, P w := by
  induction items with
  | nil => exact Iff.rfl
  | cons first _ ih => rw [List.forall_mem_cons, List.forall_mem_cons, same first, ih]

theorem forall_members_congr {P : String × Value → Prop}
    (same : ∀ m o, SameMember m o → (P m ↔ P o)) {ms os ns : List (String × Value)}
    (members : List.Forall₂ SameMember ms os) (order : os.Perm ns) :
    (∀ m ∈ ms, P m) ↔ ∀ n ∈ ns, P n := by
  have pointwise : (∀ m ∈ ms, P m) ↔ ∀ o ∈ os, P o := by
    clear order
    induction members with
    | nil => exact Iff.rfl
    | cons first _ ih => rw [List.forall_mem_cons, List.forall_mem_cons, same _ _ first, ih]
  exact pointwise.trans (forall_congr' fun _ => imp_congr_left order.mem_iff)

theorem keepable_congr {v w : Value} (alike : v.Reordered w) (room : Nat) :
    Keepable room v ↔ Keepable room w := by
  induction room generalizing v w with
  | zero =>
    cases alike with
    | same v => exact Iff.rfl
    | array items => exact iff_of_false (fun kept => nomatch kept.2) fun kept => nomatch kept.2
    | object keys values order =>
      exact iff_of_false (fun kept => nomatch kept.2) fun kept => nomatch kept.2
  | succ room ih =>
    cases alike with
    | same v => exact Iff.rfl
    | array items =>
      rw [keepable_array_iff, keepable_array_iff]
      exact forall_items_congr ih items
    | object keys values order =>
      rw [keepable_object_iff, keepable_object_iff]
      exact forall_members_congr (fun _ _ same => ih same.2) (sameMembers keys values) order

theorem others_sameMembers {ms os : List (String × Value)}
    (members : List.Forall₂ SameMember ms os) :
    List.Forall₂ SameMember (others ms) (others os) := by
  refine List.rel_filter (fun m o same => ?_) members
  simp only [same.1]

theorem string_congr {v w : Value} (alike : v.Reordered w) (s : String) :
    v = .string s ↔ w = .string s := by
  cases alike with
  | same v => exact Iff.rfl
  | array items => exact iff_of_false nofun nofun
  | object keys values order => exact iff_of_false nofun nofun

theorem kinds_eq_named_congr {ms os ns : List (String × Value)}
    (members : List.Forall₂ SameMember ms os) (order : os.Perm ns) (kind : SegmentKind) :
    kinds ms = named (some kind) ↔ kinds ns = named (some kind) := by
  have count : (ms.map Prod.fst).count "kind" = (ns.map Prod.fst).count "kind" := by
    rw [keys_of_sameMembers members, (order.map Prod.fst).count_eq]
  have values := forall_members_congr (P := fun m => m.1 = "kind" → m.2 = .string kind.name)
    (fun m o same => by rw [same.1, string_congr same.2]) members order
  rw [kinds_eq_named_iff, kinds_eq_named_iff, count, values]

theorem segmentOf_congr {v w : Value} (alike : v.Reordered w) (room : Nat) (outer : Place)
    (kind : SegmentKind) :
    (segmentOf outer kind (v.within room)).toOption =
      (segmentOf outer kind (w.within room)).toOption := by
  have read := (orderly_segment kind).respects_read ⟨true, .fields⟩ alike room .root
  rw [segmentOf, segmentOf, toOption_mapError, toOption_mapError, settled_within, settled_within,
    read]

/-- A segment is read from its kind, wherever it stands, and from what else can be kept. -/
theorem respects_segment (outer : Place) : Respects (segment outer) := by
  refine .of_collections (fun vs ws items room place => ?_) fun ms os ns members order room place =>
    toOption_eq_iff.mpr fun s => ?_
  · cases items with
    | nil => rfl
    | @cons v w vs ws first rest =>
      have kept : (Reader.keepItems place true 1 (vs.map (within room))).toOption =
          (Reader.keepItems place true 1 (ws.map (within room))).toOption := by
        refine toOption_eq_iff.mpr fun _ => ?_
        rw [keepItems_iff, keepItems_iff]
        exact forall_items_congr (fun alike => keepable_congr alike room) rest
      have kind := respects_kind first room (.item place 0)
      have fields := segmentOf_congr (.array rest) (room + 1) outer
      simp only [within_array_succ] at fields
      simp only [List.map_cons, Schema.segment, toOption_bind, kind, kept, fields]
  · have members' := others_sameMembers members
    have order' : (others os).Perm (others ns) := order.filter _
    have keeps := forall_members_congr (fun m o same => keepable_congr same.2 room) members' order'
    have fields (kind : SegmentKind) := toOption_eq_iff.mp
      (segmentOf_congr (.of_sameMembers members' order') (room + 1) outer kind) s
    rw [segment_mapping_iff, segment_mapping_iff, keeps]
    simp only [kinds_eq_named_congr members order, fields]

def routeSlots : List (Shape.Slot Route) :=
  [⟨"pattern", String, fun _ => Reader.text, fun v r => { r with pattern := v }⟩,
    ⟨"segments", List Segment, fun _ place => Reader.list (segment place) place,
      fun v r => { r with segments := v }⟩,
    ⟨"handler", Option String, Reader.optional Reader.text, fun v r => { r with handler := v }⟩,
    ⟨"behaviors", Option (List String), Reader.optional (Reader.list Reader.text),
      fun v r => { r with behaviors := v }⟩]

theorem madeOf_route : routeShape.MadeOf routeSlots where
  names := rfl
  put := by
    simp only [routeSlots, List.forall_mem_cons, List.not_mem_nil, false_implies, implies_true,
      and_true]
    exact ⟨fun _ _ _ _ => rfl, fun _ _ _ _ => rfl, fun _ _ _ _ => rfl, fun _ _ _ _ => rfl⟩
  apart := by
    simp only [routeSlots, List.pairwise_cons, List.forall_mem_cons, List.not_mem_nil,
      false_implies, implies_true, List.Pairwise.nil, and_true]

theorem respects_segments : Respects fun place => Reader.list (segment place) place :=
  fun _ _ alike room place => (respects_segment place).list alike room place

theorem orderly_route : routeShape.Orderly := by
  refine madeOf_route.orderly ?_
  simp only [routeSlots, List.forall_mem_cons, List.not_mem_nil, false_implies, implies_true,
    and_true, respects_text, respects_segments, respects_text.optional, respects_text.list.optional]

def modelSlots (form : Form) : List (Shape.Slot ModelFields) :=
  [⟨"config", Config, fun _ => configShape.read form, fun v m => { m with config := v }⟩,
    ⟨"behaviors", List Behavior, fun _ => Reader.list (behavior form),
      fun v m => { m with behaviors := v }⟩,
    ⟨"services", List Service, fun _ => Reader.list (service form),
      fun v m => { m with services := v }⟩,
    ⟨"routes", List Route, fun _ => Reader.list (routeShape.read form),
      fun v m => { m with routes := v }⟩]

theorem madeOf_model (form : Form) : (modelShape form).MadeOf (modelSlots form) where
  names := rfl
  put := by
    simp only [modelSlots, List.forall_mem_cons, List.not_mem_nil, false_implies, implies_true,
      and_true]
    exact ⟨fun _ _ _ _ => rfl, fun _ _ _ _ => rfl, fun _ _ _ _ => rfl, fun _ _ _ _ => rfl⟩
  apart := by
    simp only [modelSlots, List.pairwise_cons, List.forall_mem_cons, List.not_mem_nil,
      false_implies, implies_true, List.Pairwise.nil, and_true]

theorem orderly_model (form : Form) : (modelShape form).Orderly := by
  have behaviors : Respects (behavior form) := (orderly_behavior.respects_read form).map _
  have services : Respects (service form) := (orderly_service.respects_read form).map _
  refine (madeOf_model form).orderly ?_
  simp only [modelSlots, List.forall_mem_cons, List.not_mem_nil, false_implies, implies_true,
    and_true, orderly_config.respects_read, behaviors.list, services.list,
    (orderly_route.respects_read form).list]

end Value

theorem written_words {v : Value} {text : String} (simple : v.tokens.all Token.isSimple = true)
    (words : text.toList = v.tokens.flatMap Token.word) : v.Written text := by
  rw [Value.Written, words]
  exact spells_words simple

theorem toOption_model {v : Value} {text : String} (written : v.Written text) :
    (Source.model ⟨.json, text⟩).toOption =
      ((modelShape form).read form .root (v.within depthLimit)).toOption.map
        ModelFields.model := by
  have parsed : Format.json.parse text = ⟨v.within depthLimit, true⟩ := Value.parse_within written
  rw [Source.model, toOption_map, Source.fields, toOption_mapError, parsed]
  exact congrArg _ ((toOption_bind ..).trans (Option.bind_fun_some _))

/-- Texts of a value in another order of members are the same model, or neither is one. -/
theorem member_order_irrelevant {v w : Value} {text text' : String} (written : v.Written text)
    (written' : w.Written text') (alike : v.Reordered w) :
    ((∃ m, Source.model ⟨.json, text⟩ = .ok m) ↔ ∃ m, Source.model ⟨.json, text'⟩ = .ok m) ∧
      ∀ m m', Source.model ⟨.json, text⟩ = .ok m → Source.model ⟨.json, text'⟩ = .ok m' →
        m = m' ∧ m.generate = m'.generate := by
  have read := (Value.orderly_model form).respects_read form alike depthLimit .root
  have same : ∀ m, Source.model ⟨.json, text⟩ = .ok m ↔ Source.model ⟨.json, text'⟩ = .ok m := by
    rw [← toOption_eq_iff, toOption_model written, toOption_model written', read]
  refine ⟨exists_congr same, fun m m' done done' => ?_⟩
  obtain rfl : m = m' := Except.ok.inj (((same m).mp done).symm.trans done')
  exact ⟨rfl, rfl⟩

theorem member_order_irrelevant_go :
    let literal := [("kind", Value.string "literal"), ("value", .string "go")]
    let route := fun members =>
      [("pattern", Value.string "go"), ("segments", .array [.object members])]
    let model := fun members => [("services", Value.array []), ("routes", .array [.object members])]
    let v := Value.object (model (route literal))
    let w := Value.object (model (route literal.reverse).reverse).reverse
    let text := "\x7b\"services\":[],\"routes\":[\x7b\"pattern\":\"go\",\"segments\":[\x7b" ++
      "\"kind\":\"literal\",\"value\":\"go\"\x7d]\x7d]\x7d"
    let text' := "\x7b\"routes\":[\x7b\"segments\":[\x7b\"value\":\"go\"," ++
      "\"kind\":\"literal\"\x7d],\"pattern\":\"go\"\x7d],\"services\":[]\x7d"
    v.Written text ∧ w.Written text' ∧ v.Reordered w ∧
      ∃ m, Source.model ⟨.json, text⟩ = .ok m ∧ Source.model ⟨.json, text'⟩ = .ok m := by
  intro literal route model v w text text'
  have written : v.Written text := written_words (by decide) (String.toList_append.trans rfl)
  have written' : w.Written text' := written_words (by decide) (String.toList_append.trans rfl)
  have segment : Value.Reordered (.object literal) (.object literal.reverse) :=
    .of_sameMembers (List.forall₂_same.mpr fun m _ => ⟨rfl, .same m.2⟩) literal.reverse_perm.symm
  have fields : List.Forall₂ Value.SameMember (route literal) (route literal.reverse) :=
    .cons ⟨rfl, .same _⟩ (.cons ⟨rfl, .array (.cons segment .nil)⟩ .nil)
  have inner := Value.Reordered.of_sameMembers fields (List.reverse_perm _).symm
  have lists : List.Forall₂ Value.SameMember (model (route literal))
      (model (route literal.reverse).reverse) :=
    .cons ⟨rfl, .same _⟩ (.cons ⟨rfl, .array (.cons inner .nil)⟩ .nil)
  have alike : v.Reordered w := .of_sameMembers lists (List.reverse_perm _).symm
  obtain ⟨loads, same⟩ := member_order_irrelevant written written' alike
  obtain ⟨m, done⟩ : ∃ m, Source.model ⟨.json, text⟩ = .ok m :=
    ⟨_, toOption_eq_some.mp ((toOption_model written).trans rfl)⟩
  obtain ⟨m', done'⟩ := loads.mp ⟨m, done⟩
  obtain ⟨rfl, -⟩ := same m m' done done'
  exact ⟨written, written', alike, m, done, done'⟩

end RouteWeaver.Json
