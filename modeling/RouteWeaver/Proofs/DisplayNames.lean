import RouteWeaver.Proofs.Protocol
import RouteWeaver.Proofs.Sections

namespace RouteWeaver

open Text

def Text.strayLines (text : String) : List (List Char) :=
  (pieces '\n' text.toList).tail.filter fun line => !isDocLine line

namespace Behavior

def NameInDocs (b : Behavior) : Prop :=
  strayLines b.name = []

def nameless (b : Behavior) : Behavior :=
  { b with name := "" }

end Behavior

def Model.nameless (m : Model) : Model :=
  { m with behaviors := m.behaviors.map Behavior.nameless }

namespace Row

/-- The first rows are the second ones and a number of stray lines between them. -/
inductive Strays : Nat → List Row → List Row → Prop where
  | nil : Strays 0 [] []
  | keep {n : Nat} {rows rows' : List Row} (row : Row) :
      Strays n rows rows' → Strays n (row :: rows) (row :: rows')
  | stray {n : Nat} {rows rows' : List Row} (shown : List Char) :
      Strays n rows rows' → Strays (n + 1) (.line shown :: rows) rows'

namespace Strays

variable {n k : Nat} {rows rows' others others' : List Row}

theorem refl (rows : List Row) : Strays 0 rows rows := by
  induction rows with
  | nil => exact .nil
  | cons row _ ih => exact .keep row ih

theorem append (first : Strays n rows rows') (second : Strays k others others') :
    Strays (n + k) (rows ++ others) (rows' ++ others') := by
  induction first with
  | nil => simpa using second
  | keep row _ ih => exact .keep row ih
  | @stray n _ _ shown _ ih =>
    rw [Nat.add_right_comm]
    exact .stray shown ih

theorem of_lines (pieces : List (List Char)) : Strays pieces.length (pieces.map .line) [] := by
  induction pieces with
  | nil => exact .nil
  | cons piece _ ih => exact .stray piece ih

theorem eq_of_zero (none : Strays 0 rows rows') : rows = rows' := by
  generalize count : 0 = n at none
  induction none with
  | nil => rfl
  | keep row _ ih => rw [ih count]
  | stray => cases count

theorem length_lines (strays : Strays n rows rows') (depth : UInt64) :
    (lines depth rows).length = (lines depth rows').length + n := by
  induction strays generalizing depth with
  | nil => rfl
  | keep row _ ih =>
    cases row with
    | line => simp only [lines, List.length_cons, ih]; omega
    | deeper => exact ih _
    | shallower => exact ih _
  | stray _ _ ih => simp only [lines, List.length_cons, ih]; omega

theorem lines_eq_iff (strays : Strays n rows rows') (depth : UInt64) :
    lines depth rows = lines depth rows' ↔ n = 0 := by
  constructor
  · intro same
    have longer := strays.length_lines depth
    rw [same] at longer
    omega
  · rintro rfl
    rw [strays.eq_of_zero]

end Strays

theorem lines_ne_nil (depth : UInt64) {rows : List Row} {shown : List Char}
    (member : .line shown ∈ rows) : lines depth rows ≠ [] := by
  induction rows generalizing depth with
  | nil => cases member
  | cons row rows ih =>
    cases row with
    | line => exact List.cons_ne_nil _ _
    | deeper => exact ih _ (by simpa using member)
    | shallower => exact ih _ (by simpa using member)

/-- A line of documentation about a name leaves the stray lines of the name. -/
theorem strays_doc {lead tail : String} {c : Char} {rest : List Char}
    (single : '\n' ∉ lead.toList) (doc : ∀ shown, isDocLine (lead.toList ++ shown))
    (mark : tail.toList = c :: rest) (other : c ≠ '/' ∧ c ≠ ' ') (plain : '\n' ∉ tail.toList)
    (name : String) :
    Strays (strayLines name).length (ofText (lead ++ name ++ tail)) [] := by
  obtain ⟨front, last, cut⟩ := exists_pieces_append '\n' name.toList
  have whole := cut [] List.not_mem_nil
  rw [List.append_nil, List.append_nil] at whole
  have same : isDocLine (last ++ tail.toList) = isDocLine last := by
    rw [mark, isDocLine_append_cons other.1 other.2]
  have count : (strayLines name).length = ((pieces '\n' (lead ++ name ++ tail).toList).filter
      fun piece => !isDocLine piece).length := by
    rw [strayLines, String.toList_append, String.toList_append, List.append_assoc, whole]
    cases front with
    | nil =>
      rw [pieces_append_of_notMem single (cut tail.toList plain)]
      simp [doc]
    | cons first front =>
      rw [pieces_append_of_notMem single (cut tail.toList plain)]
      simp [doc, ← List.countP_eq_length_filter, List.countP_singleton, same]
  rw [count]
  exact .of_lines _

end Row

namespace Behavior

open Row Layout

def strays (b : Behavior) : List (List Char) :=
  strayLines b.name

theorem strays_holder (b : Behavior) (t : RuleTable) :
    Strays b.strays.length (rowsAll (b.holder t).layout) (rowsAll (b.nameless.holder t).layout) := by
  have doc (b : Behavior) : Strays b.strays.length (ofText ("/// " ++ (b.holder t).doc)) [] := by
    rw [holder, String.append_assoc, ← String.append_assoc, ← String.append_assoc]
    exact strays_doc (by decide) (fun _ => rfl) rfl (by decide) (by decide) b.name
  have none : ofText ("/// " ++ (b.nameless.holder t).doc) = [] := (doc b.nameless).eq_of_zero
  have parts := (doc b).append (Strays.refl (rowsAll (b.holder t).layout.tail))
  have whole : rowsAll (b.nameless.holder t).layout =
      ofText ("/// " ++ (b.nameless.holder t).doc) ++ rowsAll (b.holder t).layout.tail := rfl
  rw [whole, none]
  exact parts

theorem strays_stateAlias (b : Behavior) (c : Config) :
    Strays b.strays.length (rowsAll (b.stateAlias c).layout)
      (rowsAll (b.nameless.stateAlias c).layout) := by
  have doc (b : Behavior) :
      Strays b.strays.length (ofText ("/// Per-invocation state of `" ++ b.name ++ "`.")) [] :=
    strays_doc (by decide) (fun _ => rfl) rfl (by decide) (by decide) b.name
  have none : ofText ("/// Per-invocation state of `" ++ b.nameless.name ++ "`.") = [] :=
    (doc b.nameless).eq_of_zero
  have parts (b : Behavior) : rowsAll (b.stateAlias c).layout =
      .line [] :: (ofText ("/// Per-invocation state of `" ++ b.name ++ "`.") ++
        rowsAll ((b.stateAlias c).layout.drop 2)) := by
    rw [StateAlias.layout, rowsAll, rowsAll, rows, rows]
    rfl
  rw [parts b, parts b.nameless, none]
  exact .keep _ ((doc b).append (Strays.refl (rowsAll ((b.stateAlias c).layout.drop 2))))

theorem strays_holders (behaviors : List Behavior) (t : RuleTable) :
    Strays (behaviors.flatMap strays).length
      (rowsAll (Holder.layoutAll (behaviors.map (·.holder t))))
      (rowsAll (Holder.layoutAll ((behaviors.map nameless).map (·.holder t)))) := by
  induction behaviors with
  | nil => exact .nil
  | cons b rest ih =>
    have first := b.strays_holder t
    cases rest with
    | nil => simpa [Holder.layoutAll] using first
    | cons c rest =>
      simpa [Holder.layoutAll, rowsAll_append, rowsAll, rows] using
        first.append (Strays.keep (.line []) ih)

theorem strays_stateAliases (behaviors : List Behavior) (c : Config) :
    Strays ((behaviors.filter fun b => !b.hasCustomState).flatMap strays).length
      (rowsAll ((stateAliases c behaviors).flatMap StateAlias.layout))
      (rowsAll ((stateAliases c (behaviors.map nameless)).flatMap StateAlias.layout)) := by
  induction behaviors with
  | nil => exact .nil
  | cons b rest ih =>
    have kind : b.nameless.hasCustomState = b.hasCustomState := rfl
    by_cases custom : b.hasCustomState
    · simpa [stateAliases, kind, custom] using ih
    · simpa [stateAliases, kind, custom, rowsAll_append] using
        (b.strays_stateAlias c).append ih

end Behavior

theorem Route.weave_map_nameless (route : Route) (index : Nat) (behaviors : List Behavior)
    (action : Action) :
    route.weave index (behaviors.map Behavior.nameless) action =
      route.weave index behaviors action := by
  by_cases none : behaviors = []
  · rw [none, List.map_nil]
  · have none' : behaviors.map Behavior.nameless ≠ [] := by simpa using none
    rw [weave_of_ne_nil _ _ _ none', weave_of_ne_nil _ _ _ none]
    simp only [Behavior.makeStates, ← List.map_reverse, List.map_map]
    rfl

namespace Model

open Row Layout

def behaviorsLayout (m : Model) : List Layout :=
  Holder.layoutAll (m.behaviors.map (·.holder m.ruleTable)) ++
    (Behavior.stateAliases m.config m.behaviors).flatMap StateAlias.layout

theorem strays_behaviorsLayout (m : Model) :
    ∃ n, Strays n (rowsAll m.behaviorsLayout) (rowsAll m.nameless.behaviorsLayout) ∧
      (n = 0 ↔ ∀ b ∈ m.behaviors, b.NameInDocs) := by
  have holders := Behavior.strays_holders m.behaviors m.ruleTable
  have aliases := Behavior.strays_stateAliases m.behaviors m.config
  have both := holders.append aliases
  rw [← rowsAll_append, ← rowsAll_append] at both
  refine ⟨_, both, ?_⟩
  rw [← List.length_append, List.length_eq_zero_iff, List.append_eq_nil_iff,
    List.flatMap_eq_nil_iff, List.flatMap_eq_nil_iff]
  exact and_iff_left_of_imp fun all b member => all b (List.mem_of_mem_filter member)

theorem codeLines_behaviorsText (m : Model) :
    codeLines m.program.behaviorsText = lines 1 (rowsAll m.behaviorsLayout) :=
  codeLines_textAt 1 m.behaviorsLayout

theorem behaviorsText_eq_empty_iff (m : Model) :
    m.program.behaviorsText = "" ↔ m.behaviors = [] := by
  constructor
  · intro empty
    by_contra some
    obtain ⟨b, rest, all⟩ := List.exists_cons_of_ne_nil some
    -- The holder of the first behavior has a blank line.
    have blank : .blank ∈ m.behaviorsLayout := by
      rw [behaviorsLayout, all]
      cases rest <;> simp [Holder.layoutAll, Holder.layout]
    have row : .line [] ∈ rowsAll m.behaviorsLayout := by
      rw [rowsAll_eq_flatMap]
      exact List.mem_flatMap.mpr ⟨_, blank, List.mem_singleton_self _⟩
    refine lines_ne_nil 1 row ?_
    rw [← codeLines_behaviorsText, empty]
    rfl
  · intro none
    simp [Program.behaviorsText, program, none, Behavior.stateAliases, Holder.layoutAll]
    rfl

theorem codeLines_behaviorsSection (m : Model) :
    codeLines m.program.behaviorsSection =
      if m.behaviors = [] then [] else ['\n'] :: lines 1 (rowsAll m.behaviorsLayout) := by
  rw [Program.behaviorsSection]
  simp only [behaviorsText_eq_empty_iff]
  split
  · rfl
  · rw [codeLines_append (by decide), codeLines_behaviorsText]
    rfl

theorem behaviorsFor_nameless (m : Model) {r : Route} (unlisted : r.behaviors.getD [] = []) :
    m.nameless.behaviorsFor r = (m.behaviorsFor r).map Behavior.nameless := by
  rw [behaviorsFor, behaviorsFor]
  split
  · rfl
  · rename_i references listed
    obtain rfl : references = [] := by simpa [listed] using unlisted
    simp

theorem routes_program_nameless (m : Model)
    (unlisted : ∀ r ∈ m.routes, r.behaviors.getD [] = []) :
    m.nameless.program.routes = m.program.routes := by
  refine List.ext_getElem (by simp [program, nameless]) fun i _ bound => ?_
  have listed : i < m.routes.length := by simpa [program] using bound
  have active := m.behaviorsFor_nameless (unlisted _ (List.getElem_mem listed))
  simp only [program, List.getElem_mapIdx]
  change m.routes[i].function m.nameless i = m.routes[i].function m i
  rw [Route.function, Route.function, active, Route.weave_map_nameless]

/-- The source keeps its code without the display names just when no line of a display name is
read as code. -/
theorem withoutDocs_nameless_iff (m : Model)
    (unlisted : ∀ r ∈ m.routes, r.behaviors.getD [] = []) :
    withoutDocs m.generate.source = withoutDocs m.nameless.generate.source ↔
      ∀ b ∈ m.behaviors, b.NameInDocs := by
  have routes := m.routes_program_nameless unlisted
  obtain ⟨n, strays, kept⟩ := m.strays_behaviorsLayout
  have bare : m.nameless.behaviors = [] ↔ m.behaviors = [] := List.map_eq_nil_iff
  rw [generate, generate, codeLines_inj (Program.ended_text _) (Program.ended_text _),
    Program.codeLines_text_eq_iff (p := m.program) (q := m.nameless.program) rfl rfl rfl
      routes.symm,
    codeLines_behaviorsSection, codeLines_behaviorsSection, ← kept]
  by_cases none : m.behaviors = []
  · simp [none, bare, kept]
  · rw [if_neg none, if_neg (mt bare.mp none), List.cons_inj_right, strays.lines_eq_iff]

end Model

/-- Of two models that differ in the display names of their behaviors, one whose names keep to the
documentation has the same code as the other just when the names of the other do, too. -/
theorem display_names_reach_no_code_iff {m m' : Model} (same : m.nameless = m'.nameless)
    (unlisted : ∀ r ∈ m.routes, r.behaviors.getD [] = [])
    (kept : ∀ b ∈ m'.behaviors, b.NameInDocs) :
    withoutDocs m.generate.source = withoutDocs m'.generate.source ↔
      ∀ b ∈ m.behaviors, b.NameInDocs := by
  have routes : m.nameless.routes = m'.nameless.routes := by rw [same]
  have plain := (m'.withoutDocs_nameless_iff fun r listed => unlisted r (routes ▸ listed)).mpr kept
  rw [plain, ← same, m.withoutDocs_nameless_iff unlisted]

namespace Named

def logging (name : String) : Behavior := ⟨"app::Logging", name, "logging", .generated, []⟩

def model (name : String) : Model := { behaviors := [logging name] }

theorem nameless_model (name name' : String) : (model name).nameless = (model name').nameless :=
  rfl

theorem forall_nameInDocs_iff (name : String) :
    (∀ b ∈ (model name).behaviors, b.NameInDocs) ↔ strayLines name = [] := by
  simp [model, logging, Behavior.NameInDocs]

end Named

open Named in
theorem display_names_reach_no_code_iff_commented :
    let m := model "Logging`\n  /// of every request, `v2"
    let m' := model "Logging"
    m.nameless = m'.nameless ∧ (∀ r ∈ m.routes, r.behaviors.getD [] = []) ∧
      (∀ b ∈ m'.behaviors, b.NameInDocs) ∧
      withoutDocs m.generate.source = withoutDocs m'.generate.source := by
  intro m m'
  have same : m.nameless = m'.nameless := nameless_model _ _
  have unlisted : ∀ r ∈ m.routes, r.behaviors.getD [] = [] := List.forall_mem_nil _
  have kept : ∀ b ∈ m'.behaviors, b.NameInDocs := (forall_nameInDocs_iff _).mpr (by decide)
  refine ⟨same, unlisted, kept, (display_names_reach_no_code_iff same unlisted kept).mpr ?_⟩
  exact (forall_nameInDocs_iff _).mpr (by decide)

open Named in
/-- What follows the line feed stands in the source as a line of code. -/
theorem further_line_reaches_code :
    (model "Logging\nv2").nameless = (model "Logging").nameless ∧
    (∀ r ∈ (model "Logging\nv2").routes, r.behaviors.getD [] = []) ∧
    withoutDocs (model "Logging\nv2").generate.source ≠
      withoutDocs (model "Logging").generate.source := by
  have unlisted (name : String) : ∀ r ∈ (model name).routes, r.behaviors.getD [] = [] :=
    List.forall_mem_nil _
  have plain := ((model "Logging").withoutDocs_nameless_iff (unlisted _)).mpr
    ((forall_nameInDocs_iff _).mpr (by decide))
  refine ⟨nameless_model _ _, unlisted _, fun same => ?_⟩
  have kept := ((model "Logging\nv2").withoutDocs_nameless_iff (unlisted _)).mp
    (same.trans plain)
  exact absurd ((forall_nameInDocs_iff _).mp kept) (by decide)

end RouteWeaver
