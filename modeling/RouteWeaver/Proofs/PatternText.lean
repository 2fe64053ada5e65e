import Mathlib.Data.List.Forall2
import RouteWeaver.Proofs.Escaping
import RouteWeaver.Proofs.Protocol
import RouteWeaver.Proofs.Sections

namespace RouteWeaver

open Text

namespace Route

def bare (r : Route) : Route :=
  { r with pattern := "", segments := [] }

def quotedIn (before after : List Char) (r : Route) : List Char :=
  before ++ '"' :: ((escapeText r.pattern).toList ++ '"' :: after)

end Route

def Model.patternless (m : Model) : Model :=
  { m with routes := m.routes.map Route.bare }

/-- The lines are equal, or equal but for the pattern of a route between the same two quotes. -/
inductive EqualButPattern (m m' : Model) : List Char → List Char → Prop where
  | same (line : List Char) : EqualButPattern m m' line line
  | pattern {i : Nat} {r r' : Route} (before after : List Char) :
      m.routes[i]? = some r → m'.routes[i]? = some r' →
      EqualButPattern m m' (r.quotedIn before after) (r'.quotedIn before after)

variable {m m' : Model}

theorem EqualButPattern.physicalLine {shown shown' : List Char}
    (equal : EqualButPattern m m' shown shown') (depth : UInt64) :
    EqualButPattern m m' (Writer.physicalLine depth shown) (Writer.physicalLine depth shown') := by
  cases equal with
  | same => exact .same _
  | @pattern i r r' before after found found' =>
    have written (r : Route) : Writer.physicalLine depth (r.quotedIn before after) =
        r.quotedIn (Writer.indentation depth ++ before) (after ++ ['\n']) := by
      cases before <;> simp [Writer.physicalLine, Route.quotedIn]
    rw [written, written]
    exact .pattern _ _ found found'

namespace Row

/-- Rows of one shape, whose lines are equal but for patterns. -/
inductive Alike (m m' : Model) : Row → Row → Prop where
  | line {shown shown' : List Char} :
      EqualButPattern m m' shown shown' → Alike m m' (.line shown) (.line shown')
  | deeper : Alike m m' .deeper .deeper
  | shallower : Alike m m' .shallower .shallower

abbrev AllAlike (m m' : Model) : List Row → List Row → Prop :=
  List.Forall₂ (Alike m m')

namespace AllAlike

theorem refl (rows : List Row) : AllAlike m m' rows rows :=
  List.forall₂_same.mpr fun row _ => by
    cases row with
    | line shown => exact .line (.same shown)
    | deeper => exact .deeper
    | shallower => exact .shallower

theorem append {rows rows' others others' : List Row} (first : AllAlike m m' rows rows')
    (second : AllAlike m m' others others') : AllAlike m m' (rows ++ others) (rows' ++ others') :=
  List.rel_append first second

theorem lines {rows rows' : List Row} (alike : AllAlike m m' rows rows') (depth : UInt64) :
    List.Forall₂ (EqualButPattern m m') (Row.lines depth rows) (Row.lines depth rows') := by
  induction alike generalizing depth with
  | nil => exact .nil
  | cons first _ ih =>
    cases first with
    | line equal => exact .cons (equal.physicalLine depth) (ih depth)
    | deeper => exact ih _
    | shallower => exact ih _

/-- A text with the escaped pattern of a route between two quotes. -/
theorem ofText_quoted {i : Nat} {r r' : Route} (found : m.routes[i]? = some r)
    (found' : m'.routes[i]? = some r') {front tail : String} {before after : List Char}
    (opens : front.toList = before ++ ['"']) (closes : tail.toList = '"' :: after)
    (single : '\n' ∉ after) :
    AllAlike m m' (ofText (front ++ escapeText r.pattern ++ tail))
      (ofText (front ++ escapeText r'.pattern ++ tail)) := by
  -- The pattern has no line feed, so that both texts are cut at the same places before it.
  obtain ⟨firsts, last, cut⟩ := exists_pieces_append '\n' before
  have pieces (r : Route) : pieces '\n' (front ++ escapeText r.pattern ++ tail).toList =
      firsts ++ [r.quotedIn last after] := by
    rw [Route.quotedIn, ← cut]
    · simp [opens, closes]
    · simpa [feed_notMem_escapeText] using single
  have doc (r : Route) : isDocLine (r.quotedIn last after) = isDocLine last :=
    isDocLine_append_cons (by decide) (by decide) last _
  rw [ofText, ofText, pieces, pieces]
  simp only [List.filter_append, List.map_append]
  refine append (refl _) ?_
  by_cases isDoc : isDocLine last
  · simp [doc, isDoc]
  · simpa [doc, isDoc] using Alike.line (.pattern last after found found')

end AllAlike
end Row

namespace Layout

open Row

theorem alike_block {opening closing : String} {body body' : List Layout}
    (inside : AllAlike m m' (rowsAll body) (rowsAll body')) :
    AllAlike m m' (rows (.block opening closing body)) (rows (.block opening closing body')) := by
  rw [rows, rows]
  exact AllAlike.append (.refl _) (.cons .deeper (AllAlike.append inside (.refl _)))

theorem alike_flatMap {α : Type} {f g : α → List Layout} {xs ys : List α}
    (each : List.Forall₂ (fun x y => AllAlike m m' (rowsAll (f x)) (rowsAll (g y))) xs ys) :
    AllAlike m m' (rowsAll (xs.flatMap f)) (rowsAll (ys.flatMap g)) := by
  induction each with
  | nil => exact .nil
  | cons first _ ih =>
    rw [List.flatMap_cons, List.flatMap_cons, rowsAll_append, rowsAll_append]
    exact .append first ih

theorem alike_append {layout layout' others others' : List Layout}
    (first : AllAlike m m' (rowsAll layout) (rowsAll layout'))
    (second : AllAlike m m' (rowsAll others) (rowsAll others')) :
    AllAlike m m' (rowsAll (layout ++ others)) (rowsAll (layout' ++ others')) := by
  rw [rowsAll_append, rowsAll_append]
  exact AllAlike.append first second

end Layout

namespace Route

open Row Layout

variable {i : Nat} {r r' : Route}

theorem alike_stateObject (found : m.routes[i]? = some r) (found' : m'.routes[i]? = some r')
    (same : r.bare = r'.bare) (c : Config) (b : Behavior) :
    AllAlike m m' (rows ((b.stateObject r i).layout c)) (rows ((b.stateObject r' i).layout c)) := by
  have label : (b.stateObject r i).handler = (b.stateObject r' i).handler := by
    change escapeText (r.bare.handlerLabel i) = escapeText (r'.bare.handlerLabel i)
    rw [same]
  have command : AllAlike m m' (rows (.line ("\"" ++ escapeText r.pattern ++ "\",")))
      (rows (.line ("\"" ++ escapeText r'.pattern ++ "\","))) :=
    .ofText_quoted found found' (show "\"".toList = [] ++ ['"'] from rfl)
      (show "\",".toList = '"' :: [','] from rfl) (by decide)
  rw [StateObject.layout, StateObject.layout, label]
  refine alike_block ?_
  rw [rowsAll, rowsAll]
  refine AllAlike.append (alike_block ?_) (.refl _)
  rw [rowsAll, rowsAll]
  exact AllAlike.append command (.refl _)

theorem alike_action (found : m.routes[i]? = some r) (found' : m'.routes[i]? = some r')
    (same : r.bare = r'.bare) (c : Config) :
    AllAlike m m' (rowsAll (r.action.layout c)) (rowsAll (r'.action.layout c)) := by
  have handlers : r.handler? = r'.handler? := by
    change r.bare.handler? = r'.bare.handler?
    rw [same]
  rw [action, action, ← handlers]
  cases r.handler? with
  | some handler => exact .refl _
  | none =>
    rw [Action.layout, Action.layout, rowsAll, rowsAll]
    refine AllAlike.append ?_ (.refl _)
    exact .ofText_quoted found found'
      (show (c.runtimePath "missing_handler" ++ "(\"").toList =
        ((c.runtimePath "missing_handler").toList ++ ['(']) ++ ['"'] by simp)
      (show "\")?;".toList = '"' :: [')', '?', ';'] from rfl) (by decide)

theorem feed_notMem_codeList {mark : String} (single : '\n' ∉ mark.toList) (names : List String) :
    '\n' ∉ (codeList mark names).toList := by
  rw [codeList]
  induction names with
  | nil => simp
  | cons name rest ih =>
    have first : '\n' ∉ ("`" ++ mark ++ escapeText name ++ "`").toList := by
      simp [single, feed_notMem_escapeText]
    cases rest with
    | nil => simpa using first
    | cons next rest =>
      rw [List.map_cons, List.map_cons, String.intercalate_cons_cons, String.toList_append,
        String.toList_append, List.mem_append, List.mem_append, not_or, not_or]
      exact ⟨⟨first, by decide⟩, ih⟩

theorem feed_notMem_doc (r : Route) {line : String} (member : line ∈ r.doc) :
    '\n' ∉ line.toList := by
  have optional {P : Prop} [Decidable P] {x : String} (found : line ∈ if P then [] else [x]) :
      line = x := by
    split at found
    · cases found
    · exact List.mem_singleton.mp found
  simp only [doc, List.mem_append, List.mem_singleton] at member
  rcases member with ((rfl | found) | found) | found
  · simp [feed_notMem_escapeText]
  · rw [optional found]
    decide
  · rw [optional found, String.toList_append, List.mem_append, not_or]
    exact ⟨by decide, feed_notMem_codeList (by decide) _⟩
  · rw [optional found, String.toList_append, List.mem_append, not_or]
    exact ⟨by decide, feed_notMem_codeList (by decide) _⟩

theorem rowsAll_doc (r : Route) :
    rowsAll (r.doc.map fun line => .line ("///" ++ line)) = [] := by
  rw [rowsAll_eq_flatMap, List.flatMap_map, List.flatMap_eq_nil_iff]
  intro line member
  rw [rows, ofText, String.toList_append, pieces_of_notMem]
  · rfl
  · simpa using r.feed_notMem_doc member

theorem alike_weave (found : m.routes[i]? = some r) (found' : m'.routes[i]? = some r')
    (same : r.bare = r'.bare) (c : Config) (behaviors : List Behavior) :
    AllAlike m m' (rowsAll ((r.weave i behaviors r.action).flatMap (·.layout c)))
      (rowsAll ((r'.weave i behaviors r'.action).flatMap (·.layout c))) := by
  have act := alike_action found found' same c
  -- Without behaviors there is no region around the action.
  by_cases none : behaviors = []
  · rw [none]
    simpa [weave, Statement.layout, Step.layout] using act
  · rw [weave_of_ne_nil _ _ _ none, weave_of_ne_nil _ _ _ none, List.flatMap_append,
      List.flatMap_append]
    refine alike_append ?_ ?_
    · refine alike_flatMap ?_
      rw [Behavior.makeStates, Behavior.makeStates, List.forall₂_map_left_iff,
        List.forall₂_map_right_iff]
      refine List.forall₂_same.mpr fun b _ => ?_
      rw [Statement.layout, Statement.layout, rowsAll, rowsAll]
      exact AllAlike.append (alike_stateObject found found' same c b) (.refl _)
    · rw [List.flatMap_cons, List.flatMap_cons, Statement.layout, Statement.layout]
      refine alike_append ?_ (.refl _)
      rw [rowsAll, rowsAll]
      refine AllAlike.append (alike_block (alike_append ?_ (.refl _))) (.refl _)
      rw [List.flatMap_append, List.flatMap_append, List.flatMap_cons, List.flatMap_cons]
      exact alike_append (.refl _) (alike_append act (.refl _))

theorem alike_function (found : m.routes[i]? = some r) (found' : m'.routes[i]? = some r')
    (same : r.bare = r'.bare) (behaviors : m.behaviors = m'.behaviors) (c : Config) :
    AllAlike m m' (rowsAll ((r.function m i).layout c)) (rowsAll ((r'.function m' i).layout c)) := by
  have active : m.behaviorsFor r = m'.behaviorsFor r' := by
    change m.behaviorsFor r.bare = m'.behaviorsFor r'.bare
    rw [same, Model.behaviorsFor, Model.behaviorsFor, behaviors]
  have name : (r.function m i).name = (r'.function m' i).name := by
    rw [RouteFunction.name, RouteFunction.name, function, function]
  rw [RouteFunction.layout, RouteFunction.layout, name]
  refine alike_append ?_ ?_
  · change AllAlike m m' (rowsAll (r.doc.map _)) (rowsAll (r'.doc.map _))
    rw [rowsAll_doc, rowsAll_doc]
    exact .nil
  · rw [rowsAll, rowsAll]
    refine AllAlike.append (alike_block ?_) (.refl _)
    rw [function, function, active, List.flatMap_append, List.flatMap_append]
    exact alike_append (alike_weave found found' same c _) (.refl _)

theorem codeLines_patternEntry (r : Route) :
    codeLines (Program.patternEntry (escapeText r.pattern)) =
      [r.quotedIn "    ".toList ",\n".toList] := by
  have text : (Program.patternEntry (escapeText r.pattern)).toList =
      r.quotedIn "    ".toList ",\n".toList := by
    simp [quotedIn, Program.patternEntry]
  have isLine : IsLine (r.quotedIn "    ".toList ",\n".toList) :=
    ⟨r.quotedIn "    ".toList ",".toList, by simp [quotedIn, feed_notMem_escapeText],
      by simp [quotedIn]⟩
  have isCode : isDocLine (r.quotedIn "    ".toList ",\n".toList) = false :=
    isDocLine_append_cons (by decide) (by decide) _ _
  rw [codeLines, text, physicalLines_line isLine, List.filter_cons_of_pos (by rw [isCode]; rfl),
    List.filter_nil]

end Route

namespace Model

variable (same : m.patternless = m'.patternless)

include same

theorem map_bare_routes : m.routes.map Route.bare = m'.routes.map Route.bare := by
  change m.patternless.routes = m'.patternless.routes
  rw [same]

theorem length_routes : m.routes.length = m'.routes.length := by
  simpa using congrArg List.length (map_bare_routes same)

theorem bare_routes {i : Nat} {r r' : Route} (found : m.routes[i]? = some r)
    (found' : m'.routes[i]? = some r') : r.bare = r'.bare := by
  have routes := congrArg (·[i]?) (map_bare_routes same)
  simpa [found, found'] using routes

end Model

namespace EqualButPattern

open Row

theorem of_eq {lines lines' : List (List Char)} (equal : lines = lines') :
    List.Forall₂ (EqualButPattern m m') lines lines' :=
  equal ▸ List.forall₂_same.mpr fun line _ => .same line

variable (same : m.patternless = m'.patternless)

include same

theorem entries :
    List.Forall₂ (EqualButPattern m m')
      (m.program.patterns.flatMap fun pattern => codeLines (Program.patternEntry pattern))
      (m'.program.patterns.flatMap fun pattern => codeLines (Program.patternEntry pattern)) := by
  have pairs : List.Forall₂ (fun r r' => ∃ i, m.routes[i]? = some r ∧ m'.routes[i]? = some r')
      m.routes m'.routes :=
    List.forall₂_iff_get.mpr ⟨Model.length_routes same, fun i bound bound' => ⟨i, by simp, by simp⟩⟩
  rw [Model.program, Model.program, List.flatMap_map, List.flatMap_map]
  refine List.rel_flatMap pairs ?_
  rintro r r' ⟨i, found, found'⟩
  simp only [Route.codeLines_patternEntry]
  exact .cons (.pattern _ _ found found') .nil

theorem functions :
    List.Forall₂ (EqualButPattern m m')
      (m.program.routes.flatMap fun f => codeLines (Program.functionText m.config f))
      (m'.program.routes.flatMap fun f => codeLines (Program.functionText m.config f)) := by
  have length := Model.length_routes same
  have behaviors : m.patternless.behaviors = m'.patternless.behaviors := by rw [same]
  have pairs : List.Forall₂ (fun f f' => ∃ i, ∃ r r' : Route, m.routes[i]? = some r ∧
      m'.routes[i]? = some r' ∧ f = r.function m i ∧ f' = r'.function m' i)
      m.program.routes m'.program.routes := by
    refine List.forall₂_iff_get.mpr ⟨by simpa [Model.program] using length, ?_⟩
    intro i bound bound'
    have listed : i < m.routes.length := by simpa [Model.program] using bound
    exact ⟨i, m.routes[i], m'.routes[i], by simp, by simp, by simp [Model.program],
      by simp [Model.program]⟩
  refine List.rel_flatMap pairs ?_
  rintro _ _ ⟨i, r, r', found, found', rfl, rfl⟩
  have alike := Route.alike_function found found' (Model.bare_routes same found found') behaviors
    m.config
  simp only [Program.codeLines_functionText]
  exact List.rel_append (alike.lines 0) (of_eq rfl)

end EqualButPattern

/-- Nothing but the text between the quotes of literals depends on patterns, and nothing but
documentation on segments. -/
theorem patterns_reach_literals_only (same : m.patternless = m'.patternless) :
    List.Forall₂ (EqualButPattern m m') (codeLines m.generate.source)
      (codeLines m'.generate.source) := by
  have config : m.patternless.config = m'.patternless.config := by rw [same]
  have preamble : m.patternless.program.preamble = m'.patternless.program.preamble := by rw [same]
  have behaviors : m.patternless.program.behaviorsSection =
      m'.patternless.program.behaviorsSection := by rw [same]
  have dispatch : m.program.dispatchText = m'.program.dispatchText := by
    refine Program.dispatchText_congr config ?_
    rw [m.map_dispatchArm_routes, m'.map_dispatchArm_routes, Model.length_routes same]
  change m.program.config = m'.program.config at config
  rw [Model.generate, Model.generate, Program.codeLines_text, Program.codeLines_text, ← config]
  refine List.rel_append (EqualButPattern.of_eq (congrArg codeLines preamble)) ?_
  refine List.rel_append (EqualButPattern.of_eq (congrArg codeLines behaviors)) ?_
  refine List.rel_append (EqualButPattern.of_eq rfl) ?_
  refine List.rel_append (EqualButPattern.entries same) ?_
  refine List.rel_append (EqualButPattern.of_eq rfl) ?_
  exact List.rel_append (EqualButPattern.functions same)
    (EqualButPattern.of_eq (congrArg codeLines dispatch))

theorem patterns_reach_literals_only_quoting :
    let m : Model := { routes := [{ pattern := "deploy" }] }
    let m' : Model := {
      routes := [{ pattern := "say \"hi\"\n*/", segments := [.parameter "\n" true] }] }
    m.patternless = m'.patternless ∧
      List.Forall₂ (EqualButPattern m m') (codeLines m.generate.source)
        (codeLines m'.generate.source) := by
  intro m m'
  have same : m.patternless = m'.patternless := rfl
  exact ⟨same, patterns_reach_literals_only same⟩

end RouteWeaver
