import RouteWeaver.Config
import RouteWeaver.Proofs.CodeLines
import RouteWeaver.Proofs.CutTexts

/-!
Texts with gaps for the path of the runtime crate. The path always stands before `::` and a line of
text, so that the lines of a text are the same for all paths but for what fills their gaps, and the
writer indents them alike.
-/

namespace RouteWeaver

open Text

/-- The settings over another runtime crate. -/
def Config.withCrate (c : Config) (crate : String) : Config :=
  { c with runtimeCrate := crate }

namespace Crate

def stem (crate : String) : String :=
  String.ofList (dropTrailingMarks crate.toList)

/-- A crate is its path and any number of marks behind it, of which the path has none at its end. -/
theorem stem_spec (crate : String) :
    (∃ n, crate.toList = (stem crate).toList ++ (List.replicate n "::".toList).flatten) ∧
      ¬ "::".toList <:+ (stem crate).toList := by
  rw [stem, String.toList_ofList, dropTrailingMarks]
  constructor
  · obtain ⟨n, split⟩ := exists_dropLeadingMarks crate.toList.reverse
    refine ⟨n, ?_⟩
    have mirrored := congrArg List.reverse split
    rw [List.reverse_reverse, List.reverse_append, marks, List.reverse_flatten, List.map_replicate,
      List.reverse_replicate] at mirrored
    exact mirrored
  · intro mark
    refine not_mark_prefix_dropLeadingMarks crate.toList.reverse ?_
    rw [← List.reverse_suffix]
    exact mark

theorem stem_append_mark (crate : String) : stem (crate ++ "::") = stem crate := by
  have mark : "::".toList.reverse = [':', ':'] := rfl
  rw [stem, stem, dropTrailingMarks, dropTrailingMarks, String.toList_append, List.reverse_append,
    mark]
  rfl

def OneLine (crate : String) : Prop :=
  '\n' ∉ crate.toList

instance (crate : String) : Decidable (OneLine crate) :=
  inferInstanceAs (Decidable ('\n' ∉ crate.toList))

/-- What fills a gap: the path and the mark behind it. -/
def gap (crate : String) : List Char :=
  (stem crate).toList ++ "::".toList

theorem gap_ne_nil (crate : String) : gap crate ≠ [] := by
  simp [gap]

theorem OneLine.gap {crate : String} (single : OneLine crate) : '\n' ∉ gap crate := by
  obtain ⟨⟨n, marks⟩, -⟩ := stem_spec crate
  have path : '\n' ∉ (stem crate).toList := by
    intro feed
    apply single
    rw [marks]
    exact List.mem_append_left _ feed
  simpa [Crate.gap] using path

end Crate

namespace Text

abbrev Gapped := List (Option Char)

def fill (gap : List Char) : Gapped → List Char
  | [] => []
  | some c :: rest => c :: fill gap rest
  | none :: rest => gap ++ fill gap rest

variable {gap : List Char}

theorem fill_append (g g' : Gapped) : fill gap (g ++ g') = fill gap g ++ fill gap g' := by
  induction g with
  | nil => rfl
  | cons x g ih =>
    cases x with
    | none => rw [List.cons_append, fill, fill, ih, List.append_assoc]
    | some c => rw [List.cons_append, fill, fill, ih, List.cons_append]

theorem fill_map_some (text : List Char) : fill gap (text.map some) = text := by
  induction text with
  | nil => rfl
  | cons c text ih => rw [List.map_cons, fill, ih]

theorem fill_eq_nil_iff (nonempty : gap ≠ []) {g : Gapped} : fill gap g = [] ↔ g = [] := by
  cases g with
  | nil => exact iff_of_true rfl rfl
  | cons x g =>
    refine iff_of_false ?_ (List.cons_ne_nil x g)
    cases x with
    | none => simp [fill, nonempty]
    | some c => simp [fill]

/-- A gap without a line feed stays within the line that it stands in. -/
theorem exists_pieces_fill (g : Gapped) :
    ∃ (first : Gapped) (rest : List Gapped), ∀ gap, '\n' ∉ gap →
    pieces '\n' (fill gap g) = fill gap first :: rest.map (fill gap) := by
  induction g with
  | nil => exact ⟨[], [], fun _ _ => rfl⟩
  | cons x g ih =>
    obtain ⟨first, rest, cut⟩ := ih
    cases x with
    | none =>
      refine ⟨none :: first, rest, fun gap plain => ?_⟩
      rw [fill, fill]
      exact pieces_append_of_notMem plain (cut gap plain)
    | some c =>
      by_cases feed : c = '\n'
      · refine ⟨[], first :: rest, fun gap plain => ?_⟩
        change pieces '\n' (c :: fill gap g) = [] :: fill gap first :: rest.map (fill gap)
        rw [pieces, if_pos feed, cut gap plain]
      · refine ⟨some c :: first, rest, fun gap plain => ?_⟩
        rw [fill, pieces, if_neg feed, cut gap plain, fill]

/-- The text between the paths, when each gap is filled with a path and a mark. -/
theorem exists_fill_eq_intercalate (g : Gapped) : ∃ first rest, ∀ path : String,
    String.ofList (fill (path.toList ++ "::".toList) g) = path.intercalate (first :: rest) := by
  induction g with
  | nil => exact ⟨"", [], fun _ => by simp [fill]⟩
  | cons x g ih =>
    obtain ⟨first, rest, cut⟩ := ih
    cases x with
    | none =>
      refine ⟨"", ("::" ++ first) :: rest, fun path => ?_⟩
      rw [fill, String.ofList_append, cut]
      cases rest <;> simp [String.intercalate_cons_cons, String.append_assoc]
    | some c =>
      refine ⟨String.singleton c ++ first, rest, fun path => ?_⟩
      rw [fill, ← List.singleton_append, String.ofList_append, cut]
      cases rest <;> simp [String.intercalate_cons_cons, String.append_assoc]

end Text

open Crate

/-- A text that depends on the crate through its path, which fills the gaps. -/
structure Uniform (text : String → String) : Prop where
  filled : ∃ g, ∀ crate, OneLine crate → (text crate).toList = fill (gap crate) g
  congr : ∀ {crate crate'}, stem crate = stem crate' → text crate = text crate'

namespace Uniform

variable {text text' : String → String}

theorem const (s : String) : Uniform fun _ => s where
  filled := ⟨s.toList.map some, fun _ _ => (fill_map_some s.toList).symm⟩
  congr _ := rfl

theorem append (first : Uniform text) (second : Uniform text') :
    Uniform fun crate => text crate ++ text' crate where
  filled := by
    obtain ⟨g, filled⟩ := first.filled
    obtain ⟨g', filled'⟩ := second.filled
    refine ⟨g ++ g', fun crate single => ?_⟩
    rw [String.toList_append, fill_append, filled crate single, filled' crate single]
  congr same := by rw [first.congr same, second.congr same]

theorem path {item name : String} (marked : item = "::" ++ name) (uniform : Uniform text) :
    Uniform fun crate => stem crate ++ (item ++ text crate) where
  filled := by
    obtain ⟨g, filled⟩ := uniform.filled
    refine ⟨none :: (name.toList.map some ++ g), fun crate single => ?_⟩
    rw [fill, fill_append, fill_map_some, ← filled crate single, gap, marked]
    simp only [String.toList_append, List.append_assoc]
  congr same := by rw [same, uniform.congr same]

theorem runtimePath (c : Config) (item : String) :
    Uniform fun crate => (c.withCrate crate).runtimePath item := by
  have written (crate : String) :
      (c.withCrate crate).runtimePath item = stem crate ++ ("::" ++ item) :=
    String.append_assoc
  simp only [written]
  exact path String.append_empty.symm (.const item)

theorem join {α : Type} {f : String → α → String} {xs : List α}
    (each : ∀ x ∈ xs, Uniform fun crate => f crate x) :
    Uniform fun crate => String.join (xs.map (f crate)) := by
  induction xs with
  | nil => exact const ""
  | cons x xs ih =>
    rw [List.forall_mem_cons] at each
    have joined := each.1.append (ih each.2)
    simpa only [List.map_cons, String.join_cons] using joined

theorem exists_pieces (uniform : Uniform text) :
    ∃ first rest, ∀ crate, OneLine crate →
      text crate = (stem crate).intercalate (first :: rest) := by
  obtain ⟨g, filled⟩ := uniform.filled
  obtain ⟨first, rest, cut⟩ := exists_fill_eq_intercalate g
  refine ⟨first, rest, fun crate single => ?_⟩
  rw [← cut, ← String.toList_inj, String.toList_ofList]
  exact filled crate single

end Uniform

namespace Writer

/-- Writers of one depth, whose texts depend on the crate in their gaps only. -/
structure Uniform (w : String → Writer) : Prop where
  depth : ∃ depth, ∀ crate, (w crate).depth = depth
  text : RouteWeaver.Uniform fun crate => (w crate).text

theorem exists_physicalLine_fill (depth : UInt64) (g : Gapped) : ∃ g', ∀ gap, gap ≠ [] →
    physicalLine depth (fill gap g) = fill gap g' := by
  cases g with
  | nil => exact ⟨[some '\n'], fun _ _ => rfl⟩
  | cons x g =>
    refine ⟨(indentation depth).map some ++ (x :: g) ++ [some '\n'], fun gap nonempty => ?_⟩
    have some : fill gap (x :: g) ≠ [] := by
      rw [Ne, fill_eq_nil_iff nonempty]
      exact List.cons_ne_nil x g
    obtain ⟨c, cs, chars⟩ := List.exists_cons_of_ne_nil some
    rw [fill_append, fill_append, fill_map_some, chars]
    rfl

theorem exists_flatMap_physicalLine_fill (depth : UInt64) (gs : List Gapped) : ∃ g, ∀ gap,
    gap ≠ [] → (gs.map (fill gap)).flatMap (physicalLine depth) = fill gap g := by
  induction gs with
  | nil => exact ⟨[], fun _ _ => rfl⟩
  | cons g gs ih =>
    obtain ⟨first, line⟩ := exists_physicalLine_fill depth g
    obtain ⟨rest, lines⟩ := ih
    refine ⟨first ++ rest, fun gap nonempty => ?_⟩
    rw [List.map_cons, List.flatMap_cons, line gap nonempty, lines gap nonempty, fill_append]

theorem uniform_lines (depth : UInt64) {text : String → String} (shown : RouteWeaver.Uniform text) :
    RouteWeaver.Uniform fun crate =>
      String.ofList ((pieces '\n' (text crate).toList).flatMap (physicalLine depth)) where
  filled := by
    obtain ⟨g, filled⟩ := shown.filled
    obtain ⟨first, rest, cut⟩ := exists_pieces_fill g
    obtain ⟨added, lines⟩ := exists_flatMap_physicalLine_fill depth (first :: rest)
    refine ⟨added, fun crate single => ?_⟩
    rw [String.toList_ofList, filled crate single, cut _ single.gap, ← lines _ (gap_ne_nil crate)]
    rfl
  congr same := by rw [shown.congr same]

namespace Uniform

variable {w : String → Writer}

theorem line (uniform : Uniform w) {text : String → String} (shown : RouteWeaver.Uniform text) :
    Uniform fun crate => (w crate).line (text crate) where
  depth := uniform.depth
  text := by
    obtain ⟨depth, depths⟩ := uniform.depth
    have written (crate : String) : ((w crate).line (text crate)).text = (w crate).text ++
        String.ofList ((pieces '\n' (text crate).toList).flatMap (physicalLine depth)) := by
      rw [Writer.line, depths crate]
    simp only [written]
    exact uniform.text.append (uniform_lines depth shown)

theorem blank (uniform : Uniform w) : Uniform fun crate => (w crate).blank where
  depth := uniform.depth
  text := uniform.text.append (.const "\n")

theorem indent (uniform : Uniform w) : Uniform fun crate => (w crate).indent where
  depth := by
    obtain ⟨depth, depths⟩ := uniform.depth
    exact ⟨depth + 1, fun crate => congrArg (· + 1) (depths crate)⟩
  text := uniform.text

theorem dedent (uniform : Uniform w) : Uniform fun crate => (w crate).dedent where
  depth := by
    obtain ⟨depth, depths⟩ := uniform.depth
    exact ⟨if depth = 0 then 0 else depth - 1,
      fun crate => congrArg (fun d => if d = 0 then 0 else d - 1) (depths crate)⟩
  text := uniform.text

end Uniform
end Writer

namespace Layout

def Uniform (layout : String → List Layout) : Prop :=
  ∀ w, Writer.Uniform w → Writer.Uniform fun crate => writeAll (w crate) (layout crate)

namespace Uniform

variable {layout layout' : String → List Layout}

theorem nil : Uniform fun _ => [] := by
  intro w uniform
  exact uniform

theorem append (first : Uniform layout) (second : Uniform layout') :
    Uniform fun crate => layout crate ++ layout' crate := by
  intro w uniform
  have both := second _ (first w uniform)
  simpa only [writeAll_append] using both

theorem cons {l : String → Layout} (first : Uniform fun crate => [l crate])
    (rest : Uniform layout) : Uniform fun crate => l crate :: layout crate :=
  first.append rest

theorem line {text : String → String} (shown : RouteWeaver.Uniform text) :
    Uniform fun crate => [.line (text crate)] := by
  intro w uniform
  exact uniform.line shown

theorem blank : Uniform fun _ => [.blank] := by
  intro w uniform
  exact uniform.blank

theorem block {opening closing : String → String} (opens : RouteWeaver.Uniform opening)
    (closes : RouteWeaver.Uniform closing) (body : Uniform layout) :
    Uniform fun crate => [.block (opening crate) (closing crate) (layout crate)] := by
  intro w uniform
  exact (body _ (uniform.line opens).indent).dedent.line closes

theorem flatMap {α : Type} {f : String → α → List Layout} {xs : List α}
    (each : ∀ x ∈ xs, Uniform fun crate => f crate x) :
    Uniform fun crate => xs.flatMap (f crate) := by
  induction xs with
  | nil => exact nil
  | cons x xs ih =>
    rw [List.forall_mem_cons] at each
    exact each.1.append (ih each.2)

theorem lines {α : Type} {f : String → α → String} {xs : List α}
    (each : ∀ x ∈ xs, RouteWeaver.Uniform fun crate => f crate x) :
    Uniform fun crate => xs.map fun x => .line (f crate x) := by
  have mapped := flatMap fun x listed => line (each x listed)
  simpa only [← List.map_eq_flatMap] using mapped

theorem textAt (uniform : Uniform layout) (depth : UInt64) :
    RouteWeaver.Uniform fun crate => Layout.textAt depth (layout crate) := by
  have start : Writer.Uniform fun _ => Writer.atDepth depth := ⟨⟨depth, fun _ => rfl⟩, .const ""⟩
  exact (uniform _ start).text

end Uniform
end Layout
end RouteWeaver
