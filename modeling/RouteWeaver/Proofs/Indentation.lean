import Mathlib.Algebra.Ring.Int.Defs
import Mathlib.Algebra.Ring.Nat
import Mathlib.Tactic.Common
import RouteWeaver.Proofs.CodeLines

namespace RouteWeaver

namespace Text

/-- The text with each line further in by so many levels; empty lines stay empty. -/
def deepened (levels : Nat) (text : String) : String :=
  String.ofList ((physicalLines text.toList).flatMap fun line =>
    if line = ['\n'] then line else List.replicate (4 * levels) ' ' ++ line)

theorem deepened_append {a : String} (ended : Ended a.toList) (levels : Nat) (b : String) :
    deepened levels (a ++ b) = deepened levels a ++ deepened levels b := by
  rw [deepened, String.toList_append, physicalLines_append ended, List.flatMap_append,
    String.ofList_append]
  rfl

end Text

inductive Instruction where
  | line (text : String)
  | blank
  | indent
  | dedent
deriving DecidableEq, Repr

namespace Writer

open Text

def perform (w : Writer) : Instruction → Writer
  | .line text => w.line text
  | .blank => w.blank
  | .indent => w.indent
  | .dedent => w.dedent

def run (w : Writer) (instructions : List Instruction) : Writer :=
  instructions.foldl perform w

/-- The condition holds of each instruction with the writer that carries it out. -/
def Along (P : Writer → Instruction → Prop) (w : Writer) : List Instruction → Prop
  | [] => True
  | i :: rest => P w i ∧ Along P (w.perform i) rest

instance decidableAlong (P : Writer → Instruction → Prop) [∀ w i, Decidable (P w i)]
    (w : Writer) : (instructions : List Instruction) → Decidable (Along P w instructions)
  | [] => isTrue trivial
  | i :: rest =>
    have := decidableAlong P (w.perform i) rest
    inferInstanceAs (Decidable (P w i ∧ Along P (w.perform i) rest))

abbrev InRange : Writer → List Instruction → Prop :=
  Along fun w i => i = .indent → w.depth.toNat + 1 < 2 ^ 64

abbrev Within (depth : UInt64) : Writer → List Instruction → Prop :=
  Along fun w i => i = .dedent → w.depth ≠ depth

theorem run_append (w : Writer) (first second : List Instruction) :
    w.run (first ++ second) = (w.run first).run second := by
  simp [run]

theorem toNat_indent {w : Writer} (inRange : w.depth.toNat + 1 < 2 ^ 64) :
    w.indent.depth.toNat = w.depth.toNat + 1 := by
  simp only [indent, UInt64.toNat_add, UInt64.toNat_one]
  omega

theorem toNat_dedent (w : Writer) : w.dedent.depth.toNat = w.depth.toNat - 1 := by
  rw [dedent]
  split
  · rename_i outermost
    simp [outermost]
  · rename_i inside
    have positive : w.depth.toNat ≠ (0 : UInt64).toNat := mt UInt64.toNat_inj.mp inside
    apply UInt64.toNat_sub_of_le
    rw [UInt64.le_iff_toNat_le]
    simp only [UInt64.toNat_zero, UInt64.toNat_one] at positive ⊢
    omega

theorem depth_dedent_indent {w : Writer} (inRange : w.depth.toNat + 1 < 2 ^ 64) :
    w.indent.dedent.depth = w.depth := by
  apply UInt64.toNat_inj.mp
  rw [toNat_dedent, toNat_indent inRange, Nat.add_sub_cancel]

def behind (before : String) (w : Writer) : Writer :=
  { w with text := before ++ w.text }

theorem behind_atDepth (w : Writer) : behind w.text (atDepth w.depth) = w := by
  simp [behind, atDepth]

theorem perform_behind (before : String) (w : Writer) (i : Instruction) :
    (behind before w).perform i = behind before (w.perform i) := by
  cases i with
  | line text => simp [perform, line, behind, String.append_assoc]
  | blank => simp [perform, blank, behind, String.append_assoc]
  | indent => rfl
  | dedent => rfl

theorem run_behind (before : String) (w : Writer) (instructions : List Instruction) :
    (behind before w).run instructions = behind before (w.run instructions) := by
  induction instructions generalizing w with
  | nil => rfl
  | cons i rest ih =>
    have first := perform_behind before w i
    simp only [run, List.foldl_cons] at ih ⊢
    rw [first, ih]

/-- The second writer is so many levels further in, and has written its lines there. -/
structure Shifted (levels : Nat) (w w' : Writer) : Prop where
  text : w'.text = deepened levels w.text
  depth : w'.depth.toNat = w.depth.toNat + levels
  ended : Ended w.text.toList

variable {levels : Nat} {w w' : Writer}

theorem deepened_physicalLine {depth depth' : UInt64}
    (deeper : depth'.toNat = depth.toNat + levels) (piece : List Char) :
    (if physicalLine depth piece = ['\n'] then physicalLine depth piece
      else List.replicate (4 * levels) ' ' ++ physicalLine depth piece) =
      physicalLine depth' piece := by
  cases piece with
  | nil => rfl
  | cons c cs =>
    have shown : physicalLine depth (c :: cs) = indentation depth ++ c :: cs ++ ['\n'] := rfl
    have nonempty : physicalLine depth (c :: cs) ≠ ['\n'] := by
      intro same
      have lengths := congrArg List.length same
      simp only [shown, List.length_append, List.length_cons, List.length_nil] at lengths
      omega
    have spaces : indentation depth' = List.replicate (4 * levels) ' ' ++ indentation depth := by
      rw [indentation, indentation, deeper, List.replicate_append_replicate]
      congr 1
      omega
    rw [if_neg nonempty, shown, physicalLine, spaces]
    · simp only [List.append_assoc]
    · exact List.cons_ne_nil c cs

theorem deepened_lines {depth depth' : UInt64}
    (deeper : depth'.toNat = depth.toNat + levels) (text : List Char) :
    deepened levels (String.ofList ((pieces '\n' text).flatMap (physicalLine depth))) =
      String.ofList ((pieces '\n' text).flatMap (physicalLine depth')) := by
  rw [deepened, String.toList_ofList, physicalLines_written, List.flatMap_map]
  simp only [deepened_physicalLine deeper]

namespace Shifted

theorem line (shifted : Shifted levels w w') (text : String) :
    Shifted levels (w.line text) (w'.line text) where
  text := by
    rw [Writer.line, Writer.line, deepened_append shifted.ended, ← shifted.text,
      deepened_lines shifted.depth]
  depth := shifted.depth
  ended := by
    rw [Writer.line, String.toList_append, String.toList_ofList]
    exact shifted.ended.append (ended_written w.depth text.toList)

theorem blank (shifted : Shifted levels w w') : Shifted levels w.blank w'.blank where
  text := by
    rw [Writer.blank, Writer.blank, deepened_append shifted.ended, ← shifted.text]
    rfl
  depth := shifted.depth
  ended := by
    rw [Writer.blank, String.toList_append]
    exact shifted.ended.append (by decide)

theorem indent (shifted : Shifted levels w w') (inRange : w'.depth.toNat + 1 < 2 ^ 64) :
    Shifted levels w.indent w'.indent where
  text := shifted.text
  depth := by
    have depth := shifted.depth
    rw [toNat_indent inRange, toNat_indent (by omega)]
    omega
  ended := shifted.ended

theorem dedent (shifted : Shifted levels w w') (within : levels < w'.depth.toNat) :
    Shifted levels w.dedent w'.dedent where
  text := shifted.text
  depth := by
    have depth := shifted.depth
    rw [toNat_dedent, toNat_dedent]
    omega
  ended := shifted.ended

theorem perform {depth : UInt64} {i : Instruction} (shifted : Shifted depth.toNat w w')
    (inRange : i = .indent → w'.depth.toNat + 1 < 2 ^ 64)
    (within : i = .dedent → w'.depth ≠ depth) :
    Shifted depth.toNat (w.perform i) (w'.perform i) := by
  cases i with
  | line text => exact shifted.line text
  | blank => exact shifted.blank
  | indent => exact shifted.indent (inRange rfl)
  | dedent =>
    apply shifted.dedent
    have differs : w'.depth.toNat ≠ depth.toNat := mt UInt64.toNat_inj.mp (within rfl)
    have depth := shifted.depth
    omega

/-- Writers that carry out the same instructions stay apart by as many levels. -/
theorem run {depth : UInt64} {instructions : List Instruction}
    (shifted : Shifted depth.toNat w w') (inRange : w'.InRange instructions)
    (within : Within depth w' instructions) :
    Shifted depth.toNat (w.run instructions) (w'.run instructions) := by
  induction instructions generalizing w w' with
  | nil => exact shifted
  | cons i rest ih => exact ih (shifted.perform inRange.1 within.1) inRange.2 within.2

theorem start (depth : UInt64) : Shifted depth.toNat (atDepth 0) (atDepth depth) where
  text := by simp [atDepth, deepened, physicalLines]
  depth := by simp [atDepth]
  ended := by simp [atDepth, Ended]

end Shifted
end Writer

namespace Layout

mutual

def instructions : Layout → List Instruction
  | line text => [.line text]
  | blank => [.blank]
  | indent => [.indent]
  | dedent => [.dedent]
  | block opening closing body =>
    .line opening :: .indent :: (instructionsAll body ++ [.dedent, .line closing])

def instructionsAll : List Layout → List Instruction
  | [] => []
  | l :: rest => instructions l ++ instructionsAll rest

end

mutual

/-- The indents and dedents that stand in a layout by themselves. -/
def marks : Layout → List Instruction
  | line _ => []
  | blank => []
  | indent => [.indent]
  | dedent => [.dedent]
  | block _ _ body => marksAll body

def marksAll : List Layout → List Instruction
  | [] => []
  | l :: rest => marks l ++ marksAll rest

end

mutual

theorem run_instructions (w : Writer) (l : Layout) : w.run l.instructions = write w l := by
  cases l with
  | line text => rfl
  | blank => rfl
  | indent => rfl
  | dedent => rfl
  | block opening closing body =>
    have inside := run_instructionsAll (w.line opening).indent body
    have whole : w.run (block opening closing body).instructions =
        ((w.line opening).indent.run (instructionsAll body)).run [.dedent, .line closing] := by
      rw [← Writer.run_append]
      rfl
    rw [whole, inside]
    rfl

theorem run_instructionsAll (w : Writer) (layout : List Layout) :
    w.run (instructionsAll layout) = writeAll w layout := by
  cases layout with
  | nil => rfl
  | cons l rest =>
    rw [instructionsAll, Writer.run_append, run_instructions w l]
    exact run_instructionsAll (write w l) rest

end

end Layout

namespace Instruction

def rise : Instruction → Int
  | indent => 1
  | dedent => -1
  | line _ => 0
  | blank => 0

def riseAll (instructions : List Instruction) : Int :=
  (instructions.map rise).sum

@[simp]
theorem riseAll_nil : riseAll [] = 0 :=
  rfl

@[simp]
theorem riseAll_cons (i : Instruction) (rest : List Instruction) :
    riseAll (i :: rest) = i.rise + riseAll rest := by
  simp [riseAll]

@[simp]
theorem riseAll_append (first second : List Instruction) :
    riseAll (first ++ second) = riseAll first + riseAll second := by
  simp [riseAll]

theorem riseAll_of_prefix_single {i : Instruction} {before : List Instruction}
    (started : before <+: [i]) (level : i.rise = 0) : riseAll before = 0 := by
  rcases List.prefix_cons_iff.mp started with rfl | ⟨rest, rfl, nothing⟩
  · rfl
  · obtain rfl := List.prefix_nil.mp nothing
    simp [level]

theorem prefix_append_or {before first second : List Instruction}
    (started : before <+: first ++ second) :
    before <+: first ∨ ∃ rest, rest <+: second ∧ before = first ++ rest := by
  rcases List.prefix_or_prefix_of_prefix started (List.prefix_append first second) with
    inside | beyond
  · exact .inl inside
  · obtain ⟨rest, rfl⟩ := beyond
    exact .inr ⟨rest, (List.prefix_append_right_inj first).mp started, rfl⟩

end Instruction

namespace Layout

open Instruction

/-- Each dedent has an indent before it that it takes back, and no indent is left. -/
structure Matched (layout : List Layout) : Prop where
  taken : ∀ before, before <+: marksAll layout → 0 ≤ riseAll before
  whole : riseAll (marksAll layout) = 0

-- A block adds a level and takes it back.
mutual

theorem rise_instructions (l : Layout) : riseAll l.instructions = riseAll l.marks := by
  cases l with
  | line text => rfl
  | blank => rfl
  | indent => rfl
  | dedent => rfl
  | block opening closing body =>
    have inside := rise_instructionsAll body
    simp only [instructions, marks, riseAll_cons, riseAll_append, riseAll_nil, rise, inside]
    omega

theorem rise_instructionsAll (layout : List Layout) :
    riseAll (instructionsAll layout) = riseAll (marksAll layout) := by
  cases layout with
  | nil => rfl
  | cons l rest =>
    rw [instructionsAll, marksAll, riseAll_append, riseAll_append, rise_instructions l,
      rise_instructionsAll rest]

end

-- Up to any instruction, blocks have added levels to those of the marks before it.
mutual

theorem exists_marks_rise_le {l : Layout} {before : List Instruction}
    (started : before <+: l.instructions) :
    ∃ met, met <+: l.marks ∧ riseAll met ≤ riseAll before := by
  cases l with
  | line text =>
    have level := riseAll_of_prefix_single started rfl
    exact ⟨[], List.nil_prefix, by simp [level]⟩
  | blank =>
    have level := riseAll_of_prefix_single started rfl
    exact ⟨[], List.nil_prefix, by simp [level]⟩
  | indent => exact ⟨before, started, Int.le_refl _⟩
  | dedent => exact ⟨before, started, Int.le_refl _⟩
  | block opening closing body =>
    rcases List.prefix_cons_iff.mp started with rfl | ⟨_, rfl, opened⟩
    · exact ⟨[], List.nil_prefix, Int.le_refl _⟩
    rcases List.prefix_cons_iff.mp opened with rfl | ⟨_, rfl, entered⟩
    · exact ⟨[], List.nil_prefix, Int.le_refl _⟩
    rcases prefix_append_or entered with inside | ⟨closed, left, rfl⟩
    · obtain ⟨met, marked, fewer⟩ := exists_marksAll_rise_le inside
      refine ⟨met, marked, ?_⟩
      simp only [riseAll_cons, rise]
      omega
    · -- All of the body is carried out, and at most the level that the block added is taken back.
      have whole := rise_instructionsAll body
      have taken : -1 ≤ riseAll closed := by
        rcases List.prefix_cons_iff.mp left with rfl | ⟨_, rfl, ended⟩
        · simp
        · simp [riseAll_of_prefix_single ended rfl, rise]
      refine ⟨marksAll body, List.prefix_rfl, ?_⟩
      simp only [riseAll_cons, riseAll_append, rise]
      omega

theorem exists_marksAll_rise_le {layout : List Layout} {before : List Instruction}
    (started : before <+: instructionsAll layout) :
    ∃ met, met <+: marksAll layout ∧ riseAll met ≤ riseAll before := by
  cases layout with
  | nil => exact ⟨before, started, Int.le_refl _⟩
  | cons l rest =>
    rcases prefix_append_or started with inside | ⟨later, beyond, rfl⟩
    · obtain ⟨met, marked, fewer⟩ := exists_marks_rise_le inside
      exact ⟨met, marked.trans (List.prefix_append _ _), fewer⟩
    · obtain ⟨met, marked, fewer⟩ := exists_marksAll_rise_le beyond
      refine ⟨l.marks ++ met, (List.prefix_append_right_inj l.marks).mpr marked, ?_⟩
      rw [riseAll_append, riseAll_append, rise_instructions]
      omega

end

end Layout

namespace Writer

variable {w : Writer} {instructions : List Instruction}

theorem depth_perform {i : Instruction} (inRange : i = .indent → w.depth.toNat + 1 < 2 ^ 64)
    (inside : 0 ≤ w.depth.toNat + i.rise) :
    ((w.perform i).depth.toNat : Int) = w.depth.toNat + i.rise := by
  cases i with
  | line text => simp [perform, line, Instruction.rise]
  | blank => simp [perform, blank, Instruction.rise]
  | indent =>
    rw [perform, toNat_indent (inRange rfl)]
    rfl
  | dedent =>
    simp only [Instruction.rise] at inside ⊢
    rw [perform, toNat_dedent]
    omega

/-- Where instructions never lead out of a depth, no dedent is carried out there, and the depth
changes by the levels they lead further in. -/
theorem within_of_rise {depth : UInt64} (inRange : w.InRange instructions)
    (inside : ∀ before, before <+: instructions →
      depth.toNat ≤ w.depth.toNat + Instruction.riseAll before) :
    Within depth w instructions ∧
      ((w.run instructions).depth.toNat : Int) =
        w.depth.toNat + Instruction.riseAll instructions := by
  induction instructions generalizing w with
  | nil => exact ⟨trivial, by simp [run]⟩
  | cons i rest ih =>
    have first := inside [i] (List.prefix_append [i] rest)
    simp only [Instruction.riseAll_cons, Instruction.riseAll_nil] at first
    have moved := depth_perform inRange.1 (by omega)
    have later : ∀ before, before <+: rest →
        depth.toNat ≤ (w.perform i).depth.toNat + Instruction.riseAll before := by
      intro before started
      have whole := inside (i :: before) ((List.prefix_cons_inj i).mpr started)
      simp only [Instruction.riseAll_cons] at whole
      omega
    obtain ⟨within, reached⟩ := ih inRange.2 later
    refine ⟨⟨?_, within⟩, ?_⟩
    · rintro rfl same
      simp only [Instruction.rise, same] at first
      omega
    · rw [Instruction.riseAll_cons, ← Int.add_assoc, ← moved]
      exact reached

end Writer

namespace Layout

open Instruction

theorem writeAll_eq_behind (w : Writer) (layout : List Layout) :
    writeAll w layout = (writeAll (.atDepth w.depth) layout).behind w.text := by
  rw [← run_instructionsAll, ← run_instructionsAll, ← Writer.run_behind, Writer.behind_atDepth]

theorem Matched.rise_nonneg {layout : List Layout} (matched : Matched layout)
    {before : List Instruction} (started : before <+: instructionsAll layout) :
    0 ≤ riseAll before := by
  obtain ⟨met, marked, fewer⟩ := exists_marksAll_rise_le started
  exact Int.le_trans (matched.taken met marked) fewer

/-- At another depth, a layout writes what it writes at depth zero, further in by as many levels, as
long as no dedent is carried out at the depth it starts from. If its indents and dedents match,
none is, and the layout leads back to that depth. Whatever is written is added to the text. -/
theorem text_moves_with_depth (depth : UInt64) {layout : List Layout}
    (inRange : (Writer.atDepth depth).InRange (instructionsAll layout)) :
    (Writer.Within depth (.atDepth depth) (instructionsAll layout) →
      textAt depth layout = Text.deepened depth.toNat (textAt 0 layout) ∧
      (writeAll (.atDepth depth) layout).depth.toNat =
        (writeAll (.atDepth 0) layout).depth.toNat + depth.toNat) ∧
    (Matched layout → Writer.Within depth (.atDepth depth) (instructionsAll layout) ∧
      (writeAll (.atDepth depth) layout).depth = depth) ∧
    ∀ w l, (write w l).text = w.text ++ textAt w.depth [l] := by
  refine ⟨fun within => ?_, fun matched => ?_, fun w l => ?_⟩
  · have shifted := (Writer.Shifted.start depth).run inRange within
    rw [run_instructionsAll, run_instructionsAll] at shifted
    exact ⟨shifted.text, shifted.depth⟩
  · have inside : ∀ before, before <+: instructionsAll layout →
        (depth.toNat : Int) ≤ (Writer.atDepth depth).depth.toNat + riseAll before := by
      intro before started
      have above := matched.rise_nonneg started
      simp only [Writer.atDepth]
      omega
    obtain ⟨within, reached⟩ := Writer.within_of_rise inRange inside
    refine ⟨within, UInt64.toNat_inj.mp ?_⟩
    rw [run_instructionsAll, rise_instructionsAll, matched.whole,
      Int.add_zero] at reached
    exact Int.ofNat_inj.mp reached
  · exact congrArg Writer.text (writeAll_eq_behind w [l])

theorem text_moves_with_depth_block :
    let layout : List Layout :=
      [.block "fn f() \x7b" "\x7d" [.line "a\n\nb", .indent, .line "c", .dedent]]
    (Writer.atDepth 2).InRange (instructionsAll layout) ∧
    Writer.Within 2 (.atDepth 2) (instructionsAll layout) ∧ Matched layout ∧
    textAt 2 layout = Text.deepened 2 (textAt 0 layout) ∧
    Text.deepened 2 (textAt 0 layout) =
      "        fn f() \x7b\n            a\n\n            b\n                c\n        \x7d\n" := by
  intro layout
  have inRange : (Writer.atDepth 2).InRange (instructionsAll layout) := by
    decide +kernel
  have matched : Matched layout := by
    refine ⟨?_, rfl⟩
    intro before started
    rcases List.prefix_cons_iff.mp started with rfl | ⟨_, rfl, indented⟩
    · decide
    rcases List.prefix_cons_iff.mp indented with rfl | ⟨_, rfl, dedented⟩
    · decide
    obtain rfl := List.prefix_nil.mp dedented
    decide
  obtain ⟨moves, restores, -⟩ := text_moves_with_depth 2 inRange
  obtain ⟨within, -⟩ := restores matched
  exact ⟨inRange, within, matched, (moves within).1, by decide +kernel⟩

end Layout
end RouteWeaver
