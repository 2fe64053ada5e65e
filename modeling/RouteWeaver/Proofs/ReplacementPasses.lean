import Mathlib.Data.List.Nodup
import RouteWeaver.Text.Escape

/-!
Replacement in passes. Each pass runs over all that the passes before it wrote, and so it may
replace what was no part of the text. Where this never happens, the passes amount to a map of
characters. The converse is for passes that write more than they replace, one for each character.
-/

namespace RouteWeaver.Text.Escape

structure Pass where
  replaced : Char
  written : List Char
deriving DecidableEq

def Pass.run (p : Pass) (text : List Char) : List Char :=
  replace p.replaced p.written text

def runAll : List Pass → List Char → List Char
  | [], text => text
  | p :: later, text => runAll later (p.run text)

/-- What the first pass for a character writes for it. -/
def shownBy : List Pass → Char → List Char
  | [], c => [c]
  | p :: later, c => if c = p.replaced then p.written else shownBy later c

def Settled (passes : List Pass) : Prop :=
  passes.Pairwise fun earlier later => later.replaced ∉ earlier.written

variable {p : Pass} {passes order : List Pass} {text : List Char}

theorem shownBy_of_forall_ne {c : Char} (other : ∀ p ∈ passes, c ≠ p.replaced) :
    shownBy passes c = [c] := by
  induction passes with
  | nil => rfl
  | cons p later ih =>
    rw [List.forall_mem_cons] at other
    rw [shownBy, if_neg other.1, ih other.2]

theorem flatMap_shownBy_of_notMem (absent : ∀ p ∈ passes, p.replaced ∉ text) :
    text.flatMap (shownBy passes) = text := by
  have kept : ∀ c ∈ text, shownBy passes c = [c] := fun c member =>
    shownBy_of_forall_ne fun p listed => ne_of_mem_of_not_mem member (absent p listed)
  rw [List.flatMap_congr kept, List.flatMap_singleton']

theorem runAll_eq_flatMap (settled : Settled passes) (text : List Char) :
    runAll passes text = text.flatMap (shownBy passes) := by
  induction passes generalizing text with
  | nil => exact (List.flatMap_singleton' text).symm
  | cons p later ih =>
    obtain ⟨spared, settled⟩ := List.pairwise_cons.mp settled
    rw [runAll, ih settled, Pass.run, replace, List.flatMap_assoc]
    apply List.flatMap_congr
    intro c _
    rw [shownBy]
    split
    · exact flatMap_shownBy_of_notMem spared
    · exact List.flatMap_singleton (shownBy later) c

namespace Pass

theorem run_of_notMem (absent : p.replaced ∉ text) : p.run text = text := by
  have kept : text.flatMap (shownBy [p]) = text :=
    flatMap_shownBy_of_notMem (List.forall_mem_singleton.mpr absent)
  exact kept

@[simp] theorem run_replaced (p : Pass) : p.run [p.replaced] = p.written := by
  simp [run, replace]

theorem run_append (p : Pass) (front back : List Char) :
    p.run (front ++ back) = p.run front ++ p.run back :=
  List.flatMap_append

theorem length_le_run (longer : 2 ≤ p.written.length) (text : List Char) :
    text.length ≤ (p.run text).length := by
  induction text with
  | nil => exact Nat.zero_le _
  | cons c text ih =>
    have first : 1 ≤ (p.run [c]).length := by
      simp only [run, replace, List.flatMap_singleton]
      split
      · omega
      · exact Nat.le_refl 1
    rw [← List.singleton_append, run_append, List.length_append, List.length_append,
      List.length_singleton]
    omega

theorem length_lt_run (longer : 2 ≤ p.written.length) (member : p.replaced ∈ text) :
    text.length < (p.run text).length := by
  obtain ⟨front, back, rfl⟩ := List.append_of_mem member
  have before := length_le_run longer front
  have behind := length_le_run longer back
  rw [← List.singleton_append, run_append, run_append, run_replaced]
  simp only [List.length_append, List.length_singleton]
  omega

end Pass

theorem length_le_runAll (longer : ∀ p ∈ passes, 2 ≤ p.written.length) (text : List Char) :
    text.length ≤ (runAll passes text).length := by
  induction passes generalizing text with
  | nil => exact Nat.le_refl _
  | cons p later ih =>
    rw [List.forall_mem_cons] at longer
    exact Nat.le_trans (Pass.length_le_run longer.1 text) (ih longer.2 (p.run text))

theorem length_lt_runAll (longer : ∀ p ∈ passes, 2 ≤ p.written.length) {q : Pass}
    (listed : q ∈ passes) (member : q.replaced ∈ text) :
    text.length < (runAll passes text).length := by
  induction passes with
  | nil => exact absurd listed List.not_mem_nil
  | cons p later ih =>
    rw [List.forall_mem_cons] at longer
    rw [runAll]
    -- If the first pass leaves the text as it is, what `q` replaces is still there.
    by_cases met : p.replaced ∈ text
    · have first := Pass.length_lt_run longer.1 met
      exact Nat.lt_of_lt_of_le first (length_le_runAll longer.2 (p.run text))
    · rw [Pass.run_of_notMem met]
      have later : q ∈ later := by
        apply List.mem_of_ne_of_mem _ listed
        rintro rfl
        exact met member
      exact ih longer.2 later

theorem settled_of_agree (longer : ∀ p ∈ passes, 2 ≤ p.written.length)
    (distinct : (passes.map Pass.replaced).Nodup)
    (agree : ∀ p ∈ passes, runAll passes [p.replaced] = shownBy passes p.replaced) :
    Settled passes := by
  induction passes with
  | nil => exact .nil
  | cons p later ih =>
    rw [List.forall_mem_cons] at longer
    rw [List.map_cons, List.nodup_cons] at distinct
    have spared : ∀ q ∈ later, q.replaced ∉ p.written := by
      intro q behind member
      have grown := length_lt_runAll longer.2 behind member
      have first : runAll later p.written = p.written := by
        simpa [runAll, shownBy] using agree p List.mem_cons_self
      rw [first] at grown
      exact Nat.lt_irrefl _ grown
    -- What a later pass replaces goes through the first one unchanged.
    refine List.pairwise_cons.mpr ⟨spared, ih longer.2 distinct.2 ?_⟩
    intro q behind
    have other : q.replaced ≠ p.replaced :=
      ne_of_mem_of_not_mem (List.mem_map_of_mem behind) distinct.1
    have absent : p.replaced ∉ [q.replaced] := by simpa using other.symm
    simpa [runAll, shownBy, Pass.run_of_notMem absent, other] using agree q (.tail p behind)

/-- Passes that write more than they replace amount to a map of characters only when none of them
writes what a later one replaces. -/
theorem settled_iff (longer : ∀ p ∈ passes, 2 ≤ p.written.length)
    (distinct : (passes.map Pass.replaced).Nodup) :
    Settled passes ↔ ∀ text, runAll passes text = text.flatMap (shownBy passes) := by
  constructor
  · exact runAll_eq_flatMap
  · intro agree
    apply settled_of_agree longer distinct
    intro p _
    rw [agree, List.flatMap_singleton]

theorem shownBy_perm (same : order.Perm passes) (distinct : (passes.map Pass.replaced).Nodup)
    (c : Char) : shownBy order c = shownBy passes c := by
  induction same with
  | nil => rfl
  | cons p _ ih =>
    rw [List.map_cons, List.nodup_cons] at distinct
    rw [shownBy, shownBy, ih distinct.2]
  | swap p q rest =>
    have other : p.replaced ≠ q.replaced := by
      rintro same
      simp [same] at distinct
    simp only [shownBy]
    split
    · rename_i met
      rw [if_neg (met ▸ other.symm)]
    · rfl
  | trans first second ih₁ ih₂ =>
    have between := (second.map Pass.replaced).nodup_iff.mpr distinct
    rw [ih₁ between, ih₂ distinct]

/-- All other passes write what the leading pass replaces, and no pass writes anything else that
another one replaces. -/
structure Led (leading : Pass) (passes : List Pass) : Prop where
  listed : leading ∈ passes
  longer : ∀ p ∈ passes, 2 ≤ p.written.length
  distinct : (passes.map Pass.replaced).Nodup
  reused : ∀ p ∈ passes, p ≠ leading → leading.replaced ∈ p.written
  apart : ∀ p ∈ passes, ∀ q ∈ passes, q ≠ leading → q ≠ p → q.replaced ∉ p.written

namespace Led

variable {leading : Pass}

theorem perm (led : Led leading passes) (same : order.Perm passes) : Led leading order where
  listed := same.mem_iff.mpr led.listed
  longer p listed := led.longer p (same.mem_iff.mp listed)
  distinct := (same.map Pass.replaced).nodup_iff.mpr led.distinct
  reused p listed := led.reused p (same.mem_iff.mp listed)
  apart p listed q listed' := led.apart p (same.mem_iff.mp listed) q (same.mem_iff.mp listed')

theorem settled_iff_head (led : Led leading passes) :
    Settled passes ↔ passes.head? = some leading := by
  have single : passes.Nodup := List.Nodup.of_map Pass.replaced led.distinct
  cases passes with
  | nil => exact absurd led.listed List.not_mem_nil
  | cons p later =>
    rw [Settled, List.pairwise_cons, List.head?_cons, Option.some_inj]
    constructor
    · rintro ⟨spared, -⟩
      by_contra other
      have behind : leading ∈ later := List.mem_of_ne_of_mem (Ne.symm other) led.listed
      exact spared leading behind (led.reused p List.mem_cons_self other)
    · rintro rfl
      obtain ⟨fresh, single⟩ := List.nodup_cons.mp single
      have other : ∀ q ∈ later, q ≠ p := fun q behind => ne_of_mem_of_not_mem behind fresh
      constructor
      · intro q behind
        exact led.apart p List.mem_cons_self q (.tail p behind) (other q behind) (other q behind)
      · refine single.imp_of_mem ?_
        intro q r front behind differs
        exact led.apart q (.tail p front) r (.tail p behind) (other r behind) differs.symm

/-- Of all orders of the passes, those that begin with the leading pass amount to a map. -/
theorem agrees_iff (led : Led leading passes) (same : order.Perm passes) :
    (∀ text, runAll order text = text.flatMap (shownBy passes)) ↔
      order.head? = some leading := by
  have ordered := led.perm same
  have shown : shownBy passes = shownBy order :=
    funext fun c => (shownBy_perm same led.distinct c).symm
  rw [shown, ← settled_iff ordered.longer ordered.distinct, ordered.settled_iff_head]

end Led

def marking (c letter : Char) : Pass :=
  ⟨c, ['\\', letter]⟩

def literalPasses : List Pass :=
  [marking '\\' '\\', marking '"' '"']

def linePasses : List Pass :=
  literalPasses ++ [marking '\n' 'n', marking '\r' 'r', marking '\t' 't']

theorem literal_eq_runAll (text : List Char) : literal text = runAll literalPasses text :=
  rfl

theorem line_eq_runAll (text : List Char) : line text = runAll linePasses text :=
  rfl

theorem led_literalPasses : Led (marking '\\' '\\') literalPasses := by
  constructor <;> decide

theorem led_linePasses : Led (marking '\\' '\\') linePasses := by
  constructor <;> decide

theorem settled_literalPasses : Settled literalPasses :=
  led_literalPasses.settled_iff_head.mpr rfl

theorem settled_linePasses : Settled linePasses :=
  led_linePasses.settled_iff_head.mpr rfl

end RouteWeaver.Text.Escape
