import Mathlib.Data.Finset.Insert
import Mathlib.Data.List.Pairwise
import RouteWeaver.Program
import RouteWeaver.Proofs.ModelSchema

namespace RouteWeaver

theorem toOption_map {ε α β : Type} (f : α → β) (x : Except ε α) :
    (f <$> x).toOption = x.toOption.map f := by
  cases x <;> rfl

theorem toOption_bind {ε α β : Type} (x : Except ε α) (f : α → Except ε β) :
    (x >>= f).toOption = x.toOption.bind fun a => (f a).toOption := by
  cases x <;> rfl

theorem toOption_mapError {ε ε' α : Type} (f : ε → ε') (x : Except ε α) :
    (x.mapError f).toOption = x.toOption := by
  cases x <;> rfl

theorem toOption_eq_some {ε α : Type} {x : Except ε α} {a : α} :
    x.toOption = some a ↔ x = .ok a := by
  cases x with
  | error e => exact iff_of_false nofun nofun
  | ok b => rw [Except.toOption, Option.some_inj, Except.ok.injEq]

theorem toOption_eq_iff {ε α : Type} {x y : Except ε α} :
    x.toOption = y.toOption ↔ ∀ a, x = .ok a ↔ y = .ok a := by
  constructor
  · intro same a
    rw [← toOption_eq_some, same, toOption_eq_some]
  · exact fun same => Option.ext fun a =>
      toOption_eq_some.trans ((same a).trans toOption_eq_some.symm)

namespace Json.Value

/-- The same value, but for the order of the members of objects. Between two objects stands a third
one with the keys of the first and the members of the second. -/
inductive Reordered : Value → Value → Prop where
  | same (v : Value) : Reordered v v
  | array {vs ws : List Value} (items : List.Forall₂ Reordered vs ws) :
      Reordered (.array vs) (.array ws)
  | object {ms os ns : List (String × Value)} (keys : ms.map Prod.fst = os.map Prod.fst)
      (values : List.Forall₂ Reordered (ms.map Prod.snd) (os.map Prod.snd)) (order : os.Perm ns) :
      Reordered (.object ms) (.object ns)

def SameMember (m n : String × Value) : Prop :=
  m.1 = n.1 ∧ m.2.Reordered n.2

theorem sameMembers {ms os : List (String × Value)} (keys : ms.map Prod.fst = os.map Prod.fst)
    (values : List.Forall₂ Reordered (ms.map Prod.snd) (os.map Prod.snd)) :
    List.Forall₂ SameMember ms os := by
  induction ms generalizing os with
  | nil =>
    obtain rfl := List.map_eq_nil_iff.mp keys.symm
    exact .nil
  | cons m ms ih =>
    cases os with
    | nil => cases keys
    | cons o os =>
      obtain ⟨key, keys⟩ := List.cons.inj keys
      obtain ⟨value, values⟩ := List.forall₂_cons.mp values
      exact .cons ⟨key, value⟩ (ih keys values)

theorem keys_of_sameMembers {ms os : List (String × Value)}
    (members : List.Forall₂ SameMember ms os) : ms.map Prod.fst = os.map Prod.fst := by
  induction members with
  | nil => rfl
  | cons first _ ih => rw [List.map_cons, List.map_cons, first.1, ih]

theorem Reordered.of_sameMembers {ms os ns : List (String × Value)}
    (members : List.Forall₂ SameMember ms os) (order : os.Perm ns) :
    Reordered (.object ms) (.object ns) := by
  refine .object (keys_of_sameMembers members) ?_ order
  rw [List.forall₂_map_left_iff, List.forall₂_map_right_iff]
  exact members.imp fun _ _ same => same.2

/-- The order of members makes no difference to the reader. -/
def Respects {α : Type} (read : Place → Datum → Except Problem α) : Prop :=
  ∀ ⦃v w : Value⦄, v.Reordered w → ∀ room place,
    (read place (v.within room)).toOption = (read place (w.within room)).toOption

variable {α β : Type} {read : Place → Datum → Except Problem α}

/-- Only collections can differ in the order of members. -/
theorem Respects.of_collections
    (arrays : ∀ vs ws, List.Forall₂ Reordered vs ws → ∀ room place,
      (read place (.sequence (vs.map (within room)) true)).toOption =
        (read place (.sequence (ws.map (within room)) true)).toOption)
    (objects : ∀ ms os ns, List.Forall₂ SameMember ms os → os.Perm ns → ∀ room place,
      (read place (.mapping (entriesWithin room ms) true)).toOption =
        (read place (.mapping (entriesWithin room ns) true)).toOption) :
    Respects read := by
  intro v w alike room place
  cases alike with
  | same v => rfl
  | @array vs ws items =>
    cases room with
    | zero => rw [within_array_zero, within_array_zero]
    | succ room =>
      rw [within_array_succ, within_array_succ]
      exact arrays vs ws items room place
  | @object ms os ns keys values order =>
    cases room with
    | zero => rw [within_object_zero, within_object_zero]
    | succ room =>
      rw [within_object_succ, within_object_succ]
      exact objects ms os ns (sameMembers keys values) order room place

theorem respects_text : Respects Reader.text :=
  .of_collections (fun _ _ _ _ _ => rfl) fun _ _ _ _ _ _ _ => rfl

theorem respects_flag : Respects Reader.flag :=
  .of_collections (fun _ _ _ _ _ => rfl) fun _ _ _ _ _ _ _ => rfl

theorem respects_character : Respects Reader.character :=
  .of_collections (fun _ _ _ _ _ => rfl) fun _ _ _ _ _ _ _ => rfl

theorem respects_kind : Respects Schema.SegmentKind.read :=
  .of_collections (fun _ _ _ _ _ => rfl) fun _ _ _ _ _ _ _ => rfl

theorem Respects.map (respects : Respects read) (f : α → β) :
    Respects fun place d => f <$> read place d := by
  intro v w alike room place
  rw [toOption_map, toOption_map, respects alike]

theorem Respects.optional (respects : Respects read) (outer : Place) :
    Respects (Reader.optional read outer) := by
  have array_present (vs : List Value) (room : Nat) (place : Place) :
      Reader.optional read outer place ((array vs).within room) =
        some <$> read place ((array vs).within room) := by
    cases room <;> rfl
  have object_present (ms : List (String × Value)) (room : Nat) (place : Place) :
      Reader.optional read outer place ((object ms).within room) =
        some <$> read place ((object ms).within room) := by
    cases room <;> rfl
  intro v w alike room place
  have inner := respects.map some alike room place
  cases alike with
  | same v => rfl
  | array items => rwa [array_present, array_present]
  | object keys values order => rwa [object_present, object_present]

theorem Respects.items (respects : Respects read) {vs ws : List Value}
    (items : List.Forall₂ Reordered vs ws) (room : Nat) (place : Place) (i : Nat) :
    (Reader.items read place true i (vs.map (within room))).toOption =
      (Reader.items read place true i (ws.map (within room))).toOption := by
  induction items generalizing i with
  | nil => rfl
  | cons first _ ih =>
    simp only [List.map_cons, Reader.items, toOption_bind, respects first, ih]

theorem Respects.list (respects : Respects read) : Respects (Reader.list read) :=
  .of_collections (fun _ _ items room place => respects.items items room place 0)
    fun _ _ _ _ _ _ _ => rfl

end Json.Value

namespace Shape

open Json Value

variable {α : Type}

def Commutes (shape : Shape α) (m n : String) : Prop :=
  ∀ outer place place' d d' r,
    (shape.put m outer place d r >>= fun r' => shape.put n outer place' d' r').toOption =
      (shape.put n outer place' d' r >>= fun r' => shape.put m outer place d r').toOption

/-- The fields may be read in any order, and so may the members of objects in them. -/
structure Orderly (shape : Shape α) : Prop where
  respects : ∀ name ∈ shape.fields, ∀ outer r,
    Respects fun place d => shape.put name outer place d r
  commutes : ∀ m ∈ shape.fields, ∀ n ∈ shape.fields, m ≠ n → shape.Commutes m n

/-- Reads a member into the record so far. The set is of the fields that were read before. -/
def step (shape : Shape α) (room : Nat) (place : Place) (before : Option (Finset String × α))
    (m : String × Value) : Option (Finset String × α) :=
  before.bind fun out =>
    if m.1 ∈ shape.fields then
      if m.1 ∈ out.1 then none
      else (shape.put m.1 place (.field place m.1) (m.2.within room) out.2).toOption.map fun r =>
        (insert m.1 out.1, r)
    else if shape.strict then none else some out

theorem foldl_step_none (shape : Shape α) (room : Nat) (place : Place)
    (ms : List (String × Value)) : ms.foldl (shape.step room place) none = none := by
  induction ms with
  | nil => rfl
  | cons m ms ih => exact ih

/-- The entries of a mapping are read one after the other. Of the fields that were read before only
the set matters. -/
theorem entries_eq_foldl (shape : Shape α) (room : Nat) (place : Place) (seen : List String)
    (r : α) (ms : List (String × Value)) :
    (shape.entries place true seen r (entriesWithin room ms)).toOption.map
        (fun out => (out.1.toFinset, out.2)) =
      ms.foldl (shape.step room place) (some (seen.toFinset, r)) := by
  induction ms generalizing seen r with
  | nil => rfl
  | cons m ms ih =>
    obtain ⟨k, v⟩ := m
    rw [entriesWithin_cons, List.foldl_cons, step, Option.bind_some]
    by_cases known : k ∈ shape.fields
    · rw [entries_cons_of_mem known, if_pos known]
      by_cases old : k ∈ seen
      · rw [if_pos old, if_pos (List.mem_toFinset.mpr old), foldl_step_none]
        rfl
      · rw [if_neg old, if_neg (mt List.mem_toFinset.mp old), toOption_bind]
        cases (shape.put k place (.field place k) (v.within room) r).toOption with
        | none => exact (foldl_step_none ..).symm
        | some r' => exact (ih (k :: seen) r').trans (by rw [List.toFinset_cons]; rfl)
    · rw [entries_cons_of_not_mem known (whole_within v room), if_neg known]
      cases shape.strict with
      | true => exact (foldl_step_none ..).symm
      | false => exact ih seen r

theorem ofEntries_eq_foldl (shape : Shape α) (room : Nat) (place : Place)
    (ms : List (String × Value)) :
    (shape.ofEntries place true (entriesWithin room ms)).toOption =
      (ms.foldl (shape.step room place) (some (∅, shape.start))).bind fun out =>
        if ∀ n ∈ shape.required, n ∈ out.1 then some out.2 else none := by
  have fold := entries_eq_foldl shape room place [] shape.start ms
  rw [List.toFinset_nil] at fold
  rw [← fold, ofEntries, toOption_bind, Option.bind_map]
  congr 1
  funext out
  obtain ⟨seen, r⟩ := out
  have complete : shape.required.find? (· ∉ seen) = none ↔
      ∀ n ∈ shape.required, n ∈ seen.toFinset := by
    simp
  simp only [Function.comp_apply]
  cases missing : shape.required.find? (· ∉ seen) with
  | none =>
    rw [if_pos (complete.mp missing)]
    rfl
  | some name =>
    have lacking : ¬ ∀ n ∈ shape.required, n ∈ seen.toFinset := fun all => by
      rw [complete.mpr all] at missing
      cases missing
    rw [if_neg lacking]
    rfl

theorem step_unknown {shape : Shape α} {m : String × Value} (unknown : m.1 ∉ shape.fields)
    (room : Nat) (place : Place) (before : Option (Finset String × α)) :
    shape.step room place before m = if shape.strict then none else before := by
  cases before with
  | none => exact (ite_self none).symm
  | some out => rw [step, Option.bind_some, if_neg unknown]

section

variable {shape : Shape α} {m n : String × Value} (known : m.1 ∈ shape.fields)
  (known' : n.1 ∈ shape.fields) (room : Nat) (place : Place)

include known known'

theorem step_step {seen : Finset String} (fresh : m.1 ∉ seen) (fresh' : n.1 ∉ seen)
    (other : m.1 ≠ n.1) (r : α) :
    shape.step room place (shape.step room place (some (seen, r)) m) n =
      (shape.put m.1 place (.field place m.1) (m.2.within room) r >>= fun r' =>
        shape.put n.1 place (.field place n.1) (n.2.within room) r').toOption.map fun r =>
          (insert n.1 (insert m.1 seen), r) := by
  have later : n.1 ∉ insert m.1 seen := by
    rw [Finset.mem_insert, not_or]
    exact ⟨other.symm, fresh'⟩
  rw [toOption_bind]
  simp only [step, Option.bind_some, if_pos known, if_pos known', if_neg fresh]
  cases (shape.put m.1 place (.field place m.1) (m.2.within room) r).toOption with
  | none => rfl
  | some r' => exact if_neg later

theorem step_step_of_clash {seen : Finset String} (clash : m.1 = n.1 ∨ m.1 ∈ seen ∨ n.1 ∈ seen)
    (r : α) : shape.step room place (shape.step room place (some (seen, r)) m) n = none := by
  simp only [step, Option.bind_some, if_pos known, if_pos known']
  split
  · rfl
  · rename_i fresh
    have later : n.1 ∈ insert m.1 seen := by
      rw [Finset.mem_insert]
      rcases clash with same | old | old
      · exact .inl same.symm
      · exact absurd old fresh
      · exact .inr old
    cases (shape.put m.1 place (.field place m.1) (m.2.within room) r).toOption with
    | none => rfl
    | some r' => exact if_pos later

end

namespace Orderly

variable {shape : Shape α}

theorem step_congr (orderly : shape.Orderly) (room : Nat) (place : Place)
    (before : Option (Finset String × α)) {m o : String × Value} (same : SameMember m o) :
    shape.step room place before m = shape.step room place before o := by
  obtain ⟨k, v⟩ := m
  obtain ⟨l, w⟩ := o
  obtain ⟨rfl, alike⟩ : k = l ∧ v.Reordered w := same
  rcases before with - | ⟨seen, r⟩
  · rfl
  · by_cases known : k ∈ shape.fields
    · have put := orderly.respects k known place r alike room (.field place k)
      dsimp only at put
      simp only [step, Option.bind_some, put]
    · rw [step_unknown known, step_unknown known]

/-- Members are read in any order: a field cannot be read twice, and two fields commute. -/
theorem step_right_comm (orderly : shape.Orderly) (room : Nat) (place : Place)
    (before : Option (Finset String × α)) (m n : String × Value) :
    shape.step room place (shape.step room place before m) n =
      shape.step room place (shape.step room place before n) m := by
  by_cases known : m.1 ∈ shape.fields
  · by_cases known' : n.1 ∈ shape.fields
    · cases before with
      | none => rfl
      | some out =>
        obtain ⟨seen, r⟩ := out
        by_cases clash : m.1 = n.1 ∨ m.1 ∈ seen ∨ n.1 ∈ seen
        · have clash' : n.1 = m.1 ∨ n.1 ∈ seen ∨ m.1 ∈ seen := by tauto
          rw [step_step_of_clash known known' room place clash,
            step_step_of_clash known' known room place clash']
        · simp only [not_or] at clash
          obtain ⟨other, fresh, fresh'⟩ := clash
          rw [step_step known known' room place fresh fresh' other,
            step_step known' known room place fresh' fresh (Ne.symm other), Finset.insert_comm,
            orderly.commutes m.1 known n.1 known' other]
    · rw [step_unknown known', step_unknown known']
      split <;> rfl
  · rw [step_unknown known, step_unknown known]
    split <;> rfl

theorem foldl_step_congr (orderly : shape.Orderly) (room : Nat) (place : Place)
    (before : Option (Finset String × α)) {ms os : List (String × Value)}
    (members : List.Forall₂ SameMember ms os) :
    ms.foldl (shape.step room place) before = os.foldl (shape.step room place) before := by
  induction members generalizing before with
  | nil => rfl
  | cons first _ ih =>
    rw [List.foldl_cons, List.foldl_cons, orderly.step_congr room place before first]
    exact ih _

theorem ofEntries_congr (orderly : shape.Orderly) (room : Nat) (place : Place)
    {ms os ns : List (String × Value)} (members : List.Forall₂ SameMember ms os)
    (order : os.Perm ns) :
    (shape.ofEntries place true (entriesWithin room ms)).toOption =
      (shape.ofEntries place true (entriesWithin room ns)).toOption := by
  -- First the values in place, then the members among each other.
  have comm (m : String × Value) (_ : m ∈ os) (n : String × Value) (_ : n ∈ os)
      (before : Option (Finset String × α)) := orderly.step_right_comm room place before m n
  rw [ofEntries_eq_foldl, ofEntries_eq_foldl, orderly.foldl_step_congr room place _ members,
    order.foldl_eq' comm]

theorem positions_congr (orderly : shape.Orderly) (form : Form) (place : Place) (total total' : Nat)
    (room : Nat) (r : α) {vs ws : List Value} (items : List.Forall₂ Reordered vs ws)
    (names : List String) (known : names ⊆ shape.fields) (i : Nat) :
    (shape.positions form place true total i r names (vs.map (within room))).toOption =
      (shape.positions form place true total' i r names (ws.map (within room))).toOption := by
  induction items generalizing r names i with
  | nil => cases names <;> rfl
  | @cons v w vs ws first _ ih =>
    cases names with
    | nil =>
      rw [List.map_cons, List.map_cons, positions, positions]
      cases form.surplus <;> rfl
    | cons name names =>
      obtain ⟨known, others⟩ := List.cons_subset.mp known
      have put := orderly.respects name known place r first room (.item place i)
      simp only [List.map_cons, positions, toOption_bind, put, ih _ names others]

theorem respects_read (orderly : shape.Orderly) (form : Form) : Respects (shape.read form) := by
  refine .of_collections (fun vs ws items room place => ?_) fun ms os ns members order room place =>
    orderly.ofEntries_congr room place members order
  rw [Shape.read, Shape.read]
  simp only [Datum.untagged]
  split
  · exact orderly.positions_congr form place _ _ room shape.start items shape.fields
      (List.Subset.refl _) 0
  · rfl

end Orderly

structure Slot (α : Type) where
  name : String
  Part : Type
  read : Place → Place → Datum → Except Problem Part
  write : Part → α → α

/-- Each field is read into a part of its own. -/
structure MadeOf (shape : Shape α) (slots : List (Slot α)) : Prop where
  names : shape.fields = slots.map Slot.name
  put : ∀ s ∈ slots, ∀ outer place d r,
    shape.put s.name outer place d r = (s.write · r) <$> s.read outer place d
  apart : slots.Pairwise fun s t => ∀ a b r, t.write b (s.write a r) = s.write a (t.write b r)

theorem bind_comm {ε β γ : Type} {p q : Except ε α} {P Q : α → Except ε α} (x : Except ε β)
    (y : Except ε γ) (f : β → α) (g : γ → α) (both : β → γ → α) (first : p = f <$> x)
    (second : q = g <$> y) (then_second : ∀ b, Q (f b) = both b <$> y)
    (then_first : ∀ c, P (g c) = (both · c) <$> x) : (p >>= Q).toOption = (q >>= P).toOption := by
  subst first second
  cases x with
  | error e =>
    cases y with
    | error e' => rfl
    | ok c => exact (congrArg Except.toOption (then_first c)).symm
  | ok b =>
    have left := congrArg Except.toOption (then_second b)
    cases y with
    | error e' => exact left
    | ok c => exact left.trans (congrArg Except.toOption (then_first c)).symm

theorem Commutes.symm {shape : Shape α} {m n : String} (commutes : shape.Commutes m n) :
    shape.Commutes n m :=
  fun outer place place' d d' r => (commutes outer place' place d' d r).symm

theorem MadeOf.orderly {shape : Shape α} {slots : List (Slot α)} (made : shape.MadeOf slots)
    (respects : ∀ s ∈ slots, ∀ outer, Respects (s.read outer)) : shape.Orderly where
  respects := by
    intro name known outer r
    obtain ⟨s, listed, rfl⟩ := List.mem_map.mp (made.names ▸ known)
    simp only [made.put s listed]
    exact (respects s listed outer).map _
  commutes := by
    have apart (s t : Slot α) (listed : s ∈ slots) (listed' : t ∈ slots) (other : s.name ≠ t.name) :
        ∀ a b r, t.write b (s.write a r) = s.write a (t.write b r) := by
      have symm : Std.Symm fun s t : Slot α =>
          ∀ a b r, t.write b (s.write a r) = s.write a (t.write b r) :=
        ⟨fun _ _ comm a b r => (comm b a r).symm⟩
      exact made.apart.forall listed listed' fun same => other (congrArg Slot.name same)
    intro m known n known' other outer place place' d d' r
    obtain ⟨s, listed, rfl⟩ := List.mem_map.mp (made.names ▸ known)
    obtain ⟨t, listed', rfl⟩ := List.mem_map.mp (made.names ▸ known')
    refine bind_comm (s.read outer place d) (t.read outer place' d') (s.write · r) (t.write · r)
      (fun a b => t.write b (s.write a r)) (made.put s listed ..) (made.put t listed' ..)
      (fun a => made.put t listed' ..) fun b => ?_
    simp only [apart s t listed listed' other]
    exact made.put s listed ..

end Shape
end RouteWeaver
