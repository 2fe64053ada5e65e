import Mathlib.Data.List.TakeDrop
import RouteWeaver.Text.Search

namespace RouteWeaver.Text

theorem after?_eq_some_iff {mark text rest : List Char} :
    after? mark text = some rest ↔ text = mark ++ rest := by
  fun_induction after? mark text with
  | case1 text => simp
  | case2 m marks => simp
  | case3 m marks text ih => simp [ih]
  | case4 m marks c text differs => simp [Ne.symm differs]

theorem after?_eq_none_iff {mark text : List Char} : after? mark text = none ↔ ¬ mark <+: text := by
  rw [Option.eq_none_iff_forall_ne_some]
  simp only [ne_eq, after?_eq_some_iff, List.IsPrefix, not_exists]
  exact forall_congr' fun rest => not_congr eq_comm

theorem after?_of_notMem {c : Char} {mark text : List Char} (member : c ∈ mark)
    (absent : c ∉ text) : after? mark text = none :=
  after?_eq_none_iff.mpr fun shown => absent (shown.subset member)

theorem afterLast_of_notMem {c : Char} {mark text : List Char} (member : c ∈ mark)
    (absent : c ∉ text) : afterLast mark text = text := by
  have nowhere : afterLast.rest? mark text = none := by
    induction text with
    | nil => rfl
    | cons d text ih =>
      rw [afterLast.rest?, ih (fun later => absent (.tail d later)), after?_of_notMem member absent]
      rfl
  rw [afterLast, nowhere, Option.getD_none]

variable {c : Char} {text before rest : List Char}

theorem cutFirst_cons_self : cutFirst c (c :: text) = some ([], text) := by
  simp [cutFirst, List.span_eq_takeWhile_dropWhile]

theorem cutFirst_cons_of_ne {d : Char} (differs : d ≠ c) :
    cutFirst c (d :: text) = (cutFirst c text).map fun cut => (d :: cut.1, cut.2) := by
  have kept : (d :: text).takeWhile (· ≠ c) = d :: text.takeWhile (· ≠ c) :=
    List.takeWhile_cons_of_pos (decide_eq_true differs)
  have dropped : (d :: text).dropWhile (· ≠ c) = text.dropWhile (· ≠ c) :=
    List.dropWhile_cons_of_pos (decide_eq_true differs)
  rw [cutFirst, cutFirst, List.span_eq_takeWhile_dropWhile, List.span_eq_takeWhile_dropWhile,
    kept, dropped]
  cases text.dropWhile (· ≠ c) <;> rfl

theorem cutFirst_eq_some_iff :
    cutFirst c text = some (before, rest) ↔ text = before ++ c :: rest ∧ c ∉ before := by
  induction text generalizing before with
  | nil => simp [cutFirst, List.span_eq_takeWhile_dropWhile]
  | cons d text ih =>
    by_cases same : d = c
    · rw [same, cutFirst_cons_self]
      cases before with
      | nil => simp
      | cons e before => simp +contextual
    · rw [cutFirst_cons_of_ne same, Option.map_eq_some_iff]
      cases before with
      | nil => simp [same]
      | cons e before =>
        constructor
        · rintro ⟨cut, found, rebuilt⟩
          cases rebuilt
          obtain ⟨rfl, absent⟩ := ih.mp found
          exact ⟨rfl, by simp [absent, Ne.symm same]⟩
        · rintro ⟨split, absent⟩
          obtain ⟨rfl, rfl⟩ := List.cons.inj split
          exact ⟨(before, rest), ih.mpr ⟨rfl, fun member => absent (.tail _ member)⟩, rfl⟩

theorem cutFirst_reverse_eq_some_iff {after : List Char} :
    cutFirst c text.reverse = some (after.reverse, before.reverse) ↔
      text = before ++ c :: after ∧ c ∉ after := by
  have turned : after.reverse ++ c :: before.reverse = (before ++ c :: after).reverse := by simp
  rw [cutFirst_eq_some_iff, turned, List.reverse_inj, List.mem_reverse]

def marks (n : Nat) : List Char :=
  (List.replicate n [':', ':']).flatten

theorem marks_succ (n : Nat) : marks (n + 1) = ':' :: ':' :: marks n := by
  simp [marks, List.replicate_succ]

theorem dropLeadingMarks_marks_append (n : Nat) (text : List Char) :
    dropLeadingMarks (marks n ++ text) = dropLeadingMarks text := by
  induction n with
  | zero => rfl
  | succ n ih => rw [marks_succ, List.cons_append, List.cons_append, dropLeadingMarks, ih]

theorem exists_dropLeadingMarks (text : List Char) :
    ∃ n, text = marks n ++ dropLeadingMarks text := by
  fun_induction dropLeadingMarks text with
  | case1 rest ih =>
    obtain ⟨n, split⟩ := ih
    refine ⟨n + 1, ?_⟩
    rw [marks_succ, List.cons_append, List.cons_append, ← split]
  | case2 text _ => exact ⟨0, rfl⟩

theorem not_mark_prefix_dropLeadingMarks (text : List Char) :
    ¬ [':', ':'] <+: dropLeadingMarks text := by
  fun_induction dropLeadingMarks text with
  | case1 rest ih => exact ih
  | case2 text other =>
    rintro ⟨rest, rfl⟩
    exact other rest rfl

theorem dropLeadingMarks_dropLeadingMarks (text : List Char) :
    dropLeadingMarks (dropLeadingMarks text) = dropLeadingMarks text := by
  obtain ⟨n, split⟩ := exists_dropLeadingMarks text
  calc dropLeadingMarks (dropLeadingMarks text)
      = dropLeadingMarks (marks n ++ dropLeadingMarks text) :=
        (dropLeadingMarks_marks_append n _).symm
    _ = dropLeadingMarks text := by rw [← split]

end RouteWeaver.Text
