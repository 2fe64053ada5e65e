import Mathlib.Data.List.DropRight
import RouteWeaver.Text.Characters

namespace RouteWeaver.Text

theorem trimStart_trimEnd_trimStart (cs : List Char) :
    trimStart (trimEnd (trimStart cs)) = trimEnd (trimStart cs) := by
  -- What is cut from the end leaves the first character alone.
  have kept : trimEnd (trimStart cs) <+: trimStart cs := List.rdropWhile_prefix isBlank _
  refine List.dropWhile_eq_self_iff.mpr fun nonempty => ?_
  rw [kept.getElem nonempty]
  exact List.dropWhile_get_zero_not isBlank cs (nonempty.trans_le kept.length_le)

theorem trimEnd_trimEnd (cs : List Char) : trimEnd (trimEnd cs) = trimEnd cs :=
  List.rdropWhile_idempotent isBlank cs

@[simp]
theorem trim_trim (cs : List Char) : trim (trim cs) = trim cs := by
  rw [trim, trim, trimStart_trimEnd_trimStart, trimEnd_trimEnd]

@[simp]
theorem toList_trimmed (s : String) : (trimmed s).toList = trim s.toList :=
  String.toList_ofList

@[simp]
theorem trimmed_trimmed (s : String) : trimmed (trimmed s) = trimmed s := by
  rw [trimmed, toList_trimmed, trim_trim, trimmed]

theorem trim_of_forall_not_isBlank {cs : List Char} (visible : ∀ c ∈ cs, ¬ isBlank c) :
    trim cs = cs := by
  have kept {ds : List Char} (visible : ∀ c ∈ ds, ¬ isBlank c) : ds.dropWhile isBlank = ds :=
    List.dropWhile_eq_self_iff.mpr fun _ => visible _ (List.getElem_mem _)
  rw [trim, trimEnd, trimStart, kept visible, kept (by simpa using visible), List.reverse_reverse]

theorem trim_eq_self_iff {cs : List Char} :
    trim cs = cs ↔ (∀ c ∈ cs.head?, ¬ isBlank c) ∧ ∀ c ∈ cs.getLast?, ¬ isBlank c := by
  have front : trimStart cs = cs ↔ ∀ c ∈ cs.head?, ¬ isBlank c := by
    cases cs <;> simp [trimStart, List.dropWhile_eq_self_iff]
  have back : trimEnd cs = cs ↔ ∀ c ∈ cs.getLast?, ¬ isBlank c := by
    refine List.rdropWhile_eq_self_iff.trans ?_
    cases cs <;> simp [List.getLast?_eq_some_getLast]
  rw [← front, ← back]
  constructor
  · intro tidy
    have started : trimStart cs = cs := by
      have same := trimStart_trimEnd_trimStart cs
      rwa [← trim, tidy] at same
    exact ⟨started, by rwa [trim, started] at tidy⟩
  · rintro ⟨started, ended⟩
    rw [trim, started, ended]

theorem length_trim_le (cs : List Char) : (trim cs).length ≤ cs.length := by
  have front : (trimStart cs).length ≤ cs.length := (List.dropWhile_sublist isBlank).length_le
  have back : (trim cs).length ≤ (trimStart cs).length :=
    (List.rdropWhile_prefix isBlank (trimStart cs)).length_le
  omega

variable {before text after : List Char}

/-- What does not end in a blank stays in front of a text. -/
theorem trimEnd_append (tidy : trimEnd before = before) :
    trimEnd (before ++ text) = before ++ trimEnd text := by
  rw [trimEnd] at tidy
  rw [trimEnd, trimEnd, List.reverse_append, List.dropWhile_append]
  cases text.reverse.dropWhile isBlank with
  | nil => simpa using tidy
  | cons c rest => simp

theorem trimStart_append_left (blank : ∀ c ∈ before, isBlank c) :
    trimStart (before ++ text) = trimStart text :=
  List.dropWhile_append_of_pos blank

theorem trimEnd_append_right (blank : ∀ c ∈ after, isBlank c) :
    trimEnd (text ++ after) = trimEnd text := by
  rw [trimEnd, List.reverse_append, List.dropWhile_append_of_pos (by simpa using blank), trimEnd]

theorem trim_padded (front : ∀ c ∈ before, isBlank c) (back : ∀ c ∈ after, isBlank c) :
    trim (before ++ (text ++ after)) = trim text := by
  rw [trim, trimStart_append_left front, trim]
  cases kept : trimStart text with
  | nil =>
    -- Nothing but blanks is left.
    have whole : trimStart (text ++ after) = trimStart after :=
      trimStart_append_left (List.dropWhile_eq_nil_iff.mp kept)
    rw [whole, trimStart, List.dropWhile_eq_nil_iff.mpr back]
  | cons c rest =>
    have split : trimStart (text ++ after) = trimStart text ++ after := by
      rw [trimStart] at kept
      simp [trimStart, List.dropWhile_append, kept]
    rw [split, kept, trimEnd_append_right back]

theorem trimmed_padded (s : String) (front : ∀ c ∈ before, isBlank c)
    (back : ∀ c ∈ after, isBlank c) :
    trimmed (String.ofList (before ++ (s.toList ++ after))) = trimmed s := by
  rw [trimmed, String.toList_ofList, trim_padded front back, trimmed]

end RouteWeaver.Text
