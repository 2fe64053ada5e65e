import Mathlib
import RouteWeaver.Text.Case

namespace RouteWeaver

namespace Text

/-- What holds of all ASCII characters is checked code by code. -/
theorem forall_ascii {P : Char → Prop} (each : ∀ n < 128, P (Char.ofNat n)) {c : Char}
    (ascii : c.toNat < 128) : P c := by
  have checked := each c.toNat ascii
  rwa [Char.ofNat_toNat] at checked

theorem isUpper_iff_toNat {c : Char} : c.isUpper ↔ 65 ≤ c.toNat ∧ c.toNat ≤ 90 := by
  simp [Char.isUpper, UInt32.le_iff_toNat_le, ← Char.toNat_val]

theorem isLower_iff_toNat {c : Char} : c.isLower ↔ 97 ≤ c.toNat ∧ c.toNat ≤ 122 := by
  simp [Char.isLower, UInt32.le_iff_toNat_le, ← Char.toNat_val]

theorem isDigit_iff_toNat {c : Char} : c.isDigit ↔ 48 ≤ c.toNat ∧ c.toNat ≤ 57 := by
  simp [Char.isDigit, UInt32.le_iff_toNat_le, ← Char.toNat_val]

theorem ascii_of_isUpper {c : Char} (capital : c.isUpper) : c.toNat < 128 := by
  have codes := isUpper_iff_toNat.mp capital
  omega

/-- The images that are listed lie above the capitals and the underscore. -/
theorem lowerExpansions_high :
    ∀ entry ∈ Case.lowerExpansions, ∀ code ∈ entry.2, 95 < code := by
  decide +kernel

theorem lowerExpansions_ne_nil : ∀ entry ∈ Case.lowerExpansions, entry.2 ≠ [] := by
  decide +kernel

theorem lowerShifts_high :
    ∀ entry ∈ Case.lowerShifts, 95 < (entry.1.first : Int) + entry.2 := by
  decide +kernel

theorem shiftOf?_lowerShifts_of_isUpper {c : Char} (capital : c.isUpper) :
    shiftOf? Case.lowerShifts c ≠ none := by
  have each : ∀ n < 128, (Char.ofNat n).isUpper →
      shiftOf? Case.lowerShifts (Char.ofNat n) ≠ none := by
    decide +kernel
  exact forall_ascii (P := fun c => c.isUpper → shiftOf? Case.lowerShifts c ≠ none) each
    (ascii_of_isUpper capital) capital

theorem isUpper_of_ascii {c : Char} (capital : c.isUpper) : isUpper c := by
  have each : ∀ n < 128, (Char.ofNat n).isUpper → isUpper (Char.ofNat n) := by
    decide +kernel
  exact forall_ascii (P := fun c => c.isUpper → isUpper c) each (ascii_of_isUpper capital) capital

theorem mem_lowerExpansions_of_lookup {n : Nat} {codes : List Nat}
    (found : Case.lowerExpansions.lookup n = some codes) : (n, codes) ∈ Case.lowerExpansions := by
  obtain ⟨before, after, table, -⟩ := List.lookup_eq_some_iff.mp found
  rw [table]
  exact List.mem_append_right _ List.mem_cons_self

theorem lower_ne_nil (c : Char) : lower c ≠ [] := by
  rw [lower, mapCase]
  split
  case h_1 codes found =>
    exact mt List.map_eq_nil_iff.mp
      (lowerExpansions_ne_nil _ (mem_lowerExpansions_of_lookup found))
  case h_2 => split <;> exact List.cons_ne_nil _ _

/-- What a character is mapped to lies above the underscore, unless the character stays. -/
theorem mem_lower_cases {c d : Char} (member : d ∈ lower c) :
    (∃ n, 95 < n ∧ d = Char.ofNat n) ∨ (shiftOf? Case.lowerShifts c = none ∧ d = c) := by
  rw [lower, mapCase] at member
  split at member
  case h_1 codes found =>
    obtain ⟨code, listed, rfl⟩ := List.mem_map.mp member
    exact .inl ⟨code, lowerExpansions_high _ (mem_lowerExpansions_of_lookup found) code listed, rfl⟩
  case h_2 =>
    split at member
    case h_1 shift found =>
      obtain ⟨entry, first, rfl⟩ := Option.map_eq_some_iff.mp found
      have image := lowerShifts_high entry (List.mem_of_find?_eq_some first)
      have inside := List.find?_some first
      simp only [CodeRun.contains, Bool.and_eq_true, decide_eq_true_eq] at inside
      exact .inl ⟨_, by omega, List.mem_singleton.mp member⟩
    case h_2 unshifted => exact .inr ⟨unshifted, List.mem_singleton.mp member⟩

/-- A code point above the underscore, or no code point, is neither a capital nor an underscore. -/
theorem ofNat_high {n : Nat} (high : 95 < n) :
    ¬ (Char.ofNat n).isUpper ∧ Char.ofNat n ≠ '_' := by
  have code : (Char.ofNat n).toNat = n ∨ (Char.ofNat n).toNat = 0 := by
    rw [Char.toNat_ofNat]
    split
    · exact .inl rfl
    · exact .inr rfl
  constructor
  · intro capital
    have codes := isUpper_iff_toNat.mp capital
    omega
  · intro underscore
    rw [underscore] at code
    have same : ('_' : Char).toNat = 95 := rfl
    omega

theorem not_isUpper_of_mem_lower {c d : Char} (member : d ∈ lower c) : ¬ d.isUpper := by
  rcases mem_lower_cases member with ⟨n, high, rfl⟩ | ⟨unshifted, rfl⟩
  · exact (ofNat_high high).1
  · exact fun capital => shiftOf?_lowerShifts_of_isUpper capital unshifted

theorem eq_underscore_of_mem_lower {c : Char} (member : '_' ∈ lower c) : c = '_' := by
  rcases mem_lower_cases member with ⟨n, high, image⟩ | ⟨-, same⟩
  · exact absurd image.symm (ofNat_high high).2
  · exact same.symm

end Text

end RouteWeaver
