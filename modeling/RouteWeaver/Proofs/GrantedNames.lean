import RouteWeaver.Name
import RouteWeaver.Proofs.Trimming

/-!
Which names two types are granted. A contested identifier gets a mark, and nothing looks at where
a marked identifier comes to stand. Names therefore meet in two ways: marks may be equal, and
a marked identifier may be what an uncontested type asks for.
-/

namespace RouteWeaver

namespace Sha256

theorem length_bigEndian (width n : Nat) : (bigEndian width n).length = width := by
  induction width with
  | zero => rfl
  | succ width ih => rw [bigEndian, List.length_cons, ih]

theorem length_digest (message : List UInt8) : (digest message).length = 32 := by
  simp [digest, length_bigEndian]

end Sha256

namespace Name

open Text

theorem identifier_trimmed (type : String) : identifier (trimmed type) = identifier type := by
  simp only [identifier, shortChars, toList_trimmed, trim_trim]

theorem mark_trimmed (type : String) : mark (trimmed type) = mark type := by
  rw [mark, trimmed_trimmed, mark]

theorem length_flatMap_hexByte (bytes : List UInt8) :
    (bytes.flatMap hexByte).length = 2 * bytes.length := by
  induction bytes with
  | nil => rfl
  | cons b bytes ih =>
    rw [List.flatMap_cons, List.length_append, ih, List.length_cons]
    simp only [hexByte, List.length_cons, List.length_nil]
    omega

theorem length_mark (type : String) : (mark type).toList.length = 8 := by
  rw [mark, String.toList_ofList, length_flatMap_hexByte, List.length_take, Sha256.length_digest]
  rfl

def marked (type : String) : String :=
  identifier type ++ "_" ++ mark type

theorem marked_eq_marked_iff {t u : String} :
    marked t = marked u ↔ identifier t = identifier u ∧ mark t = mark u := by
  constructor
  · intro same
    have chars : (identifier t ++ "_").toList ++ (mark t).toList =
        (identifier u ++ "_").toList ++ (mark u).toList := by
      simpa [marked] using congrArg String.toList same
    obtain ⟨front, marks⟩ :=
      List.append_inj' chars ((length_mark t).trans (length_mark u).symm)
    exact ⟨(String.append_left_inj "_").mp (String.toList_injective front),
      String.toList_injective marks⟩
  · rintro ⟨same, marks⟩
    rw [marked, same, marks, marked]

def Contested (types : List String) (t : String) : Prop :=
  ∃ u ∈ types, u ≠ t ∧ identifier u = identifier t

/-- The name that a contested type is granted is the identifier of an uncontested one. -/
def Covers (types : List String) (t u : String) : Prop :=
  Contested types t ∧ ¬ Contested types u ∧ marked t = identifier u

def Clash (types : List String) (t u : String) : Prop :=
  t ≠ u ∧ (identifier t = identifier u ∧ mark t = mark u ∨ Covers types t u ∨ Covers types u t)

def Separable (types : List String) : Prop :=
  ∀ t ∈ types, ∀ u ∈ types, ¬ Clash types t u

theorem Contested.congr {types types' : List String} (same : ∀ t, t ∈ types ↔ t ∈ types')
    (t : String) : Contested types t ↔ Contested types' t := by
  simp only [Contested, same]

theorem Separable.congr {types types' : List String} (same : ∀ t, t ∈ types ↔ t ∈ types') :
    Separable types ↔ Separable types' := by
  simp only [Separable, Clash, Covers, Contested.congr same, same]

namespace Request

def key (r : Request) : String :=
  trimmed r.type

def Fresh (r : Request) : Prop :=
  r.identifier = Name.identifier r.type

theorem Fresh.identifier_key {r : Request} (fresh : r.Fresh) :
    Name.identifier r.key = r.identifier :=
  (identifier_trimmed r.type).trans fresh.symm

variable {α : Type} {request : α → Request} {items : List α} {a b : α}

theorem contested_iff (fresh : ∀ a ∈ items, (request a).Fresh) (asks : a ∈ items) :
    (request a).contested (items.map request) ↔
      Contested (items.map fun a => (request a).key) (request a).key := by
  simp only [contested, List.any_eq_true, Bool.and_eq_true, decide_eq_true_eq]
  constructor
  · rintro ⟨_, member, same, different⟩
    obtain ⟨c, asks', rfl⟩ := List.mem_map.mp member
    refine ⟨(request c).key, List.mem_map_of_mem asks', different, ?_⟩
    rw [(fresh c asks').identifier_key, (fresh a asks).identifier_key, same]
  · rintro ⟨_, member, different, same⟩
    obtain ⟨c, asks', rfl⟩ := List.mem_map.mp member
    rw [(fresh c asks').identifier_key, (fresh a asks).identifier_key] at same
    exact ⟨request c, List.mem_map_of_mem asks', same, different⟩

open Classical in
theorem granted_eq (fresh : ∀ a ∈ items, (request a).Fresh) (asks : a ∈ items) :
    (request a).granted (items.map request) =
      if Contested (items.map fun a => (request a).key) (request a).key then
        marked (request a).key
      else Name.identifier (request a).key := by
  have same := (fresh a asks).identifier_key
  rw [granted, marked, same, key, mark_trimmed, ← key]
  exact if_congr (contested_iff fresh asks) rfl rfl

theorem granted_eq_granted_iff (fresh : ∀ a ∈ items, (request a).Fresh) (ha : a ∈ items)
    (hb : b ∈ items) :
    (request a).granted (items.map request) = (request b).granted (items.map request) ↔
      (request a).key = (request b).key ∨
        Clash (items.map fun a => (request a).key) (request a).key (request b).key := by
  rw [granted_eq fresh ha, granted_eq fresh hb]
  by_cases equal : (request a).key = (request b).key
  · exact iff_of_true (by rw [equal]) (.inl equal)
  -- Types of one identifier are both contested; where one of them is not, they differ.
  have both (same : Name.identifier (request a).key = Name.identifier (request b).key) :
      Contested (items.map fun a => (request a).key) (request a).key ∧
        Contested (items.map fun a => (request a).key) (request b).key :=
    ⟨⟨_, List.mem_map_of_mem hb, Ne.symm equal, same.symm⟩,
      ⟨_, List.mem_map_of_mem ha, equal, same⟩⟩
  by_cases ca : Contested (items.map fun a => (request a).key) (request a).key <;>
    by_cases cb : Contested (items.map fun a => (request a).key) (request b).key
  · simp [ca, cb, Clash, Covers, equal, marked_eq_marked_iff]
  · have apart : Name.identifier (request a).key ≠ Name.identifier (request b).key :=
      fun same => cb (both same).2
    simp [ca, cb, Clash, Covers, equal, apart]
  · have apart : Name.identifier (request a).key ≠ Name.identifier (request b).key :=
      fun same => ca (both same).1
    simp [ca, cb, Clash, Covers, equal, apart, eq_comm]
  · have apart : Name.identifier (request a).key ≠ Name.identifier (request b).key :=
      fun same => ca (both same).1
    simp [ca, cb, Clash, Covers, equal, apart]

end Request
end Name
end RouteWeaver
