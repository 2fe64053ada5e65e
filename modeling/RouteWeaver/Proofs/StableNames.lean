import Mathlib.Data.List.Basic
import RouteWeaver.Model
import RouteWeaver.Proofs.Identifiers
import RouteWeaver.Proofs.ServiceBinding
import RouteWeaver.Text.Characters

/-!
Names as a function of the set of types. Neither the order in which types are defined nor how often
one is defined has a part in the name that it is granted, and a new type takes the plain name only
from those types that ask for the same one.
-/

namespace RouteWeaver

open Text

namespace Name

/-- The eight digits of the first four bytes of the digest of a type. -/
structure IsMark (type digits : String) : Prop where
  length : digits.toList.length = 8
  lower : ∀ c ∈ digits.toList, c ∈ "0123456789abcdef".toList
  value : natOf 16 digits.toList =
    ((Sha256.digest type.toUTF8.toList).take 4).foldl (fun n b => n * 256 + b.toNat) 0

theorem digitChar_lower : ∀ n < 16, Nat.digitChar n ∈ "0123456789abcdef".toList := by
  decide

theorem digitValue?_digitChar : ∀ n < 16, digitValue? (Nat.digitChar n) = some n := by
  decide

theorem hexByte_lt (b : UInt8) : b.toNat / 16 < 16 ∧ b.toNat % 16 < 16 := by
  have bound := b.toNat_lt
  omega

theorem foldl_hexByte (bytes : List UInt8) (start : Nat) :
    (bytes.flatMap hexByte).foldl (fun n d => n * 16 + (digitValue? d).getD 0) start =
      bytes.foldl (fun n b => n * 256 + b.toNat) start := by
  induction bytes generalizing start with
  | nil => rfl
  | cons b bytes ih =>
    obtain ⟨high, low⟩ := hexByte_lt b
    rw [List.flatMap_cons, List.foldl_append, ih, List.foldl_cons]
    congr 1
    simp only [hexByte, List.foldl_cons, List.foldl_nil, digitValue?_digitChar _ high,
      digitValue?_digitChar _ low, Option.getD_some]
    omega

theorem isMark_mark (type : String) : IsMark (trimmed type) (mark type) where
  length := length_mark type
  lower := by
    intro c member
    rw [mark, String.toList_ofList] at member
    obtain ⟨b, -, digit⟩ := List.mem_flatMap.mp member
    obtain ⟨high, low⟩ := hexByte_lt b
    rcases List.mem_pair.mp digit with rfl | rfl
    · exact digitChar_lower _ high
    · exact digitChar_lower _ low
  value := by
    rw [mark, String.toList_ofList]
    exact foldl_hexByte _ 0

/-- The name of a type among all of them: its identifier, marked when another type asks for it. -/
inductive Assigned (types : List String) (t : String) : String → Prop where
  | plain (free : ¬ Contested types t) : Assigned types t (identifier t)
  | marked (contested : Contested types t) : Assigned types t (identifier t ++ "_" ++ mark t)

/-- Types with their names: all of the types, and to each the name that it is assigned. -/
structure Follows (types : List String) (named : List (String × String)) : Prop where
  complete : ∀ t, t ∈ named.map Prod.fst ↔ t ∈ types
  assigned : ∀ p ∈ named, Assigned types p.1 p.2

variable {types types' : List String} {t name name' : String}

theorem Assigned.unique (assigned : Assigned types t name) (assigned' : Assigned types t name') :
    name = name' := by
  cases assigned with
  | plain free =>
    cases assigned' with
    | plain => rfl
    | marked contested => exact absurd contested free
  | marked contested =>
    cases assigned' with
    | plain free => exact absurd contested free
    | marked => rfl

theorem Assigned.congr (same : ∀ t, t ∈ types ↔ t ∈ types') (assigned : Assigned types t name) :
    Assigned types' t name := by
  cases assigned with
  | plain free => exact .plain (mt (Contested.congr same t).mpr free)
  | marked contested => exact .marked ((Contested.congr same t).mp contested)

theorem contested_insert {added : String} (more : ∀ t, t ∈ types' ↔ t = added ∨ t ∈ types)
    (t : String) : Contested types' t ↔
      Contested types t ∨ t ≠ added ∧ identifier t = identifier added := by
  simp only [Contested, more]
  constructor
  · rintro ⟨u, rfl | member, differs, same⟩
    · exact .inr ⟨Ne.symm differs, same.symm⟩
    · exact .inl ⟨u, member, differs, same⟩
  · rintro (⟨u, member, differs, same⟩ | ⟨differs, same⟩)
    · exact ⟨u, .inr member, differs, same⟩
    · exact ⟨added, .inl rfl, Ne.symm differs, same.symm⟩

theorem identifier_ne_marked (t u : String) : identifier t ≠ identifier t ++ "_" ++ mark u := by
  intro same
  have lengths := congrArg (fun name => name.toList.length) same
  simp [length_mark] at lengths

/-- A new type changes the names of just those that held its identifier alone. -/
theorem Assigned.ne_insert_iff {added : String} (more : ∀ t, t ∈ types' ↔ t = added ∨ t ∈ types)
    (assigned : Assigned types t name) (assigned' : Assigned types' t name') :
    name ≠ name' ↔ ¬ Contested types t ∧ t ≠ added ∧ identifier t = identifier added := by
  cases assigned with
  | marked contested =>
    obtain rfl := assigned'.unique (.marked ((contested_insert more t).mpr (.inl contested)))
    simp [contested]
  | plain free =>
    by_cases taken : t ≠ added ∧ identifier t = identifier added
    · obtain rfl := assigned'.unique (.marked ((contested_insert more t).mpr (.inr taken)))
      exact iff_of_true (identifier_ne_marked t t) ⟨free, taken⟩
    · have free' : ¬ Contested types' t := fun contested =>
        ((contested_insert more t).mp contested).elim free taken
      obtain rfl := assigned'.unique (.plain free')
      exact iff_of_false (not_not_intro rfl) fun changed => taken changed.2

/-- What a change of the set of types does to the names. -/
structure Stable (types types' : List String) (named named' : List (String × String)) : Prop where
  /-- The same types have the same names. -/
  same : (∀ t, t ∈ types ↔ t ∈ types') → ∀ t name name', (t, name) ∈ named →
    (t, name') ∈ named' → name = name'
  /-- One type more changes the names of just the types that held its identifier alone. -/
  more : ∀ added, (∀ t, t ∈ types' ↔ t = added ∨ t ∈ types) → ∀ t name name', (t, name) ∈ named →
    (t, name') ∈ named' →
      (name ≠ name' ↔ ¬ Contested types t ∧ t ≠ added ∧ identifier t = identifier added)

theorem Follows.stable {named named' : List (String × String)} (follows : Follows types named)
    (follows' : Follows types' named') : Stable types types' named named' where
  same unchanged _ _ _ listed listed' :=
    ((follows.assigned _ listed).congr unchanged).unique (follows'.assigned _ listed')
  more _ added _ _ _ listed listed' :=
    (follows.assigned _ listed).ne_insert_iff added (follows'.assigned _ listed')

variable {α : Type} {request : α → Request} {items : List α}

theorem Follows.congr {named : List (String × String)} (same : ∀ t, t ∈ types ↔ t ∈ types')
    (follows : Follows types named) : Follows types' named where
  complete t := (follows.complete t).trans (same t)
  assigned p listed := (follows.assigned p listed).congr same

/-- Fresh requests are granted the names that their types are assigned. -/
theorem Request.follows_granted (fresh : ∀ a ∈ items, (request a).Fresh) :
    Follows (items.map fun a => (request a).key)
      (items.map fun a => ((request a).key, (request a).granted (items.map request))) where
  complete t := by rw [List.map_map]; rfl
  assigned := by
    rintro _ listed
    obtain ⟨a, asks, rfl⟩ := List.mem_map.mp listed
    show Assigned _ (request a).key ((request a).granted (items.map request))
    rw [granted_eq fresh asks]
    split
    · rename_i contested
      exact .marked contested
    · rename_i free
      exact .plain free

end Name

namespace Behavior

def named (b : Behavior) : String × String :=
  (b.key, b.identifier)

theorem map_named_withGrantedIdentifiers (behaviors : List Behavior) :
    (withGrantedIdentifiers behaviors).map named =
      behaviors.map fun b => (b.key, b.request.granted (behaviors.map request)) := by
  rw [withGrantedIdentifiers, List.map_map]
  rfl

theorem follows_granted {behaviors : List Behavior} (fresh : ∀ b ∈ behaviors, b.Fresh) :
    Name.Follows (behaviors.map key)
      ((withGrantedIdentifiers (distinct behaviors)).map named) := by
  have kept : ∀ b ∈ distinct behaviors, b.request.Fresh :=
    fun b member => fresh b (mem_of_mem_distinct member)
  rw [map_named_withGrantedIdentifiers]
  have follows := Name.Request.follows_granted kept
  exact follows.congr (mem_keys_distinct_iff behaviors)

end Behavior

namespace Service

def named (s : Service) : String × String :=
  (s.stored, s.storage)

theorem map_named_withGrantedStorage (services : List Service) :
    (withGrantedStorage services).map named =
      services.map fun s => (s.stored, s.request.granted (services.map request)) := by
  rw [withGrantedStorage, List.map_map]
  rfl

theorem follows_granted {services : List Service} (fresh : ∀ s ∈ services, s.Fresh) :
    Name.Follows (services.map stored) ((withGrantedStorage services).map named) := by
  have asked : ∀ s ∈ services, s.request.Fresh := fresh
  have follows := Name.Request.follows_granted asked
  rw [map_named_withGrantedStorage]
  exact follows

end Service

/-- Identifiers and storage names are functions of the set of types. With a type more, only those
of types change that held its identifier alone. -/
theorem names_follow_types {behaviors behaviors' : List Behavior}
    {services services' : List Service}
    (fresh : ∀ b ∈ behaviors, b.Fresh) (fresh' : ∀ b ∈ behaviors', b.Fresh)
    (stored : ∀ s ∈ services, s.Fresh) (stored' : ∀ s ∈ services', s.Fresh)
    (config config' : Config) (routes routes' : List Route) :
    let m := Model.ofDefinitions config behaviors services routes
    let m' := Model.ofDefinitions config' behaviors' services' routes'
    (Name.Follows (behaviors.map Behavior.key) (m.behaviors.map Behavior.named) ∧
      Name.Follows (services.map Service.stored) (m.services.map Service.named)) ∧
    (Name.Stable (behaviors.map Behavior.key) (behaviors'.map Behavior.key)
        (m.behaviors.map Behavior.named) (m'.behaviors.map Behavior.named) ∧
      Name.Stable (services.map Service.stored) (services'.map Service.stored)
        (m.services.map Service.named) (m'.services.map Service.named)) ∧
    ∀ type, Name.identifier (trimmed type) = Name.identifier type ∧
      Name.IsMark (trimmed type) (Name.mark type) := by
  intro m m'
  have identifiers := Behavior.follows_granted fresh
  have storages := Service.follows_granted stored
  refine ⟨⟨identifiers, storages⟩, ⟨?_, ?_⟩, fun type => ?_⟩
  · exact identifiers.stable (Behavior.follows_granted fresh')
  · exact storages.stable (Service.follows_granted stored')
  · exact ⟨Name.identifier_trimmed type, Name.isMark_mark type⟩

theorem names_follow_types_logging :
    let behaviors := [Behavior.ofType "audit::Logging", .ofType "trace::Logging"]
    let behaviors' := [Behavior.ofType "trace::Logging", .ofType " audit::Logging", .ofType "Cache"]
    let services := [Service.ofTypes "dyn Clock" "WallClock"]
    let services' := [Service.ofTypes "dyn Clock" "WallClock", .ofTypes "dyn Timer" "WallClock "]
    let m := Model.ofDefinitions {} behaviors services []
    let m' := Model.ofDefinitions {} behaviors' services' []
    ((∀ b ∈ behaviors, b.Fresh) ∧ ∀ b ∈ behaviors', b.Fresh) ∧
    ((∀ s ∈ services, s.Fresh) ∧ ∀ s ∈ services', s.Fresh) ∧
    ∀ t name name', (t, name) ∈ m.services.map Service.named →
      (t, name') ∈ m'.services.map Service.named → name = name' := by
  intro behaviors behaviors' services services' m m'
  have fresh : ∀ b ∈ behaviors, b.Fresh := by simp [behaviors, Behavior.Fresh, Behavior.ofType]
  have fresh' : ∀ b ∈ behaviors', b.Fresh := by simp [behaviors', Behavior.Fresh, Behavior.ofType]
  have stored : ∀ s ∈ services, s.Fresh := by simp [services, Service.Fresh, Service.ofTypes]
  have stored' : ∀ s ∈ services', s.Fresh := by simp [services', Service.Fresh, Service.ofTypes]
  obtain ⟨-, ⟨-, stable⟩, -⟩ := names_follow_types fresh fresh' stored stored' {} {} [] []
  have trims : trimmed "WallClock " = trimmed "WallClock" := rfl
  have same : ∀ t, t ∈ services.map Service.stored ↔ t ∈ services'.map Service.stored := by
    intro t
    simp [services, services', Service.stored, Service.ofTypes, trims]
  exact ⟨⟨fresh, fresh'⟩, ⟨stored, stored'⟩, stable.same same⟩

end RouteWeaver
