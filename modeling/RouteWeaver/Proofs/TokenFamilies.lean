import Mathlib.Data.List.Infix
import Mathlib.Data.List.Induction
import Mathlib.Logic.Relation
import RouteWeaver.Dispatch.TokenHistory

/-!
Families of tokens. A history tells by itself which tokens are copies of which, and whether a family
started with a live token or with an inert one. The signals bear this out: a token is cancelled just
when some token of its family has been, and the family started live.
-/

namespace RouteWeaver.Dispatch

inductive Origin where
  | live
  | inert
  | copy (token : Nat)
deriving DecidableEq, Repr

/-- What a history tells of tokens and carriers without any signal: how each token came up, and the
token that each carrier was given. -/
structure Pedigree where
  origins : List Origin := []
  given : List Nat := []
deriving DecidableEq, Repr

namespace Pedigree

variable {ι : Type}

def add (p : Pedigree) (o : Origin) : Pedigree :=
  { p with origins := p.origins ++ [o] }

def grow (p : Pedigree) : TokenOperation ι → Pedigree
  | .new => p.add .live
  | .none => p.add .inert
  | .default => p.add .inert
  | .clone i => if i < p.origins.length then p.add (.copy i) else p
  | .place _ _ _ i => if i < p.origins.length then { p with given := p.given ++ [i] } else p
  | .takeBack i =>
    match p.given[i]? with
    | some j => p.add (.copy j)
    | none => p
  | .cancel _ => p
  | .isCancelled _ => p
  | .check _ => p

def of (history : List (TokenOperation ι)) : Pedigree :=
  history.foldl grow {}

def CopyOf (p : Pedigree) (i j : Nat) : Prop :=
  p.origins[i]? = some (.copy j)

def Related (p : Pedigree) : Nat → Nat → Prop :=
  Relation.EqvGen p.CopyOf

def Started (p : Pedigree) (o : Origin) (i : Nat) : Prop :=
  ∃ first, p.Related i first ∧ p.origins[first]? = some o

end Pedigree

def Cancels {ι : Type} (history : List (TokenOperation ι)) (i : Nat) : Prop :=
  ∃ earlier, earlier ++ [.cancel i] <+: history ∧ i < (Pedigree.of earlier).origins.length

/-- The family started live, and the history cancels one of its tokens. -/
def Fires {ι : Type} (history : List (TokenOperation ι)) (i : Nat) : Prop :=
  (Pedigree.of history).Started .live i ∧
    ∃ j, (Pedigree.of history).Related i j ∧ Cancels history j

section Histories

variable {ι : Type} {S : ι → Type} {history later : List (TokenOperation ι)} {i j : Nat}

theorem getElem?_concat_eq_some_iff {α : Type} {xs : List α} {a b : α} :
    (xs ++ [a])[i]? = some b ↔ xs[i]? = some b ∨ i = xs.length ∧ a = b := by
  rw [List.getElem?_append]
  split
  · rename_i inside
    exact (or_iff_left fun h => inside.ne h.1).symm
  · rename_i outside
    rw [List.getElem?_singleton, List.getElem?_eq_none (Nat.le_of_not_lt outside)]
    grind

theorem getElem?_of_prefix {α : Type} {xs ys : List α} {a : α} (more : xs <+: ys)
    (there : xs[i]? = some a) : ys[i]? = some a := by
  obtain ⟨inside, rfl⟩ := List.getElem?_eq_some_iff.mp there
  exact List.prefix_iff_getElem?.mp more i inside

theorem getElem?_append_of_notMem {α : Type} {xs ys : List α} {a : α} (absent : a ∉ ys) :
    (xs ++ ys)[i]? = some a ↔ xs[i]? = some a := by
  constructor
  · intro there
    rw [List.getElem?_append] at there
    split at there
    · exact there
    · exact absurd (List.mem_of_getElem? there) absent
  · exact getElem?_of_prefix (List.prefix_append _ _)

/-- What no operation takes away is there after any further ones. -/
theorem prefix_foldl_append {σ α β : Type} {step : σ → α → σ} (shown : σ → List β)
    (grows : ∀ s a, shown s <+: shown (step s a)) (start : σ) (earlier later : List α) :
    shown (earlier.foldl step start) <+: shown ((earlier ++ later).foldl step start) := by
  rw [List.foldl_append]
  generalize earlier.foldl step start = s
  induction later generalizing s with
  | nil => exact List.prefix_rfl
  | cons a later ih => exact (grows s a).trans (ih (step s a))

namespace Pedigree

variable {p q : Pedigree}

theorem of_concat (history : List (TokenOperation ι)) (o : TokenOperation ι) :
    of (history ++ [o]) = (of history).grow o :=
  List.foldl_concat grow {} o history

theorem origins_prefix_grow (p : Pedigree) (o : TokenOperation ι) :
    p.origins <+: (p.grow o).origins := by
  cases o with
  | new => exact List.prefix_append _ _
  | none => exact List.prefix_append _ _
  | default => exact List.prefix_append _ _
  | clone i =>
    rw [grow]
    split
    · exact List.prefix_append _ _
    · exact List.prefix_rfl
  | place kind command handler i =>
    rw [grow]
    split <;> exact List.prefix_rfl
  | takeBack i =>
    rw [grow]
    split
    · exact List.prefix_append _ _
    · exact List.prefix_rfl
  | cancel i => exact List.prefix_rfl
  | isCancelled i => exact List.prefix_rfl
  | check i => exact List.prefix_rfl

theorem origins_prefix_of (history later : List (TokenOperation ι)) :
    (of history).origins <+: (of (history ++ later)).origins :=
  prefix_foldl_append origins origins_prefix_grow {} history later

theorem Related.mono (more : p.origins <+: q.origins) (related : p.Related i j) :
    q.Related i j :=
  Relation.EqvGen.mono (fun _ _ copied => getElem?_of_prefix more copied) i j related

theorem Started.mono {o : Origin} (more : p.origins <+: q.origins) (started : p.Started o i) :
    q.Started o i := by
  obtain ⟨first, related, origin⟩ := started
  exact ⟨first, related.mono more, getElem?_of_prefix more origin⟩

end Pedigree

theorem cancels_concat_iff {o : TokenOperation ι} : Cancels (history ++ [o]) i ↔
    Cancels history i ∨ o = .cancel i ∧ i < (Pedigree.of history).origins.length := by
  constructor
  · rintro ⟨earlier, started, there⟩
    rcases List.prefix_concat_iff.mp started with whole | before
    · obtain ⟨rfl, rfl⟩ := List.append_singleton_inj.mp whole
      exact .inr ⟨rfl, there⟩
    · exact .inl ⟨earlier, before, there⟩
  · rintro (⟨earlier, before, there⟩ | ⟨rfl, there⟩)
    · exact ⟨earlier, before.trans (List.prefix_append _ _), there⟩
    · exact ⟨history, List.prefix_rfl, there⟩

/-- What a token is, by the way in which it came up at a position. -/
def Origin.Fits (tokens : List Token) (i : Nat) (t : Token) : Origin → Prop
  | live => t.signal.isSome
  | inert => t = .none
  | copy j => j < i ∧ tokens[j]? = some t

theorem Origin.Fits.mono {tokens more : List Token} {t : Token} {o : Origin}
    (fits : o.Fits tokens i t) (later : tokens <+: more) : o.Fits more i t := by
  cases o with
  | live => exact fits
  | inert => exact fits
  | copy j => exact ⟨fits.1, getElem?_of_prefix later fits.2⟩

variable [∀ kind, HookState (S kind)]

/-- Tokens and signals bear out a pedigree: live tokens have signals of their own, copies have the
signal of what they copy, and a signal has fired just when a token with it was cancelled. -/
structure Tracks (p : Pedigree) (cancelled : Nat → Prop) (ts : Tokens S) : Prop where
  length_tokens : ts.tokens.length = p.origins.length
  fits : ∀ (i : Nat) (o : Origin) (t : Token), p.origins[i]? = some o → ts.tokens[i]? = some t →
    o.Fits ts.tokens i t
  apart : ∀ i j : Nat, p.origins[i]? = some .live → p.origins[j]? = some .live →
    ts.tokens[i]? = ts.tokens[j]? → i = j
  known : ∀ i s : Nat, ts.tokens[i]? = some ⟨some s⟩ → s < ts.signals.length
  length_carriers : ts.carriers.length = p.given.length
  carries : ∀ (i j : Nat) (c : Carrier S), p.given[i]? = some j → ts.carriers[i]? = some c →
    ts.tokens[j]? = some (HookState.token c.object)
  there : ∀ i : Nat, cancelled i → i < p.origins.length
  fired : ∀ s : Nat, ts.signals[s]? = some true ↔
    ∃ i, cancelled i ∧ ts.tokens[i]? = some ⟨some s⟩

namespace Tracks

variable {p : Pedigree} {cancelled : Nat → Prop} {ts : Tokens S} {t : Token} {o : Origin}

theorem start : Tracks {} (Cancels ([] : List (TokenOperation ι))) ({} : Tokens S) where
  length_tokens := rfl
  fits i o t origin := by simp at origin
  apart i j origin := by simp at origin
  known i s token := by simp at token
  length_carriers := rfl
  carries i j c given := by simp at given
  there i cancelled := by
    obtain ⟨earlier, started, -⟩ := cancelled
    simp at started
  fired s := by simp

theorem lt_iff (tracks : Tracks p cancelled ts) :
    i < p.origins.length ↔ ∃ t, ts.tokens[i]? = some t := by
  rw [← tracks.length_tokens]
  constructor
  · exact fun inside => ⟨ts.tokens[i], List.getElem?_eq_getElem inside⟩
  · exact fun ⟨t, token⟩ => (List.getElem?_eq_some_iff.mp token).1

theorem not_lt (tracks : Tracks p cancelled ts) (absent : ts.tokens[i]? = none) :
    ¬ i < p.origins.length := by
  rw [tracks.lt_iff, absent]
  simp

theorem token_append (tracks : Tracks p cancelled ts) (inside : i < p.origins.length) (t : Token) :
    (ts.tokens ++ [t])[i]? = ts.tokens[i]? :=
  List.getElem?_append_left (tracks.length_tokens ▸ inside)

/-- A token of a pedigree with one more is an earlier token or the further one. -/
theorem earlier_or_latest (tracks : Tracks p cancelled ts) (t : Token) {o' : Origin}
    (origin : (p.add o).origins[i]? = some o') :
    p.origins[i]? = some o' ∧ (ts.tokens ++ [t])[i]? = ts.tokens[i]? ∨
      i = ts.tokens.length ∧ o = o' ∧ (ts.tokens ++ [t])[i]? = some t := by
  rcases getElem?_concat_eq_some_iff.mp origin with origin | ⟨rfl, rfl⟩
  · have inside := (List.getElem?_eq_some_iff.mp origin).1
    exact .inl ⟨origin, tracks.token_append inside t⟩
  · rw [← tracks.length_tokens]
    exact .inr ⟨rfl, rfl, List.getElem?_concat_length⟩

/-- A further token, with signals that have not fired. A live one shares its signal with none. -/
theorem add (tracks : Tracks p cancelled ts) (o : Origin) (t : Token) (fresh : Signals)
    (fits : o.Fits ts.tokens ts.tokens.length t)
    (alone : o = .live → ∀ i : Nat, ts.tokens[i]? ≠ some t)
    (known : ∀ s, t = ⟨some s⟩ → s < (ts.signals ++ fresh).length) (quiet : true ∉ fresh) :
    Tracks (p.add o) cancelled
      { ts with signals := ts.signals ++ fresh, tokens := ts.tokens ++ [t] } where
  length_tokens := by simp [Pedigree.add, tracks.length_tokens]
  fits i o' u origin token := by
    have more : ts.tokens <+: ts.tokens ++ [t] := List.prefix_append _ _
    rcases tracks.earlier_or_latest t origin with ⟨origin, same⟩ | ⟨rfl, rfl, latest⟩
    · exact (tracks.fits i o' u origin (same.symm.trans token)).mono more
    · obtain rfl := Option.some.inj (latest.symm.trans token)
      exact fits.mono more
  apart i j origin origin' shared := by
    rcases tracks.earlier_or_latest t origin with ⟨origin, same⟩ | ⟨rfl, live, latest⟩ <;>
      rcases tracks.earlier_or_latest t origin' with ⟨origin', same'⟩ | ⟨rfl, live', latest'⟩
    · exact tracks.apart i j origin origin' (same.symm.trans (shared.trans same'))
    · exact absurd (same.symm.trans (shared.trans latest')) (alone live' i)
    · exact absurd (same'.symm.trans (shared.symm.trans latest)) (alone live j)
    · rfl
  known i s token := by
    rcases getElem?_concat_eq_some_iff.mp token with token | ⟨-, latest⟩
    · rw [List.length_append]
      exact Nat.lt_add_right _ (tracks.known i s token)
    · exact known s latest
  length_carriers := tracks.length_carriers
  carries i j c given carried :=
    getElem?_of_prefix (List.prefix_append _ _) (tracks.carries i j c given carried)
  there i member := by
    rw [Pedigree.add, List.length_append]
    exact Nat.lt_add_right _ (tracks.there i member)
  fired s := by
    rw [getElem?_append_of_notMem quiet, tracks.fired s]
    refine exists_congr fun i => and_congr_right fun member => ?_
    rw [tracks.token_append (tracks.there i member)]

theorem cancel (tracks : Tracks p cancelled ts) (token : ts.tokens[i]? = some t) :
    Tracks p (fun j => cancelled j ∨ j = i) { ts with signals := t.cancel ts.signals } where
  length_tokens := tracks.length_tokens
  fits := tracks.fits
  apart := tracks.apart
  known j s other := by
    have bound := tracks.known j s other
    rw [Token.cancel]
    split
    · rwa [List.length_set]
    · exact bound
  length_carriers := tracks.length_carriers
  carries := tracks.carries
  there j member := by
    rcases member with member | rfl
    · exact tracks.there j member
    · rw [← tracks.length_tokens]
      exact (List.getElem?_eq_some_iff.mp token).1
  fired s := by
    have own : (∃ j, (cancelled j ∨ j = i) ∧ ts.tokens[j]? = some ⟨some s⟩) ↔
        ts.signals[s]? = some true ∨ t = ⟨some s⟩ := by
      simp only [or_and_right, exists_or, exists_eq_left, tracks.fired s, token, Option.some.injEq]
    rw [own]
    obtain ⟨signal⟩ := t
    cases signal with
    | none => simp [Token.cancel]
    | some s' =>
      have bound := tracks.known i s' token
      by_cases same : s' = s
      · subst same
        simp [Token.cancel, bound]
      · simp [Token.cancel, same]

theorem place [∀ kind, LawfulHookState (S kind)] (tracks : Tracks p cancelled ts)
    (token : ts.tokens[i]? = some t) (kind : ι) (command handler : String) :
    Tracks { p with given := p.given ++ [i] } cancelled
      { ts with
        carriers := ts.carriers ++ [⟨kind, HookState.ofContext ⟨command, handler, t⟩⟩] } where
  length_tokens := tracks.length_tokens
  fits := tracks.fits
  apart := tracks.apart
  known := tracks.known
  length_carriers := by simp [tracks.length_carriers]
  carries j k c given carried := by
    have length := tracks.length_carriers
    rcases getElem?_concat_eq_some_iff.mp given with given | ⟨rfl, rfl⟩
    · have inside := (List.getElem?_eq_some_iff.mp given).1
      rw [List.getElem?_append_left (by omega)] at carried
      exact tracks.carries j k c given carried
    · rw [← length, List.getElem?_concat_length] at carried
      obtain rfl := Option.some.inj carried
      rw [token, HookState.token, LawfulHookState.context_ofContext]
  there := tracks.there
  fired := tracks.fired

theorem of_iff {cancelled' : Nat → Prop} (tracks : Tracks p cancelled ts)
    (same : ∀ i, cancelled' i ↔ cancelled i) : Tracks p cancelled' ts := by
  obtain rfl : cancelled' = cancelled := funext fun i => propext (same i)
  exact tracks

theorem copy (tracks : Tracks p cancelled ts) (token : ts.tokens[i]? = some t) :
    Tracks (p.add (.copy i)) cancelled (ts.add t) := by
  have inside := (List.getElem?_eq_some_iff.mp token).1
  have added := tracks.add (.copy i) t [] ⟨inside, token⟩ nofun
    (fun s signal => by simpa using tracks.known i s (signal ▸ token)) List.not_mem_nil
  simpa [Tokens.add] using added

theorem inert (tracks : Tracks p cancelled ts) :
    Tracks (p.add .inert) cancelled (ts.add .none) := by
  have added := tracks.add .inert .none [] rfl nofun nofun List.not_mem_nil
  simpa [Tokens.add] using added

theorem live (tracks : Tracks p cancelled ts) :
    Tracks (p.add .live) cancelled
      { ts with
        signals := ts.signals ++ [false]
        tokens := ts.tokens ++ [⟨some ts.signals.length⟩] } := by
  refine tracks.add .live _ [false] rfl (fun _ i token => ?_) ?_ (by simp)
  · exact Nat.lt_irrefl _ (tracks.known i _ token)
  · rintro s ⟨⟩
    simp

theorem apply_clone (tracks : Tracks p cancelled ts) (i : Nat) :
    Tracks (p.grow (.clone i : TokenOperation ι)) cancelled (ts.apply (.clone i)) := by
  rw [Pedigree.grow, Tokens.apply]
  cases token : ts.tokens[i]? with
  | some t =>
    rw [if_pos (tracks.lt_iff.mpr ⟨t, token⟩)]
    exact tracks.copy token
  | none =>
    rw [if_neg (tracks.not_lt token)]
    exact tracks

theorem apply_place [∀ kind, LawfulHookState (S kind)] (tracks : Tracks p cancelled ts) (kind : ι)
    (command handler : String) (i : Nat) :
    Tracks (p.grow (.place kind command handler i)) cancelled
      (ts.apply (.place kind command handler i)) := by
  rw [Pedigree.grow, Tokens.apply]
  cases token : ts.tokens[i]? with
  | some t =>
    rw [if_pos (tracks.lt_iff.mpr ⟨t, token⟩)]
    exact tracks.place token kind command handler
  | none =>
    rw [if_neg (tracks.not_lt token)]
    exact tracks

theorem apply_takeBack (tracks : Tracks p cancelled ts) (i : Nat) :
    Tracks (p.grow (.takeBack i : TokenOperation ι)) cancelled (ts.apply (.takeBack i)) := by
  rw [Pedigree.grow, Tokens.apply]
  have length := tracks.length_carriers
  cases carried : ts.carriers[i]? with
  | some c =>
    have inside := (List.getElem?_eq_some_iff.mp carried).1
    have given := List.getElem?_eq_getElem (l := p.given) (length ▸ inside)
    rw [given]
    exact tracks.copy (tracks.carries i _ c given carried)
  | none =>
    rw [List.getElem?_eq_none_iff] at carried
    rw [List.getElem?_eq_none (by omega)]
    exact tracks

theorem apply_cancel (tracks : Tracks p cancelled ts) (i : Nat) :
    Tracks p (fun j => cancelled j ∨ j = i ∧ i < p.origins.length) (ts.apply (.cancel i)) := by
  rw [Tokens.apply]
  cases token : ts.tokens[i]? with
  | some t =>
    refine (tracks.cancel token).of_iff fun j => or_congr_right (and_iff_left ?_)
    exact tracks.lt_iff.mpr ⟨t, token⟩
  | none => exact tracks.of_iff fun j => or_iff_left fun member => tracks.not_lt token member.2

theorem step [∀ kind, LawfulHookState (S kind)]
    (tracks : Tracks (.of history) (Cancels history) ts) (o : TokenOperation ι) :
    Tracks (.of (history ++ [o])) (Cancels (history ++ [o])) (ts.apply o) := by
  have kept (other : ∀ i, o ≠ .cancel i) (i : Nat) :
      Cancels (history ++ [o]) i ↔ Cancels history i := by
    rw [cancels_concat_iff, or_iff_left fun h => other i h.1]
  rw [Pedigree.of_concat]
  cases o with
  | new => exact tracks.live.of_iff (kept (by simp))
  | none => exact tracks.inert.of_iff (kept (by simp))
  | default => exact tracks.inert.of_iff (kept (by simp))
  | clone i => exact (tracks.apply_clone i).of_iff (kept (by simp))
  | place kind command handler i =>
    exact (tracks.apply_place kind command handler i).of_iff (kept (by simp))
  | takeBack i => exact (tracks.apply_takeBack i).of_iff (kept (by simp))
  | cancel i =>
    refine (tracks.apply_cancel i).of_iff fun j => ?_
    rw [cancels_concat_iff, TokenOperation.cancel.injEq, eq_comm (a := i)]
    refine or_congr_right (and_congr_right ?_)
    rintro rfl
    rfl
  | isCancelled i => exact tracks.of_iff (kept (by simp))
  | check i => exact tracks.of_iff (kept (by simp))

theorem after (S : ι → Type) [∀ kind, HookState (S kind)] [∀ kind, LawfulHookState (S kind)]
    (history : List (TokenOperation ι)) :
    Tracks (.of history) (Cancels history) (Tokens.after S history) := by
  induction history using List.reverseRecOn with
  | nil => exact start
  | append_singleton history o ih =>
    rw [Tokens.after, List.foldl_concat]
    exact ih.step o

/-- Related tokens hold one signal. -/
theorem token_eq (tracks : Tracks p cancelled ts) (related : p.Related i j) :
    ts.tokens[i]? = ts.tokens[j]? := by
  induction related with
  | rel i j copied =>
    have inside : i < p.origins.length := (List.getElem?_eq_some_iff.mp copied).1
    obtain ⟨t, token⟩ := tracks.lt_iff.mp inside
    have fits := tracks.fits i _ t copied token
    rw [token, fits.2]
  | refl i => rfl
  | symm i j _ ih => exact ih.symm
  | trans i j k _ _ first second => exact first.trans second

theorem started (tracks : Tracks p cancelled ts) (token : ts.tokens[i]? = some t) :
    p.Started .live i ∨ p.Started .inert i := by
  induction i using Nat.strongRecOn with
  | ind i ih =>
    have inside := tracks.lt_iff.mpr ⟨t, token⟩
    have origin : p.origins[i]? = some p.origins[i] := List.getElem?_eq_getElem inside
    cases made : p.origins[i] with
    | live => exact .inl ⟨i, .refl i, made ▸ origin⟩
    | inert => exact .inr ⟨i, .refl i, made ▸ origin⟩
    | copy j =>
      rw [made] at origin
      obtain ⟨earlier, token'⟩ := tracks.fits i _ t origin token
      have copied : p.Related i j := .rel i j origin
      refine (ih j earlier token').imp ?_ ?_
      all_goals
        rintro ⟨first, related, begun⟩
        exact ⟨first, copied.trans _ _ _ related, begun⟩

/-- A family that started inert holds no signal. -/
theorem token_of_inert (tracks : Tracks p cancelled ts) (token : ts.tokens[i]? = some t)
    (started : p.Started .inert i) : t = .none := by
  obtain ⟨first, related, origin⟩ := started
  exact tracks.fits first .inert t origin ((tracks.token_eq related).symm.trans token)

/-- A family that started live has one signal, and is the only one that has it. -/
theorem related_iff (tracks : Tracks p cancelled ts) (token : ts.tokens[i]? = some t)
    (started : p.Started .live i) :
    ∃ s, t = ⟨some s⟩ ∧ ∀ j, p.Related i j ↔ ts.tokens[j]? = some ⟨some s⟩ := by
  obtain ⟨first, related, origin⟩ := started
  have token' : ts.tokens[first]? = some t := (tracks.token_eq related).symm.trans token
  obtain ⟨s, signal⟩ := Option.isSome_iff_exists.mp (tracks.fits first .live t origin token')
  obtain rfl : t = ⟨some s⟩ := congrArg Token.mk signal
  refine ⟨s, rfl, fun j => ⟨fun joined => ?_, fun other => ?_⟩⟩
  · exact (tracks.token_eq joined).symm.trans token
  · rcases tracks.started other with ⟨first', related', origin'⟩ | inert
    · -- Two live tokens with one signal are the same.
      have other' := (tracks.token_eq related').symm.trans other
      obtain rfl := tracks.apart first first' origin origin' (token'.trans other'.symm)
      exact related.trans _ _ _ (related'.symm _ _)
    · cases tracks.token_of_inert other inert

end Tracks

theorem Tokens.tokens_prefix_apply (ts : Tokens S) (o : TokenOperation ι) :
    ts.tokens <+: (ts.apply o).tokens := by
  cases o with
  | new => exact List.prefix_append _ _
  | none => exact List.prefix_append _ _
  | default => exact List.prefix_append _ _
  | clone i =>
    rw [apply]
    split
    · exact List.prefix_append _ _
    · exact List.prefix_rfl
  | place kind command handler i =>
    rw [apply]
    split <;> exact List.prefix_rfl
  | takeBack i =>
    rw [apply]
    split
    · exact List.prefix_append _ _
    · exact List.prefix_rfl
  | cancel i =>
    rw [apply]
    split <;> exact List.prefix_rfl
  | isCancelled i => exact List.prefix_rfl
  | check i => exact List.prefix_rfl

theorem Tokens.tokens_prefix_after (S : ι → Type) [∀ kind, HookState (S kind)]
    (history later : List (TokenOperation ι)) :
    (after S history).tokens <+: (after S (history ++ later)).tokens :=
  prefix_foldl_append tokens tokens_prefix_apply {} history later

/-- Later operations cancel no less. -/
theorem Cancels.append (cancels : Cancels history i) (later : List (TokenOperation ι)) :
    Cancels (history ++ later) i := by
  obtain ⟨earlier, started, there⟩ := cancels
  exact ⟨earlier, started.trans (List.prefix_append _ _), there⟩

/-- What has fired has fired for the whole family, as it is and as it grows. -/
theorem Fires.append (fires : Fires history i) (later : List (TokenOperation ι))
    (related : (Pedigree.of (history ++ later)).Related i j) : Fires (history ++ later) j := by
  obtain ⟨started, k, joined, cancels⟩ := fires
  have more := Pedigree.origins_prefix_of history later
  obtain ⟨first, begun, origin⟩ := started.mono more
  exact ⟨⟨first, related.symm.trans _ _ _ begun, origin⟩, k,
    related.symm.trans _ _ _ (joined.mono more), cancels.append later⟩

theorem fires_cancel_iff (apart : ¬ (Pedigree.of history).Related i j) :
    Fires (history ++ [.cancel j]) i ↔ Fires history i := by
  have same : Pedigree.of (history ++ [.cancel j]) = Pedigree.of history :=
    Pedigree.of_concat history (.cancel j)
  rw [Fires, Fires, same]
  refine and_congr_right fun _ => exists_congr fun k => and_congr_right fun related => ?_
  rw [cancels_concat_iff, or_iff_left]
  rintro ⟨⟨⟩, -⟩
  exact apart related

theorem isCancelled_iff {signals : Signals} {s : Nat} :
    (⟨some s⟩ : Token).isCancelled signals ↔ signals[s]? = some true := by
  change signals.getD s false = true ↔ signals[s]? = some true
  rw [List.getD_eq_getElem?_getD]
  cases signals[s]? <;> simp

theorem check_eq_error_iff {signals : Signals} {t : Token} :
    t.check signals = .error Token.cancelledMessage ↔ t.isCancelled signals := by
  rw [Token.check]
  split <;> simp [*]

theorem check_eq_ok_iff {signals : Signals} {t : Token} :
    t.check signals = .ok () ↔ ¬ t.isCancelled signals := by
  rw [Token.check]
  split <;> simp [*]

/-- The signal of a token has fired just when the history fires its family. -/
theorem isCancelled_iff_fires (S : ι → Type) [∀ kind, HookState (S kind)]
    [∀ kind, LawfulHookState (S kind)] {t : Token}
    (token : (Tokens.after S history).tokens[i]? = some t) :
    t.isCancelled (Tokens.after S history).signals ↔ Fires history i := by
  have tracks := Tracks.after S history
  rcases tracks.started token with live | inert
  · obtain ⟨s, rfl, only⟩ := tracks.related_iff token live
    have cancelled :
        (∃ j, Cancels history j ∧ (Tokens.after S history).tokens[j]? = some ⟨some s⟩) ↔
          Fires history i := by
      simp only [← only, Fires, live, true_and, and_comm]
    rw [isCancelled_iff, tracks.fired s, cancelled]
  · obtain rfl := tracks.token_of_inert token inert
    refine iff_of_false Bool.false_ne_true fun fires => ?_
    obtain ⟨s, impossible, -⟩ := tracks.related_iff token fires.1
    cases impossible

/-- After any history a token is cancelled, and fails its check, just when the history fires its
family. From then on the whole family stays cancelled. A cancelled token of another family changes
nothing, and a family that started inert is never cancelled. -/
theorem cancellation_follows_families (S : ι → Type) [∀ kind, HookState (S kind)]
    [∀ kind, LawfulHookState (S kind)] (history : List (TokenOperation ι)) {i : Nat} {t : Token}
    (token : (Tokens.after S history).tokens[i]? = some t) :
    (t.isCancelled (Tokens.after S history).signals ↔ Fires history i) ∧
    (t.check (Tokens.after S history).signals = .error Token.cancelledMessage ↔
      Fires history i) ∧
    (t.check (Tokens.after S history).signals = .ok () ↔ ¬ Fires history i) ∧
    (∀ later, (Tokens.after S (history ++ later)).tokens[i]? = some t) ∧
    (∀ later j u, (Pedigree.of (history ++ later)).Related i j →
      (Tokens.after S (history ++ later)).tokens[j]? = some u →
      t.isCancelled (Tokens.after S history).signals →
      u.isCancelled (Tokens.after S (history ++ later)).signals) ∧
    (∀ j, ¬ (Pedigree.of history).Related i j →
      t.isCancelled (Tokens.after S (history ++ [.cancel j])).signals =
        t.isCancelled (Tokens.after S history).signals) ∧
    ((Pedigree.of history).Started .inert i → ∀ later,
      ¬ t.isCancelled (Tokens.after S (history ++ later)).signals) := by
  have fires := isCancelled_iff_fires S token
  have stays (later : List (TokenOperation ι)) :
      (Tokens.after S (history ++ later)).tokens[i]? = some t :=
    getElem?_of_prefix (Tokens.tokens_prefix_after S history later) token
  refine ⟨fires, check_eq_error_iff.trans fires, check_eq_ok_iff.trans (not_congr fires), stays,
    ?_, ?_, ?_⟩
  · intro later j u related token' cancelled
    exact (isCancelled_iff_fires S token').mpr ((fires.mp cancelled).append later related)
  · intro j apart
    rw [Bool.eq_iff_iff, fires, isCancelled_iff_fires S (stays _), fires_cancel_iff apart]
  · intro inert later
    obtain rfl := (Tracks.after S history).token_of_inert token inert
    exact Bool.false_ne_true

end Histories

namespace Handing

def history : List (TokenOperation PlainKind) := [.new, .clone 0, .none, .new,
  .place (.generated "app::Audit") "deploy" "app::Deploy" 1, .isCancelled 1, .takeBack 0, .cancel 4]

end Handing

open Handing in
theorem cancellation_follows_families_audit :
    let state := Tokens.after PlainKind.State
    (state history).tokens[0]? = some ⟨some 0⟩ ∧ Fires history 0 ∧
    (∀ later, (⟨some 0⟩ : Token).isCancelled (state (history ++ later)).signals) ∧
    (state history).tokens[3]? = some ⟨some 1⟩ ∧ ¬ Fires history 3 := by
  intro state
  have token : (state history).tokens[0]? = some ⟨some 0⟩ := rfl
  have token' : (state history).tokens[3]? = some ⟨some 1⟩ := rfl
  obtain ⟨fires, -, -, stays, lasts, -, -⟩ := cancellation_follows_families _ history token
  obtain ⟨fires', -⟩ := cancellation_follows_families _ history token'
  have cancelled : (⟨some 0⟩ : Token).isCancelled (state history).signals := rfl
  refine ⟨token, fires.mp cancelled, fun later => ?_, token', fires'.not.mp Bool.false_ne_true⟩
  exact lasts later 0 _ (.refl 0) (stays later) cancelled

end RouteWeaver.Dispatch
