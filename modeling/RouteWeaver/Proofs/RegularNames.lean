import RouteWeaver.Proofs.CodeLines
import RouteWeaver.Proofs.IdentifierImage

namespace RouteWeaver

namespace Name

open Text

def isSmall (c : Char) : Bool :=
  c.isLower || c.isDigit

/-- A first character, and behind it one or more letters in lower case or digits. -/
inductive IsWord (leads : Char → Bool) : List Char → Prop where
  | intro {c : Char} {rest : List Char} (first : leads c) (behind : rest ≠ [])
      (small : ∀ d ∈ rest, isSmall d) : IsWord leads (c :: rest)

def IsPascal (name : String) : Prop :=
  ∃ words ≠ [], (∀ w ∈ words, IsWord Char.isUpper w) ∧ name.toList = words.flatten

def IsSnake (name : String) : Prop :=
  ∃ words ≠ [], (∀ w ∈ words, IsWord Char.isLower w) ∧ name.toList = ['_'].intercalate words

/-- The word with its first letter in lower case. -/
def lowered : List Char → List Char
  | [] => []
  | c :: rest => c.toLower :: rest

variable {c p : Char} {word front : List Char} {words : List (List Char)}

theorem isNameChar_of_isSmall (small : isSmall c) : isNameChar c := by
  rw [isNameChar, ← isSmall, small, Bool.true_or]

theorem ne_underscore_of_isSmall (small : isSmall c) : c ≠ '_' := by
  rintro rfl
  cases small

theorem isLower_of_ascii (letter : c.isLower) : Text.isLower c := by
  have each : ∀ n < 128, (Char.ofNat n).isLower → Text.isLower (Char.ofNat n) := by
    decide +kernel
  have codes := isLower_iff_toNat.mp letter
  exact forall_ascii (P := fun c => c.isLower → Text.isLower c) each (by omega) letter

theorem lower_eq_toLower (capital : c.isUpper) : lower c = [c.toLower] := by
  have each : ∀ n < 128, (Char.ofNat n).isUpper →
      lower (Char.ofNat n) = [(Char.ofNat n).toLower] := by
    decide +kernel
  exact forall_ascii (P := fun c => c.isUpper → lower c = [c.toLower]) each
    (ascii_of_isUpper capital) capital

theorem startsWord_of_isSmall (small : isSmall p) (next : Option Char) :
    startsWord (some p) next := by
  rcases Bool.or_eq_true_iff.mp small with letter | digit
  · simp [startsWord, isLower_of_ascii letter]
  · simp [startsWord, digit]

theorem snakeAfter_small_append (previous : Option Char) (nonempty : front ≠ [])
    (small : ∀ d ∈ front, isSmall d) :
    ∃ p, isSmall p ∧ ∀ rest,
      snakeAfter previous (front ++ rest) = front ++ snakeAfter (some p) rest := by
  induction front generalizing previous with
  | nil => exact absurd rfl nonempty
  | cons c front ih =>
    obtain ⟨first, small⟩ := List.forall_mem_cons.mp small
    have kept (rest : List Char) :
        snakeAfter previous (c :: rest) = c :: snakeAfter (some c) rest := by
      have same := (plain_of_isNameChar (isNameChar_of_isSmall first)).2.1
      rw [snakeAfter, if_neg same]
    cases front with
    | nil => exact ⟨c, first, kept⟩
    | cons d front =>
      obtain ⟨p, last, later⟩ := ih (some c) (List.cons_ne_nil d front) small
      refine ⟨p, last, fun rest => ?_⟩
      rw [List.cons_append, kept, later]
      rfl

/-- A word is read off whole. What follows it starts a word of its own, should it be a capital. -/
theorem snakeAfter_word (previous : Option Char) {starts : Bool}
    (known : ∀ next, startsWord previous next = starts) (regular : IsWord Char.isUpper word) :
    ∃ p, isSmall p ∧ ∀ rest, snakeAfter previous (word ++ rest) =
      (if starts then ['_'] else []) ++ lowered word ++ snakeAfter (some p) rest := by
  cases regular with
  | @intro c behind capital nonempty small =>
    obtain ⟨p, last, later⟩ := snakeAfter_small_append (some c) nonempty small
    refine ⟨p, last, fun rest => ?_⟩
    rw [List.cons_append, snakeAfter, if_pos (isUpper_of_ascii capital), known, later,
      lower_eq_toLower capital, lowered]
    simp

theorem snakeAfter_flatten (regular : ∀ w ∈ words, IsWord Char.isUpper w) (small : isSmall p) :
    snakeAfter (some p) words.flatten = words.flatMap fun w => '_' :: lowered w := by
  induction words generalizing p with
  | nil => rfl
  | cons w words ih =>
    obtain ⟨first, regular⟩ := List.forall_mem_cons.mp regular
    obtain ⟨q, last, read⟩ := snakeAfter_word (some p) (startsWord_of_isSmall small) first
    rw [List.flatten_cons, read, ih regular last, List.flatMap_cons]
    rfl

theorem intercalate_cons (word : List Char) (words : List (List Char)) :
    ['_'].intercalate (word :: words) = word ++ words.flatMap ('_' :: ·) := by
  induction words generalizing word with
  | nil => simp [List.intercalate]
  | cons w words ih =>
    have split : ['_'].intercalate (word :: w :: words) =
        word ++ '_' :: ['_'].intercalate (w :: words) := by
      simp [List.intercalate]
    rw [split, ih, List.flatMap_cons]
    rfl

theorem toList_snake {name : String} (nonempty : words ≠ [])
    (regular : ∀ w ∈ words, IsWord Char.isUpper w) (chars : name.toList = words.flatten) :
    (snake name).toList = ['_'].intercalate (words.map lowered) := by
  cases words with
  | nil => exact absurd rfl nonempty
  | cons w words =>
    obtain ⟨first, regular⟩ := List.forall_mem_cons.mp regular
    obtain ⟨p, last, read⟩ := snakeAfter_word none (fun next => rfl) first
    rw [snake, String.toList_ofList, snakeChars_eq, chars, List.flatten_cons, read,
      snakeAfter_flatten regular last, List.map_cons, intercalate_cons, List.flatMap_map]
    rfl

theorem IsWord.underscore_notMem {leads : Char → Bool} (other : leads '_' = false)
    (regular : IsWord leads word) : '_' ∉ word := by
  cases regular with
  | @intro c behind first _ small =>
    rw [List.mem_cons, not_or]
    constructor
    · rintro rfl
      exact Bool.false_ne_true (other.symm.trans first)
    · exact fun member => ne_underscore_of_isSmall (small '_' member) rfl

theorem pieces_intercalate (nonempty : words ≠ []) (plain : ∀ w ∈ words, '_' ∉ w) :
    pieces '_' (['_'].intercalate words) = words := by
  induction words with
  | nil => exact absurd rfl nonempty
  | cons w words ih =>
    obtain ⟨first, plain⟩ := List.forall_mem_cons.mp plain
    cases words with
    | nil => rw [intercalate_cons, List.flatMap_nil, List.append_nil, pieces_of_notMem first]
    | cons v words =>
      have later : pieces '_' ('_' :: ['_'].intercalate (v :: words)) = [] :: v :: words := by
        rw [pieces, if_pos rfl, ih (List.cons_ne_nil v words) plain]
      have joined : ['_'].intercalate (w :: v :: words) =
          w ++ '_' :: ['_'].intercalate (v :: words) := by
        rw [intercalate_cons, intercalate_cons]
        rfl
      rw [joined, pieces_append_of_notMem first later, List.append_nil]

theorem toList_pascal_of_words {name : String} (nonempty : words ≠ [])
    (regular : ∀ w ∈ words, IsWord Char.isLower w)
    (chars : name.toList = ['_'].intercalate words) :
    (pascal name).toList = (words.map capitalized).flatten := by
  have plain : ∀ w ∈ words, '_' ∉ w := fun w member => (regular w member).underscore_notMem rfl
  rw [pascal, String.toList_ofList, chars, pieces_intercalate nonempty plain, List.flatMap_def]

theorem IsWord.lowered (regular : IsWord Char.isUpper word) :
    IsWord Char.isLower (lowered word) ∧ capitalized (Name.lowered word) = word := by
  cases regular with
  | @intro c behind capital nonempty small =>
    have letter : c.toLower.isLower := by simp [Char.isAlpha, capital]
    have legal : isNameChar c.toLower := by simp [isNameChar, letter]
    have back : c.toLower.toUpper = c := by
      rw [Char.toUpper_toLower_eq_toUpper]
      exact Char.toUpper_eq_of_not_isLower fun letter => by
        have codes := isLower_iff_toNat.mp letter
        have codes' := isUpper_iff_toNat.mp capital
        omega
    refine ⟨.intro letter nonempty small, ?_⟩
    rw [Name.lowered, capitalized, upper_eq_toUpper legal, back, List.singleton_append]

theorem IsWord.capitalized (regular : IsWord Char.isLower word) :
    IsWord Char.isUpper (capitalized word) ∧ Name.lowered (Name.capitalized word) = word := by
  cases regular with
  | @intro c behind letter nonempty small =>
    have legal : isNameChar c := by simp [isNameChar, letter]
    have chars : Name.capitalized (c :: behind) = c.toUpper :: behind := by
      rw [Name.capitalized, upper_eq_toUpper legal, List.singleton_append]
    rw [chars, Name.lowered, toLower_toUpper legal]
    exact ⟨.intro (isUpper_toUpper letter) nonempty small, rfl⟩

theorem map_capitalized_lowered (regular : ∀ w ∈ words, IsWord Char.isUpper w) :
    (words.map lowered).map capitalized = words := by
  have back : ∀ w ∈ words, (capitalized ∘ lowered) w = w := fun w member =>
    (regular w member).lowered.2
  rw [List.map_map, List.map_congr_left back, List.map_id']

theorem map_lowered_capitalized (regular : ∀ w ∈ words, IsWord Char.isLower w) :
    (words.map capitalized).map lowered = words := by
  have back : ∀ w ∈ words, (lowered ∘ capitalized) w = w := fun w member =>
    (regular w member).capitalized.2
  rw [List.map_map, List.map_congr_left back, List.map_id']

theorem IsPascal.snake {name : String} (regular : IsPascal name) :
    IsSnake (snake name) ∧ pascal (Name.snake name) = name := by
  obtain ⟨words, nonempty, capitals, chars⟩ := regular
  have read := toList_snake nonempty capitals chars
  have nonempty' : words.map lowered ≠ [] := List.map_eq_nil_iff.not.mpr nonempty
  have small : ∀ w ∈ words.map lowered, IsWord Char.isLower w := by
    rw [List.forall_mem_map]
    exact fun w member => (capitals w member).lowered.1
  refine ⟨⟨_, nonempty', small, read⟩, String.toList_injective ?_⟩
  rw [toList_pascal_of_words nonempty' small read, map_capitalized_lowered capitals, chars]

theorem IsSnake.pascal {name : String} (regular : IsSnake name) :
    IsPascal (pascal name) ∧ snake (Name.pascal name) = name := by
  obtain ⟨words, nonempty, small, chars⟩ := regular
  have read := toList_pascal_of_words nonempty small chars
  have nonempty' : words.map capitalized ≠ [] := List.map_eq_nil_iff.not.mpr nonempty
  have capitals : ∀ w ∈ words.map capitalized, IsWord Char.isUpper w := by
    rw [List.forall_mem_map]
    exact fun w member => (small w member).capitalized.1
  refine ⟨⟨_, nonempty', capitals, read⟩, String.toList_injective ?_⟩
  rw [toList_snake nonempty' capitals read, map_lowered_capitalized small, chars]

theorem IsWord.isNameChar (regular : IsWord Char.isLower word) : ∀ c ∈ word, isNameChar c := by
  cases regular with
  | intro first _ small =>
    refine List.forall_mem_cons.mpr ⟨?_, fun d member => isNameChar_of_isSmall (small d member)⟩
    exact isNameChar_of_isSmall (Bool.or_eq_true_iff.mpr (.inl first))

theorem IsSnake.isIdentifier {name : String} (regular : IsSnake name) : IsIdentifier name := by
  obtain ⟨words, nonempty, small, chars⟩ := regular
  cases words with
  | nil => exact absurd rfl nonempty
  | cons w words =>
    rw [intercalate_cons] at chars
    obtain ⟨first, small⟩ := List.forall_mem_cons.mp small
    constructor
    · intro c member
      rw [chars, List.mem_append, List.mem_flatMap] at member
      rcases member with front | ⟨v, later, inside⟩
      · exact first.isNameChar c front
      · rcases List.mem_cons.mp inside with rfl | inside
        · rfl
        · exact (small v later).isNameChar c inside
    · cases first with
      | @intro c behind letter _ _ =>
        exact ⟨c, _, chars, fun digit => not_isLower_of_isDigit digit letter⟩

/-- Nothing of a regular name has to be replaced. -/
theorem identifier_of_isPascal {type : String} (regular : IsPascal (short type)) :
    identifier type = snake (short type) := by
  obtain ⟨legal, c, rest, chars, start⟩ := regular.snake.1.isIdentifier
  have same : snakeChars (shortChars type.toList) = (snake (short type)).toList := by
    rw [snake, short, String.toList_ofList, String.toList_ofList]
  rw [identifier, same, chars, legalized_of_start (chars ▸ legal) start, ← chars,
    String.ofList_toList]

end Name

namespace Model

variable {config : Config} {behaviors : List Behavior} {services : List Service}
  {routes : List Route} {b : Behavior}

/-- A behavior whose type does not share its identifier keeps it. -/
theorem identifier_of_uncontested (fresh : ∀ b ∈ behaviors, b.Fresh)
    (registered : b ∈ (ofDefinitions config behaviors services routes).behaviors)
    (alone : ¬ Name.Contested (behaviors.map Behavior.key) b.key) :
    b.identifier = Name.identifier b.type := by
  obtain ⟨c, kept, rfl⟩ := List.mem_map.mp registered
  have fresh' : ∀ d ∈ Behavior.distinct behaviors, d.request.Fresh := fun d member =>
    fresh d (Behavior.mem_of_mem_distinct member)
  have alone' : ¬ Name.Contested ((Behavior.distinct behaviors).map Behavior.key) c.key := by
    rw [Name.Contested.congr (Behavior.mem_keys_distinct_iff behaviors)]
    exact alone
  calc c.request.granted ((Behavior.distinct behaviors).map Behavior.request)
      = Name.identifier c.key := (Name.Request.granted_eq fresh' kept).trans (if_neg alone')
    _ = Name.identifier c.type := Name.identifier_trimmed c.type

end Model

/-- On names in regular words the case conversions are inverse bijections. The state type of
a behavior with such a type, when no other type asks for its identifier, is called after it. -/
theorem case_conversions_inverse (config : Config) {behaviors : List Behavior}
    (fresh : ∀ b ∈ behaviors, b.Fresh) (services : List Service) (routes : List Route) :
    Set.BijOn Name.snake {s | Name.IsPascal s} {s | Name.IsSnake s} ∧
    Set.BijOn Name.pascal {s | Name.IsSnake s} {s | Name.IsPascal s} ∧
    Set.InvOn Name.pascal Name.snake {s | Name.IsPascal s} {s | Name.IsSnake s} ∧
    ∀ b ∈ (Model.ofDefinitions config behaviors services routes).behaviors,
      Name.IsPascal (Name.short b.type) →
      ¬ Name.Contested (behaviors.map Behavior.key) b.key →
        b.generatedStateName = Name.short b.type ++ "State" := by
  have inverse : Set.InvOn Name.pascal Name.snake {s | Name.IsPascal s} {s | Name.IsSnake s} :=
    ⟨fun _ regular => regular.snake.2, fun _ regular => regular.pascal.2⟩
  have forth : Set.MapsTo Name.snake {s | Name.IsPascal s} {s | Name.IsSnake s} :=
    fun _ regular => regular.snake.1
  have back : Set.MapsTo Name.pascal {s | Name.IsSnake s} {s | Name.IsPascal s} :=
    fun _ regular => regular.pascal.1
  refine ⟨inverse.bijOn forth back, inverse.symm.bijOn back forth, inverse, ?_⟩
  intro b registered regular alone
  rw [Behavior.generatedStateName, Model.identifier_of_uncontested fresh registered alone,
    Name.identifier_of_isPascal regular, regular.snake.2]

theorem case_conversions_inverse_http2 :
    let b := Behavior.ofType "app::Http2Server<u8>"
    let behaviors := [b, .ofType "app::http_2_server"]
    (∀ b ∈ behaviors, b.Fresh) ∧ b ∈ (Model.ofDefinitions {} behaviors [] []).behaviors ∧
    Name.IsPascal (Name.short b.type) ∧ ¬ Name.Contested (behaviors.map Behavior.key) b.key ∧
    b.generatedStateName = "Http2ServerState" := by
  intro b behaviors
  have fresh : ∀ b ∈ behaviors, b.Fresh := by
    simp [behaviors, b, Behavior.Fresh, Behavior.ofType]
  have registered : b ∈ (Model.ofDefinitions {} behaviors [] []).behaviors := by
    decide +kernel
  have name : Name.short b.type = "Http2Server" := by
    decide +kernel
  have regular : Name.IsPascal (Name.short b.type) := by
    have capitals : ∀ w ∈ [['H', 't', 't', 'p', '2'], ['S', 'e', 'r', 'v', 'e', 'r']],
        Name.IsWord Char.isUpper w := by
      rw [List.forall_mem_cons, List.forall_mem_singleton]
      constructor <;> exact .intro rfl (by decide) (List.all_eq_true.mp rfl)
    rw [name]
    exact ⟨_, List.cons_ne_nil _ _, capitals, rfl⟩
  have alone : ¬ Name.Contested (behaviors.map Behavior.key) b.key := by
    have apart : Name.identifier "app::http_2_server" ≠ Name.identifier b.key := by
      decide +kernel
    rintro ⟨_, member, other, same⟩
    rcases List.mem_pair.mp member with rfl | rfl
    · exact other rfl
    · exact apart same
  obtain ⟨-, -, -, named⟩ := case_conversions_inverse {} fresh [] []
  refine ⟨fresh, registered, regular, alone, ?_⟩
  rw [named b registered regular alone, name]
  rfl

end RouteWeaver
