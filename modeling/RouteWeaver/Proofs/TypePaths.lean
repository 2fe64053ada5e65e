import RouteWeaver.Name
import RouteWeaver.Proofs.CutTexts
import RouteWeaver.Proofs.Trimming

/-!
Type paths and the expressions made of them. In an expression the arguments of a segment are set
apart from its name by `::`. The search for arguments ends at the first `<`: it sets apart those of
one segment, and takes the bracket of a qualified path for arguments.
-/

namespace RouteWeaver

open Text

def isPathChar (c : Char) : Bool :=
  !isBlank c && c ≠ '<' && c ≠ '>' && c ≠ ':' && c ≠ ','

structure PathName where
  chars : List Char
  nonempty : chars ≠ []
  plain : ∀ c ∈ chars, isPathChar c

def PathName.ofText (text : String) (nonempty : text.toList ≠ [])
    (plain : text.toList.all isPathChar) : PathName :=
  ⟨text.toList, nonempty, List.all_eq_true.mp plain⟩

structure Gap where
  chars : List Char
  blank : ∀ c ∈ chars, isBlank c

mutual

/-- A path to a type, from the root or not, or from a type in brackets on. -/
inductive TypePath where
  | plain (rooted : Bool) (first : PathSegment) (others : List PathSegment)
  | qualified (type : PathOperand) (trait : Option PathOperand) (first : PathSegment)
      (others : List PathSegment)

inductive PathSegment where
  | bare (name : PathName)
  /-- A segment with arguments, `apart` from its name by `::` or right behind it. -/
  | applied (name : PathName) (apart : Bool) (arguments : List PathOperand)

inductive PathOperand where
  | mk (lead : Gap) (type : TypePath) (trail : Gap)

end

mutual

def TypePath.chars : TypePath → List Char
  | .plain rooted first others =>
    (if rooted then [':', ':'] else []) ++ (first.chars ++ laterSegments others)
  | .qualified type trait first others =>
    '<' :: (type.chars ++ (asTrait trait ++
      '>' :: ':' :: ':' :: (first.chars ++ laterSegments others)))

def PathSegment.chars : PathSegment → List Char
  | .bare name => name.chars
  | .applied name apart arguments =>
    name.chars ++ ((if apart then [':', ':'] else []) ++ '<' :: (joinedOperands arguments ++ ['>']))

def PathOperand.chars : PathOperand → List Char
  | .mk lead type trail => lead.chars ++ (type.chars ++ trail.chars)

def asTrait : Option PathOperand → List Char
  | none => []
  | some trait => " as ".toList ++ trait.chars

def laterSegments : List PathSegment → List Char
  | [] => []
  | s :: rest => ':' :: ':' :: (s.chars ++ laterSegments rest)

def joinedOperands : List PathOperand → List Char
  | [] => []
  | [a] => a.chars
  | a :: b :: rest => a.chars ++ ',' :: joinedOperands (b :: rest)

end

namespace PathSegment

def expression : PathSegment → PathSegment
  | bare name => bare name
  | applied name _ arguments => applied name true arguments

def isDirect : PathSegment → Bool
  | applied _ false _ => true
  | _ => false

def hasArguments : PathSegment → Bool
  | bare _ => false
  | applied .. => true

/-- The segments with the first arguments among them set apart. -/
def opened : List PathSegment → List PathSegment
  | [] => []
  | bare name :: rest => bare name :: opened rest
  | applied name _ arguments :: rest => applied name true arguments :: rest

/-- The segments behind the first one that has arguments. -/
def behindArguments (segments : List PathSegment) : List PathSegment :=
  (segments.dropWhile (!·.hasArguments)).tail

end PathSegment

namespace TypePath

def text (p : TypePath) : String :=
  String.ofList p.chars

def expression : TypePath → TypePath
  | plain rooted first others => plain rooted first.expression (others.map .expression)
  | qualified type trait first others =>
    qualified type trait first.expression (others.map .expression)

/-- The path starts with a segment, and behind the first segment with arguments all arguments are
set apart as it is. -/
def OpensOnce : TypePath → Prop
  | plain _ first others =>
    ∀ s ∈ PathSegment.behindArguments (first :: others), ¬ s.isDirect
  | qualified .. => False

end TypePath

namespace Name

variable {lead rest path : List Char}

theorem expressionChars_of_notMem (plain : '<' ∉ path) : expressionChars path = path := by
  rw [expressionChars]
  split
  · rfl
  · rename_i before arguments cut
    obtain ⟨rfl, -⟩ := cutFirst_eq_some_iff.mp cut
    simp at plain

theorem expressionChars_append (plain : '<' ∉ lead) (rest : List Char) :
    expressionChars (lead ++ '<' :: rest) =
      if [':', ':'] <:+ lead then lead ++ '<' :: rest else lead ++ ':' :: ':' :: '<' :: rest := by
  have cut : cutFirst '<' (lead ++ '<' :: rest) = some (lead, rest) :=
    cutFirst_eq_some_iff.mpr ⟨rfl, plain⟩
  have marked : "::".toList.isSuffixOf lead ↔ [':', ':'] <:+ lead := List.isSuffixOf_iff_suffix
  rw [expressionChars, cut]
  simp only [marked]
  split
  · rfl
  · simp

theorem expressionChars_eq_or (path : List Char) :
    expressionChars path = path ∨ ∃ lead rest, path = lead ++ '<' :: rest ∧ '<' ∉ lead ∧
      expressionChars path = lead ++ ':' :: ':' :: '<' :: rest := by
  by_cases member : '<' ∈ path
  · obtain ⟨lead, rest, rfl, plain⟩ := List.eq_append_cons_of_mem member
    rw [expressionChars_append plain]
    split
    · exact .inl rfl
    · exact .inr ⟨lead, rest, rfl, plain, rfl⟩
  · exact .inl (expressionChars_of_notMem member)

/-- What is set apart once stays as it is. -/
theorem expressionChars_expressionChars (path : List Char) :
    expressionChars (expressionChars path) = expressionChars path := by
  rcases expressionChars_eq_or path with same | ⟨lead, rest, rfl, plain, opened⟩
  · rw [same, same]
  · have marked : lead ++ ':' :: ':' :: '<' :: rest = (lead ++ [':', ':']) ++ '<' :: rest := by
      simp
    have plain' : '<' ∉ lead ++ [':', ':'] := by
      simp [plain]
    rw [opened, marked, expressionChars_append plain', if_pos (List.suffix_append ..)]

theorem trim_expressionChars (tidy : trim path = path) :
    trim (expressionChars path) = expressionChars path := by
  rcases expressionChars_eq_or path with same | ⟨lead, rest, rfl, -, opened⟩
  · rw [same, tidy]
  · rw [trim_eq_self_iff] at tidy
    rw [opened, trim_eq_self_iff]
    constructor
    · cases lead with
      | nil =>
        rintro _ ⟨⟩
        decide
      | cons c lead => exact tidy.1
    · simpa using tidy.2

theorem expressionPath_expressionPath (type : String) :
    expressionPath (expressionPath type) = expressionPath type := by
  rw [expressionPath, expressionPath, String.toList_ofList, trim_expressionChars (trim_trim _),
    expressionChars_expressionChars]

end Name

theorem PathName.lt_notMem (name : PathName) : '<' ∉ name.chars := fun member =>
  absurd (name.plain '<' member) (by decide)

theorem PathName.not_marked (name : PathName) (lead : List Char) :
    ¬ [':', ':'] <:+ lead ++ name.chars := by
  obtain ⟨front, c, chars⟩ := List.eq_nil_or_concat' name.chars |>.resolve_left name.nonempty
  rintro ⟨before, marked⟩
  have last : c = ':' := by
    have ends := congrArg List.getLast? marked
    simpa [chars] using ends.symm
  have plain := name.plain c (by simp [chars])
  rw [last] at plain
  exact absurd plain (by decide)

namespace PathSegment

variable {lead : List Char}

theorem expressionChars_applied (plain : '<' ∉ lead) (name : PathName) (apart : Bool)
    (arguments : List PathOperand) (rest : List Char) :
    Name.expressionChars (lead ++ ((applied name apart arguments).chars ++ rest)) =
      lead ++ ((applied name true arguments).chars ++ rest) := by
  have named := name.lt_notMem
  cases apart with
  | true =>
    have split : lead ++ ((applied name true arguments).chars ++ rest) =
        (lead ++ name.chars ++ [':', ':']) ++ '<' :: (joinedOperands arguments ++ '>' :: rest) := by
      simp [chars]
    rw [split, Name.expressionChars_append (by simp [plain, named]),
      if_pos (List.suffix_append ..)]
  | false =>
    have split : lead ++ ((applied name false arguments).chars ++ rest) =
        (lead ++ name.chars) ++ '<' :: (joinedOperands arguments ++ '>' :: rest) := by
      simp [chars]
    rw [split, Name.expressionChars_append (by simp [plain, named]),
      if_neg (name.not_marked lead)]
    simp [chars]

theorem expressionChars_laterSegments (plain : '<' ∉ lead) (segments : List PathSegment) :
    Name.expressionChars (lead ++ laterSegments segments) =
      lead ++ laterSegments (opened segments) := by
  induction segments generalizing lead with
  | nil => exact Name.expressionChars_of_notMem (by simpa [laterSegments] using plain)
  | cons s segments ih =>
    cases s with
    | bare name =>
      have named := name.lt_notMem
      have plain' : '<' ∉ lead ++ ':' :: ':' :: name.chars := by simp [plain, named]
      have later := ih plain'
      simpa [laterSegments, opened, chars] using later
    | applied name apart arguments =>
      have marked : '<' ∉ lead ++ [':', ':'] := by simp [plain]
      have read :=
        expressionChars_applied marked name apart arguments (laterSegments segments)
      simpa [laterSegments, opened] using read

theorem length_chars_expression (s : PathSegment) :
    s.expression.chars.length = s.chars.length + if s.isDirect then 2 else 0 := by
  cases s with
  | bare name => rfl
  | applied name apart arguments =>
    cases apart <;> simp [expression, chars, isDirect]
    omega

theorem length_laterSegments_map (segments : List PathSegment) :
    (laterSegments (segments.map expression)).length =
      (laterSegments segments).length + 2 * segments.countP isDirect := by
  induction segments with
  | nil => rfl
  | cons s segments ih =>
    have first := length_chars_expression s
    simp only [List.map_cons, laterSegments, List.length_cons, List.length_append,
      List.countP_cons, ih, first]
    split <;> omega

/-- Each `::` that is missing is missed. -/
theorem laterSegments_eq_map_iff (segments : List PathSegment) :
    laterSegments segments = laterSegments (segments.map expression) ↔
      ∀ s ∈ segments, ¬ s.isDirect := by
  rw [← List.countP_eq_zero]
  constructor
  · intro same
    have lengths := length_laterSegments_map segments
    rw [← same] at lengths
    omega
  · intro none
    have kept : ∀ s ∈ segments, s.expression = s := by
      intro s member
      have apart := List.countP_eq_zero.mp none s member
      cases s with
      | bare name => rfl
      | applied name apart' arguments =>
        cases apart' with
        | true => rfl
        | false => exact absurd rfl apart
    rw [List.map_congr_left kept, List.map_id']

theorem opened_eq_map_iff (segments : List PathSegment) :
    laterSegments (opened segments) = laterSegments (segments.map expression) ↔
      ∀ s ∈ behindArguments segments, ¬ s.isDirect := by
  induction segments with
  | nil => simp [opened, behindArguments]
  | cons s segments ih =>
    cases s with
    | bare name =>
      have same : behindArguments (bare name :: segments) = behindArguments segments := rfl
      rw [same, ← ih]
      simp [opened, expression, laterSegments]
    | applied name apart arguments =>
      have same : behindArguments (applied name apart arguments :: segments) = segments := rfl
      rw [same, ← laterSegments_eq_map_iff]
      simp [opened, expression, laterSegments]

theorem exists_opened_eq_cons (first : PathSegment) (others : List PathSegment) :
    ∃ first' others', opened (first :: others) = first' :: others' := by
  cases first <;> exact ⟨_, _, rfl⟩

end PathSegment

namespace TypePath

variable {rooted : Bool} {first first' : PathSegment} {others others' : List PathSegment}

theorem plain_chars_eq_iff :
    (plain rooted first others).chars = (plain rooted first' others').chars ↔
      laterSegments (first :: others) = laterSegments (first' :: others') := by
  simp [chars, laterSegments]

theorem expressionChars_plain (opens : PathSegment.opened (first :: others) = first' :: others') :
    Name.expressionChars (plain rooted first others).chars =
      (plain rooted first' others').chars := by
  have start : '<' ∉ if rooted then [':', ':'] else [] := by
    cases rooted <;> decide
  rw [chars, chars]
  cases first with
  | bare name =>
    obtain ⟨rfl, rfl⟩ := List.cons.inj opens
    have named := name.lt_notMem
    have plain : '<' ∉ (if rooted then [':', ':'] else []) ++ name.chars := by
      simp [start, named]
    have read := PathSegment.expressionChars_laterSegments plain others
    simpa [PathSegment.chars] using read
  | applied name apart arguments =>
    obtain ⟨rfl, rfl⟩ := List.cons.inj opens
    exact PathSegment.expressionChars_applied start name apart arguments (laterSegments others)

/-- The bracket of a qualified path is the first one. -/
theorem expressionChars_qualified (type : PathOperand) (trait : Option PathOperand) :
    Name.expressionChars (qualified type trait first others).chars =
      ':' :: ':' :: (qualified type trait first others).chars := by
  have bracket : '<' ∉ ([] : List Char) := List.not_mem_nil
  have read := Name.expressionChars_append bracket (qualified type trait first others).chars.tail
  rwa [if_neg (by decide)] at read

theorem expressionChars_eq_iff (p : TypePath) :
    Name.expressionChars p.chars = p.expression.chars ↔ p.OpensOnce := by
  cases p with
  | plain rooted first others =>
    obtain ⟨first', others', opens⟩ := PathSegment.exists_opened_eq_cons first others
    have iff := PathSegment.opened_eq_map_iff (first :: others)
    rw [opens, List.map_cons] at iff
    rw [expressionChars_plain opens, expression, plain_chars_eq_iff, iff, OpensOnce]
  | qualified type trait first others =>
    rw [expressionChars_qualified]
    refine iff_of_false (fun same => ?_) id
    -- The one starts with the mark and the other with the bracket.
    have start := congrArg List.head? same
    simp [expression, chars] at start

end TypePath

theorem PathName.exists_cons (name : PathName) :
    ∃ c rest, name.chars = c :: rest ∧ ¬ isBlank c := by
  obtain ⟨c, rest, chars⟩ := List.exists_cons_of_ne_nil name.nonempty
  refine ⟨c, rest, chars, fun blank => ?_⟩
  have plain := name.plain c (by simp [chars])
  simp [isPathChar, blank] at plain

theorem PathSegment.exists_cons (s : PathSegment) :
    ∃ c rest, s.chars = c :: rest ∧ ¬ isBlank c := by
  cases s with
  | bare name => exact name.exists_cons
  | applied name apart arguments =>
    obtain ⟨c, rest, chars, visible⟩ := name.exists_cons
    exact ⟨c, _, by rw [PathSegment.chars, chars, List.cons_append], visible⟩

theorem PathSegment.exists_getLast? (s : PathSegment) :
    ∃ c, s.chars.getLast? = some c ∧ ¬ isBlank c := by
  cases s with
  | bare name =>
    refine ⟨_, List.getLast?_eq_some_getLast name.nonempty, fun blank => ?_⟩
    have plain := name.plain _ (List.getLast_mem name.nonempty)
    simp [isPathChar, blank] at plain
  | applied name apart arguments =>
    have split : (applied name apart arguments).chars =
        name.chars ++ (if apart then [':', ':'] else []) ++ '<' :: joinedOperands arguments ++
          ['>'] := by
      simp [chars]
    exact ⟨'>', by rw [split, List.getLast?_concat], by decide⟩

theorem exists_getLast?_laterSegments (first : PathSegment) (others : List PathSegment) :
    ∃ c, (first.chars ++ laterSegments others).getLast? = some c ∧ ¬ isBlank c := by
  induction others generalizing first with
  | nil => simpa [laterSegments] using first.exists_getLast?
  | cons s others ih =>
    obtain ⟨c, last, visible⟩ := ih s
    have split : first.chars ++ laterSegments (s :: others) =
        (first.chars ++ [':', ':']) ++ (s.chars ++ laterSegments others) := by
      simp [laterSegments]
    exact ⟨c, by rw [split, List.getLast?_append, last, Option.some_or], visible⟩

namespace TypePath

theorem exists_lead (p : TypePath) :
    ∃ (lead : List Char) (first : PathSegment) (others : List PathSegment),
      p.chars = lead ++ (first.chars ++ laterSegments others) ∧ ∀ c ∈ lead.head?, ¬ isBlank c := by
  cases p with
  | plain rooted first others =>
    refine ⟨_, first, others, by rw [chars], ?_⟩
    cases rooted
    · rintro _ ⟨⟩
    · rintro _ ⟨⟩
      decide
  | qualified type trait first others =>
    refine ⟨'<' :: (type.chars ++ (asTrait trait ++ ['>', ':', ':'])), first, others, ?_, ?_⟩
    · simp [chars]
    · rintro _ ⟨⟩
      decide

theorem trim_chars (p : TypePath) : trim p.chars = p.chars := by
  obtain ⟨lead, first, others, split, visible⟩ := p.exists_lead
  obtain ⟨c, rest, start, visible'⟩ := first.exists_cons
  obtain ⟨d, last, visible''⟩ := exists_getLast?_laterSegments first others
  rw [split, trim_eq_self_iff]
  constructor
  · cases lead with
    | nil =>
      rw [start]
      rintro _ ⟨⟩
      exact visible'
    | cons e lead => exact visible
  · rw [List.getLast?_append, last]
    rintro _ ⟨⟩
    exact visible''

end TypePath

/-- A path is made into an expression just when it starts with a segment, and when all arguments
but the first ones are set apart as it is. In any case once is as good as twice. -/
theorem expression_path_iff (p : TypePath) :
    (Name.expressionPath p.text = p.expression.text ↔ p.OpensOnce) ∧
    Name.expressionPath (Name.expressionPath p.text) = Name.expressionPath p.text := by
  refine ⟨?_, Name.expressionPath_expressionPath p.text⟩
  rw [Name.expressionPath, TypePath.text, TypePath.text, String.toList_ofList, p.trim_chars,
    String.ofList_inj, p.expressionChars_eq_iff]

/-- The bracket of a qualified path is taken for arguments without a name, and arguments behind
other arguments are left as they are. -/
theorem bracket_taken_for_arguments :
    let app : PathSegment := .bare (.ofText "app" (by decide) rfl)
    let inner (name : PathName) : PathOperand :=
      .mk ⟨[], nofun⟩ (.plain false app [.bare name]) ⟨[], nofun⟩
    let pool := PathName.ofText "Pool" (by decide) rfl
    let handle := PathName.ofText "Handle" (by decide) rfl
    let source := inner (.ofText "Source" (by decide) rfl)
    let qualified := TypePath.qualified (inner pool) (some source) (.bare handle) []
    let repeated := TypePath.plain false (.applied pool false [source])
      [.applied handle false [inner pool]]
    (qualified.text = "<app::Pool as app::Source>::Handle" ∧
      Name.expressionPath qualified.text = "::<app::Pool as app::Source>::Handle" ∧
      Name.expressionPath qualified.text ≠ qualified.expression.text) ∧
    repeated.text = "Pool<app::Source>::Handle<app::Pool>" ∧
      Name.expressionPath repeated.text = "Pool::<app::Source>::Handle<app::Pool>" ∧
      Name.expressionPath repeated.text ≠ repeated.expression.text := by
  decide +kernel

end RouteWeaver
