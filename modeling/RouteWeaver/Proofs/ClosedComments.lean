import RouteWeaver.Proofs.DecidingRule

/-!
The failure marker as a comment. Comments nest, so that a text inside one may close it and may
also open another one. The marker breaks up the ends of comments in the request that it names, and
leaves their beginnings as they are.
-/

namespace RouteWeaver

open Text

namespace Comment

/-- The text behind the comments that are open; none when one of them is never closed. -/
def after? : Nat → List Char → Option (List Char)
  | 0, text => some text
  | _ + 1, [] => none
  | depth + 1, '/' :: '*' :: text => after? (depth + 2) text
  | depth + 1, '*' :: '/' :: text => after? depth text
  | depth + 1, _ :: text => after? (depth + 1) text

def behind? : List Char → Option (List Char)
  | '/' :: '*' :: text => after? 1 text
  | _ => none

/-- One comment from the first character to the last: whatever follows is code. -/
def IsClosed (text : List Char) : Prop :=
  ∀ rest, behind? (text ++ rest) = some rest

/-- How many comments a text opens that closes none. -/
def openings : List Char → Nat
  | '/' :: '*' :: text => openings text + 1
  | _ :: text => openings text
  | [] => 0

variable {a b c : Char} {depth : Nat} {text rest : List Char}

theorem pair_infix_cons_iff :
    [a, b] <:+: c :: text ↔ (c = a ∧ text.head? = some b) ∨ [a, b] <:+: text := by
  rw [List.infix_cons_iff, List.cons_prefix_cons]
  cases text with
  | nil => simp
  | cons d text => simp [eq_comm]

theorem openings_eq_zero_iff : openings text = 0 ↔ ¬ ['/', '*'] <:+: text := by
  fun_induction openings text with
  | case1 text ih => simp [pair_infix_cons_iff]
  | case2 c text other ih =>
    rw [ih, pair_infix_cons_iff, not_or]
    refine (and_iff_right ?_).symm
    rintro ⟨rfl, head⟩
    obtain ⟨text', rfl⟩ := List.head?_eq_some_iff.mp head
    exact other text' rfl rfl
  | case3 => simp

theorem head?_withoutCommentEnds (text : List Char) :
    (withoutCommentEnds text).head? = text.head? := by
  fun_cases withoutCommentEnds text <;> rfl

theorem withoutCommentEnds_closes_none (text : List Char) :
    ¬ ['*', '/'] <:+: withoutCommentEnds text := by
  fun_induction withoutCommentEnds text with
  | case1 text ih => simpa [pair_infix_cons_iff] using ih
  | case2 c text other ih =>
    rw [pair_infix_cons_iff, head?_withoutCommentEnds, not_or]
    refine ⟨?_, ih⟩
    rintro ⟨rfl, head⟩
    obtain ⟨text', rfl⟩ := List.head?_eq_some_iff.mp head
    exact other text' rfl rfl
  | case3 => simp

theorem pair_infix_withoutCommentEnds_iff (text : List Char) :
    ['/', '*'] <:+: withoutCommentEnds text ↔ ['/', '*'] <:+: text := by
  fun_induction withoutCommentEnds text with
  | case1 text ih => simp [pair_infix_cons_iff, head?_withoutCommentEnds, ih]
  | case2 c text other ih =>
    rw [pair_infix_cons_iff, pair_infix_cons_iff, head?_withoutCommentEnds, ih]
  | case3 => rfl

theorem after?_cons_of_ne (slash : c ≠ '/') (star : c ≠ '*') :
    after? (depth + 1) (c :: text) = after? (depth + 1) text := by
  simp [after?, slash, star]

theorem after?_append_of_plain {plain : List Char} (slash : '/' ∉ plain) (star : '*' ∉ plain) :
    after? (depth + 1) (plain ++ text) = after? (depth + 1) text := by
  induction plain with
  | nil => rfl
  | cons c plain ih =>
    rw [List.mem_cons, not_or] at slash star
    rw [List.cons_append, after?_cons_of_ne (Ne.symm slash.1) (Ne.symm star.1),
      ih slash.2 star.2]

theorem head?_of_append_eq_cons {d : Char} {tail : List Char}
    (begins : text ++ c :: rest = d :: tail) (differs : c ≠ d) : text.head? = some d := by
  cases text with
  | nil => exact absurd (List.cons.inj begins).1 differs
  | cons e text => exact congrArg some (List.cons.inj begins).1

/-- A text that closes nothing leaves its openings behind. The character after it is kept apart from
what could make a mark of the two. -/
theorem after?_append_of_closes_none (closes : ¬ ['*', '/'] <:+: text) (slash : c ≠ '/')
    (star : c ≠ '*') :
    after? (depth + 1) (text ++ c :: rest) = after? (depth + 1 + openings text) rest := by
  fun_induction openings text generalizing depth with
  | case1 text ih =>
    have inner : ¬ ['*', '/'] <:+: text := by
      simp only [pair_infix_cons_iff, not_or] at closes
      exact closes.2.2
    rw [List.cons_append, List.cons_append, after?, ih inner]
    congr 1
    omega
  | case2 d text other ih =>
    rw [pair_infix_cons_iff, not_or] at closes
    rw [List.cons_append, after?, ih closes.2]
    · rintro tail rfl begins
      obtain ⟨inner, rfl⟩ := List.head?_eq_some_iff.mp (head?_of_append_eq_cons begins star)
      exact other inner rfl rfl
    · rintro tail rfl begins
      exact closes.1 ⟨rfl, head?_of_append_eq_cons begins slash⟩
  | case3 => exact after?_cons_of_ne slash star

/-- A text is framed as a comment that it can open further and cannot close. -/
theorem behind?_framed {front back opening closing : List Char}
    (opens : front = '/' :: '*' :: opening) (plain : '/' ∉ opening ∧ '*' ∉ opening)
    (closes : back = c :: closing ++ ['*', '/'])
    (plain' : '/' ∉ c :: closing ∧ '*' ∉ c :: closing)
    (within : ¬ ['*', '/'] <:+: text) (rest : List Char) :
    behind? (front ++ text ++ back ++ rest) = after? (openings text) rest := by
  rw [List.mem_cons, not_or, List.mem_cons, not_or] at plain'
  obtain ⟨⟨slash, slashes⟩, star, stars⟩ := plain'
  calc behind? (front ++ text ++ back ++ rest)
    _ = after? (0 + 1) (opening ++ (text ++ c :: (closing ++ '*' :: '/' :: rest))) := by
      simp [opens, closes, behind?]
    _ = after? (openings text + 1) ('*' :: '/' :: rest) := by
      rw [after?_append_of_plain plain.1 plain.2,
        after?_append_of_closes_none within (Ne.symm slash) (Ne.symm star), Nat.zero_add,
        Nat.add_comm, after?_append_of_plain slashes stars]
    _ = after? (openings text) rest := by rw [after?]

theorem after?_eq_rest_iff : (∀ rest, after? depth rest = some rest) ↔ depth = 0 := by
  cases depth with
  | zero => simp [after?]
  | succ depth =>
    refine iff_of_false (fun all => ?_) (Nat.succ_ne_zero depth)
    cases all []

end Comment

def shownRequest (requested : String) : List Char :=
  if requested = "" then "<none>".toList else withoutCommentEnds requested.toList

def failureMarker (requested : String) : String :=
  "/* unresolved dependency: `" ++ String.ofList (shownRequest requested) ++
    "` is not a registered service */"

theorem unresolvedExpression_eq (requested : String) :
    unresolvedExpression requested = defaultExpression ++ " " ++ failureMarker requested := by
  have shown : (if requested = "" then "<none>" else
      String.ofList (withoutCommentEnds requested.toList)) =
        String.ofList (shownRequest requested) := by
    rw [shownRequest]
    split <;> rfl
  have assoc (value space opening text closing : String) :
      value ++ (space ++ opening) ++ text ++ closing =
        value ++ space ++ (opening ++ text ++ closing) := by
    simp only [String.append_assoc]
  calc unresolvedExpression requested
    _ = defaultExpression ++ (" " ++ "/* unresolved dependency: `") ++
        String.ofList (shownRequest requested) ++ "` is not a registered service */" :=
      congrArg (defaultExpression ++ " /* unresolved dependency: `" ++ · ++
        "` is not a registered service */") shown
    _ = defaultExpression ++ " " ++ failureMarker requested := assoc _ _ _ _ _

theorem toList_failureMarker (requested : String) : (failureMarker requested).toList =
    "/* unresolved dependency: `".toList ++ shownRequest requested ++
      "` is not a registered service */".toList := by
  have parts (front back : String) (text : List Char) :
      (front ++ String.ofList text ++ back).toList = front.toList ++ text ++ back.toList := by
    simp only [String.toList_append, String.toList_ofList]
  exact parts _ _ _

theorem shownRequest_closes_none (requested : String) :
    ¬ ['*', '/'] <:+: shownRequest requested := by
  rw [shownRequest]
  split
  · decide
  · exact Comment.withoutCommentEnds_closes_none _

theorem pair_infix_shownRequest_iff (requested : String) :
    ['/', '*'] <:+: shownRequest requested ↔ ['/', '*'] <:+: requested.toList := by
  rw [shownRequest]
  split
  · rename_i missing
    rw [missing]
    decide
  · exact Comment.pair_infix_withoutCommentEnds_iff _

theorem isClosed_failureMarker_iff (requested : String) :
    Comment.IsClosed (failureMarker requested).toList ↔
      ¬ ['/', '*'] <:+: requested.toList := by
  have opens : "/* unresolved dependency: `".toList =
      '/' :: '*' :: " unresolved dependency: `".toList := rfl
  have closes : "` is not a registered service */".toList =
      '\x60' :: " is not a registered service ".toList ++ ['*', '/'] := rfl
  have read (rest : List Char) : Comment.behind? ((failureMarker requested).toList ++ rest) =
      Comment.after? (Comment.openings (shownRequest requested)) rest := by
    rw [toList_failureMarker]
    exact Comment.behind?_framed opens (by decide) closes (by decide)
      (shownRequest_closes_none requested) rest
  simp only [Comment.IsClosed, read, Comment.after?_eq_rest_iff, Comment.openings_eq_zero_iff,
    pair_infix_shownRequest_iff]

namespace Text

variable {a b : Char}

theorem pair_infix_trimStart_iff (first : isBlank a = false) (text : List Char) :
    [a, b] <:+: trimStart text ↔ [a, b] <:+: text := by
  induction text with
  | nil => rfl
  | cons c text ih =>
    rw [trimStart, List.dropWhile_cons]
    split
    · rename_i blank
      have differs : c ≠ a := fun same => by simp [same, first] at blank
      rw [Comment.pair_infix_cons_iff, or_iff_right fun h => differs h.1]
      exact ih
    · rfl

theorem pair_infix_trimEnd_iff (second : isBlank b = false) (text : List Char) :
    [a, b] <:+: trimEnd text ↔ [a, b] <:+: text := by
  have reversed : [a, b].reverse <:+: text.reverse ↔ [a, b] <:+: text := List.reverse_infix
  rw [trimEnd, ← List.reverse_infix, List.reverse_reverse, ← reversed]
  exact pair_infix_trimStart_iff second text.reverse

theorem pair_infix_trim_iff (first : isBlank a = false) (second : isBlank b = false)
    (text : List Char) : [a, b] <:+: trim text ↔ [a, b] <:+: text :=
  (pair_infix_trimEnd_iff second _).trans (pair_infix_trimStart_iff first text)

end Text

namespace RuleTable

/-- The expression for the request is written as a failure marker: by the rule that decides, by a
service rule without a service, or because no rule decides. -/
def MarksFailure (t : RuleTable) (request : String) : Prop :=
  ∀ rule, t.decidingRule? (trimmed request) = some rule →
    rule.strategy = .failureMarker ∨
      rule.strategy = .serviceAccessor ∧ t.matched rule.matcher (trimmed request) = none

theorem MarksFailure.expression {t : RuleTable} {request : String}
    (marks : t.MarksFailure request) :
    (t.resolve request).expression = unresolvedExpression (trimmed request) := by
  cases decides : t.decidingRule? (trimmed request) with
  | none => rw [resolve_of_decidingRule?_eq_none decides]
  | some rule =>
    rw [resolve_of_decidingRule? decides]
    rcases marks rule decides with strategy | ⟨strategy, unmatched⟩
    · rw [strategy, Strategy.expression]
    · rw [strategy, unmatched]
      rfl

theorem marksFailure_of_unresolved {c : Config} {services : List Service} {request : String}
    (unresolved : ((standard c services).resolve request).rule = .unresolved) :
    (standard c services).MarksFailure request := by
  obtain ⟨rule, decides, kind, marker⟩ :=
    exists_decidingRule?_standard c services (trimmed request)
  rw [resolve_of_decidingRule? decides] at unresolved
  intro other decides'
  obtain rfl : rule = other := Option.some.inj (decides.symm.trans decides')
  exact .inl (marker.mpr (kind.mp unresolved))

end RuleTable

/-- The standard table writes a failure marker for each request that it leaves unresolved. Whatever
the table, the marker is one comment behind the default value just when the request does not open
another comment. -/
theorem failure_marker_closed_iff (request : String) :
    (∀ (c : Config) (services : List Service),
      ((RuleTable.standard c services).resolve request).rule = .unresolved →
        (RuleTable.standard c services).MarksFailure request) ∧
    ∀ t : RuleTable, t.MarksFailure request →
      ∃ marker, (t.resolve request).expression = defaultExpression ++ " " ++ marker ∧
        (Comment.IsClosed marker.toList ↔ ¬ "/*".toList <:+: request.toList) := by
  refine ⟨fun _ _ => RuleTable.marksFailure_of_unresolved, fun t marks => ?_⟩
  refine ⟨failureMarker (trimmed request), ?_, ?_⟩
  · rw [marks.expression, unresolvedExpression_eq]
  · rw [isClosed_failureMarker_iff, toList_trimmed, pair_infix_trim_iff (by decide) (by decide)]
    rfl

set_option maxRecDepth 4000 in
theorem failure_marker_closed_iff_starred :
    let answer := (RuleTable.standard {} []).resolve " app::Weird**/Type "
    answer.rule = .unresolved ∧ ∃ marker,
      answer.expression = defaultExpression ++ " " ++ marker ∧
        Comment.IsClosed marker.toList := by
  have unresolved :
      ((RuleTable.standard {} []).resolve " app::Weird**/Type ").rule = .unresolved := by
    rfl
  obtain ⟨marks, closed⟩ := failure_marker_closed_iff " app::Weird**/Type "
  obtain ⟨marker, expression, iff⟩ := closed _ (marks {} [] unresolved)
  exact ⟨unresolved, marker, expression, iff.mpr (by decide)⟩

set_option maxRecDepth 4000 in
/-- The level that the request opens is never closed. -/
theorem open_request_swallows_code :
    let answer := (RuleTable.standard {} []).resolve "app::Open/*Type"
    answer.rule = .unresolved ∧
    ∃ marker, answer.expression = defaultExpression ++ " " ++ marker ∧
      Comment.behind? marker.toList = none ∧ ¬ Comment.IsClosed marker.toList := by
  have unresolved : ((RuleTable.standard {} []).resolve "app::Open/*Type").rule = .unresolved := by
    rfl
  have unclosed : Comment.behind? (failureMarker "app::Open/*Type").toList = none := by rfl
  refine ⟨unresolved, failureMarker "app::Open/*Type", ?_, unclosed, fun closed => ?_⟩
  · have request : trimmed "app::Open/*Type" = "app::Open/*Type" := by rfl
    rw [(RuleTable.marksFailure_of_unresolved unresolved).expression, request,
      unresolvedExpression_eq]
  · have read := closed []
    rw [List.append_nil, unclosed] at read
    cases read

end RouteWeaver
