import RouteWeaver.Proofs.LiteralReading

namespace RouteWeaver.Text

namespace Literal

namespace Piece

/-- What reading makes of a piece. A backslash that makes no escape stays with its character. -/
def meaning : Piece → List Char
  | plain c => [c]
  | escape letter =>
    match Escape.decoded? letter with
    | some c => [c]
    | none => ['\\', letter]

/-- A character that stands in a literal as it is, or a backslash or quote behind a backslash. -/
def IsGuarded : Piece → Prop
  | plain c => c ∉ ['\\', '"']
  | escape letter => letter ∈ ['\\', '"']

end Piece

/-- The pieces of a text, and the backslash at its end that has no character to take. -/
structure Parts (text : List Char) (parts : List Piece × List Char) : Prop where
  spelled : text = parts.1.flatMap Piece.written ++ parts.2
  taking : Piece.plain '\\' ∉ parts.1
  last : parts.2 = [] ∨ parts.2 = ['\\']

def cut : List Char → List Piece × List Char
  | [] => ([], [])
  | ['\\'] => ([], ['\\'])
  | '\\' :: letter :: rest => (.escape letter :: (cut rest).1, (cut rest).2)
  | c :: rest => (.plain c :: (cut rest).1, (cut rest).2)

variable {p : Piece} {met : List Piece} {text last : List Char}

theorem cut_written_append (taking : p ≠ .plain '\\') (rest : List Char) :
    cut (p.written ++ rest) = (p :: (cut rest).1, (cut rest).2) := by
  cases p with
  | escape letter => simp [Piece.written, cut]
  | plain c =>
    have other : c ≠ '\\' := fun same => taking (congrArg Piece.plain same)
    simp [Piece.written, cut, other]

theorem decode_written_append (taking : p ≠ .plain '\\') (rest : List Char) :
    Escape.decode (p.written ++ rest) = p.meaning ++ Escape.decode rest := by
  cases p with
  | escape letter =>
    simp only [Piece.written, Piece.meaning, List.cons_append, List.nil_append, Escape.decode]
    cases Escape.decoded? letter <;> rfl
  | plain c =>
    have other : c ≠ '\\' := fun same => taking (congrArg Piece.plain same)
    simp [Piece.written, Piece.meaning, Escape.decode, other]

namespace Parts

theorem cons (taking : p ≠ .plain '\\') (parts : Parts text (met, last)) :
    Parts (p.written ++ text) (p :: met, last) where
  spelled := by simp [parts.spelled]
  taking := List.not_mem_cons_of_ne_of_not_mem taking.symm parts.taking
  last := parts.last

theorem uncons (parts : Parts text (p :: met, last)) :
    p ≠ .plain '\\' ∧ ∃ rest, text = p.written ++ rest ∧ Parts rest (met, last) := by
  have taking : Piece.plain '\\' ≠ p ∧ Piece.plain '\\' ∉ met := by
    simpa using parts.taking
  refine ⟨taking.1.symm, met.flatMap Piece.written ++ last, ?_, rfl, taking.2, parts.last⟩
  simpa using parts.spelled

theorem of_cut (text : List Char) : Parts text (cut text) := by
  fun_induction cut text with
  | case1 => exact ⟨rfl, List.not_mem_nil, .inl rfl⟩
  | case2 => exact ⟨rfl, List.not_mem_nil, .inr rfl⟩
  | case3 letter rest ih => exact cons (p := .escape letter) (by simp) ih
  | case4 c rest lone pair ih =>
    -- A backslash would be one of the cases before.
    have other : c ≠ '\\' := by
      rintro rfl
      cases rest with
      | nil => exact lone rfl rfl
      | cons letter rest => exact pair letter rest rfl rfl
    exact cons (p := .plain c) (by simpa using other) ih

theorem cut_eq (parts : Parts text (met, last)) : cut text = (met, last) := by
  induction met generalizing text with
  | nil =>
    obtain rfl := parts.spelled
    rcases parts.last with rfl | rfl <;> rfl
  | cons p met ih =>
    obtain ⟨taking, rest, rfl, later⟩ := parts.uncons
    rw [cut_written_append taking, ih later]

theorem decode_eq (parts : Parts text (met, last)) :
    Escape.decode text = met.flatMap Piece.meaning ++ last := by
  induction met generalizing text with
  | nil =>
    obtain rfl := parts.spelled
    rcases parts.last with rfl | rfl <;> rfl
  | cons p met ih =>
    obtain ⟨taking, rest, rfl, later⟩ := parts.uncons
    rw [decode_written_append taking, ih later, List.flatMap_cons, List.append_assoc]

theorem unique (parts : Parts text (met, last)) (other : List Piece × List Char) :
    Parts text other ↔ other = (met, last) := by
  constructor
  · intro also
    exact also.cut_eq.symm.trans parts.cut_eq
  · rintro rfl
    exact parts

end Parts

def guarded (c : Char) : Piece :=
  if c = '\\' ∨ c = '"' then .escape c else .plain c

theorem isGuarded_guarded (c : Char) : (guarded c).IsGuarded := by
  unfold guarded
  split
  · rename_i special
    simpa [Piece.IsGuarded] using special
  · rename_i ordinary
    simpa [Piece.IsGuarded] using ordinary

theorem meaning_guarded (c : Char) : (guarded c).meaning = [c] := by
  unfold guarded
  split
  · rename_i special
    rcases special with rfl | rfl <;> rfl
  · rfl

theorem written_guarded (c : Char) :
    (guarded c).written = Escape.shownBy Escape.literalPasses c := by
  by_cases backslash : c = '\\'
  · subst backslash
    rfl
  by_cases quote : c = '"'
  · subst quote
    rfl
  simp [guarded, Piece.written, Escape.shownBy, Escape.literalPasses, Escape.marking, backslash,
    quote]

theorem literal_eq_flatMap (text : List Char) :
    Escape.literal text = (text.map guarded).flatMap Piece.written := by
  rw [Escape.literal_eq_runAll, Escape.runAll_eq_flatMap Escape.settled_literalPasses,
    List.flatMap_map]
  simp only [written_guarded]

theorem parts_literal (text : List Char) : Parts (Escape.literal text) (text.map guarded, []) where
  spelled := by rw [literal_eq_flatMap, List.append_nil]
  taking := by
    intro member
    obtain ⟨c, -, same⟩ := List.mem_map.mp member
    have kept := isGuarded_guarded c
    simp [same, Piece.IsGuarded] at kept
  last := .inl rfl

theorem decode_literal (text : List Char) : Escape.decode (Escape.literal text) = text := by
  rw [(parts_literal text).decode_eq, List.append_nil, List.flatMap_map]
  simp [meaning_guarded]

end Literal

theorem unescape_escapeLiteral (s : String) : unescape (escapeLiteral s) = s := by
  rw [unescape, escapeLiteral, String.toList_ofList, Literal.decode_literal, String.ofList_toList]

/-- Reading undoes both ways of escaping. It goes by the pieces of any text: escapes are read as
their characters, among them those of line breaks and tab, which a literal is not written with, and
what makes no escape stays. -/
theorem reading_undoes_escaping (s : String) :
    (unescape (escapeText s) = s ∧ unescape (escapeLiteral s) = s) ∧
    (∃ met last, (∀ parts, Literal.Parts s.toList parts ↔ parts = (met, last)) ∧
      (unescape s).toList = met.flatMap Literal.Piece.meaning ++ last) ∧
    (∃ met, (∀ parts, Literal.Parts (escapeLiteral s).toList parts ↔ parts = (met, [])) ∧
      ∀ p ∈ met, p.IsGuarded) ∧
    ∀ pair ∈ [('n', '\n'), ('r', '\r'), ('t', '\t')],
      ¬ (Literal.Piece.escape pair.1).IsGuarded ∧
        (Literal.Piece.escape pair.1).meaning = [pair.2] := by
  refine ⟨⟨unescape_escapeText s, unescape_escapeLiteral s⟩, ?_, ?_, ?_⟩
  · have parts := Literal.Parts.of_cut s.toList
    refine ⟨_, _, parts.unique, ?_⟩
    rw [unescape, String.toList_ofList, parts.decode_eq]
  · have parts := Literal.parts_literal s.toList
    refine ⟨s.toList.map Literal.guarded, ?_, ?_⟩
    · rw [escapeLiteral, String.toList_ofList]
      exact parts.unique
    · simp [Literal.isGuarded_guarded]
  · simp [Literal.Piece.IsGuarded, Literal.Piece.meaning, Escape.decoded?]

end RouteWeaver.Text
