import RouteWeaver.Proofs.Escaping

namespace RouteWeaver.Text

namespace Literal

/-- What stands in a literal: a character by itself, or a backslash with the character it takes. -/
inductive Piece where
  | plain (c : Char)
  | escape (letter : Char)

namespace Piece

def written : Piece → List Char
  | plain c => [c]
  | escape letter => ['\\', letter]

/- Raw line breaks and escapes of other letters are errors. -/
def value? : Piece → Option Char
  | plain c => if c = '\n' ∨ c = '\r' then none else some c
  | escape letter => Escape.decoded? letter

def IsClean : Piece → Prop
  | plain c => c ∉ ['\\', '"', '\n', '\r', '\t']
  | escape letter => letter ∈ ['\\', '"', 'n', 'r', 't']

end Piece

inductive Reader where
  | inside (met : List Piece)
  | behindBackslash (met : List Piece)
  | closed (met : List Piece)

namespace Reader

def step : Reader → Char → Reader
  | inside met, c =>
    if c = '\\' then behindBackslash met
    else if c = '"' then closed met
    else inside (met ++ [.plain c])
  | behindBackslash met, c => inside (met ++ [.escape c])
  | closed met, _ => closed met

/-- Reads until the literal is closed. Gives what was met and the text that is left; there is no
result when the text ends first. -/
def run : Reader → List Char → Option (List Piece × List Char)
  | closed met, rest => some (met, rest)
  | inside _, [] => none
  | behindBackslash _, [] => none
  | inside met, c :: rest => run (step (inside met) c) rest
  | behindBackslash met, c :: rest => run (step (behindBackslash met) c) rest

end Reader

/-- The pieces that a text is escaped to, character by character. -/
structure Spells (met : List Piece) (text : List Char) : Prop where
  clean : ∀ p ∈ met, p.IsClean
  value : met.map Piece.value? = text.map some
  written : met.flatMap Piece.written = Escape.line text

theorem exists_piece (c : Char) :
    ∃ p : Piece, p.IsClean ∧ p.value? = some c ∧ p.written = Escape.shown c := by
  rcases Escape.shown_cases c with ⟨letter, meant, listed, same⟩ | ⟨plain, same⟩
  · exact ⟨.escape letter, listed, meant, same.symm⟩
  · refine ⟨.plain c, plain, ?_, same.symm⟩
    simp only [List.mem_cons, List.not_mem_nil, or_false, not_or] at plain
    simp [Piece.value?, plain]

theorem exists_spells (text : List Char) : ∃ met, Spells met text := by
  induction text with
  | nil => exact ⟨[], by simp, rfl, rfl⟩
  | cons c text ih =>
    obtain ⟨met, spells⟩ := ih
    obtain ⟨p, clean, value, written⟩ := exists_piece c
    refine ⟨p :: met, ?_, ?_, ?_⟩
    · exact List.forall_mem_cons.mpr ⟨clean, spells.clean⟩
    · simp [value, spells.value]
    · have later := spells.written
      rw [Escape.line_eq_flatMap] at later ⊢
      simp [written, later]

namespace Reader

variable {met later : List Piece} {rest : List Char}

theorem run_piece {p : Piece} (clean : p.IsClean) :
    (inside met).run (p.written ++ rest) = (inside (met ++ [p])).run rest := by
  cases p with
  | plain c =>
    have backslash : c ≠ '\\' := by
      rintro rfl
      simp [Piece.IsClean] at clean
    have quote : c ≠ '"' := by
      rintro rfl
      simp [Piece.IsClean] at clean
    simp [Piece.written, run, step, backslash, quote]
  | escape letter => simp [Piece.written, run, step]

/-- The reader is inside the literal behind each piece, and has met the pieces up to there. -/
theorem run_pieces (clean : ∀ p ∈ later, p.IsClean) :
    (inside met).run (later.flatMap Piece.written ++ rest) = (inside (met ++ later)).run rest := by
  induction later generalizing met with
  | nil => simp
  | cons p later ih =>
    have first := clean p List.mem_cons_self
    have others : ∀ q ∈ later, q.IsClean := fun q member => clean q (.tail p member)
    rw [List.flatMap_cons, List.append_assoc, run_piece first, ih others, List.append_assoc,
      List.singleton_append]

theorem run_quote : (inside met).run ('"' :: rest) = some (met, rest) := by
  simp [run, step]

end Reader
end Literal

/-- Behind an opening quote, an escaped text is read up to the quote that is written behind it, and
what follows is left. All that is met on the way is the five escapes and characters other than
backslash, quote, line breaks and tab; their values make up the text. -/
theorem escaped_literal_reads_back (s following : String) :
    ∃ met, (Literal.Reader.inside []).run (escapeText s ++ "\"" ++ following).toList =
        some (met, following.toList) ∧
      met.flatMap Literal.Piece.written = (escapeText s).toList ∧
      (∀ p ∈ met, p.IsClean) ∧ met.map Literal.Piece.value? = s.toList.map some := by
  obtain ⟨met, spells⟩ := Literal.exists_spells s.toList
  have written : met.flatMap Literal.Piece.written = (escapeText s).toList := by
    rw [spells.written, escapeText, String.toList_ofList]
  refine ⟨met, ?_, written, spells.clean, spells.value⟩
  calc (Literal.Reader.inside []).run (escapeText s ++ "\"" ++ following).toList
      = (Literal.Reader.inside []).run
          (met.flatMap Literal.Piece.written ++ '"' :: following.toList) := by
        simp [written]
    _ = (Literal.Reader.inside ([] ++ met)).run ('"' :: following.toList) :=
        Literal.Reader.run_pieces spells.clean
    _ = some (met, following.toList) := Literal.Reader.run_quote

end RouteWeaver.Text
