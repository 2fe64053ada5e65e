import RouteWeaver.Proofs.ReplacementPasses

namespace RouteWeaver.Text

namespace Escape

def shown (c : Char) : List Char :=
  if c = '\\' then ['\\', '\\']
  else if c = '"' then ['\\', '"']
  else if c = '\n' then ['\\', 'n']
  else if c = '\r' then ['\\', 'r']
  else if c = '\t' then ['\\', 't']
  else [c]

/-- Either a character is written as a backslash and a letter for it, or as itself. -/
theorem shown_cases (c : Char) :
    (∃ letter, decoded? letter = some c ∧ letter ∈ ['\\', '"', 'n', 'r', 't'] ∧
        shown c = ['\\', letter]) ∨
      (c ∉ ['\\', '"', '\n', '\r', '\t'] ∧ shown c = [c]) := by
  by_cases backslash : c = '\\'
  · exact .inl ⟨'\\', by simp [decoded?, backslash], by decide, by simp [shown, backslash]⟩
  by_cases quote : c = '"'
  · exact .inl ⟨'"', by simp [decoded?, quote], by decide, by simp [shown, quote]⟩
  by_cases feed : c = '\n'
  · exact .inl ⟨'n', by simp [decoded?, feed], by decide, by simp [shown, feed]⟩
  by_cases carriage : c = '\r'
  · exact .inl ⟨'r', by simp [decoded?, carriage], by decide, by simp [shown, carriage]⟩
  by_cases tab : c = '\t'
  · exact .inl ⟨'t', by simp [decoded?, tab], by decide, by simp [shown, tab]⟩
  · exact .inr ⟨by simp [backslash, quote, feed, carriage, tab],
      by simp [shown, backslash, quote, feed, carriage, tab]⟩

theorem line_eq_flatMap (text : List Char) : line text = text.flatMap shown := by
  have same : shownBy linePasses = shown := rfl
  rw [line_eq_runAll, runAll_eq_flatMap settled_linePasses, same]

theorem decode_shown_append (c : Char) (rest : List Char) :
    decode (shown c ++ rest) = c :: decode rest := by
  rcases shown_cases c with ⟨letter, meant, -, same⟩ | ⟨plain, same⟩
  · simp [same, decode, meant]
  · rw [same, List.singleton_append, decode]
    · rintro rfl
      simp at plain
    · rintro _ _ rfl
      simp at plain

theorem decode_line (text : List Char) : decode (line text) = text := by
  rw [line_eq_flatMap]
  induction text with
  | nil => rfl
  | cons c cs ih => rw [List.flatMap_cons, decode_shown_append, ih]

theorem feed_notMem_line (text : List Char) : '\n' ∉ line text := by
  rw [line_eq_flatMap, List.mem_flatMap]
  rintro ⟨c, -, member⟩
  rcases shown_cases c with ⟨letter, -, listed, same⟩ | ⟨plain, same⟩
  · have other : letter ≠ '\n' := ne_of_mem_of_not_mem listed (by decide)
    simp [same, other.symm] at member
  · obtain rfl : '\n' = c := by simpa [same] using member
    simp at plain

/-- Cuts an opened literal at the quote that closes it. A quote behind a backslash does not. -/
def cutClosing : List Char → Option (List Char × List Char)
  | [] => none
  | '"' :: rest => some ([], rest)
  | '\\' :: c :: rest => (cutClosing rest).map fun (text, after) => ('\\' :: c :: text, after)
  | c :: rest => (cutClosing rest).map fun (text, after) => (c :: text, after)

theorem cutClosing_shown_append (c : Char) (rest : List Char) :
    cutClosing (shown c ++ rest) =
      (cutClosing rest).map fun (text, after) => (shown c ++ text, after) := by
  rcases shown_cases c with ⟨letter, -, -, same⟩ | ⟨plain, same⟩
  · rw [same, List.cons_append, List.singleton_append, cutClosing]
    rfl
  · rw [same, List.singleton_append, cutClosing]
    · rfl
    · rintro rfl
      simp at plain
    · rintro _ _ rfl
      simp at plain

theorem cutClosing_line_append (text rest : List Char) :
    cutClosing (line text ++ '"' :: rest) = some (line text, rest) := by
  rw [line_eq_flatMap]
  induction text with
  | nil => rfl
  | cons c cs ih =>
    rw [List.flatMap_cons, List.append_assoc, cutClosing_shown_append, ih, Option.map_some]

end Escape

/-- Between quotes, the literal is a well-formed one of a single line that is read as the text. -/
structure StandsFor (literal text : String) : Prop where
  read : unescape literal = text
  closed : ∀ rest, Escape.cutClosing (literal.toList ++ '"' :: rest) = some (literal.toList, rest)
  single : '\n' ∉ literal.toList

theorem unescape_escapeText (s : String) : unescape (escapeText s) = s := by
  rw [unescape, escapeText, String.toList_ofList, Escape.decode_line, String.ofList_toList]

theorem feed_notMem_escapeText (s : String) : '\n' ∉ (escapeText s).toList := by
  rw [escapeText, String.toList_ofList]
  exact Escape.feed_notMem_line s.toList

theorem standsFor_escapeText (s : String) : StandsFor (escapeText s) s where
  read := unescape_escapeText s
  closed rest := by
    rw [escapeText, String.toList_ofList]
    exact Escape.cutClosing_line_append s.toList rest
  single := feed_notMem_escapeText s

end RouteWeaver.Text
