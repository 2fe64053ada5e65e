import Mathlib.Data.List.Chain
import Mathlib.Data.List.TakeDrop
import RouteWeaver.Json.Token

/-!
The grammar of JSON words. A word spells a token, and a text spells tokens word by word with spaces
around them. Cutting a text finds the tokens that it spells when every number among them is
followed by a mark or by nothing.
-/

namespace RouteWeaver.Json

def IsDigits (ds : List Char) : Prop :=
  ds ≠ [] ∧ ∀ d ∈ ds, d.isDigit = true

instance : DecidablePred IsDigits := fun ds =>
  decidable_of_iff (ds ≠ [] ∧ ds.all Char.isDigit = true) (and_congr_right' List.all_eq_true)

/-- Zero, or digits that do not start with zero. -/
def IsWhole (ds : List Char) : Prop :=
  ds = ['0'] ∨ IsDigits ds ∧ ds.head? ≠ some '0'

instance : DecidablePred IsWhole := fun ds =>
  inferInstanceAs (Decidable (ds = ['0'] ∨ IsDigits ds ∧ ds.head? ≠ some '0'))

inductive SpellsFraction : Option (List Char) → List Char → Prop where
  | absent : SpellsFraction none []
  | present {ds : List Char} (digits : IsDigits ds) : SpellsFraction (some ds) ('.' :: ds)

inductive SpellsExponent : Option (Bool × List Char) → List Char → Prop where
  | absent : SpellsExponent none []
  | unsigned {e : Char} {ds : List Char} (letter : e = 'e' ∨ e = 'E') (digits : IsDigits ds) :
      SpellsExponent (some (false, ds)) (e :: ds)
  | plus {e : Char} {ds : List Char} (letter : e = 'e' ∨ e = 'E') (digits : IsDigits ds) :
      SpellsExponent (some (false, ds)) (e :: '+' :: ds)
  | minus {e : Char} {ds : List Char} (letter : e = 'e' ∨ e = 'E') (digits : IsDigits ds) :
      SpellsExponent (some (true, ds)) (e :: '-' :: ds)

def shortEscapes : List (Char × Char) :=
  [('"', '"'), ('\\', '\\'), ('/', '/'), ('b', '\x08'), ('f', '\x0c'), ('n', '\n'), ('r', '\r'),
    ('t', '\t')]

/-- A character of a string. An escape with digits names a code unit; two of them name a character
that has no code unit of its own. One half of such a pair without the other spells nothing. -/
inductive SpellsChar : Char → List Char → Prop where
  | plain {c : Char} (quote : c ≠ '"') (backslash : c ≠ '\\') (printable : 0x20 ≤ c.toNat) :
      SpellsChar c [c]
  | short {e c : Char} (listed : (e, c) ∈ shortEscapes) : SpellsChar c ['\\', e]
  | unit {x y z w : Char} {code : Nat} (digits : Text.natural? 16 [x, y, z, w] = some code)
      (single : code < 0xD800 ∨ 0xE000 ≤ code) :
      SpellsChar (Char.ofNat code) ['\\', 'u', x, y, z, w]
  | pair {x y z w x' y' z' w' : Char} {high low : Nat}
      (digits : Text.natural? 16 [x, y, z, w] = some high)
      (digits' : Text.natural? 16 [x', y', z', w'] = some low)
      (leads : 0xD800 ≤ high ∧ high < 0xDC00) (follows : 0xDC00 ≤ low ∧ low < 0xE000) :
      SpellsChar (Char.ofNat (0x10000 + (high - 0xD800) * 0x400 + (low - 0xDC00)))
        ['\\', 'u', x, y, z, w, '\\', 'u', x', y', z', w']

inductive SpellsChars : List Char → List Char → Prop where
  | nil : SpellsChars [] []
  | cons {c : Char} {cs word text : List Char} (first : SpellsChar c word)
      (others : SpellsChars cs text) : SpellsChars (c :: cs) (word ++ text)

inductive SpellsToken : Token → List Char → Prop where
  | openArray : SpellsToken .openArray ['[']
  | closeArray : SpellsToken .closeArray [']']
  | openObject : SpellsToken .openObject ['\x7b']
  | closeObject : SpellsToken .closeObject ['\x7d']
  | comma : SpellsToken .comma [',']
  | colon : SpellsToken .colon [':']
  | null : SpellsToken .null ['n', 'u', 'l', 'l']
  | yes : SpellsToken (.boolean true) ['t', 'r', 'u', 'e']
  | no : SpellsToken (.boolean false) ['f', 'a', 'l', 's', 'e']
  | number {negative : Bool} {whole : List Char} {fraction : Option (List Char)}
      {exponent : Option (Bool × List Char)} {behind power : List Char} (leads : IsWhole whole)
      (fractional : SpellsFraction fraction behind) (scaled : SpellsExponent exponent power) :
      SpellsToken (.number ⟨negative, whole, fraction, exponent⟩)
        ((if negative then ['-'] else []) ++ (whole ++ (behind ++ power)))
  | string {s : String} {text : List Char} (chars : SpellsChars s.toList text) :
      SpellsToken (.string (some s)) ('"' :: (text ++ ['"']))

/-- The words of the tokens in order, with any spaces around them. -/
inductive Spells : List Token → List Char → Prop where
  | nil : Spells [] []
  | space {c : Char} {ts : List Token} {text : List Char} (blank : isSpace c = true)
      (others : Spells ts text) : Spells ts (c :: text)
  | token {t : Token} {ts : List Token} {word text : List Char} (first : SpellsToken t word)
      (others : Spells ts text) : Spells (t :: ts) (word ++ text)

def Token.isMark : Token → Bool
  | openArray | closeArray | openObject | closeObject | comma | colon => true
  | null | boolean _ | number _ | string _ | bad => false

def Parted (ts : List Token) : Prop :=
  ts.IsChain fun t u => (∃ n, t = .number n) → u.isMark

def Ends (text : List Char) : Prop :=
  ∀ c ∈ text.head?, c.isDigit = false ∧ c ≠ '.' ∧ c ≠ 'e' ∧ c ≠ 'E'

namespace Parted

variable {t : Token} {ts : List Token}

theorem cons_of_ne (parted : Parted ts) (other : ∀ n, t ≠ .number n) : Parted (t :: ts) :=
  List.IsChain.cons parted fun _ _ ⟨n, number⟩ => absurd number (other n)

theorem cons_mark (parted : Parted ts) (mark : t.isMark = true) : Parted (t :: ts) := by
  refine parted.cons_of_ne ?_
  rintro n rfl
  cases mark

theorem key {name : Option String} (parted : Parted ts) : Parted (.string name :: .colon :: ts) :=
  (parted.cons_mark rfl).cons_of_ne fun _ => Token.noConfusion

end Parted

theorem span_append {ds rest : List Char} (digits : ∀ d ∈ ds, d.isDigit = true)
    (ends : ∀ c ∈ rest.head?, c.isDigit = false) :
    (ds ++ rest).span Char.isDigit = (ds, rest) := by
  rw [List.span_eq_takeWhile_dropWhile, List.takeWhile_append_of_pos digits,
    List.dropWhile_append_of_pos digits]
  cases rest with
  | nil => simp
  | cons c rest =>
    have other : c.isDigit = false := ends c rfl
    simp [other]

theorem digits?_append {ds rest : List Char} (digits : IsDigits ds)
    (ends : ∀ c ∈ rest.head?, c.isDigit = false) : digits? (ds ++ rest) = some (ds, rest) := by
  obtain ⟨d, ds, rfl⟩ := List.exists_cons_of_ne_nil digits.1
  rw [digits?, span_append digits.2 ends]

theorem IsWhole.exists_cons {whole : List Char} (leads : IsWhole whole) :
    ∃ d ds, whole = d :: ds ∧ d.isDigit = true := by
  obtain rfl | ⟨⟨some, digits⟩, -⟩ := leads
  · exact ⟨'0', [], rfl, rfl⟩
  · obtain ⟨d, ds, rfl⟩ := List.exists_cons_of_ne_nil some
    exact ⟨d, ds, rfl, digits d List.mem_cons_self⟩

theorem wholePart?_append {whole rest : List Char} (leads : IsWhole whole)
    (ends : ∀ c ∈ rest.head?, c.isDigit = false) :
    wholePart? (whole ++ rest) = some (whole, rest) := by
  obtain rfl | ⟨digits, nonzero⟩ := leads
  · cases rest with
    | nil => rfl
    | cons c rest =>
      have other : c.isDigit = false := ends c rfl
      simp [wholePart?, other]
  · obtain ⟨d, ds, rfl⟩ := List.exists_cons_of_ne_nil digits.1
    rw [List.cons_append, wholePart?, ← List.cons_append, digits?_append digits ends]
    rintro rest' same
    exact nonzero (by rw [(List.cons.inj same).1]; rfl)

theorem fractionPart?_append {fraction : Option (List Char)} {behind rest : List Char}
    (fractional : SpellsFraction fraction behind)
    (ends : ∀ c ∈ rest.head?, c.isDigit = false ∧ c ≠ '.') :
    fractionPart? (behind ++ rest) = some (fraction, rest) := by
  cases fractional with
  | absent =>
    rw [List.nil_append, fractionPart?]
    rintro rest' rfl
    exact (ends '.' rfl).2 rfl
  | present digits =>
    rw [List.cons_append, fractionPart?, digits?_append digits fun c head => (ends c head).1]
    rfl

theorem ne_of_isDigit {d : Char} (digit : d.isDigit = true) : d ≠ '-' ∧ d ≠ '+' := by
  constructor <;> (rintro rfl; cases digit)

theorem exponentPart?_append {exponent : Option (Bool × List Char)} {power rest : List Char}
    (scaled : SpellsExponent exponent power) (ends : Ends rest) :
    exponentPart? (power ++ rest) = some (exponent, rest) := by
  have stops : ∀ c ∈ rest.head?, c.isDigit = false := fun c head => (ends c head).1
  cases scaled with
  | absent =>
    cases rest with
    | nil => rfl
    | cons c rest =>
      obtain ⟨-, -, lower, upper⟩ := ends c rfl
      simp [exponentPart?, lower, upper]
  | unsigned letter digits =>
    rename_i e ds
    have cut := digits?_append digits stops
    obtain ⟨d, ds, rfl⟩ := List.exists_cons_of_ne_nil digits.1
    obtain ⟨minus, plus⟩ := ne_of_isDigit (digits.2 d List.mem_cons_self)
    rw [List.cons_append] at cut
    simp [exponentPart?, letter, cut, minus, plus]
  | plus letter digits =>
    simp [exponentPart?, letter, digits?_append digits stops]
  | minus letter digits =>
    simp [exponentPart?, letter, digits?_append digits stops]

theorem SpellsExponent.boundary {exponent : Option (Bool × List Char)} {power rest : List Char}
    (scaled : SpellsExponent exponent power) (ends : Ends rest) :
    ∀ c ∈ (power ++ rest).head?, c.isDigit = false ∧ c ≠ '.' := by
  have letters : ∀ e : Char, e = 'e' ∨ e = 'E' → e.isDigit = false ∧ e ≠ '.' := by
    rintro _ (rfl | rfl) <;> exact ⟨rfl, by decide⟩
  intro c head
  cases scaled with
  | absent => exact ⟨(ends c head).1, (ends c head).2.1⟩
  | unsigned letter => exact letters c (Option.some.inj head ▸ letter)
  | plus letter => exact letters c (Option.some.inj head ▸ letter)
  | minus letter => exact letters c (Option.some.inj head ▸ letter)

theorem SpellsFraction.boundary {fraction : Option (List Char)} {behind rest : List Char}
    (fractional : SpellsFraction fraction behind) (ends : ∀ c ∈ rest.head?, c.isDigit = false) :
    ∀ c ∈ (behind ++ rest).head?, c.isDigit = false := by
  intro c head
  cases fractional with
  | absent => exact ends c head
  | present digits =>
    obtain rfl := Option.some.inj head
    rfl

theorem number?_append (negative : Bool) {whole : List Char} {fraction : Option (List Char)}
    {exponent : Option (Bool × List Char)} {behind power rest : List Char} (leads : IsWhole whole)
    (fractional : SpellsFraction fraction behind) (scaled : SpellsExponent exponent power)
    (ends : Ends rest) :
    number? ((if negative then ['-'] else []) ++ (whole ++ (behind ++ (power ++ rest)))) =
      some (⟨negative, whole, fraction, exponent⟩, rest) := by
  have boundary := scaled.boundary ends
  have cutWhole := wholePart?_append leads
    (fractional.boundary fun c head => (boundary c head).1)
  have cutFraction := fractionPart?_append fractional boundary
  have cutExponent := exponentPart?_append scaled ends
  cases negative with
  | true => simp [number?, cutWhole, cutFraction, cutExponent]
  | false =>
    obtain ⟨d, ds, rfl, digit⟩ := leads.exists_cons
    obtain ⟨minus, -⟩ := ne_of_isDigit digit
    rw [List.cons_append] at cutWhole
    simp [number?, cutWhole, cutFraction, cutExponent, minus]

theorem stringPieces_plain {c : Char} {text : List Char} (quote : c ≠ '"') (backslash : c ≠ '\\')
    (printable : 0x20 ≤ c.toNat) :
    stringPieces (c :: text) = (stringPieces text).map fun found =>
      (.char c :: found.1, found.2) := by
  have shown : ¬ c.toNat < 0x20 := Nat.not_lt.mpr printable
  rw [stringPieces, if_neg shown]
  · cases stringPieces text <;> rfl
  · exact quote
  · rintro x y z w rest rfl
    exact absurd rfl backslash
  · rintro e rest rfl
    exact absurd rfl backslash

theorem escaped?_of_mem {e c : Char} (listed : (e, c) ∈ shortEscapes) :
    escaped? e = some c ∧ e ≠ 'u' := by
  have all : ∀ p ∈ shortEscapes, escaped? p.1 = some p.2 ∧ p.1 ≠ 'u' := by decide
  exact all (e, c) listed

theorem stringPieces_short {e c : Char} {text : List Char} (listed : (e, c) ∈ shortEscapes) :
    stringPieces ('\\' :: e :: text) = (stringPieces text).map fun found =>
      (.char c :: found.1, found.2) := by
  obtain ⟨escaped, other⟩ := escaped?_of_mem listed
  rw [stringPieces, escaped]
  · cases stringPieces text <;> rfl
  · rintro x y z w rest rfl
    exact absurd rfl other

theorem stringPieces_unit {x y z w : Char} {code : Nat} {text : List Char}
    (digits : Text.natural? 16 [x, y, z, w] = some code) :
    stringPieces ('\\' :: 'u' :: x :: y :: z :: w :: text) =
      (stringPieces text).map fun found => (.unit code :: found.1, found.2) := by
  rw [stringPieces, hexUnit?, digits]
  cases stringPieces text <;> rfl

theorem joined_unit {code : Nat} {pieces : List Piece} {cs : List Char}
    (single : code < 0xD800 ∨ 0xE000 ≤ code) (others : joined pieces = some cs) :
    joined (.unit code :: pieces) = some (Char.ofNat code :: cs) := by
  have lone : (0xD800 ≤ code && code < 0xE000) = false := by
    simp only [Bool.and_eq_false_iff, decide_eq_false_iff_not]
    omega
  have leads : (0xD800 ≤ code && code < 0xDC00) = false := by
    simp only [Bool.and_eq_false_iff, decide_eq_false_iff_not]
    omega
  have follows : (0xDC00 ≤ code && code < 0xE000) = false := by
    simp only [Bool.and_eq_false_iff, decide_eq_false_iff_not]
    omega
  cases pieces with
  | nil =>
    rw [joined, lone, others]
    · rfl
    · rintro low rest ⟨⟩
  | cons piece pieces =>
    cases piece with
    | char c =>
      rw [joined, lone, others]
      · rfl
      · rintro low rest ⟨⟩
    | unit low =>
      rw [joined, leads, follows, others]
      rfl

theorem joined_pair {high low : Nat} {pieces : List Piece} {cs : List Char}
    (leads : 0xD800 ≤ high ∧ high < 0xDC00) (follows : 0xDC00 ≤ low ∧ low < 0xE000)
    (others : joined pieces = some cs) :
    joined (.unit high :: .unit low :: pieces) =
      some (Char.ofNat (0x10000 + (high - 0xD800) * 0x400 + (low - 0xDC00)) :: cs) := by
  simp [joined, leads, follows, others]

theorem SpellsChar.exists_front {c : Char} {word : List Char} (spells : SpellsChar c word) :
    ∃ front, (∀ pieces cs, joined pieces = some cs → joined (front ++ pieces) = some (c :: cs)) ∧
      ∀ text, stringPieces (word ++ text) =
        (stringPieces text).map fun found => (front ++ found.1, found.2) := by
  have char (pieces : List Piece) (cs : List Char) (others : joined pieces = some cs) :
      joined (.char c :: pieces) = some (c :: cs) := by
    rw [joined, others]
    rfl
  cases spells with
  | plain quote backslash printable =>
    exact ⟨[.char c], char, fun _ => stringPieces_plain quote backslash printable⟩
  | short listed => exact ⟨[.char c], char, fun _ => stringPieces_short listed⟩
  | unit digits single =>
    rename_i code
    exact ⟨[.unit code], fun _ _ => joined_unit single, fun _ => stringPieces_unit digits⟩
  | pair digits digits' leads follows =>
    rename_i high low
    refine ⟨[.unit high, .unit low], fun _ _ => joined_pair leads follows, fun text => ?_⟩
    simp only [List.cons_append, List.nil_append]
    rw [stringPieces_unit digits, stringPieces_unit digits', Option.map_map]
    rfl

theorem SpellsChars.exists_pieces {cs text : List Char} (spells : SpellsChars cs text) :
    ∃ pieces, joined pieces = some cs ∧
      ∀ rest, stringPieces (text ++ '"' :: rest) = some (pieces, rest) := by
  induction spells with
  | nil => exact ⟨[], rfl, fun rest => by rw [List.nil_append, stringPieces]⟩
  | cons first _ ih =>
    obtain ⟨front, joins, cuts⟩ := first.exists_front
    obtain ⟨pieces, join, cut⟩ := ih
    refine ⟨front ++ pieces, joins _ _ join, fun rest => ?_⟩
    rw [List.append_assoc, cuts, cut]
    rfl

theorem token?_of_number {c : Char} {text rest : List Char} {n : Number}
    (head : c = '-' ∨ c.isDigit = true) (cut : number? (c :: text) = some (n, rest)) :
    token? (c :: text) = some (.number n, rest) := by
  have starts : (c = '-' || c.isDigit) = true := by simpa using head
  rw [token?, if_pos starts, cut]
  · rfl
  all_goals
    rintro rfl
    simp at head

theorem token?_append {t : Token} {word rest : List Char} (spells : SpellsToken t word)
    (ends : (∃ n, t = .number n) → Ends rest) : token? (word ++ rest) = some (t, rest) := by
  cases spells with
  | number leads fractional scaled =>
    rename_i negative whole fraction exponent behind power
    have cut := number?_append negative leads fractional scaled (ends ⟨_, rfl⟩)
    simp only [List.append_assoc]
    cases negative with
    | true => exact token?_of_number (.inl rfl) cut
    | false =>
      obtain ⟨d, ds, rfl, digit⟩ := leads.exists_cons
      exact token?_of_number (.inr digit) cut
  | string chars =>
    obtain ⟨pieces, join, cut⟩ := chars.exists_pieces
    rw [List.cons_append, List.append_assoc, token?]
    simp [cut, join]
  | _ => rfl

theorem Spells.ends {ts : List Token} {text : List Char} (spells : Spells ts text)
    (marks : ∀ t ∈ ts.head?, t.isMark) : Ends text := by
  intro c head
  cases spells with
  | nil => cases head
  | space blank =>
    obtain rfl := Option.some.inj head
    simp only [isSpace, Bool.or_eq_true, decide_eq_true_eq] at blank
    rcases blank with ((rfl | rfl) | rfl) | rfl <;> decide
  | token first =>
    have mark := marks _ rfl
    cases first with
    | null | yes | no | number | string => cases mark
    | _ =>
      obtain rfl := Option.some.inj head
      decide

theorem SpellsToken.exists_cons {t : Token} {word : List Char} (spells : SpellsToken t word) :
    ∃ c cs, word = c :: cs ∧ isSpace c = false := by
  cases spells with
  | number leads fractional scaled =>
    rename_i negative _ _ _ _ _
    obtain ⟨d, ds, rfl, digit⟩ := leads.exists_cons
    have solid : isSpace d = false := by
      simp only [isSpace, Bool.or_eq_false_iff, decide_eq_false_iff_not]
      refine ⟨⟨⟨?_, ?_⟩, ?_⟩, ?_⟩ <;> (rintro rfl; cases digit)
    cases negative with
    | true => exact ⟨'-', _, rfl, rfl⟩
    | false => exact ⟨d, _, rfl, solid⟩
  | _ => exact ⟨_, _, rfl, rfl⟩

theorem tokensUpTo_of_spells {ts : List Token} {text : List Char} (spells : Spells ts text)
    (parted : Parted ts) {fuel : Nat} (enough : text.length ≤ fuel) :
    tokensUpTo fuel text = ts := by
  induction spells generalizing fuel with
  | nil => cases fuel <;> rfl
  | space blank _ ih =>
    obtain ⟨fuel, rfl⟩ := Nat.exists_eq_succ_of_ne_zero (Nat.ne_zero_of_lt enough)
    have same := ih parted (Nat.le_of_succ_le enough)
    rw [tokensUpTo] at same ⊢
    rw [List.dropWhile_cons_of_pos blank]
    exact same
  | token first others ih =>
    -- No word is empty, so what is behind it is within the fuel that is left.
    obtain ⟨c, cs, rfl, solid⟩ := first.exists_cons
    obtain ⟨fuel, rfl⟩ := Nat.exists_eq_succ_of_ne_zero (Nat.ne_zero_of_lt enough)
    have fits : _ ≤ fuel := (Nat.le_add_left _ _).trans
      (List.length_append ▸ Nat.le_of_succ_le_succ enough)
    have cut := token?_append first fun number => others.ends fun u next =>
      parted.rel_head? next number
    have solid' : ¬ isSpace c = true := by simp [solid]
    rw [List.cons_append] at cut ⊢
    rw [tokensUpTo, List.dropWhile_cons_of_neg solid']
    simp only [cut, ih parted.tail fits]

theorem tokens_of_spells {ts : List Token} {text : List Char} (spells : Spells ts text)
    (parted : Parted ts) : tokens text = ts :=
  tokensUpTo_of_spells spells parted (Nat.le_refl _)

theorem Spells.append {ts us : List Token} {text text' : List Char} (spells : Spells ts text)
    (spells' : Spells us text') : Spells (ts ++ us) (text ++ text') := by
  induction spells with
  | nil => exact spells'
  | space blank _ ih => exact .space blank ih
  | token first _ ih =>
    rw [List.append_assoc]
    exact .token first ih

def isPlain (c : Char) : Bool :=
  c ≠ '"' && c ≠ '\\' && 0x20 ≤ c.toNat

theorem spellsChars_self {cs : List Char} (plain : cs.all isPlain = true) : SpellsChars cs cs := by
  induction cs with
  | nil => exact .nil
  | cons c cs ih =>
    obtain ⟨first, plain⟩ := Bool.and_eq_true_iff.mp plain
    obtain ⟨inner, printable⟩ := Bool.and_eq_true_iff.mp first
    obtain ⟨quote, backslash⟩ := Bool.and_eq_true_iff.mp inner
    exact .cons (.plain (of_decide_eq_true quote) (of_decide_eq_true backslash)
      (of_decide_eq_true printable)) (ih plain)

namespace Token

/-- The word of a mark or of a string without escapes. -/
def word : Token → List Char
  | openArray => ['[']
  | closeArray => [']']
  | openObject => ['\x7b']
  | closeObject => ['\x7d']
  | comma => [',']
  | colon => [':']
  | string (some s) => '"' :: (s.toList ++ ['"'])
  | _ => []

def isSimple : Token → Bool
  | string (some s) => s.toList.all isPlain
  | t => t.isMark

theorem spells_word {t : Token} (simple : t.isSimple = true) : SpellsToken t t.word := by
  cases t with
  | string s =>
    cases s with
    | none => cases simple
    | some s => exact .string (spellsChars_self simple)
  | openArray => exact .openArray
  | closeArray => exact .closeArray
  | openObject => exact .openObject
  | closeObject => exact .closeObject
  | comma => exact .comma
  | colon => exact .colon
  | _ => cases simple

end Token

theorem spells_words {ts : List Token} (simple : ts.all Token.isSimple = true) :
    Spells ts (ts.flatMap Token.word) := by
  induction ts with
  | nil => exact .nil
  | cons t ts ih =>
    obtain ⟨first, others⟩ := Bool.and_eq_true_iff.mp simple
    exact .token (Token.spells_word first) (ih others)

end RouteWeaver.Json
