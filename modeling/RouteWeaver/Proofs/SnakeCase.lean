import RouteWeaver.Name
import RouteWeaver.Proofs.CaseMappings

namespace RouteWeaver.Name

open Text

/-- What the characters behind `previous` become, whatever is written already. -/
def snakeAfter (previous : Option Char) : List Char → List Char
  | [] => []
  | c :: rest =>
    if isUpper c then
      (if startsWord previous rest.head? then ['_'] else []) ++ lower c ++ snakeAfter (some c) rest
    else c :: snakeAfter (some c) rest

variable {previous next : Option Char} {c : Char} {shown : List Char}

theorem isUpper_underscore : isUpper '_' = false := by
  decide +kernel

theorem ne_underscore_of_isUpper (capital : isUpper c) : c ≠ '_' := by
  rintro rfl
  exact Bool.false_ne_true (isUpper_underscore.symm.trans capital)

theorem underscore_notMem_lower (capital : isUpper c) : '_' ∉ lower c := fun member =>
  ne_underscore_of_isUpper capital (eq_underscore_of_mem_lower member)

theorem head?_lower_append (capital : isUpper c) (text : List Char) :
    (lower c ++ text).head? ≠ some '_' := by
  rw [List.head?_append_of_ne_nil _ (lower_ne_nil c)]
  exact fun first => underscore_notMem_lower capital (List.mem_of_head? first)

/-- No word starts behind an underscore, and none at the beginning. -/
theorem exists_of_startsWord (starts : startsWord previous next) :
    ∃ p, previous = some p ∧ p ≠ '_' := by
  have joined : startsWord (some '_') next = false := by
    have isLower_underscore : Text.isLower '_' = false := by decide +kernel
    simp [startsWord, isUpper_underscore, isLower_underscore]
  cases previous with
  | none => cases starts
  | some p =>
    refine ⟨p, rfl, ?_⟩
    rintro rfl
    exact Bool.false_ne_true (joined.symm.trans starts)

/-- Behind a character that is no underscore, something is written that does not end in one. -/
def EndsAs (shown : List Char) (previous : Option Char) : Prop :=
  ∀ p, previous = some p → p ≠ '_' → shown ≠ [] ∧ shown.getLast? ≠ some '_'

theorem EndsAs.nil : EndsAs [] none := by
  rintro p ⟨⟩

theorem EndsAs.kept (shown : List Char) (c : Char) : EndsAs (shown ++ [c]) (some c) := by
  rintro p ⟨⟩ other
  simpa using other

theorem EndsAs.lowered (shown : List Char) (capital : isUpper c) :
    EndsAs (shown ++ lower c) (some c) := by
  rintro p ⟨⟩ -
  refine ⟨by simp [lower_ne_nil], fun last => ?_⟩
  rw [List.getLast?_append_of_ne_nil shown (lower_ne_nil c)] at last
  exact underscore_notMem_lower capital (List.mem_of_getLast? last)

/-- A look at what is written never decides: no word starts behind an underscore. -/
theorem EndsAs.separates_eq (ends : EndsAs shown previous) (next : Option Char) :
    separates shown previous next = startsWord previous next := by
  cases starts : startsWord previous next with
  | false => simp [separates, starts]
  | true =>
    obtain ⟨p, read, other⟩ := exists_of_startsWord starts
    simp [separates, starts, (ends p read other).2]

theorem EndsAs.snakeOnto_eq (ends : EndsAs shown previous) (text : List Char) :
    snakeOnto shown previous text = shown ++ snakeAfter previous text := by
  induction text generalizing shown previous with
  | nil => rw [snakeOnto, snakeAfter, List.append_nil]
  | cons c rest ih =>
    by_cases capital : isUpper c
    · rw [snakeOnto, if_pos capital, ih (.lowered _ capital), snakeAfter, if_pos capital,
        ends.separates_eq]
      simp only [List.append_assoc]
    · rw [snakeOnto, if_neg capital, ih (.kept shown c), snakeAfter, if_neg capital,
        List.append_assoc, List.singleton_append]

theorem snakeChars_eq (text : List Char) : snakeChars text = snakeAfter none text :=
  EndsAs.nil.snakeOnto_eq text

inductive SnakePart where
  | kept (c : Char)
  | lowered (c : Char)
  | separator
deriving DecidableEq, Repr

namespace SnakePart

def source : SnakePart → List Char
  | kept c => [c]
  | lowered c => [c]
  | separator => []

def written : SnakePart → List Char
  | kept c => [c]
  | lowered c => lower c
  | separator => ['_']

/-- Upper-case characters are lowered, and no others. -/
def Fits : SnakePart → Prop
  | kept c => ¬ isUpper c
  | lowered c => isUpper c
  | separator => True

end SnakePart

def writtenAll (parts : List SnakePart) : List Char :=
  parts.flatMap SnakePart.written

/-- The run of `snakeOnto`, with each text that it writes as a part. -/
def snakeParts (done : List SnakePart) (previous : Option Char) : List Char → List SnakePart
  | [] => done
  | c :: rest =>
    if isUpper c then
      let separator := if separates (writtenAll done) previous rest.head? then [.separator] else []
      snakeParts (done ++ separator ++ [.lowered c]) (some c) rest
    else snakeParts (done ++ [.kept c]) (some c) rest

theorem writtenAll_append (before after : List SnakePart) :
    writtenAll (before ++ after) = writtenAll before ++ writtenAll after :=
  List.flatMap_append

theorem writtenAll_singleton (part : SnakePart) : writtenAll [part] = part.written :=
  List.flatMap_singleton SnakePart.written part

theorem writtenAll_snakeParts (done : List SnakePart) (previous : Option Char) (text : List Char) :
    writtenAll (snakeParts done previous text) = snakeOnto (writtenAll done) previous text := by
  induction text generalizing done previous with
  | nil => rfl
  | cons c rest ih =>
    have separator (apart : Bool) :
        writtenAll (if apart then [.separator] else []) = if apart then ['_'] else [] := by
      cases apart <;> rfl
    rw [snakeParts, snakeOnto]
    split
    · rw [ih, writtenAll_append, writtenAll_append, separator, writtenAll_singleton,
        SnakePart.written]
    · rw [ih, writtenAll_append, writtenAll_singleton, SnakePart.written]

theorem source_snakeParts (done : List SnakePart) (previous : Option Char) (text : List Char) :
    (snakeParts done previous text).flatMap SnakePart.source =
      done.flatMap SnakePart.source ++ text := by
  induction text generalizing done previous with
  | nil => rw [snakeParts, List.append_nil]
  | cons c rest ih =>
    rw [snakeParts]
    split
    · rw [ih]
      split <;> simp [SnakePart.source]
    · rw [ih]
      simp [SnakePart.source]

structure SetsApart (before after : List SnakePart) : Prop where
  capital : ∃ c rest, after = .lowered c :: rest ∧ isUpper c
  notFirst : writtenAll before ≠ []
  left : (writtenAll before).getLast? ≠ some '_'
  right : (writtenAll after).head? ≠ some '_'

theorem SetsApart.append {before after : List SnakePart} (apart : SetsApart before after)
    (more : List SnakePart) : SetsApart before (after ++ more) := by
  obtain ⟨⟨c, rest, rfl, capital⟩, notFirst, left, -⟩ := apart
  exact ⟨⟨c, rest ++ more, rfl, capital⟩, notFirst, left, head?_lower_append capital _⟩

structure Placed (parts : List SnakePart) : Prop where
  fits : ∀ part ∈ parts, part.Fits
  separators : ∀ before after, parts = before ++ .separator :: after → SetsApart before after

namespace Placed

theorem nil : Placed [] where
  fits := List.forall_mem_nil _
  separators := by simp

theorem append {done new : List SnakePart} (placed : Placed done) (fits : ∀ part ∈ new, part.Fits)
    (separators : ∀ before after, new = before ++ .separator :: after →
      SetsApart (done ++ before) after) : Placed (done ++ new) where
  fits := List.forall_mem_append.mpr ⟨placed.fits, fits⟩
  separators := by
    intro before after split
    rcases List.append_eq_append_iff.mp split with ⟨front, rfl, inside⟩ | ⟨back, earlier, inside⟩
    · exact separators front after inside
    · cases back with
      | nil =>
        rw [List.append_nil] at earlier
        simpa [earlier] using separators [] after inside.symm
      | cons part back =>
        obtain ⟨rfl, rfl⟩ := List.cons.inj inside
        exact (placed.separators before back earlier).append new

theorem kept {done : List SnakePart} (placed : Placed done) (small : ¬ isUpper c) :
    Placed (done ++ [.kept c]) :=
  placed.append (by simpa [SnakePart.Fits] using small) (by simp [List.singleton_eq_append_iff])

theorem lowered {done : List SnakePart} (placed : Placed done) (capital : isUpper c) :
    Placed (done ++ [.lowered c]) :=
  placed.append (by simpa [SnakePart.Fits] using capital) (by simp [List.singleton_eq_append_iff])

theorem separated {done : List SnakePart} (placed : Placed done) (capital : isUpper c)
    (notFirst : writtenAll done ≠ []) (left : (writtenAll done).getLast? ≠ some '_') :
    Placed (done ++ [.separator, .lowered c]) := by
  refine placed.append (by simpa [SnakePart.Fits] using capital) fun before after split => ?_
  cases before with
  | nil =>
    obtain rfl : [.lowered c] = after := by simpa using split
    rw [List.append_nil]
    exact ⟨⟨c, [], rfl, capital⟩, notFirst, left, head?_lower_append capital []⟩
  | cons part before => simp [List.singleton_eq_append_iff] at split

theorem snakeParts {done : List SnakePart} (placed : Placed done)
    (ends : EndsAs (writtenAll done) previous) (text : List Char) :
    Placed (snakeParts done previous text) := by
  induction text generalizing done previous with
  | nil => exact placed
  | cons c rest ih =>
    rw [Name.snakeParts]
    by_cases capital : isUpper c
    · have behind (front : List SnakePart) :
          EndsAs (writtenAll (front ++ [.lowered c])) (some c) := by
        rw [writtenAll_append, writtenAll_singleton]
        exact .lowered _ capital
      rw [if_pos capital, ends.separates_eq]
      by_cases starts : startsWord previous rest.head?
      · obtain ⟨p, read, other⟩ := exists_of_startsWord starts
        have shown := ends p read other
        have set := placed.separated capital shown.1 shown.2
        rw [if_pos starts]
        exact ih (by simpa using set) (behind _)
      · rw [if_neg starts]
        exact ih (by simpa using placed.lowered capital) (behind _)
    · have behind : EndsAs (writtenAll (done ++ [.kept c])) (some c) := by
        rw [writtenAll_append, writtenAll_singleton]
        exact .kept _ c
      rw [if_neg capital]
      exact ih (placed.kept capital) behind

end Placed

def doubled (text : List Char) : Nat :=
  (text.zip text.tail).count ('_', '_')

theorem doubled_cons (c : Char) (text : List Char) :
    doubled (c :: text) = (if c = '_' ∧ text.head? = some '_' then 1 else 0) + doubled text := by
  cases text with
  | nil => simp [doubled]
  | cons d text =>
    rw [doubled, List.tail_cons, List.zip_cons_cons, List.count_cons, doubled, List.tail_cons,
      Nat.add_comm]
    simp

theorem doubled_cons_of_ne (other : c ≠ '_') (text : List Char) :
    doubled (c :: text) = doubled text := by
  rw [doubled_cons, if_neg fun both => other both.1, Nat.zero_add]

theorem doubled_append_of_notMem {front : List Char} (plain : '_' ∉ front) (text : List Char) :
    doubled (front ++ text) = doubled text := by
  induction front with
  | nil => rfl
  | cons c front ih =>
    rw [List.mem_cons, not_or] at plain
    rw [List.cons_append, doubled_cons_of_ne (Ne.symm plain.1), ih plain.2]

/-- Behind an underscore, the first character tells whether there is another one. -/
theorem head?_snakeAfter_underscore (text : List Char) :
    (snakeAfter (some '_') text).head? = some '_' ↔ text.head? = some '_' := by
  cases text with
  | nil => rfl
  | cons c rest =>
    rw [snakeAfter]
    split
    · rename_i capital
      have joined : startsWord (some '_') rest.head? = false := by
        rw [Bool.eq_false_iff]
        intro starts
        obtain ⟨p, read, other⟩ := exists_of_startsWord starts
        exact other (Option.some.inj read).symm
      rw [joined, if_neg Bool.false_ne_true, List.nil_append, List.head?_cons, Option.some_inj]
      exact iff_of_false (head?_lower_append capital _) (ne_underscore_of_isUpper capital)
    · rfl

theorem doubled_snakeAfter (previous : Option Char) (text : List Char) :
    doubled (snakeAfter previous text) = doubled text := by
  induction text generalizing previous with
  | nil => rfl
  | cons c rest ih =>
    rw [snakeAfter]
    split
    · rename_i capital
      have image : doubled (lower c ++ snakeAfter (some c) rest) = doubled rest := by
        rw [doubled_append_of_notMem (underscore_notMem_lower capital), ih]
      rw [List.append_assoc, doubled_cons_of_ne (ne_underscore_of_isUpper capital)]
      split
      · rw [List.singleton_append, doubled_cons,
          if_neg fun both => head?_lower_append capital _ both.2, image, Nat.zero_add]
      · exact image
    · rw [doubled_cons, ih, doubled_cons]
      by_cases underscore : c = '_'
      · simp only [underscore, head?_snakeAfter_underscore]
      · simp only [underscore, false_and]

theorem filter_snakeAfter (previous : Option Char) (text : List Char) :
    (snakeAfter previous text).filter (· ≠ '_') =
      (text.filter (· ≠ '_')).flatMap fun c => if isUpper c then lower c else [c] := by
  induction text generalizing previous with
  | nil => rfl
  | cons c rest ih =>
    rw [snakeAfter]
    split
    · rename_i capital
      have image : (lower c).filter (· ≠ '_') = lower c :=
        List.filter_eq_self.mpr fun d member => decide_eq_true
          (ne_of_mem_of_not_mem member (underscore_notMem_lower capital))
      have gone : (if startsWord previous rest.head? then ['_'] else []).filter (· ≠ '_') = [] := by
        split <;> rfl
      rw [List.filter_append, List.filter_append, gone, image, List.nil_append, ih,
        List.filter_cons_of_pos (by simpa using ne_underscore_of_isUpper capital),
        List.flatMap_cons, if_pos capital]
    · rename_i small
      by_cases underscore : c = '_'
      · rw [List.filter_cons_of_neg (by simpa using underscore), ih,
          List.filter_cons_of_neg (by simpa using underscore)]
      · rw [List.filter_cons_of_pos (by simpa using underscore), ih,
          List.filter_cons_of_pos (by simpa using underscore), List.flatMap_cons, if_neg small,
          List.singleton_append]

/-- But for underscores, snake case puts each upper-case character in lower case and keeps the rest.
The underscores that it inserts set words apart, and none of them stands beside another. -/
theorem snake_conserves_text (s : String) :
    (snake s).toList.filter (· ≠ '_') =
      ((s.toList.filter (· ≠ '_')).flatMap fun c => if isUpper c then lower c else [c]) ∧
    doubled (snake s).toList = doubled s.toList ∧
    (let parts := snakeParts [] none s.toList
     parts.flatMap SnakePart.source = s.toList ∧ writtenAll parts = (snake s).toList ∧
      Placed parts) := by
  rw [snake, String.toList_ofList]
  refine ⟨?_, ?_, ?_, ?_, ?_⟩
  · rw [snakeChars_eq, filter_snakeAfter]
  · rw [snakeChars_eq, doubled_snakeAfter]
  · exact source_snakeParts [] none s.toList
  · exact writtenAll_snakeParts [] none s.toList
  · exact Placed.nil.snakeParts .nil s.toList

-- A run of capitals is one word, and an underscore that is there already stays the only one.
example : snake "HTTPServer_V2Beta" = "http_server_v2_beta" := by
  decide +kernel

end RouteWeaver.Name
