import RouteWeaver.Json.Parse
import RouteWeaver.Json.Value
import RouteWeaver.Proofs.JsonTexts

namespace RouteWeaver.Json

namespace Value

mutual

def tokens : Value → List Token
  | null => [.null]
  | boolean b => [.boolean b]
  | number n => [.number n]
  | string s => [.string (some s)]
  | array [] => [.openArray, .closeArray]
  | array (v :: vs) => .openArray :: (v.tokens ++ laterItems vs)
  | object [] => [.openObject, .closeObject]
  | object ((k, v) :: ms) =>
    .openObject :: .string (some k) :: .colon :: (v.tokens ++ laterMembers ms)

/-- The items behind the first one, and the end of the array. -/
def laterItems : List Value → List Token
  | [] => [.closeArray]
  | v :: vs => .comma :: (v.tokens ++ laterItems vs)

def laterMembers : List (String × Value) → List Token
  | [] => [.closeObject]
  | (k, v) :: ms => .comma :: .string (some k) :: .colon :: (v.tokens ++ laterMembers ms)

end

def Written (v : Value) (text : String) : Prop :=
  Spells v.tokens text.toList

mutual

def datum : Value → Datum
  | null => .scalar (.ofScalar .null)
  | boolean b => .scalar (.ofScalar (.boolean b))
  | number n =>
    match n.scalar with
    | some s => .scalar (.ofScalar s)
    | none => .unreadable true
  | string s => .scalar (.ofScalar (.text s))
  | array vs => .sequence (datums vs) true
  | object ms => .mapping (entries ms) true

def datums : List Value → List Datum
  | [] => []
  | v :: vs => v.datum :: datums vs

def entries : List (String × Value) → List (Datum × Datum)
  | [] => []
  | (k, v) :: ms => (.scalar (.ofScalar (.text k)), v.datum) :: entries ms

end

mutual

/-- The number of collections around the innermost value, with that value. -/
def depth : Value → Nat
  | array vs => itemsDepth vs + 1
  | object ms => membersDepth ms + 1
  | null | boolean _ | number _ | string _ => 0

def itemsDepth : List Value → Nat
  | [] => 0
  | v :: vs => max v.depth (itemsDepth vs)

def membersDepth : List (String × Value) → Nat
  | [] => 0
  | (_, v) :: ms => max v.depth (membersDepth ms)

end

mutual

def numbers : Value → List Number
  | number n => [n]
  | array vs => itemsNumbers vs
  | object ms => membersNumbers ms
  | null | boolean _ | string _ => []

def itemsNumbers : List Value → List Number
  | [] => []
  | v :: vs => v.numbers ++ itemsNumbers vs

def membersNumbers : List (String × Value) → List Number
  | [] => []
  | (_, v) :: ms => v.numbers ++ membersNumbers ms

end

def Readable (v : Value) : Prop :=
  ∀ n ∈ v.numbers, n.scalar.isSome

theorem build_item (v : Value) (items : List Datum) (outer : List Frame) (rest : List Token) :
    build (.building (.array items :: outer) .item) (v.tokens ++ rest) =
      build (.building (.array items :: outer) .value) (v.tokens ++ rest) := by
  cases v with
  | array vs => cases vs <;> rfl
  | object ms => cases ms <;> rfl
  | _ => rfl

def keyDatum (k : String) : Datum :=
  .scalar (.ofScalar (.text k))

theorem entries_cons (k : String) (v : Value) (ms : List (String × Value)) :
    entries ((k, v) :: ms) = (keyDatum k, v.datum) :: entries ms := by
  rw [entries]
  rfl

mutual

theorem build_tokens : ∀ (v : Value) (stack : List Frame) (rest : List Token),
    build (.building stack .value) (v.tokens ++ rest) = build (complete v.datum stack) rest
  | null, _, _ => rfl
  | boolean _, _, _ => rfl
  | number _, _, _ => rfl
  | string _, _, _ => rfl
  | array [], _, _ => rfl
  | array (v :: vs), stack, rest => by
    have opens (ts : List Token) : build (.building stack .value) (.openArray :: ts) =
        build (.building (.array [] :: stack) .item) ts := rfl
    rw [tokens, List.cons_append, List.append_assoc, opens, build_item, build_tokens v]
    exact build_laterItems vs [v.datum] stack rest
  | object [], _, _ => rfl
  | object ((k, v) :: ms), stack, rest => by
    have opens (ts : List Token) :
        build (.building stack .value) (.openObject :: .string (some k) :: .colon :: ts) =
          build (.building (.member [] (keyDatum k) :: stack) .value) ts := rfl
    rw [tokens, List.cons_append, List.cons_append, List.cons_append, List.append_assoc, opens,
      build_tokens v]
    exact build_laterMembers ms [(keyDatum k, v.datum)] stack rest

theorem build_laterItems : ∀ (vs : List Value) (done : List Datum) (stack : List Frame)
    (rest : List Token),
    build (.building (.array done :: stack) .separator) (laterItems vs ++ rest) =
      build (complete (.sequence (done.reverse ++ datums vs) true) stack) rest
  | [], done, stack, rest => by
    rw [datums, List.append_nil]
    rfl
  | v :: vs, done, stack, rest => by
    have goesOn (ts : List Token) :
        build (.building (.array done :: stack) .separator) (.comma :: ts) =
          build (.building (.array done :: stack) .value) ts := rfl
    have later := build_laterItems vs (v.datum :: done) stack rest
    rw [List.reverse_cons, List.append_assoc] at later
    rw [laterItems, List.cons_append, List.append_assoc, goesOn, build_tokens v]
    exact later

theorem build_laterMembers : ∀ (ms : List (String × Value)) (done : List (Datum × Datum))
    (stack : List Frame) (rest : List Token),
    build (.building (.object done :: stack) .separator) (laterMembers ms ++ rest) =
      build (complete (.mapping (done.reverse ++ entries ms) true) stack) rest
  | [], done, stack, rest => by
    rw [entries, List.append_nil]
    rfl
  | (k, v) :: ms, done, stack, rest => by
    have goesOn (ts : List Token) :
        build (.building (.object done :: stack) .separator)
            (.comma :: .string (some k) :: .colon :: ts) =
          build (.building (.member done (keyDatum k) :: stack) .value) ts := rfl
    have later := build_laterMembers ms ((keyDatum k, v.datum) :: done) stack rest
    rw [List.reverse_cons, List.append_assoc] at later
    rw [laterMembers, List.cons_append, List.cons_append, List.cons_append, List.append_assoc,
      goesOn, build_tokens v]
    exact later

end

theorem isMark_laterItems (vs : List Value) (rest : List Token) :
    ∀ t ∈ (laterItems vs ++ rest).head?, t.isMark := by
  cases vs <;> (rintro _ ⟨⟩; rfl)

theorem isMark_laterMembers (ms : List (String × Value)) (rest : List Token) :
    ∀ t ∈ (laterMembers ms ++ rest).head?, t.isMark := by
  cases ms <;> (rintro _ ⟨⟩; rfl)

mutual

theorem parted_tokens : ∀ (v : Value) (rest : List Token), Parted rest →
    (∀ t ∈ rest.head?, t.isMark) → Parted (v.tokens ++ rest)
  | null, _, parted, marks => parted.cons fun t next _ => marks t next
  | boolean _, _, parted, marks => parted.cons fun t next _ => marks t next
  | number _, _, parted, marks => parted.cons fun t next _ => marks t next
  | string _, _, parted, marks => parted.cons fun t next _ => marks t next
  | array [], _, parted, _ => (parted.cons_mark rfl).cons_mark rfl
  | array (v :: vs), rest, parted, _ => by
    rw [tokens, List.cons_append, List.append_assoc]
    have inner := parted_tokens v _ (parted_laterItems vs rest parted) (isMark_laterItems vs rest)
    exact inner.cons_mark rfl
  | object [], _, parted, _ => (parted.cons_mark rfl).cons_mark rfl
  | object ((k, v) :: ms), rest, parted, _ => by
    rw [tokens, List.cons_append, List.cons_append, List.cons_append, List.append_assoc]
    have inner :=
      parted_tokens v _ (parted_laterMembers ms rest parted) (isMark_laterMembers ms rest)
    exact inner.key.cons_mark rfl

theorem parted_laterItems : ∀ (vs : List Value) (rest : List Token), Parted rest →
    Parted (laterItems vs ++ rest)
  | [], rest, parted => parted.cons_mark rfl
  | v :: vs, rest, parted => by
    rw [laterItems, List.cons_append, List.append_assoc]
    have inner := parted_tokens v _ (parted_laterItems vs rest parted) (isMark_laterItems vs rest)
    exact inner.cons_mark rfl

theorem parted_laterMembers : ∀ (ms : List (String × Value)) (rest : List Token), Parted rest →
    Parted (laterMembers ms ++ rest)
  | [], rest, parted => parted.cons_mark rfl
  | (k, v) :: ms, rest, parted => by
    rw [laterMembers, List.cons_append, List.cons_append, List.cons_append, List.append_assoc]
    have inner :=
      parted_tokens v _ (parted_laterMembers ms rest parted) (isMark_laterMembers ms rest)
    exact inner.key.cons_mark rfl

end

mutual

theorem limited_datum : ∀ (v : Value) (room : Nat), v.depth ≤ room → v.datum.limited room = v.datum
  | null, _, _ => rfl
  | boolean _, _, _ => rfl
  | number n, _, _ => by
    rw [datum]
    split <;> rfl
  | string _, _, _ => rfl
  | array vs, room, fits => by
    obtain ⟨room, rfl⟩ := Nat.exists_eq_succ_of_ne_zero (Nat.ne_zero_of_lt fits)
    rw [datum, Datum.limited, limited_datums vs room (Nat.le_of_succ_le_succ fits)]
  | object ms, room, fits => by
    obtain ⟨room, rfl⟩ := Nat.exists_eq_succ_of_ne_zero (Nat.ne_zero_of_lt fits)
    rw [datum, Datum.limited, limited_entries ms room (Nat.le_of_succ_le_succ fits)]

theorem limited_datums : ∀ (vs : List Value) (room : Nat), itemsDepth vs ≤ room →
    Datum.limitedItems room (datums vs) = datums vs
  | [], _, _ => rfl
  | v :: vs, room, fits => by
    have fits := Nat.max_le.mp fits
    rw [datums, Datum.limitedItems, limited_datum v room fits.1, limited_datums vs room fits.2]

theorem limited_entries : ∀ (ms : List (String × Value)) (room : Nat), membersDepth ms ≤ room →
    Datum.limitedEntries room (entries ms) = entries ms
  | [], _, _ => rfl
  | (k, v) :: ms, room, fits => by
    have fits := Nat.max_le.mp fits
    rw [entries, Datum.limitedEntries, limited_datum v room fits.1, limited_entries ms room fits.2]
    rfl

end

mutual

theorem whole_datum : ∀ v : Value, v.datum.whole = true
  | null => rfl
  | boolean _ => rfl
  | number n => by
    rw [datum]
    split <;> rfl
  | string _ => rfl
  | array vs => by rw [datum, Datum.whole, whole_datums vs, Bool.and_true]
  | object ms => by rw [datum, Datum.whole, whole_entries ms, Bool.and_true]

theorem whole_datums : ∀ vs : List Value, Datum.wholeItems (datums vs) = true
  | [] => rfl
  | v :: vs => by rw [datums, Datum.wholeItems, whole_datum v, whole_datums vs, Bool.and_true]

theorem whole_entries : ∀ ms : List (String × Value), Datum.wholeEntries (entries ms) = true
  | [] => rfl
  | (k, v) :: ms => by
    rw [entries, Datum.wholeEntries, whole_datum v, whole_entries ms]
    rfl

end

def within (room : Nat) (v : Value) : Datum :=
  v.datum.limited room

def entriesWithin (room : Nat) (ms : List (String × Value)) : List (Datum × Datum) :=
  ms.map fun m => (keyDatum m.1, m.2.within room)

theorem entriesWithin_cons (room : Nat) (k : String) (v : Value) (ms : List (String × Value)) :
    entriesWithin room ((k, v) :: ms) =
      (keyDatum k, v.within room) :: entriesWithin room ms :=
  rfl

theorem within_eq_datum {v : Value} {room : Nat} (fits : v.depth ≤ room) :
    v.within room = v.datum :=
  limited_datum v room fits

theorem limitedEntries_entries (room : Nat) (ms : List (String × Value)) :
    Datum.limitedEntries room (entries ms) = entriesWithin room ms := by
  induction ms with
  | nil => rfl
  | cons m ms ih =>
    rw [entries, Datum.limitedEntries, ih]
    rfl

theorem entriesWithin_eq_entries {ms : List (String × Value)} {room : Nat}
    (fits : membersDepth ms ≤ room) : entriesWithin room ms = entries ms := by
  rw [← limitedEntries_entries, limited_entries ms room fits]

/-- Below the limit nothing is read of a collection, though it may be skipped. -/
theorem within_array_zero (vs : List Value) : (array vs).within 0 = .unreadable true :=
  congrArg Datum.unreadable (whole_datum (.array vs))

theorem within_object_zero (ms : List (String × Value)) :
    (object ms).within 0 = .unreadable true :=
  congrArg Datum.unreadable (whole_datum (.object ms))

theorem within_array_succ (vs : List Value) (room : Nat) :
    (array vs).within (room + 1) = .sequence (vs.map (within room)) true := by
  have items : Datum.limitedItems room (datums vs) = vs.map (within room) := by
    induction vs with
    | nil => rfl
    | cons v vs ih =>
      rw [datums, Datum.limitedItems, ih]
      rfl
  rw [within, datum, Datum.limited, items]

theorem within_object_succ (ms : List (String × Value)) (room : Nat) :
    (object ms).within (room + 1) = .mapping (entriesWithin room ms) true := by
  rw [within, datum, Datum.limited, limitedEntries_entries]

mutual

theorem whole_within : ∀ (v : Value) (room : Nat), (v.within room).whole = true
  | null, _ => rfl
  | boolean _, _ => rfl
  | number n, _ => by
    rw [within, datum]
    split <;> rfl
  | string _, _ => rfl
  | array vs, 0 => by rw [within_array_zero, Datum.whole]
  | array vs, room + 1 => by
    rw [within_array_succ, Datum.whole, whole_itemsWithin vs room, Bool.and_true]
  | object ms, 0 => by rw [within_object_zero, Datum.whole]
  | object ms, room + 1 => by
    rw [within_object_succ, Datum.whole, whole_entriesWithin ms room, Bool.and_true]

theorem whole_itemsWithin : ∀ (vs : List Value) (room : Nat),
    Datum.wholeItems (vs.map (within room)) = true
  | [], _ => rfl
  | v :: vs, room => by
    rw [List.map_cons, Datum.wholeItems, whole_within v, whole_itemsWithin vs, Bool.and_true]

theorem whole_entriesWithin : ∀ (ms : List (String × Value)) (room : Nat),
    Datum.wholeEntries (entriesWithin room ms) = true
  | [], _ => rfl
  | (k, v) :: ms, room => by
    rw [entriesWithin_cons, Datum.wholeEntries, whole_within v, whole_entriesWithin ms room]
    rfl

end

/-- A text of a value is read as its document, as far as collections lie within the limit. -/
theorem parse_within {v : Value} {text : String} (written : v.Written text) :
    parse text = ⟨v.within depthLimit, true⟩ := by
  have parted : Parted (v.tokens ++ []) := parted_tokens v [] .nil fun _ none => nomatch none
  have cut := tokens_of_spells written (List.append_nil v.tokens ▸ parted)
  have built := build_tokens v [] []
  rw [List.append_nil] at built
  rw [parse, cut, built]
  rfl

theorem parse_of_written {v : Value} {text : String} (written : v.Written text)
    (shallow : v.depth ≤ depthLimit) : parse text = ⟨v.datum, true⟩ := by
  rw [parse_within written, within_eq_datum shallow]

end Value

end RouteWeaver.Json
