import Mathlib.Data.List.Basic
import RouteWeaver.FileSystem

namespace RouteWeaver.FileSystem

variable {fs : FileSystem} {place other : Location} {e : Entry}

theorem lookup_filter_ne (entries : List (Location × Entry)) (place other : Location) :
    (entries.filter (·.1 ≠ place)).lookup other =
      if other = place then none else entries.lookup other := by
  induction entries with
  | nil => simp
  | cons entry entries ih =>
    obtain ⟨key, e⟩ := entry
    by_cases there : key = place
    · rw [List.filter_cons_of_neg (by simpa using there), ih, List.lookup_cons, there]
      by_cases same : other = place
      · rw [if_pos same, if_pos same]
      · rw [if_neg same, if_neg same, beq_false_of_ne same]
    · rw [List.filter_cons_of_pos (by simpa using there), List.lookup_cons, List.lookup_cons, ih]
      by_cases same : other = place
      · have apart : other ≠ key := fun h => there (h.symm.trans same)
        rw [if_pos same, if_pos same, beq_false_of_ne apart]
      · rw [if_neg same, if_neg same]

theorem entry?_insert_self (named : place ≠ []) : entry? (fs.insert place e) place = some e := by
  unfold entry? insert
  rw [if_neg named, List.lookup_append, lookup_filter_ne, if_pos rfl, Option.none_or,
    List.lookup_cons_self]

theorem entry?_insert_of_ne (apart : other ≠ place) :
    entry? (fs.insert place e) other = fs.entry? other := by
  unfold entry? insert
  rw [List.lookup_append, lookup_filter_ne, if_neg apart, List.lookup_cons,
    beq_false_of_ne apart, List.lookup_nil, Option.or_none]

theorem follow_append {start : Location} {before after : List String}
    (led : fs.follow start before = .ok place) :
    fs.follow start (before ++ after) = fs.follow place after := by
  induction before generalizing start with
  | nil =>
    cases led
    rfl
  | cons piece before ih =>
    rw [follow] at led
    rw [List.cons_append, follow]
    cases found : fs.entry? start with
    | none => simp [found] at led
    | some entry =>
      cases entry with
      | file content => simp [found] at led
      | directory => exact ih (by simpa [found] using led)

/-- What leads somewhere passes directories only, so that it does not pass the new entry. -/
theorem follow_insert {start last : Location} {pieces : List String}
    (free : fs.entry? place ≠ some .directory) (led : fs.follow start pieces = .ok last) :
    (fs.insert place e).follow start pieces = .ok last := by
  induction pieces generalizing start with
  | nil => exact led
  | cons piece pieces ih =>
    rw [follow] at led ⊢
    cases found : fs.entry? start with
    | none => simp [found] at led
    | some entry =>
      cases entry with
      | file content => simp [found] at led
      | directory =>
        have apart : start ≠ place := fun same => free (same ▸ found)
        rw [entry?_insert_of_ne apart, found]
        exact ih (by simpa [found] using led)

theorem pieces_of_target? {p : Path} {t : Target} (found : target? p = some t)
    (opened : t.isClosed = false) : p.pieces = t.before ++ [t.name] ∧ t.name ≠ "" := by
  rw [target?] at found
  split at found
  · contradiction
  · rename_i name before pieces
    obtain rfl := Option.some.inj found
    have last : p.pieces.getLast? ≠ some "" := by simpa using opened
    -- Nothing was dropped, because the last piece is not empty.
    have whole : p.pieces.reverse.dropWhile (· = "") = p.pieces.reverse := by
      cases reversed : p.pieces.reverse with
      | nil => rfl
      | cons piece rest =>
        rw [← List.head?_reverse, reversed, List.head?_cons] at last
        rw [List.dropWhile_cons_of_neg (by simpa using last)]
    rw [whole] at pieces
    have ends : p.pieces = before.reverse ++ [name] := by
      rw [← List.reverse_reverse p.pieces, pieces, List.reverse_cons]
    refine ⟨ends, fun empty => last ?_⟩
    rw [ends, List.getLast?_concat]
    exact congrArg some empty

theorem within_cases {p : Path} {t : Target} (led : fs.within p t = .ok place) :
    fs.follow (fs.start p) t.before = .ok place ∧ fs.entry? place = some .directory := by
  rw [within] at led
  cases before : fs.follow (fs.start p) t.before with
  | error fault => simp [before, bind, Except.bind] at led
  | ok reached =>
    cases found : fs.entry? reached with
    | none => simp [before, found, bind, Except.bind, throw, throwThe, MonadExceptOf.throw] at led
    | some entry =>
      cases entry with
      | file content =>
        simp [before, found, bind, Except.bind, throw, throwThe, MonadExceptOf.throw] at led
      | directory =>
        obtain rfl : reached = place := by
          simpa [before, found, bind, Except.bind, pure, Except.pure] using led
        exact ⟨rfl, found⟩

theorem write_cases {p : Path} {content : ByteArray} {written : FileSystem}
    (done : fs.write p content = .ok written) :
    ∃ t place, p.text ≠ "" ∧ target? p = some t ∧ t.isClosed = false ∧ isName t.name ∧
      fs.within p t = .ok place ∧ fs.entry? (t.name :: place) ≠ some .directory ∧
      written = fs.insert (t.name :: place) (.file content) := by
  rw [write] at done
  split at done
  · contradiction
  · rename_i named
    split at done
    · contradiction
    · rename_i t found
      refine ⟨t, ?_⟩
      cases led : fs.within p t with
      | error fault => simp [led, bind, Except.bind] at done
      | ok place =>
        simp only [led, bind, Except.bind] at done
        split at done
        · contradiction
        · rename_i opened
          split at done
          · contradiction
          · rename_i free
            have closed : t.isClosed = false ∧ isName t.name = true := by simpa using opened
            exact ⟨place, named, found, closed.1, closed.2, rfl, free, (Except.ok.inj done).symm⟩

theorem read_of_write {p : Path} {content : ByteArray} {written : FileSystem}
    (done : fs.write p content = .ok written) : written.read p = .ok content := by
  obtain ⟨t, place, named, found, opened, name, led, free, rfl⟩ := write_cases done
  obtain ⟨pieces, nonempty⟩ := pieces_of_target? found opened
  obtain ⟨before, directory⟩ := within_cases led
  have step : step place t.name = t.name :: place := by
    have proper : t.name ≠ "." ∧ t.name ≠ ".." := by simpa [isName] using name
    simp [FileSystem.step, Path.staysPut, nonempty, proper]
  have reached : fs.follow (fs.start p) p.pieces = .ok (t.name :: place) := by
    rw [pieces, follow_append before, follow, directory]
    exact congrArg Except.ok step
  have found' : (fs.insert (t.name :: place) (.file content)).locate p = .ok (t.name :: place) := by
    rw [locate, if_neg named]
    exact follow_insert free reached
  have entry : entry? (fs.insert (t.name :: place) (.file content)) (t.name :: place) =
      some (.file content) := entry?_insert_self (List.cons_ne_nil _ _)
  simp [read, find, found', entry, bind, Except.bind, pure, Except.pure]

theorem read_of_deliver {path : String} {content : ByteArray} {delivered : FileSystem}
    (done : fs.deliver path content = (delivered, none)) :
    delivered.read (Path.ofText path) = .ok content := by
  simp only [deliver] at done
  split at done
  · simp at done
  · split at done
    · rename_i written wrote
      obtain rfl : written = delivered := by simpa using done
      exact read_of_write wrote
    · simp at done

end RouteWeaver.FileSystem
