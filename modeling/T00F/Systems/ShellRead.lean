import Mathlib

/-!
# Reading lines in a shell

`whileRead` is what `while read line` goes through: the lines of a text, in which a backslash
protects the next character and joins two lines at a newline, without the blanks at both ends.
What is behind the last newline is not gone through. `readFrom_line` deals with one line of
the text, behind what the lines before have left pending.
-/

namespace Systems

/-- The characters of `IFS`. -/
def ifs (char : Char) : Bool := char = ' ' || char = '\t' || char = '\n'

/-- What `read` takes off a text, each character with whether a backslash protects it, and what
it leaves. `escaped` says that the last character was such a backslash. -/
def readChars (escaped : Bool) : List Char → Option (List (Char × Bool) × List Char)
  | [] => none
  | char :: rest =>
      if char = '\n' then
        if escaped then readChars false rest else some ([], rest)
      else if char = '\\' ∧ escaped = false then readChars true rest
      else (readChars false rest).map fun found => ((char, escaped) :: found.1, found.2)

/-- One `read` consumes at least its newline. -/
theorem length_readChars {escaped : Bool} {text rest : List Char} {line : List (Char × Bool)}
    (found : readChars escaped text = some (line, rest)) : rest.length < text.length := by
  induction text generalizing escaped line with
  | nil => cases found
  | cons char text ih =>
      rw [List.length_cons]
      rw [readChars] at found
      split_ifs at found
      · exact (ih found).trans (Nat.lt_succ_self _)
      · cases found
        exact Nat.lt_succ_self _
      · exact (ih found).trans (Nat.lt_succ_self _)
      · obtain ⟨⟨line, rest⟩, more, same⟩ := Option.map_eq_some_iff.mp found
        cases same
        exact (ih more).trans (Nat.lt_succ_self _)

/-- A blank without a backslash. -/
def bareBlank (char : Char × Bool) : Bool := !char.2 && ifs char.1

/-- The value of the variable of `read`. -/
def strip (line : List (Char × Bool)) : List Char :=
  ((line.dropWhile bareBlank).rdropWhile bareBlank).map Prod.fst

/-- The values of the variable in the loop. -/
def whileRead (text : List Char) : List (List Char) :=
  match _found : readChars false text with
  | none => []
  | some (line, rest) => strip line :: whileRead rest
termination_by text.length
decreasing_by exact length_readChars _found

/-- A line of the text as `read` takes it. -/
def protect (escaped : Bool) : List Char → List (Char × Bool)
  | [] => []
  | char :: rest =>
      if char = '\\' ∧ escaped = false then protect true rest
      else (char, escaped) :: protect false rest

/-- The line ends in a backslash that joins the next one to it. -/
def dangles (escaped : Bool) : List Char → Bool
  | [] => escaped
  | char :: rest => dangles (char = '\\' && !escaped) rest

/-- The loop on a text, with what the lines before it have left. -/
def readFrom (pending : List (Char × Bool)) (text : List Char) : List (List Char) :=
  match readChars false text with
  | none => []
  | some (line, rest) => strip (pending ++ line) :: whileRead rest

theorem whileRead_eq (text : List Char) : whileRead text = readFrom [] text := by
  rw [whileRead, readFrom]
  split <;> rename_i found
  · rw [found]
  · rw [found]
    rfl

/-- A line whose last backslash is paired ends the `read`; a dangling one continues it. -/
theorem readChars_line {line : List Char} (oneLine : '\n' ∉ line) (escaped : Bool)
    (rest : List Char) :
    readChars escaped (line ++ '\n' :: rest) =
      if dangles escaped line then
        (readChars false rest).map fun found => (protect escaped line ++ found.1, found.2)
      else some (protect escaped line, rest) := by
  induction line generalizing escaped with
  | nil =>
      rw [List.nil_append, readChars, if_pos rfl, dangles, protect]
      cases escaped with
      | false => rfl
      | true => simp
  | cons char line ih =>
      obtain ⟨notNewline, oneLine⟩ := not_or.mp (mt List.mem_cons.mpr oneLine)
      rw [List.cons_append, readChars, if_neg (Ne.symm notNewline), dangles, protect]
      by_cases protects : char = '\\' ∧ escaped = false
      · rw [if_pos protects, if_pos protects, ih oneLine, protects.1, protects.2]
        rfl
      · have state : (decide (char = '\\') && !escaped) = false := by
          simpa using protects
        rw [if_neg protects, if_neg protects, ih oneLine, state]
        split
        · simp [Option.map_map, Function.comp_def]
        · rfl

/-- What is not ended by a newline is not read. -/
theorem readChars_end {line : List Char} (oneLine : '\n' ∉ line) (escaped : Bool) :
    readChars escaped line = none := by
  induction line generalizing escaped with
  | nil => rfl
  | cons char line ih =>
      obtain ⟨notNewline, oneLine⟩ := not_or.mp (mt List.mem_cons.mpr oneLine)
      rw [readChars, if_neg (Ne.symm notNewline)]
      split
      · exact ih oneLine true
      · rw [ih oneLine false, Option.map_none]

/-- A line of the text goes through the loop, unless it is joined to the next one. -/
theorem readFrom_line (pending : List (Char × Bool)) {line : List Char} (oneLine : '\n' ∉ line)
    (rest : List Char) :
    readFrom pending (line ++ '\n' :: rest) =
      if dangles false line then readFrom (pending ++ protect false line) rest
      else strip (pending ++ protect false line) :: readFrom [] rest := by
  unfold readFrom
  rw [readChars_line oneLine]
  by_cases joined : dangles false line = true
  · rw [if_pos joined, if_pos joined]
    cases readChars false rest with
    | none => rfl
    | some found => simp
  · rw [if_neg joined, if_neg joined]
    dsimp only
    rw [whileRead_eq, readFrom]

/-- A last line without a newline makes `read` fail, so the loop drops it. -/
theorem readFrom_end (pending : List (Char × Bool)) {line : List Char} (oneLine : '\n' ∉ line) :
    readFrom pending line = [] := by
  rw [readFrom, readChars_end oneLine]

/-! ## The characters of a line -/

/-- A line without the backslashes that protect characters. -/
def unprotect (escaped : Bool) (line : List Char) : List Char :=
  (protect escaped line).map Prod.fst

/-- Unprotecting a text character by character. -/
theorem unprotect_cons (escaped : Bool) (char : Char) (rest : List Char) :
    unprotect escaped (char :: rest) =
      if char = '\\' ∧ escaped = false then unprotect true rest
      else char :: unprotect false rest := by
  rw [unprotect, protect]
  split
  · rfl
  · rfl

/-- Unprotecting leaves a line as it is or makes it shorter. -/
theorem length_unprotect (escaped : Bool) (line : List Char) :
    unprotect escaped line = line ∨ (unprotect escaped line).length < line.length := by
  induction line generalizing escaped with
  | nil => exact .inl rfl
  | cons char rest ih =>
      rw [unprotect_cons]
      split
      · right
        rcases ih true with same | less
        · rw [same]
          exact Nat.lt_succ_self _
        · exact less.trans (Nat.lt_succ_self _)
      · rcases ih false with same | less
        · exact .inl (congrArg _ same)
        · exact .inr (Nat.succ_lt_succ less)

/-- An ordinary character resets the escape for what follows it. -/
theorem protect_append (escaped : Bool) (front : List Char) {char : Char} (ordinary : char ≠ '\\')
    (back : List Char) : protect escaped (front ++ char :: back) =
      protect escaped front ++ (char, dangles escaped front) :: protect false back := by
  induction front generalizing escaped with
  | nil => exact if_neg fun both => ordinary both.1
  | cons first front ih =>
      rw [List.cons_append, protect, protect, dangles]
      by_cases protects : first = '\\' ∧ escaped = false
      · rw [if_pos protects, if_pos protects, ih true, protects.1, protects.2]
        rfl
      · have state : (decide (first = '\\') && !escaped) = false := by
          simpa using protects
        rw [if_neg protects, if_neg protects, ih false, state]
        rfl

/-- Unprotecting only takes backslashes away. -/
theorem count_unprotect {char : Char} (ordinary : char ≠ '\\') (escaped : Bool) (line : List Char) :
    (unprotect escaped line).count char = line.count char := by
  induction line generalizing escaped with
  | nil => rfl
  | cons first line ih =>
      rw [unprotect_cons]
      split
      next protects =>
        have different : first ≠ char := protects.1 ▸ ordinary.symm
        rw [ih true, List.count_cons_of_ne different]
      next => rw [List.count_cons, List.count_cons, ih false]

/-- Unprotecting adds no character. -/
theorem mem_of_mem_unprotect {escaped : Bool} {line : List Char} {char : Char}
    (member : char ∈ unprotect escaped line) : char ∈ line := by
  induction line generalizing escaped with
  | nil => cases member
  | cons first line ih =>
      rw [unprotect_cons] at member
      split at member
      · exact List.mem_cons_of_mem _ (ih member)
      · rcases List.mem_cons.mp member with rfl | later
        · exact List.mem_cons_self
        · exact List.mem_cons_of_mem _ (ih later)

/-- A line without a backslash has no protected character. -/
theorem protect_of_free {line : List Char} (free : '\\' ∉ line) :
    protect false line = line.map fun char => (char, false) := by
  induction line with
  | nil => rfl
  | cons char line ih =>
      obtain ⟨ordinary, free⟩ := not_or.mp (mt List.mem_cons.mpr free)
      rw [protect, if_neg fun both => ordinary both.1.symm, ih free]
      rfl

/-- A line without a backslash is read as it stands. -/
theorem unprotect_of_free {line : List Char} (free : '\\' ∉ line) :
    unprotect false line = line := by
  rw [unprotect, protect_of_free free, List.map_map]
  exact List.map_id line

/-- A line without a backslash is not continued. -/
theorem dangles_of_free {line : List Char} (free : '\\' ∉ line) : dangles false line = false := by
  induction line with
  | nil => rfl
  | cons char line ih =>
      obtain ⟨ordinary, free⟩ := not_or.mp (mt List.mem_cons.mpr free)
      have state : (decide (char = '\\') && !false) = false := by simpa using Ne.symm ordinary
      rw [dangles, state]
      exact ih free

/-- A line that keeps all its characters has no backslash. -/
theorem free_of_unprotect {line : List Char} (same : unprotect false line = line) :
    '\\' ∉ line := by
  induction line with
  | nil => exact List.not_mem_nil
  | cons char line ih =>
      rw [unprotect_cons] at same
      split at same
      next protects =>
        exfalso
        have length := congrArg List.length same
        have bound := length_unprotect true line
        rw [List.length_cons] at length
        rcases bound with keeps | less
        · rw [keeps] at length
          omega
        · omega
      next ordinary =>
        rw [List.mem_cons, not_or]
        refine ⟨fun backslash => ordinary ⟨backslash.symm, rfl⟩, ih (List.cons.inj same).2⟩

/-! ## Blanks at the ends -/

/-- Dropping from the right stops at the last character that is kept. -/
theorem rdropWhile_append_cons {α : Type*} {drops : α → Bool} (front : List α) {item : α}
    (keeps : drops item = false) (back : List α) :
    (front ++ item :: back).rdropWhile drops = front ++ item :: back.rdropWhile drops := by
  induction back using List.reverseRecOn with
  | nil =>
      rw [List.rdropWhile_nil, List.rdropWhile_concat_neg _ _ _ (by simp [keeps])]
  | append_singleton back last ih =>
      have ends : front ++ item :: (back ++ [last]) = front ++ item :: back ++ [last] := by simp
      rw [ends]
      by_cases blank : drops last = true
      · rw [List.rdropWhile_concat_pos _ _ _ blank, List.rdropWhile_concat_pos _ _ _ blank, ih]
      · rw [List.rdropWhile_concat_neg _ _ _ blank, List.rdropWhile_concat_neg _ _ _ blank]
        simp

/-- Up to a character that is no blank a line that does not start with one is kept. -/
theorem strip_append {front : List (Char × Bool)} {char : Char × Bool} (back : List (Char × Bool))
    (starts : ∀ first ∈ front.head?, bareBlank first = false) (keeps : bareBlank char = false) :
    strip (front ++ char :: back) =
      front.map Prod.fst ++ char.1 :: (back.rdropWhile bareBlank).map Prod.fst := by
  have whole : (front ++ char :: back).dropWhile bareBlank = front ++ char :: back := by
    cases front with
    | nil => exact List.dropWhile_cons_of_neg (by simp [keeps])
    | cons first front =>
        exact List.dropWhile_cons_of_neg (by simp [starts first rfl])
  rw [strip, whole, rdropWhile_append_cons front keeps, List.map_append]
  rfl

/-- Only blanks get lost. -/
theorem count_strip {char : Char} (noBlank : ifs char = false) (line : List (Char × Bool)) :
    (strip line).count char = (line.map Prod.fst).count char := by
  have blanks : ∀ {part : List (Char × Bool)}, (∀ other ∈ part, bareBlank other = true) →
      (part.map Prod.fst).count char = 0 := by
    intro part all
    refine List.count_eq_zero_of_not_mem fun member => ?_
    obtain ⟨other, inside, rfl⟩ := List.mem_map.mp member
    have blank := all other inside
    rw [bareBlank, noBlank, Bool.and_false] at blank
    cases blank
  have back : (line.dropWhile bareBlank).rdropWhile bareBlank ++
      (line.dropWhile bareBlank).rtakeWhile bareBlank = line.dropWhile bareBlank :=
    List.rdropWhile_append_rtakeWhile
  have front := List.takeWhile_append_dropWhile (p := bareBlank) (l := line)
  calc (strip line).count char
      = ((line.dropWhile bareBlank).map Prod.fst).count char := by
        conv_rhs => rw [← back]
        rw [List.map_append, List.count_append, strip,
          blanks fun _ => List.mem_rtakeWhile_imp, Nat.add_zero]
    _ = (line.map Prod.fst).count char := by
        conv_rhs => rw [← front]
        rw [List.map_append, List.count_append, blanks fun _ => List.mem_takeWhile_imp,
          Nat.zero_add]

end Systems
