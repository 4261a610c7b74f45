import Mathlib

/-!
# Words

The runs of a text between blanks, for any type of characters and any set of blanks.
`words_append` splits a text where a word ends, `wordwise` is induction over the words
of a text.
-/

namespace Systems

universe u

variable {α : Type u}

/-- The non-empty runs between blanks. -/
def words (blank : α → Bool) (text : List α) : List (List α) :=
  (text.splitOnP blank).filter fun word => !word.isEmpty

section

variable {blank : α → Bool}

@[simp] theorem words_nil : words blank [] = [] := rfl

/-- A blank ends a word, so the words of both sides are taken apart. -/
theorem words_append_cons (front : List α) {char : α} (isBlank : blank char = true)
    (back : List α) :
    words blank (front ++ char :: back) = words blank front ++ words blank back := by
  rw [words, List.splitOnP_append_cons _ _ isBlank, List.filter_append]
  rfl

/-- A leading blank is skipped. -/
theorem words_cons {char : α} (isBlank : blank char = true) (back : List α) :
    words blank (char :: back) = words blank back :=
  words_append_cons [] isBlank back

/-- A text without blanks is one word. -/
theorem words_word {word : List α} (nonempty : word ≠ [])
    (noBlank : ∀ char ∈ word, blank char = false) : words blank word = [word] := by
  rw [words, List.splitOnP_eq_singleton noBlank]
  cases word with
  | nil => exact absurd rfl nonempty
  | cons char word => rfl

/-- A text falls apart where a word ends: at its end or before a blank. -/
theorem words_append (front : List α) {back : List α}
    (ends : ∀ char ∈ back.head?, blank char = true) :
    words blank (front ++ back) = words blank front ++ words blank back := by
  cases back with
  | nil => simp
  | cons char back =>
      have isBlank := ends char rfl
      rw [words_append_cons front isBlank, words_cons isBlank]

/-- A text of blanks has no word. -/
theorem words_blanks {text : List α} (blanks : ∀ char ∈ text, blank char = true) :
    words blank text = [] := by
  induction text with
  | nil => rfl
  | cons char text ih =>
      rw [words_cons (blanks char List.mem_cons_self)]
      exact ih fun char member => blanks char (List.mem_cons_of_mem _ member)

/-- Blanks at the end make no words. -/
theorem words_rdropWhile {drops : α → Bool}
    (blanks : ∀ char, drops char = true → blank char = true) (text : List α) :
    words blank (text.rdropWhile drops) = words blank text := by
  have trailing : ∀ char ∈ text.rtakeWhile drops, blank char = true :=
    fun char member => blanks char (List.mem_rtakeWhile_imp member)
  have ends : ∀ char ∈ (text.rtakeWhile drops).head?, blank char = true :=
    fun char first => trailing char (List.mem_of_mem_head? first)
  calc words blank (text.rdropWhile drops)
      = words blank (text.rdropWhile drops ++ text.rtakeWhile drops) := by
        rw [words_append _ ends, words_blanks trailing, List.append_nil]
    _ = words blank text := by rw [List.rdropWhile_append_rtakeWhile]

/-- A text is its first word, which may be empty, and a rest that is empty or starts
with a blank. -/
theorem exists_first_word (blank : α → Bool) (text : List α) :
    ∃ word rest, text = word ++ rest ∧ (∀ char ∈ word, blank char = false) ∧
      ∀ char ∈ rest.head?, blank char = true := by
  refine ⟨_, _, (List.takeWhile_append_dropWhile (p := fun char => !blank char)).symm,
    fun char member => ?_, fun char first => ?_⟩
  · simpa using List.mem_takeWhile_imp member
  · have stopped := List.head?_dropWhile_not (fun char => !blank char) text
    rw [Option.mem_def.mp first] at stopped
    simpa using stopped

/-- Induction over the words of a text that is empty or starts with a blank: each blank
takes the word behind it, if any, along. -/
theorem wordwise {motive : List α → Prop} (nil : motive [])
    (step : ∀ char word rest, blank char = true → (∀ char ∈ word, blank char = false) →
      (∀ char ∈ rest.head?, blank char = true) → motive rest → motive (char :: (word ++ rest)))
    {text : List α} (starts : ∀ char ∈ text.head?, blank char = true) : motive text := by
  induction size : text.length using Nat.strong_induction_on generalizing text with
  | _ length ih =>
      cases text with
      | nil => exact nil
      | cons char text =>
          obtain ⟨word, rest, rfl, noBlank, ends⟩ := exists_first_word blank text
          have shorter : rest.length < length := by
            rw [List.length_cons, List.length_append] at size
            omega
          exact step char word rest (starts char rfl) noBlank ends (ih _ shorter ends rfl)

/-- Induction over the blanks of a text. -/
theorem blankwise (blank : α → Bool) {motive : List α → Prop}
    (word : ∀ text, (∀ char ∈ text, blank char = false) → motive text)
    (split : ∀ front char back, (∀ char ∈ front, blank char = false) → blank char = true →
      motive back → motive (front ++ char :: back)) (text : List α) : motive text := by
  induction size : text.length using Nat.strong_induction_on generalizing text with
  | _ length ih =>
      obtain ⟨front, rest, rfl, noBlank, ends⟩ := exists_first_word blank text
      cases rest with
      | nil =>
          rw [List.append_nil]
          exact word front noBlank
      | cons char back =>
          have shorter : back.length < length := by
            rw [List.length_append, List.length_cons] at size
            omega
          exact split front char back noBlank (ends char rfl) (ih _ shorter back rfl)

/-- The only word of a text without blanks is the text. -/
theorem eq_of_mem_words {text word : List α} (noBlank : ∀ char ∈ text, blank char = false)
    (member : word ∈ words blank text) : word = text := by
  cases text with
  | nil => cases member
  | cons char text =>
      rw [words_word (List.cons_ne_nil _ _) noBlank] at member
      exact List.mem_singleton.mp member

/-- Words are made of the characters of the text that are not blank. -/
theorem of_mem_words {text word : List α} (member : word ∈ words blank text) :
    ∀ char ∈ word, char ∈ text ∧ blank char = false := by
  have split : ∀ first rest : List α, (∀ char ∈ first, blank char = false) →
      (∀ char ∈ rest.head?, blank char = true) →
      (∀ word ∈ words blank rest, ∀ char ∈ word, char ∈ rest ∧ blank char = false) →
      ∀ word ∈ words blank (first ++ rest), ∀ char ∈ word,
        char ∈ first ++ rest ∧ blank char = false := by
    intro first rest noBlank ends others word member char inside
    rw [words_append first ends, List.mem_append] at member
    rcases member with front | back
    · rw [eq_of_mem_words noBlank front] at inside
      exact ⟨List.mem_append_left _ inside, noBlank char inside⟩
    · obtain ⟨later, free⟩ := others word back char inside
      exact ⟨List.mem_append_right _ later, free⟩
  obtain ⟨first, rest, rfl, noBlank, ends⟩ := exists_first_word blank text
  refine split first rest noBlank ends ?_ word member
  refine @wordwise _ blank
    (fun rest => ∀ word ∈ words blank rest, ∀ char ∈ word, char ∈ rest ∧ blank char = false)
    ?_ ?_ rest ends
  · intro word absent
    cases absent
  · intro char word rest isBlank noBlank ends ih other member inner inside
    rw [words_cons isBlank] at member
    obtain ⟨known, free⟩ := split word rest noBlank ends ih other member inner inside
    exact ⟨List.mem_cons_of_mem _ known, free⟩

/-- Texts that are joined by blanks keep their words. -/
theorem words_intercalate {separator : α} (isBlank : blank separator = true)
    (texts : List (List α)) :
    words blank ([separator].intercalate texts) = texts.flatMap (words blank) := by
  induction texts with
  | nil => rfl
  | cons text texts ih =>
      cases texts with
      | nil => simp
      | cons next texts =>
          rw [List.intercalate_cons_cons, List.append_assoc, List.singleton_append,
            words_append_cons text isBlank, ih]
          rfl

/-- No word is empty. -/
theorem ne_nil_of_mem_words {text word : List α} (member : word ∈ words blank text) :
    word ≠ [] := by
  rintro rfl
  simpa using List.of_mem_filter member

/-- A word is the text or shorter. -/
theorem length_of_mem_words {text word : List α} (member : word ∈ words blank text) :
    word = text ∨ word.length < text.length := by
  induction text using blankwise blank with
  | word text noBlank => exact .inl (eq_of_mem_words noBlank member)
  | split front char back noBlank isBlank ih =>
      right
      rw [words_append_cons front isBlank, List.mem_append] at member
      rw [List.length_append, List.length_cons]
      rcases member with before | behind
      · rw [eq_of_mem_words noBlank before]
        omega
      · rcases ih behind with rfl | less
        · omega
        · omega

/-- A text that is one of its own words is the only one. -/
theorem words_of_self_mem {text : List α} (member : text ∈ words blank text) :
    words blank text = [text] :=
  words_word (ne_nil_of_mem_words member) fun char inside => (of_mem_words member char inside).2

/-- Nothing but blanks gets lost. -/
theorem count_words [DecidableEq α] {char : α} (noBlank : blank char = false) (text : List α) :
    (words blank text).flatten.count char = text.count char := by
  induction text using blankwise blank with
  | word text free =>
      cases text with
      | nil => rfl
      | cons first text => rw [words_word (List.cons_ne_nil _ _) free, List.flatten_singleton]
  | split front other back free isBlank ih =>
      have different : other ≠ char := by
        rintro rfl
        rw [isBlank] at noBlank
        cases noBlank
      have before : (words blank front).flatten.count char = front.count char := by
        cases front with
        | nil => rfl
        | cons first front => rw [words_word (List.cons_ne_nil _ _) free, List.flatten_singleton]
      rw [words_append_cons front isBlank, List.flatten_append, List.count_append,
        List.count_append, before, ih, List.count_cons_of_ne different]

end

end Systems
