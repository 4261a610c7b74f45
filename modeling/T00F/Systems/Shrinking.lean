import T00F.Systems.Words

/-!
# Stages that rewrite words

A stage of an expansion makes any number of words of one. `Shrinking` stages lose something
whenever they change a word: what they make of it is shorter. So a word that comes out of a
chain of such stages unchanged was left alone by each of them (`Shrinking.comp_alone`).
`Keeps` says of a character that no stage loses it.
-/

namespace Systems

universe u

variable {α : Type u}

/-- Every word that comes out is shorter or the text itself, and then the only one. -/
structure Shrinking (stage : List α → List (List α)) : Prop where
  shorter : ∀ {text word}, word ∈ stage text → word = text ∨ word.length < text.length
  alone : ∀ {text}, text ∈ stage text → stage text = [text]

namespace Shrinking

variable {first second stage : List α → List (List α)}

/-- No word that a shrinking stage produces is longer than its text. -/
theorem length_le (shrinking : Shrinking stage) {text word : List α} (member : word ∈ stage text) :
    word.length ≤ text.length := by
  rcases shrinking.shorter member with same | less
  · exact (congrArg _ same).le
  · exact less.le

/-- What is not shorter is the text. -/
theorem eq_of_length_le (shrinking : Shrinking stage) {text word : List α}
    (member : word ∈ stage text) (long : text.length ≤ word.length) : word = text :=
  (shrinking.shorter member).resolve_right (Nat.not_lt.mpr long)

/-- A text that comes out of two stages was left alone by both. -/
theorem comp_alone (shrinks : Shrinking first) (also : Shrinking second) {text : List α}
    (member : text ∈ (first text).flatMap second) :
    first text = [text] ∧ second text = [text] := by
  obtain ⟨word, made, last⟩ := List.mem_flatMap.mp member
  obtain rfl := shrinks.eq_of_length_le made (also.length_le last)
  exact ⟨shrinks.alone made, also.alone last⟩

/-- Two shrinking stages one after the other shrink. -/
theorem comp (shrinks : Shrinking first) (also : Shrinking second) :
    Shrinking fun text => (first text).flatMap second where
  shorter := by
    intro text word member
    obtain ⟨middle, made, last⟩ := List.mem_flatMap.mp member
    rcases shrinks.shorter made with rfl | less
    · exact also.shorter last
    · exact .inr ((also.length_le last).trans_lt less)
  alone := by
    intro text member
    obtain ⟨here, there⟩ := comp_alone shrinks also member
    rw [here, List.flatMap_singleton, there]

/-- A stage that makes one word of a text. -/
theorem of_function {function : List α → List α}
    (shorter : ∀ text, function text = text ∨ (function text).length < text.length) :
    Shrinking fun text => [function text] where
  shorter := by
    intro text word member
    rw [List.mem_singleton.mp member]
    exact shorter text
  alone := by
    intro text member
    rw [← List.mem_singleton.mp member]

/-- What comes out at its length or more was left alone. -/
theorem unchanged (shrinks : Shrinking stage) {text word : List α} (member : word ∈ stage text)
    (bound : text = word ∨ text.length < word.length) : text = word ∧ stage word = [word] := by
  have same : text = word :=
    bound.resolve_right (Nat.not_lt.mpr (shrinks.length_le member))
  subst same
  exact ⟨rfl, shrinks.alone member⟩

/-- Two texts of which the last two words that come out are no shorter. -/
theorem pair (shrinks : Shrinking stage) {key value first second : List α} {front : List (List α)}
    (firstBound : first = key ∨ first.length < key.length)
    (secondBound : second = value ∨ second.length < value.length)
    (made : stage first ++ stage second = front ++ [key, value]) :
    front = [] ∧ (first = key ∧ stage key = [key]) ∧ (second = value ∧ stage value = [value]) := by
  rcases List.eq_nil_or_concat (stage second) with none | ⟨others, last, some⟩
  · -- Both would come from the first text, which then is the key itself.
    rw [none, List.append_nil] at made
    have member : key ∈ stage first := by
      rw [made]
      simp
    obtain ⟨rfl, alone⟩ := shrinks.unchanged member firstBound
    have length := congrArg List.length (alone.symm.trans made)
    rw [List.length_append, List.length_singleton] at length
    simp at length
  · have ends : stage first ++ others ++ [last] = front ++ [key] ++ [value] := by
      rw [List.append_assoc, ← List.concat_eq_append, ← some, made, List.append_assoc]
      rfl
    obtain ⟨before, rfl⟩ := List.append_singleton_inj.mp ends
    have member : last ∈ stage second := by
      rw [some]
      simp
    obtain ⟨rfl, secondAlone⟩ := shrinks.unchanged member secondBound
    have none : others = [] := by
      have length := congrArg List.length (some.symm.trans secondAlone)
      simpa using length
    rw [none, List.append_nil] at before
    have member : key ∈ stage first := by
      rw [before]
      simp
    obtain ⟨rfl, firstAlone⟩ := shrinks.unchanged member firstBound
    refine ⟨?_, ⟨rfl, firstAlone⟩, rfl, secondAlone⟩
    have length := congrArg List.length (firstAlone.symm.trans before)
    simpa using length

/-- Splitting into words loses the blanks. -/
theorem words (blank : α → Bool) : Shrinking (words blank) where
  shorter := length_of_mem_words
  alone := words_of_self_mem

end Shrinking

/-! ## Characters that are kept -/

variable [DecidableEq α] {char : α} {first second : List α → List (List α)}

/-- A stage makes at least as many of the character as there were. -/
def Keeps (char : α) (stage : List α → List (List α)) : Prop :=
  ∀ text, text.count char ≤ (stage text).flatten.count char

/-- Over any number of words. -/
theorem Keeps.flatMap (keeps : Keeps char first) (texts : List (List α)) :
    texts.flatten.count char ≤ (texts.flatMap first).flatten.count char := by
  induction texts with
  | nil => exact le_rfl
  | cons text texts ih =>
      have here := keeps text
      rw [List.flatten_cons, List.flatMap_cons, List.flatten_append, List.count_append,
        List.count_append]
      omega

/-- Splitting at blanks keeps every other character. -/
theorem Keeps.words {blank : α → Bool} (noBlank : blank char = false) :
    Keeps char (words blank) :=
  fun text => (count_words noBlank text).ge

/-- Two stages that keep a character keep it one after the other. -/
theorem Keeps.comp (keeps : Keeps char first) (also : Keeps char second) :
    Keeps char fun text => (first text).flatMap second :=
  fun text => (keeps text).trans (also.flatMap (first text))

end Systems
