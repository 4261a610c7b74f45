import T00F.Mkbootimg.Wrap
import T00F.Systems.Words

/-!
# The words of the filtered command line

What the filter of `mkbootimg-wrap` keeps of an arbitrary line.
`words_substitute_line` gives the words of the line after the substitution,
`substitute_line_kept` says that a line without a variant stays as it is, and
`filteredCmdline_words` is the law of the whole filter.
-/

namespace T00F.Mkbootimg

open Systems

/-- `CMDLINE=$(printf '%s' "$CMDLINE" | sed ...)` -/
def filteredCmdline (locale : Locale) (cmdline : Text) : Text :=
  commandSubstitution (sed locale cmdline)

section

variable {locale : Locale}

/-- The words of a text that are no variants. -/
def keptWords (locale : Locale) (text : Text) : List Text :=
  (words locale.space text).filter fun word => ¬ IsVariant word

/-- The kept words of a text that is cut at a blank are those of both sides. -/
theorem keptWords_append (front : Text) {back : Text} (ends : Separated locale back) :
    keptWords locale (front ++ back) = keptWords locale front ++ keptWords locale back := by
  rw [keptWords, words_append front ends, List.filter_append]
  rfl

/-- A leading space does not change the kept words. -/
theorem keptWords_cons {char : Char} (space : locale.space char = true) (back : Text) :
    keptWords locale (char :: back) = keptWords locale back := by
  rw [keptWords, words_cons space]
  rfl

/-- A single word is kept unless it assigns the variant. -/
theorem keptWords_word {word : Text} (noSpace : NoSpace locale word) :
    keptWords locale word = if IsVariant word then [] else words locale.space word := by
  cases word with
  | nil => rfl
  | cons char word =>
      rw [keptWords, words_word (List.cons_ne_nil _ _) noSpace, List.filter_singleton]
      by_cases variant : IsVariant (char :: word) <;> simp [variant]

/-- A word none of whose words assigns the variant does not assign it itself. -/
theorem not_variant {word : Text} (noSpace : NoSpace locale word)
    (kept : ∀ next ∈ words locale.space word, ¬ IsVariant next) : ¬ IsVariant word := by
  cases word with
  | nil => decide
  | cons char word =>
      refine kept _ ?_
      rw [words_word (List.cons_ne_nil _ _) noSpace]
      exact List.mem_singleton_self _

/-! ## Behind the first word -/

/-- After the substitution the rest of the line still starts with a space or is empty. -/
theorem separated_substitute {rest : Text} (starts : Separated locale rest) :
    Separated locale (substitute locale false rest) := by
  refine wordwise (motive := fun rest => Separated locale (substitute locale false rest))
    ?nil ?step starts
  case nil =>
    rw [substitute]
    exact separated_nil
  case step =>
    intro char word rest space noSpace ends ih
    rw [substitute_separated space noSpace ends]
    split
    · exact ih
    · exact separated_cons space _

/-- Inside a line the substitution leaves the kept words. -/
theorem words_substitute {rest : Text} (starts : Separated locale rest) :
    words locale.space (substitute locale false rest) = keptWords locale rest := by
  refine wordwise (motive := fun rest =>
    words locale.space (substitute locale false rest) = keptWords locale rest) ?nil ?step starts
  case nil =>
    rw [substitute]
    rfl
  case step =>
    intro char word rest space noSpace ends ih
    rw [substitute_separated space noSpace ends, keptWords_cons space, keptWords_append word ends,
      keptWords_word noSpace]
    split
    · exact ih
    · rw [words_cons space, words_append word (separated_substitute ends), ih]

/-- The substitution only removes characters. -/
theorem substitute_sublist {rest : Text} (starts : Separated locale rest) :
    (substitute locale false rest).Sublist rest := by
  refine wordwise (motive := fun rest => (substitute locale false rest).Sublist rest)
    ?nil ?step starts
  case nil =>
    rw [substitute]
  case step =>
    intro char word rest space noSpace ends ih
    rw [substitute_separated space noSpace ends]
    split
    · exact (ih.trans (List.sublist_append_right word rest)).cons char
    · exact (ih.append_left word).cons_cons char

/-- A text without a variant assignment is left as it is. -/
theorem substitute_kept {rest : Text} (starts : Separated locale rest)
    (kept : ∀ word ∈ words locale.space rest, ¬ IsVariant word) :
    substitute locale false rest = rest := by
  revert kept
  refine wordwise (motive := fun rest => (∀ word ∈ words locale.space rest, ¬ IsVariant word) →
    substitute locale false rest = rest) ?nil ?step starts
  case nil =>
    intro _
    rw [substitute]
  case step =>
    intro char word rest space noSpace ends ih kept
    rw [words_cons space, words_append word ends] at kept
    have tail := ih fun next member => kept next (List.mem_append_right _ member)
    have other := not_variant noSpace fun next member => kept next (List.mem_append_left _ member)
    rw [substitute_separated space noSpace ends, if_neg other, tail]

/-! ## Whole lines -/

/-- On a whole line the substitution leaves the kept words. -/
theorem words_substitute_line (line : Text) :
    words locale.space (substitute locale true line) = keptWords locale line := by
  obtain ⟨first, rest, rfl, noSpace, ends⟩ := exists_first_word locale.space line
  rw [substitute_first noSpace ends, keptWords_append first ends, keptWords_word noSpace]
  split
  · exact words_substitute ends
  · rw [words_append first (separated_substitute ends), words_substitute ends]

/-- The substitution only deletes characters. -/
theorem substitute_line_sublist (line : Text) : (substitute locale true line).Sublist line := by
  obtain ⟨first, rest, rfl, noSpace, ends⟩ := exists_first_word locale.space line
  rw [substitute_first noSpace ends]
  split
  · exact (substitute_sublist ends).trans (List.sublist_append_right first rest)
  · exact (substitute_sublist ends).append_left first

/-- A line without a variant stays as it is. -/
theorem substitute_line_kept {line : Text}
    (kept : ∀ word ∈ words locale.space line, ¬ IsVariant word) :
    substitute locale true line = line := by
  obtain ⟨first, rest, rfl, noSpace, ends⟩ := exists_first_word locale.space line
  rw [words_append first ends] at kept
  have tail := substitute_kept ends fun next member => kept next (List.mem_append_right _ member)
  have other := not_variant noSpace fun next member => kept next (List.mem_append_left _ member)
  rw [substitute_first noSpace ends, if_neg other, tail]

/-- The words of a filtered line are the kept words of the line. -/
theorem words_filterLine (line : Text) :
    words locale.space (filterLine locale line) = keptWords locale line :=
  (words_rdropWhile (fun _ => id) _).trans (words_substitute_line line)

/-- Filtering only deletes characters. -/
theorem filterLine_sublist (line : Text) : (filterLine locale line).Sublist line :=
  (List.rdropWhile_prefix _ _).sublist.trans (substitute_line_sublist line)

/-- The second command leaves no white space at the end. -/
theorem filterLine_getLast? (line : Text) :
    ∀ last ∈ (filterLine locale line).getLast?, locale.space last = false := by
  intro last member
  obtain ⟨nonempty, same⟩ := List.mem_getLast?_eq_getLast member
  rw [same, Bool.eq_false_iff]
  exact List.rdropWhile_last_not _ _ nonempty

/-- Filtering twice is filtering once. -/
theorem filterLine_idempotent (line : Text) :
    filterLine locale (filterLine locale line) = filterLine locale line := by
  have kept : ∀ word ∈ words locale.space (filterLine locale line), ¬ IsVariant word := by
    intro word member
    rw [words_filterLine] at member
    simpa using (List.mem_filter.mp member).2
  rw [filterLine, substitute_line_kept kept]
  exact List.rdropWhile_idempotent _ _

/-- On one line the command substitution has nothing to remove. -/
theorem filteredCmdline_line {line : Text} (oneLine : '\n' ∉ line) :
    filteredCmdline locale line = filterLine locale line := by
  rw [filteredCmdline, sed, List.splitOn_eq_singleton oneLine, List.map_singleton,
    List.intercalate_singleton, commandSubstitution, List.rdropWhile_eq_self_iff]
  intro nonempty newline
  have last := filterLine_getLast? line _ (List.getLast?_eq_some_getLast nonempty)
  rw [beq_iff_eq.mp newline, space_newline] at last
  exact Bool.false_ne_true last.symm

end

/-- The filter keeps the words that are no variants, leaves no white space at the end and
changes nothing the second time. -/
theorem filteredCmdline_words {locale : Locale} {line : Text} (oneLine : '\n' ∉ line) :
    words locale.space (filteredCmdline locale line) =
        (words locale.space line).filter (fun word => ¬ IsVariant word) ∧
      (∀ last ∈ (filteredCmdline locale line).getLast?, locale.space last = false) ∧
      filteredCmdline locale (filteredCmdline locale line) = filteredCmdline locale line := by
  have again : '\n' ∉ filterLine locale line :=
    fun member => oneLine ((filterLine_sublist line).subset member)
  rw [filteredCmdline_line oneLine, filteredCmdline_line again]
  exact ⟨words_filterLine line, filterLine_getLast? line, filterLine_idempotent line⟩

/-- `buildvariant=eng a  buildvariant=user xbuildvariant=y ` -/
def mixedLine : Text :=
  variantKey ++ ['e', 'n', 'g', ' ', 'a', ' ', ' '] ++ variantKey ++
    ['u', 's', 'e', 'r', ' ', 'x'] ++ variantKey ++ ['y', ' ']

theorem filteredCmdline_words_mixed :
    words Locale.c.space (filteredCmdline .c mixedLine) = [['a'], 'x' :: variantKey ++ ['y']] ∧
      filteredCmdline .c (filteredCmdline .c mixedLine) = filteredCmdline .c mixedLine := by
  obtain ⟨kept, _, again⟩ := @filteredCmdline_words .c mixedLine (by decide)
  refine ⟨kept.trans ?_, again⟩
  decide

end T00F.Mkbootimg
