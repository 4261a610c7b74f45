import T00F.Systems.Text

/-!
# The command line filter

The `sed` call of `mkbootimg-wrap`, which removes the words that
`add_img_to_target_files` appends. Text is a list of characters; which of them are
white space and how they are encoded is up to the locale. `matchVariant_word` says
which words the expression matches, `substitute_word` and `substitute_separated`
what the substitution does to a text word by word.
-/

namespace T00F.Mkbootimg

open Systems

/-- A character set that extends ASCII. -/
structure Locale where
  space : Char → Bool
  encode : Char → List Byte
  space_ascii : ∀ char, char.toNat < 128 →
    (space char = true ↔ char = ' ' ∨ 9 ≤ char.toNat ∧ char.toNat ≤ 13)
  encode_ascii : ∀ char, char.toNat < 128 → encode char = [ascii char]

/-- The "C" locale, where characters are bytes. -/
def Locale.c : Locale where
  space char := char == ' ' || (decide (9 ≤ char.toNat) && decide (char.toNat ≤ 13))
  encode char := [ascii char]
  space_ascii char _ := by simp
  encode_ascii _ _ := rfl

/-- The literal of the expression. -/
def variantKey : List Char := ['b', 'u', 'i', 'l', 'd', 'v', 'a', 'r', 'i', 'a', 'n', 't', '=']

/-- What is behind a match of `buildvariant=[^[:space:]]+` at the start of a text. -/
def matchVariant (locale : Locale) (text : List Char) : Option (List Char) :=
  if variantKey.isPrefixOf text then
    match text.drop variantKey.length with
    | [] => none
    | char :: value =>
        if locale.space char then none
        else some ((char :: value).dropWhile fun char => !locale.space char)
  else none

/-- What is behind a match of `(^|[[:space:]])buildvariant=[^[:space:]]+` at the first
character of `char :: text`. -/
def matchAt (locale : Locale) (start : Bool) (char : Char) (text : List Char) :
    Option (List Char) :=
  match if start then matchVariant locale (char :: text) else none with
  | some rest => some rest
  | none => if locale.space char then matchVariant locale text else none

/-- A matched assignment is not empty. -/
theorem matchVariant_shorter {locale : Locale} {text rest : List Char}
    (matched : matchVariant locale text = some rest) : rest.length < text.length := by
  unfold matchVariant at matched
  split at matched
  · split at matched
    · cases matched
    next char value behind =>
      split at matched
      · cases matched
      · cases matched
        have dropped := congrArg List.length behind
        have shorter : ((char :: value).dropWhile fun char => !locale.space char).length ≤
            (char :: value).length := (List.dropWhile_suffix _).length_le
        have literal : variantKey.length = 13 := rfl
        rw [List.length_drop] at dropped
        rw [List.length_cons] at dropped shorter
        omega
  · cases matched

/-- A match of the expression is not empty. -/
theorem matchAt_shorter {locale : Locale} {start : Bool} {char : Char} {text rest : List Char}
    (matched : matchAt locale start char text = some rest) :
    rest.length < (char :: text).length := by
  unfold matchAt at matched
  split at matched
  next first atStart =>
    cases matched
    split at atStart
    · exact matchVariant_shorter atStart
    · cases atStart
  next =>
    split at matched
    · exact Nat.lt_succ_of_lt (matchVariant_shorter matched)
    · cases matched

/-- `s/(^|[[:space:]])buildvariant=[^[:space:]]+//g` on a line; `start` tells whether
the text is the whole line. -/
def substitute (locale : Locale) (start : Bool) : List Char → List Char
  | [] => []
  | char :: text =>
      match _matched : matchAt locale start char text with
      | some rest => substitute locale false rest
      | none => char :: substitute locale false text
termination_by text => text.length
decreasing_by
  · exact matchAt_shorter _matched
  · exact Nat.lt_succ_self _

/-- `s/[[:space:]]+$//` -/
def stripSpaces (locale : Locale) (text : List Char) : List Char := text.rdropWhile locale.space

/-- Both commands on a line. -/
def filterLine (locale : Locale) (line : List Char) : List Char :=
  stripSpaces locale (substitute locale true line)

/-- What `sed` writes for a text: each line filtered. -/
def sed (locale : Locale) (text : List Char) : List Char :=
  ['\n'].intercalate ((text.splitOn '\n').map (filterLine locale))

/-! ## The filter word by word -/

/-- The words that the expression matches. -/
def IsVariant (word : List Char) : Prop := variantKey <+: word ∧ word ≠ variantKey

instance (word : List Char) : Decidable (IsVariant word) := by
  unfold IsVariant
  infer_instance

section Words

variable {locale : Locale}

/-- No white space. -/
def NoSpace (locale : Locale) (word : List Char) : Prop :=
  ∀ char ∈ word, locale.space char = false

/-- The end of a word: the end of the text, or white space. -/
def Separated (locale : Locale) (rest : List Char) : Prop :=
  ∀ char ∈ rest.head?, locale.space char = true

/-- The empty text has no space. -/
theorem noSpace_nil : NoSpace locale [] := by simp [NoSpace]

/-- The empty text is separated from what stands before it. -/
theorem separated_nil : Separated locale [] := by simp [Separated]

/-- A text that starts with a space is separated from what stands before it. -/
theorem separated_cons {char : Char} (space : locale.space char = true) (rest : List Char) :
    Separated locale (char :: rest) := by
  intro first same
  cases same
  exact space

/-- The key of the variant has no space in any locale. -/
theorem variantKey_noSpace : NoSpace locale variantKey := by
  intro char member
  have ascii := locale.space_ascii char
  have printable : variantKey.all (fun char => 32 < char.toNat && char.toNat < 128) = true := rfl
  rw [List.all_eq_true] at printable
  have range := printable char member
  rw [Bool.and_eq_true, decide_eq_true_eq, decide_eq_true_eq] at range
  obtain ⟨low, high⟩ := range
  rw [Bool.eq_false_iff, ne_eq, ascii high]
  rintro (rfl | control)
  · exact absurd low (by decide)
  · omega

/-- Skipping up to a space skips one word. -/
theorem dropWhile_word {word rest : List Char} (noSpace : NoSpace locale word)
    (ends : Separated locale rest) :
    (word ++ rest).dropWhile (fun char => !locale.space char) = rest := by
  induction word with
  | nil =>
      cases rest with
      | nil => rfl
      | cons char rest => simp [ends char rfl]
  | cons char word ih =>
      simp only [List.cons_append, List.dropWhile_cons, noSpace char List.mem_cons_self,
        Bool.not_false, if_true]
      exact ih fun char member => noSpace char (List.mem_cons_of_mem _ member)

/-- The expression matches a variant word and nothing else. -/
theorem matchVariant_word {word rest : List Char} (noSpace : NoSpace locale word)
    (ends : Separated locale rest) :
    matchVariant locale (word ++ rest) = if IsVariant word then some rest else none := by
  unfold matchVariant
  by_cases key : variantKey <+: word ++ rest
  · rw [if_pos (List.isPrefixOf_iff_prefix.mpr key)]
    rcases Nat.lt_or_ge word.length variantKey.length with short | long
    · -- The literal would have to contain the white space that ends the word.
      obtain ⟨tail, literal⟩ := List.prefix_of_prefix_length_le (List.prefix_append word rest) key
        (Nat.le_of_lt short)
      cases tail with
      | nil =>
          rw [List.append_nil] at literal
          rw [literal] at short
          omega
      | cons char tail =>
          rw [← literal, List.prefix_append_right_inj] at key
          obtain ⟨after, rfl⟩ := key
          have member : char ∈ variantKey := by simp [← literal]
          exact absurd (ends char rfl) (Bool.eq_false_iff.mp (variantKey_noSpace char member))
    · obtain ⟨value, rfl⟩ := List.prefix_of_prefix_length_le key (List.prefix_append word rest) long
      rw [List.append_assoc, List.drop_left]
      have ended := dropWhile_word (fun char member => noSpace char (List.mem_append_right _ member)) ends
      cases value with
      | nil =>
          have other : ¬ IsVariant (variantKey ++ []) := fun variant => variant.2 (List.append_nil _)
          rw [if_neg other]
          cases rest with
          | nil => rfl
          | cons char rest => simp [ends char rfl]
      | cons char value =>
          have variant : IsVariant (variantKey ++ char :: value) :=
            ⟨List.prefix_append _ _, by simp⟩
          have head : locale.space char = false := noSpace char (by simp)
          rw [if_pos variant]
          simp only [List.cons_append, head, Bool.false_eq_true, if_false]
          exact congrArg some ended
  · have other : ¬ IsVariant word := fun variant => key (variant.1.trans (List.prefix_append _ _))
    rw [if_neg (mt List.isPrefixOf_iff_prefix.mp key), if_neg other]

/-- At a match the substitution goes on behind it. -/
theorem substitute_match {start : Bool} {char : Char} {text rest : List Char}
    (matched : matchAt locale start char text = some rest) :
    substitute locale start (char :: text) = substitute locale false rest := by
  rw [substitute]
  split
  next found => cases found.symm.trans matched; rfl
  next missed => cases missed.symm.trans matched

/-- Where nothing matches the character is kept. -/
theorem substitute_keep {start : Bool} {char : Char} {text : List Char}
    (missed : matchAt locale start char text = none) :
    substitute locale start (char :: text) = char :: substitute locale false text := by
  rw [substitute]
  split
  next found => cases found.symm.trans missed
  next => rfl

/-- Inside a word nothing matches. -/
theorem substitute_word {word : List Char} (noSpace : NoSpace locale word) (rest : List Char) :
    substitute locale false (word ++ rest) = word ++ substitute locale false rest := by
  induction word with
  | nil => rfl
  | cons char word ih =>
      have missed : matchAt locale false char (word ++ rest) = none := by
        simp [matchAt, noSpace char List.mem_cons_self]
      rw [List.cons_append, substitute_keep missed,
        ih fun char member => noSpace char (List.mem_cons_of_mem _ member), List.cons_append]

/-- A word behind white space is removed with it or kept. -/
theorem substitute_separated {blank : Char} (space : locale.space blank = true)
    {word rest : List Char} (noSpace : NoSpace locale word) (ends : Separated locale rest) :
    substitute locale false (blank :: (word ++ rest)) =
      if IsVariant word then substitute locale false rest
      else blank :: (word ++ substitute locale false rest) := by
  have here : matchAt locale false blank (word ++ rest) = if IsVariant word then some rest else none := by
    simp [matchAt, space, matchVariant_word noSpace ends]
  split
  next variant =>
    rw [if_pos variant] at here
    exact substitute_match here
  next other =>
    rw [if_neg other] at here
    rw [substitute_keep here, substitute_word noSpace]

/-- The first word of a line is removed or kept. -/
theorem substitute_first {word rest : List Char} (noSpace : NoSpace locale word)
    (ends : Separated locale rest) : substitute locale true (word ++ rest) =
      if IsVariant word then substitute locale false rest
      else word ++ substitute locale false rest := by
  have here := matchVariant_word noSpace ends
  cases word with
  | nil =>
      have other : ¬ IsVariant [] := by decide
      rw [if_neg other] at here ⊢
      rw [List.nil_append] at here ⊢
      cases rest with
      | nil => simp [substitute]
      | cons char rest =>
          -- White space at the start of a line is like white space anywhere.
          have same : matchAt locale true char rest = matchAt locale false char rest := by
            simp [matchAt, here]
          rw [List.nil_append, substitute, substitute, same]
  | cons char word =>
      have head : locale.space char = false := noSpace char List.mem_cons_self
      have tail : NoSpace locale word :=
        fun char member => noSpace char (List.mem_cons_of_mem _ member)
      rw [List.cons_append] at here ⊢
      split
      next variant =>
        rw [if_pos variant] at here
        have matched : matchAt locale true char (word ++ rest) = some rest := by
          simp [matchAt, here]
        exact substitute_match matched
      next other =>
        rw [if_neg other] at here
        have missed : matchAt locale true char (word ++ rest) = none := by
          simp [matchAt, here, head]
        rw [substitute_keep missed, substitute_word tail, List.cons_append]

/-- A blank is a space in every locale. -/
theorem space_blank : locale.space ' ' = true := (locale.space_ascii ' ' (by decide)).mpr (Or.inl rfl)

/-- A newline is a space in every locale. -/
theorem space_newline : locale.space '\n' = true :=
  (locale.space_ascii '\n' (by decide)).mpr (Or.inr (by decide))

/-! ## Command lines of plain words -/

/-- Words joined by single blanks. -/
def joinWords (words : List (List Char)) : List Char := [' '].intercalate words

/-- A word that the filter keeps. -/
structure PlainWord (locale : Locale) (word : List Char) : Prop where
  nonempty : word ≠ []
  noSpace : NoSpace locale word
  noVariant : ¬ variantKey <+: word

/-- Joining words puts one blank before each later word. -/
theorem joinWords_cons (word : List Char) (words : List (List Char)) :
    joinWords (word :: words) = word ++ words.flatMap fun word => ' ' :: word := by
  induction words generalizing word with
  | nil => simp [joinWords]
  | cons next words ih =>
      have rest := ih next
      simp only [joinWords] at rest ⊢
      rw [List.intercalate_cons_cons, rest]
      simp

/-- A character of the joined words is a blank or stands in a word. -/
theorem mem_joinWords {words : List (List Char)} {char : Char} (member : char ∈ joinWords words) :
    char = ' ' ∨ ∃ word ∈ words, char ∈ word := by
  cases words with
  | nil => cases member
  | cons word words =>
      simp only [joinWords_cons, List.mem_append, List.mem_flatMap, List.mem_cons] at member
      rcases member with first | ⟨next, inside, rfl | later⟩
      · exact Or.inr ⟨word, List.mem_cons_self, first⟩
      · exact Or.inl rfl
      · exact Or.inr ⟨next, List.mem_cons_of_mem _ inside, later⟩

/-- Words with a blank before each are separated from what stands before them. -/
theorem separated_flatMap (words : List (List Char)) {rest : List Char}
    (ends : Separated locale rest) :
    Separated locale (words.flatMap (fun word => ' ' :: word) ++ rest) := by
  cases words with
  | nil => exact ends
  | cons word words => exact separated_cons space_blank _

/-- Words that do not assign the variant pass the substitution unchanged. -/
theorem substitute_plain {words : List (List Char)} (plain : ∀ word ∈ words, PlainWord locale word)
    {rest : List Char} (ends : Separated locale rest) :
    substitute locale false (words.flatMap (fun word => ' ' :: word) ++ rest) =
      words.flatMap (fun word => ' ' :: word) ++ substitute locale false rest := by
  induction words with
  | nil => rfl
  | cons word words ih =>
      obtain ⟨_, noSpace, noVariant⟩ := plain word List.mem_cons_self
      have kept : ¬ IsVariant word := fun variant => noVariant variant.1
      have tail := ih fun word member => plain word (List.mem_cons_of_mem _ member)
      simp only [List.flatMap_cons, List.cons_append, List.append_assoc]
      rw [substitute_separated space_blank noSpace (separated_flatMap words ends), if_neg kept,
        tail]

/-- A last word that is a variant is removed together with the blank before it. -/
theorem substitute_variant {words : List (List Char)}
    (plain : ∀ word ∈ words, PlainWord locale word) {variant : List Char}
    (noSpace : NoSpace locale variant) (isVariant : IsVariant variant) :
    substitute locale true (joinWords words ++ ' ' :: variant) = joinWords words := by
  have last : substitute locale false (' ' :: variant) = [] := by
    have removed := substitute_separated space_blank noSpace separated_nil
    rw [List.append_nil, if_pos isVariant] at removed
    rw [removed, substitute]
  have ends : Separated locale (' ' :: variant) := separated_cons space_blank variant
  cases words with
  | nil =>
      have removed := substitute_first noSpace_nil ends
      have other : ¬ IsVariant [] := by decide
      rw [if_neg other, last, List.nil_append] at removed
      exact removed
  | cons word words =>
      obtain ⟨_, wordNoSpace, noVariant⟩ := plain word List.mem_cons_self
      have kept : ¬ IsVariant word := fun variant => noVariant variant.1
      have tail : ∀ word ∈ words, PlainWord locale word :=
        fun word member => plain word (List.mem_cons_of_mem _ member)
      rw [joinWords_cons, List.append_assoc,
        substitute_first wordNoSpace (separated_flatMap words ends), if_neg kept,
        substitute_plain tail ends, last, List.append_nil]

/-- Plain words do not end in white space. -/
theorem stripSpaces_plain {words : List (List Char)}
    (plain : ∀ word ∈ words, PlainWord locale word) :
    stripSpaces locale (joinWords words) = joinWords words := by
  have ended : ∀ front word, PlainWord locale word →
      stripSpaces locale (front ++ word) = front ++ word := by
    rintro front word ⟨nonempty, noSpace, _⟩
    rw [stripSpaces, List.rdropWhile_eq_self_iff]
    intro _
    rw [List.getLast_append_of_ne_nil _ nonempty, noSpace _ (List.getLast_mem nonempty)]
    exact Bool.false_ne_true
  rcases List.eq_nil_or_concat words with rfl | ⟨front, last, rfl⟩
  · rfl
  · have plainLast := plain last (by simp)
    cases front with
    | nil => simpa [joinWords] using ended [] last plainLast
    | cons word front =>
        have split : joinWords ((word :: front).concat last) =
            word ++ front.flatMap (fun word => ' ' :: word) ++ [' '] ++ last := by
          rw [List.concat_eq_append, List.cons_append, joinWords_cons]
          simp
        rw [split]
        exact ended _ last plainLast

/-- The filter takes the appended variant off a line of plain words. -/
theorem sed_variant {words : List (List Char)} (plain : ∀ word ∈ words, PlainWord locale word)
    {value : List Char} (nonempty : value ≠ []) (noSpace : NoSpace locale value) :
    sed locale (joinWords words ++ ' ' :: (variantKey ++ value)) = joinWords words := by
  have whole : NoSpace locale (variantKey ++ value) := by
    intro char member
    rcases List.mem_append.mp member with key | inValue
    · exact variantKey_noSpace char key
    · exact noSpace char inValue
  have isVariant : IsVariant (variantKey ++ value) := ⟨List.prefix_append _ _, by simpa⟩
  have oneLine : '\n' ∉ joinWords words ++ ' ' :: (variantKey ++ value) := by
    have outside : ∀ word, NoSpace locale word → '\n' ∉ word := by
      intro word noSpace member
      exact Bool.false_ne_true ((noSpace '\n' member).symm.trans space_newline)
    rw [List.mem_append, List.mem_cons]
    rintro (inWords | blank | inVariant)
    · rcases mem_joinWords inWords with blank | ⟨word, member, inside⟩
      · exact absurd blank (by decide)
      · exact outside word (plain word member).noSpace inside
    · exact absurd blank (by decide)
    · exact outside _ whole inVariant
  rw [sed, List.splitOn_eq_singleton oneLine, List.map_singleton, filterLine,
    substitute_variant plain whole isVariant, stripSpaces_plain plain, List.intercalate_singleton]

end Words

end T00F.Mkbootimg
