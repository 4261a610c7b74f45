import T00F.Systems.Braces
import T00F.Systems.ShellRead

/-!
# Unquoted expansions and echo

What a shell makes of an unquoted text (`expand`: its words, brace expansion and file names)
and what its `echo` writes, with options and escapes, as a command substitution sees it. For
words that hold nothing special all of this is the identity (`Plain`); in general each stage
is `Shrinking` when there are no files, and none of them loses a `#`.
-/

namespace Systems

/-! ## echo -/

def octalValue (char : Char) : Option Nat :=
  if '0' ≤ char ∧ char ≤ '7' then some (char.toNat - '0'.toNat) else none

def hexValue (char : Char) : Option Nat :=
  if '0' ≤ char ∧ char ≤ '9' then some (char.toNat - '0'.toNat)
  else if 'a' ≤ char ∧ char ≤ 'f' then some (char.toNat - 'a'.toNat + 10)
  else if 'A' ≤ char ∧ char ≤ 'F' then some (char.toNat - 'A'.toNat + 10)
  else none

/-- Appends to a number the digits at the start of a text, at most `limit` of them, and gives what
follows them. -/
def takeDigits (digit : Char → Option Nat) (base : Nat) :
    Nat → Nat → List Char → Nat × List Char
  | 0, value, text => (value, text)
  | _ + 1, value, [] => (value, [])
  | limit + 1, value, char :: rest =>
      match digit char with
      | none => (value, char :: rest)
      | some next => takeDigits digit base limit (value * base + next) rest

/-- The escapes of one character. `c` only leaves out the last newline. -/
def letterEscape (char : Char) : Option Nat :=
  [('a', 7), ('b', 8), ('c', 0), ('e', 27), ('E', 27), ('f', 12), ('n', 10), ('r', 13), ('t', 9),
    ('v', 11), ('\\', 92)].lookup char

/-- The escapes with a number: its digits, its base, their count and the range of the result. -/
structure NumberEscape where
  digit : Char → Option Nat
  base : Nat
  limit : Nat
  range : Nat

def numberEscape (char : Char) : Option NumberEscape :=
  if char = '0' then some ⟨octalValue, 8, 3, 2 ^ 8⟩
  else if char = 'x' then some ⟨hexValue, 16, 2, 2 ^ 8⟩
  else if char = 'u' then some ⟨hexValue, 16, 4, 2 ^ 16⟩
  else if char = 'U' then some ⟨hexValue, 16, 8, 2 ^ 32⟩
  else none

/-- The character of an escape; a command substitution drops the null character. -/
def escapeChar (value : Nat) : List Char := if value = 0 then [] else [Char.ofNat value]

/-- Taking digits never lengthens the rest. -/
theorem length_takeDigits (digit : Char → Option Nat) (base limit value : Nat) (text : List Char) :
    (takeDigits digit base limit value text).2.length ≤ text.length := by
  induction text generalizing limit value with
  | nil => cases limit <;> exact le_rfl
  | cons char rest ih =>
      cases limit with
      | zero => exact le_rfl
      | succ limit =>
          rw [takeDigits]
          split
          · exact le_rfl
          · exact (ih _ _).trans (Nat.le_succ _)

/-- The text that `echo` writes for an argument. -/
def unescape : List Char → List Char
  | [] => []
  | char :: rest =>
      if char = '\\' then
        match rest with
        | [] => ['\\']
        | kind :: rest =>
            match letterEscape kind with
            | some value => escapeChar value ++ unescape rest
            | none =>
                match numberEscape kind with
                | some number =>
                    let found := takeDigits number.digit number.base number.limit 0 rest
                    escapeChar (found.1 % number.range) ++ unescape found.2
                | none => '\\' :: kind :: unescape rest
      else char :: unescape rest
termination_by text => text.length
decreasing_by
  all_goals simp only [List.length_cons]
  · omega
  · have bound := length_takeDigits number.digit number.base number.limit 0 rest
    omega
  · omega
  · omega

/-- A word of letters that `echo` takes as options as long as they come first. -/
def isOption : List Char → Bool
  | '-' :: letter :: letters =>
      (letter :: letters).all fun char => char = 'n' || char = 'e' || char = 'E'
  | _ => false

/-- The last of `-e` and `-E` says whether escapes are replaced; without one they are. -/
def replacesEscapes (options : List (List Char)) : Bool :=
  (options.flatten.filter fun char => char = 'e' || char = 'E').getLast? ≠ some 'E'

/-- The output of `echo`, without the newline at its end that depends on the options. -/
def echo (arguments : List (List Char)) : List Char :=
  let options := arguments.takeWhile isOption
  let texts := arguments.dropWhile isOption
  [' '].intercalate (if replacesEscapes options then texts.map unescape else texts)

/-- A command substitution drops the newlines at the end of the output. -/
def substituted (output : List Char) : List Char := output.rdropWhile (· = '\n')

/-! ## Expansion -/

section Expansion

variable (fits : List Char → List Char → Bool) (files : List (List Char))

/-- The files whose names a word fits as a pattern, or the word. -/
def generate (word : List Char) : List (List Char) :=
  let names := files.filter (fits word)
  if names = [] then [word] else names

/-- What an unquoted text becomes. -/
def expand (text : List Char) : List (List Char) :=
  (words ifs text).flatMap fun word => (braces word).flatMap (generate fits files)

/-- What an unquoted substitution of `echo` with an unquoted text becomes. -/
def echoed (text : List Char) : List (List Char) :=
  expand fits files (substituted (echo (expand fits files text)))

end Expansion

/-- `${text/pattern/replacement}` for single characters. -/
def replaceFirst (pattern replacement : Char) : List Char → List Char
  | [] => []
  | char :: rest =>
      if char = pattern then replacement :: rest
      else char :: replaceFirst pattern replacement rest

/-- The first occurrence of the pattern is the one that is replaced. -/
theorem replaceFirst_append {pattern : Char} (replacement : Char) {front : List Char}
    (absent : pattern ∉ front) (back : List Char) :
    replaceFirst pattern replacement (front ++ pattern :: back) = front ++ replacement :: back := by
  induction front with
  | nil => exact if_pos rfl
  | cons char front ih =>
      obtain ⟨different, absent⟩ := not_or.mp (mt List.mem_cons.mpr absent)
      rw [List.cons_append, replaceFirst, if_neg (Ne.symm different), ih absent, List.cons_append]

/-- Replacing one character loses no other character. -/
theorem count_replaceFirst {char pattern replacement : Char} (kept : char ≠ pattern)
    (text : List Char) : text.count char ≤ (replaceFirst pattern replacement text).count char := by
  induction text with
  | nil => exact le_rfl
  | cons first text ih =>
      rw [replaceFirst]
      split
      next same =>
        rw [List.count_cons_of_ne (same ▸ kept.symm), List.count_cons]
        omega
      next =>
        rw [List.count_cons, List.count_cons]
        omega

/-! ## Escapes -/

/-- A text without a backslash is unescaped to itself. -/
theorem unescape_of_free {text : List Char} (free : '\\' ∉ text) : unescape text = text := by
  fun_induction unescape text with
  | case1 => rfl
  | case2 | case3 | case4 | case5 => exact absurd List.mem_cons_self free
  | case6 char rest ordinary ih => rw [ih (mt (List.mem_cons_of_mem _) free)]

/-- An escape stands for at most one character. -/
theorem length_escapeChar (value : Nat) : (escapeChar value).length ≤ 1 := by
  unfold escapeChar
  split
  · exact Nat.zero_le 1
  · exact le_rfl

/-- An escape that is replaced is longer than its character. -/
theorem length_unescape (text : List Char) :
    unescape text = text ∨ (unescape text).length < text.length := by
  fun_induction unescape text with
  | case1 => exact .inl rfl
  | case2 => exact .inl rfl
  | case3 kind rest value letter ih =>
      right
      have short := length_escapeChar value
      rw [List.length_append, List.length_cons, List.length_cons]
      rcases ih with same | less
      · rw [same]
        omega
      · omega
  | case4 kind rest notLetter number numeral found ih =>
      right
      have short := length_escapeChar (found.1 % number.range)
      have left : found.2.length ≤ rest.length := length_takeDigits _ _ _ _ _
      rw [List.length_append, List.length_cons, List.length_cons]
      rcases ih with same | less
      · rw [same]
        omega
      · omega
  | case5 kind rest notLetter notNumber ih =>
      rcases ih with same | less
      · exact .inl (by rw [same])
      · exact .inr (Nat.succ_lt_succ (Nat.succ_lt_succ less))
  | case6 char rest ordinary ih =>
      rcases ih with same | less
      · exact .inl (by rw [same])
      · exact .inr (Nat.succ_lt_succ less)

/-- Taking digits takes no `#`. -/
theorem count_takeDigits {digit : Char → Option Nat} (noDigit : digit '#' = none)
    (base limit value : Nat) (text : List Char) :
    (takeDigits digit base limit value text).2.count '#' = text.count '#' := by
  induction text generalizing limit value with
  | nil =>
      cases limit with
      | zero => rfl
      | succ limit => rfl
  | cons char rest ih =>
      cases limit with
      | zero => rfl
      | succ limit =>
          rw [takeDigits]
          split
          next => rfl
          next next isDigit =>
            have different : char ≠ '#' := by
              rintro rfl
              rw [noDigit] at isDigit
              cases isDigit
            rw [ih, List.count_cons_of_ne different]

/-- No number is written with a `#`. -/
theorem digit_of_numberEscape {kind : Char} {number : NumberEscape}
    (numeral : numberEscape kind = some number) : kind ≠ '#' ∧ number.digit '#' = none := by
  unfold numberEscape at numeral
  split_ifs at numeral with zero hex short long
  · cases numeral
    exact ⟨zero ▸ by decide, rfl⟩
  · cases numeral
    exact ⟨hex ▸ by decide, rfl⟩
  · cases numeral
    exact ⟨short ▸ by decide, rfl⟩
  · cases numeral
    exact ⟨long ▸ by decide, rfl⟩

/-- Unescaping loses no `#`. -/
theorem count_unescape (text : List Char) : text.count '#' ≤ (unescape text).count '#' := by
  have backslash : '\\' ≠ '#' := by decide
  fun_induction unescape text with
  | case1 => exact le_rfl
  | case2 => exact le_rfl
  | case3 kind rest value letter ih =>
      have different : kind ≠ '#' := by
        rintro rfl
        have noLetter : letterEscape '#' = none := by decide
        rw [noLetter] at letter
        cases letter
      rw [List.count_cons_of_ne backslash, List.count_cons_of_ne different, List.count_append]
      omega
  | case4 kind rest notLetter number numeral found ih =>
      obtain ⟨different, noDigit⟩ := digit_of_numberEscape numeral
      have kept : found.2.count '#' = rest.count '#' := count_takeDigits noDigit _ _ _ _
      rw [List.count_cons_of_ne backslash, List.count_cons_of_ne different, List.count_append]
      omega
  | case5 kind rest notLetter notNumber ih =>
      rw [List.count_cons_of_ne backslash, List.count_cons_of_ne backslash, List.count_cons,
        List.count_cons]
      omega
  | case6 char rest ordinary ih =>
      rw [List.count_cons, List.count_cons]
      omega

/-! ## Words without anything special -/

/-- A word that holds nothing special but maybe a pattern. -/
structure Literal (word : List Char) : Prop where
  nonempty : word ≠ []
  noBlank : ∀ char ∈ word, ifs char = false
  noBackslash : '\\' ∉ word
  noBraces : braces word = [word]

/-- A word that neither splits nor holds a backslash or braces is literal. -/
theorem literal_of_words {word : List Char} (alone : words ifs word = [word])
    (noBackslash : '\\' ∉ word) (noBraces : braces word = [word]) : Literal word := by
  have member : word ∈ words ifs word := alone.symm ▸ List.mem_singleton_self word
  exact ⟨ne_nil_of_mem_words member, fun char inside => (of_mem_words member char inside).2,
    noBackslash, noBraces⟩

/-- A word that every stage leaves alone. -/
structure Plain (fits : List Char → List Char → Bool) (word : List Char) : Prop
    extends Literal word where
  noPattern : ∀ name, fits word name = true → name = word

variable {fits : List Char → List Char → Bool}

/-- Without patterns a word without special characters is plain. -/
theorem plain_of_free {word : List Char} (nonempty : word ≠ [])
    (noBlank : ∀ char ∈ word, ifs char = false) (noBackslash : '\\' ∉ word)
    (noBrace : '{' ∉ word) : Plain (fun pattern name => pattern = name) word where
  nonempty := nonempty
  noBlank := noBlank
  noBackslash := noBackslash
  noBraces := braces_of_free noBrace
  noPattern _ same := (of_decide_eq_true same).symm

/-- A name is found at most once. -/
theorem generate_of_noPattern {files : List (List Char)} (distinct : files.Nodup) {word : List Char}
    (noPattern : ∀ name, fits word name = true → name = word) :
    generate fits files word = [word] := by
  unfold generate
  have same : ∀ name ∈ files.filter (fits word), name = word :=
    fun name member => noPattern name (List.of_mem_filter member)
  have once : (files.filter (fits word)).Nodup := distinct.filter _
  dsimp only
  split
  next => rfl
  next some =>
    generalize files.filter (fits word) = names at *
    cases names with
    | nil => exact absurd rfl some
    | cons name names =>
        cases names with
        | nil => rw [same name List.mem_cons_self]
        | cons other names =>
            exfalso
            have equal : name = other := by
              rw [same name List.mem_cons_self, same other (by simp)]
            exact (List.nodup_cons.mp once).1 (equal ▸ List.mem_cons_self)

/-- A plain word expands to itself. -/
theorem Plain.expands {files : List (List Char)} {word : List Char} (plain : Plain fits word)
    (distinct : files.Nodup) : (braces word).flatMap (generate fits files) = [word] := by
  rw [plain.noBraces, List.flatMap_singleton, generate_of_noPattern distinct plain.noPattern]

/-- Plain words separated by blanks expand to themselves, in order. -/
theorem expand_plain {files texts : List (List Char)} (distinct : files.Nodup)
    (plain : ∀ word ∈ texts, Plain fits word) :
    expand fits files ([' '].intercalate texts) = texts := by
  rw [expand, words_intercalate rfl, List.flatMap_assoc]
  induction texts with
  | nil => rfl
  | cons word texts ih =>
      have first := plain word List.mem_cons_self
      rw [List.flatMap_cons, ih fun other member => plain other (List.mem_cons_of_mem _ member),
        words_word first.nonempty first.noBlank, List.flatMap_singleton, first.expands distinct]
      rfl

/-- The newlines at the end make no words. -/
theorem words_substituted (output : List Char) :
    words ifs (substituted output) = words ifs output := by
  refine words_rdropWhile (fun char same => ?_) output
  rw [of_decide_eq_true same]
  rfl

/-- Plain words come through, if the first is no option of `echo`. -/
theorem echoed_plain {files texts : List (List Char)} (distinct : files.Nodup)
    (plain : ∀ word ∈ texts, Plain fits word)
    (noOption : ∀ first ∈ texts.head?, isOption first = false) :
    echoed fits files ([' '].intercalate texts) = texts := by
  have output : echo texts = [' '].intercalate texts := by
    have noOptions : texts.takeWhile isOption = [] ∧ texts.dropWhile isOption = texts := by
      cases texts with
      | nil => exact ⟨rfl, rfl⟩
      | cons first texts =>
          have starts := noOption first rfl
          exact ⟨List.takeWhile_cons_of_neg (by simp [starts]),
            List.dropWhile_cons_of_neg (by simp [starts])⟩
    have same : texts.map unescape = texts :=
      (List.map_congr_left fun word member =>
        unescape_of_free (plain word member).noBackslash).trans (List.map_id _)
    have replaces : replacesEscapes [] = true := rfl
    rw [echo, noOptions.1, noOptions.2, if_pos replaces, same]
  rw [echoed, expand_plain distinct plain, output, expand, words_substituted]
  exact expand_plain distinct plain

/-! ## What the stages keep -/

/-- Only the name of the file and words that do not fit it come out. -/
theorem of_mem_echoed {name text word : List Char} (member : word ∈ echoed fits [name] text) :
    word = name ∨ fits word name = false := by
  obtain ⟨source, -, made⟩ := List.mem_flatMap.mp member
  obtain ⟨pattern, -, made⟩ := List.mem_flatMap.mp made
  rw [generate] at made
  by_cases fitting : fits pattern name = true
  · rw [List.filter_cons_of_pos fitting] at made
    exact .inl (by simpa using made)
  · rw [List.filter_cons_of_neg fitting] at made
    obtain rfl : word = pattern := by simpa using made
    exact .inr (by simpa using fitting)

/-- With no file to match, expansion is splitting followed by the braces. -/
theorem expand_nil (text : List Char) :
    expand fits [] text = (words ifs text).flatMap braces := by
  have alone : generate fits [] = fun word => [word] := rfl
  rw [expand, alone]
  simp only [List.flatMap_singleton']

/-- Without files the words of the output are those of the arguments of `echo`. -/
theorem echoed_nil (fits : List Char → List Char → Bool) (text : List Char) :
    ∃ replace : List Char → List Char,
      (∀ word, replace word = word ∨ (replace word).length < word.length) ∧
      (∀ word, word.count '#' ≤ (replace word).count '#') ∧
      echoed fits [] text =
        (((words ifs text).flatMap braces).dropWhile isOption).flatMap fun word =>
          (words ifs (replace word)).flatMap braces := by
  have joined : ∀ texts : List (List Char),
      words ifs (substituted ([' '].intercalate texts)) = texts.flatMap (words ifs) := by
    intro texts
    rw [words_substituted, words_intercalate rfl]
  rw [echoed, expand_nil, expand_nil, echo]
  generalize (words ifs text).flatMap braces = arguments
  cases replacesEscapes (arguments.takeWhile isOption) with
  | true =>
      refine ⟨unescape, length_unescape, count_unescape, ?_⟩
      rw [if_pos rfl, joined, List.flatMap_map, List.flatMap_assoc]
  | false =>
      refine ⟨id, fun _ => .inl rfl, fun _ => le_rfl, ?_⟩
      rw [if_neg Bool.false_ne_true, joined, List.flatMap_assoc]
      rfl

/-- An option of `echo` holds no `#`. -/
theorem count_options {options : List (List Char)} (all : ∀ word ∈ options, isOption word = true) :
    options.flatten.count '#' = 0 := by
  refine List.count_eq_zero_of_not_mem fun member => ?_
  obtain ⟨word, inside, hash⟩ := List.mem_flatten.mp member
  have option := all word inside
  unfold isOption at option
  split at option
  next letter letters =>
    rcases List.mem_cons.mp hash with minus | later
    · exact absurd minus (by decide)
    · exact absurd (List.all_eq_true.mp option '#' later) (by decide)
  next => cases option

/-- No `#` gets lost. -/
theorem count_echoed (text : List Char) :
    text.count '#' ≤ (echoed fits [] text).flatten.count '#' := by
  obtain ⟨replace, -, keeps, output⟩ := echoed_nil fits text
  have braces : Keeps '#' braces := .braces (by decide) (by decide) (by decide)
  have first : Keeps '#' fun text => (words ifs text).flatMap Systems.braces :=
    .comp (.words rfl) braces
  have second : Keeps '#' fun word => (words ifs (replace word)).flatMap Systems.braces :=
    fun word => (keeps word).trans (first (replace word))
  have before := first text
  dsimp only at before
  rw [output]
  generalize (words ifs text).flatMap Systems.braces = arguments at before ⊢
  rw [← List.takeWhile_append_dropWhile (p := isOption) (l := arguments), List.flatten_append,
    List.count_append, count_options fun word member => List.mem_takeWhile_imp member,
    Nat.zero_add] at before
  exact before.trans (second.flatMap _)

/-- Where two words come out that the two texts were not longer than, nothing was changed. -/
theorem eq_of_echoed_pair {first second key value : List Char}
    (firstBound : first = key ∨ first.length < key.length)
    (secondBound : second = value ∨ second.length < value.length)
    (made : echoed fits [] (first ++ ' ' :: second) = [key, value]) :
    first = key ∧ second = value ∧ isOption key = false ∧
      (words ifs key = [key] ∧ braces key = [key]) ∧
      words ifs value = [value] ∧ braces value = [value] := by
  obtain ⟨replace, shorter, -, output⟩ := echoed_nil fits (first ++ ' ' :: second)
  have expands : Shrinking fun text => (words ifs text).flatMap braces :=
    (Shrinking.words ifs).comp .braces
  have writes : Shrinking fun word => (words ifs (replace word)).flatMap braces := by
    have replaced := (Shrinking.of_function shorter).comp expands
    simpa only [List.flatMap_singleton] using replaced
  have split : words ifs (first ++ ' ' :: second) = words ifs first ++ words ifs second :=
    words_append_cons first rfl second
  rw [made, split, List.flatMap_append] at output
  have all := congrArg (List.flatMap fun word => (words ifs (replace word)).flatMap braces)
    (List.takeWhile_append_dropWhile (p := isOption)
      (l := (words ifs first).flatMap braces ++ (words ifs second).flatMap braces))
  rw [List.flatMap_append, ← output, List.flatMap_append] at all
  obtain ⟨none, ⟨rfl, keyAlone⟩, rfl, valueAlone⟩ :=
    (expands.comp writes).pair firstBound secondBound all.symm
  have keyStages := expands.comp_alone writes (keyAlone ▸ List.mem_singleton_self first)
  have valueStages := expands.comp_alone writes (valueAlone ▸ List.mem_singleton_self second)
  refine ⟨rfl, rfl, ?_, ?_, ?_⟩
  · -- An option of `echo` would have been dropped.
    by_contra option
    rw [keyStages.1, List.singleton_append, List.takeWhile_cons_of_pos (by simpa using option),
      List.flatMap_cons, keyStages.2] at none
    cases none
  · exact (Shrinking.words ifs).comp_alone .braces (keyStages.1 ▸ List.mem_singleton_self first)
  · exact (Shrinking.words ifs).comp_alone .braces (valueStages.1 ▸ List.mem_singleton_self second)

end Systems
