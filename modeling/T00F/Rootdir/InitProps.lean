import T00F.Systems.ShellWords

/-!
# Properties of the selected configuration

The loop of `config_init.sh` over the lines of an `init.props` file, which calls `setprop`
with what an unquoted `echo` makes of a line. `joined` follows the lines that a backslash
joins, `length_calls` counts the calls, and `calls_eq_settings_iff` says for which files
every property is set to its value: those whose settings are all `Plain` and kept apart
from what is joined to them.
-/

namespace T00F.Rootdir

open Systems

/-- A line of `init.props`. -/
inductive PropLine where
  | empty
  | comment (text : List Char)
  | setting (key value : List Char)

namespace PropLine

def text : PropLine → List Char
  | empty => []
  | comment text => '#' :: text
  | setting key value => key ++ '=' :: value

/-- Spaces print, control characters do not. -/
def printable (char : Char) : Bool := ' ' ≤ char && char ≠ Char.ofNat 127

/-- A key holds no blank and no `=` and does not make its line a comment. -/
def WellFormed : PropLine → Prop
  | empty => True
  | comment text => '\n' ∉ text
  | setting key value =>
      (∀ char ∈ key, printable char = true ∧ char ≠ ' ' ∧ char ≠ '=') ∧ key.head? ≠ some '#' ∧
        ∀ char ∈ value, printable char = true

/-- The call that the line asks for. -/
def call : PropLine → Option (List (List Char))
  | setting key value => some [key, value]
  | _ => none

/-- The only blank that prints is the space. -/
theorem ifs_of_printable {char : Char} (prints : printable char = true) (noSpace : char ≠ ' ') :
    ifs char = false := by
  by_contra blank
  rw [Bool.not_eq_false, ifs, Bool.or_eq_true, Bool.or_eq_true] at blank
  rcases blank with (space | tab) | newline
  · exact noSpace (of_decide_eq_true space)
  · rw [of_decide_eq_true tab] at prints
    exact absurd prints (by decide)
  · rw [of_decide_eq_true newline] at prints
    exact absurd prints (by decide)

/-- A well-formed line has no newline. -/
theorem WellFormed.oneLine {line : PropLine} (wellFormed : line.WellFormed) : '\n' ∉ line.text := by
  cases line with
  | empty => exact List.not_mem_nil
  | comment text =>
      intro member
      rcases List.mem_cons.mp member with hash | later
      · exact absurd hash (by decide)
      · exact wellFormed later
  | setting key value =>
      obtain ⟨keys, -, values⟩ := wellFormed
      intro member
      rcases List.mem_append.mp member with inKey | later
      · exact absurd (keys _ inKey).1 (by decide)
      · rcases List.mem_cons.mp later with equals | inValue
        · exact absurd equals (by decide)
        · exact absurd (values _ inValue) (by decide)

end PropLine

/-- Lines with a newline at the end of each. -/
def ended (lines : List PropLine) : List Char :=
  lines.flatMap fun line => line.text ++ ['\n']

/-- The text of the file; the last line may lack its newline. -/
def render (lines : List PropLine) (terminated : Bool) : List Char :=
  if terminated then ended lines
  else ended lines.dropLast ++ (lines.getLast?.elim [] PropLine.text)

/-- The calls that a file asks for. -/
def settings (lines : List PropLine) : List (List (List Char)) := lines.filterMap PropLine.call

section

variable (fits : List Char → List Char → Bool) (files : List (List Char))

/-- The body of the loop: the arguments of `setprop`, unless the line is skipped. -/
def loopBody (l : List Char) : Option (List (List Char)) :=
  if l = [] ∨ l.head? = some '#' then none
  else some (echoed fits files (replaceFirst '=' ' ' l))

/-- The calls of `setprop` for the text of a file. -/
def calls (text : List Char) : List (List (List Char)) :=
  (whileRead text).filterMap (loopBody fits files)

end

/-- A setting is not joined to the comment before it. -/
def Apart (line next : PropLine) : Prop :=
  ∀ text key value, line = .comment text → next = .setting key value →
    dangles false text = false

/-- Every setting stays as it is, is not joined to a comment before it, and ends in a newline. -/
structure Verbatim (fits : List Char → List Char → Bool) (lines : List PropLine)
    (terminated : Bool) : Prop where
  plain : ∀ key value, .setting key value ∈ lines →
    Plain fits key ∧ Plain fits value ∧ isOption key = false
  apart : lines.IsChain Apart
  ended : terminated = true ∨ ∀ key value, lines.getLast? ≠ some (.setting key value)

variable {fits : List Char → List Char → Bool} {files : List (List Char)}

/-! ## The lines that are read -/

/-- The lines that the loop sees, behind what is pending from the lines before. -/
def joined (pending : List (Char × Bool)) : List PropLine → List (List Char)
  | [] => []
  | line :: rest =>
      if dangles false line.text then joined (pending ++ protect false line.text) rest
      else strip (pending ++ protect false line.text) :: joined [] rest

/-- The loop reads the terminated lines and drops a last one without a newline. -/
theorem readFrom_ended {lines : List PropLine} (wellFormed : ∀ line ∈ lines, line.WellFormed)
    {last : List Char} (oneLine : '\n' ∉ last) (pending : List (Char × Bool)) :
    readFrom pending (ended lines ++ last) = joined pending lines := by
  induction lines generalizing pending with
  | nil => exact readFrom_end pending oneLine
  | cons line rest ih =>
      have inner := fun pending =>
        ih (fun other member => wellFormed other (List.mem_cons_of_mem _ member)) pending
      have split : ended (line :: rest) ++ last = line.text ++ '\n' :: (ended rest ++ last) := by
        simp [ended]
      rw [split, readFrom_line pending (wellFormed line List.mem_cons_self).oneLine, joined]
      split
      · exact inner _
      · rw [inner []]

/-- The calls of a run of the loop from what is pending on. -/
def callsFrom (fits : List Char → List Char → Bool) (files : List (List Char))
    (pending : List (Char × Bool)) (lines : List PropLine) : List (List (List Char)) :=
  (joined pending lines).filterMap (loopBody fits files)

/-- A line with a dangling backslash is joined with the next. -/
theorem callsFrom_joined {line : PropLine} (dangling : dangles false line.text = true)
    (pending : List (Char × Bool)) (rest : List PropLine) :
    callsFrom fits files pending (line :: rest) =
      callsFrom fits files (pending ++ protect false line.text) rest := by
  rw [callsFrom, joined, if_pos dangling]
  rfl

/-- A line that ends by itself is handled by the loop's body. -/
theorem callsFrom_ended {line : PropLine} (ends : dangles false line.text = false)
    (pending : List (Char × Bool)) (rest : List PropLine) :
    callsFrom fits files pending (line :: rest) =
      (loopBody fits files (strip (pending ++ protect false line.text))).toList ++
        callsFrom fits files [] rest := by
  rw [callsFrom, joined, if_neg (by simp [ends]), List.filterMap_cons]
  cases loopBody fits files (strip (pending ++ protect false line.text)) with
  | none => rfl
  | some call => rfl

/-! ## How many calls there are -/

/-- The settings of a line and those of the rest. -/
theorem settings_cons (line : PropLine) (rest : List PropLine) :
    settings (line :: rest) = line.call.toList ++ settings rest := by
  rw [settings, List.filterMap_cons]
  cases line with
  | empty | comment | setting => rfl

/-- What is pending makes no call: nothing, or a comment. -/
def Idle (pending : List (Char × Bool)) : Prop := ∀ first ∈ pending.head?, first = ('#', false)

/-- Nothing pending is idle. -/
theorem idle_nil : Idle [] := by
  rintro _ ⟨⟩

/-- The body of the loop makes no call for an idle line. -/
theorem Idle.none {pending : List (Char × Bool)} (idle : Idle pending) :
    loopBody fits files (strip pending) = none := by
  cases pending with
  | nil => exact if_pos (.inl rfl)
  | cons first pending =>
      obtain rfl := idle first rfl
      refine if_pos (.inr ?_)
      have whole : strip ([] ++ ('#', false) :: pending) =
          '#' :: (pending.rdropWhile bareBlank).map Prod.fst :=
        strip_append pending (by rintro _ ⟨⟩) rfl
      rw [List.nil_append] at whole
      rw [whole]
      rfl

/-- Empty lines and comments leave it so. -/
theorem Idle.append {pending : List (Char × Bool)} (idle : Idle pending) {line : PropLine}
    (noCall : line.call = Option.none) : Idle (pending ++ protect false line.text) := by
  cases pending with
  | cons first pending => exact idle
  | nil =>
      cases line with
      | empty => exact idle_nil
      | comment text =>
          rintro _ ⟨⟩
          rfl
      | setting key value => cases noCall

/-- An idle line stays idle whatever is joined to it. -/
theorem Idle.append_of_ne_nil {pending : List (Char × Bool)} (idle : Idle pending)
    (some : pending ≠ []) (more : List (Char × Bool)) : Idle (pending ++ more) := by
  intro first head
  rw [List.head?_append_of_ne_nil _ some] at head
  exact idle first head

/-- There is at most one call more than there are settings, and none more behind what is idle. -/
theorem length_calls (fits : List Char → List Char → Bool) (files : List (List Char))
    (pending : List (Char × Bool)) (lines : List PropLine) :
    (callsFrom fits files pending lines).length ≤ (settings lines).length + 1 ∧
      (Idle pending →
        (callsFrom fits files pending lines).length ≤ (settings lines).length) := by
  induction lines generalizing pending with
  | nil => exact ⟨Nat.zero_le _, fun _ => le_rfl⟩
  | cons line rest ih =>
      rw [settings_cons, List.length_append]
      cases dangling : dangles false line.text with
      | true =>
          obtain ⟨more, idle⟩ := ih (pending ++ protect false line.text)
          rw [callsFrom_joined dangling]
          cases call : line.call with
          | none =>
              rw [Option.toList_none, List.length_nil, Nat.zero_add]
              exact ⟨more, fun before => idle (before.append call)⟩
          | some asked =>
              rw [Option.toList_some, List.length_singleton]
              exact ⟨by omega, fun _ => by omega⟩
      | false =>
          have later := (ih []).2 idle_nil
          have once : (loopBody fits files
              (strip (pending ++ protect false line.text))).toList.length ≤ 1 :=
            Option.length_toList_le
          rw [callsFrom_ended dangling, List.length_append]
          refine ⟨by omega, fun before => ?_⟩
          cases call : line.call with
          | none =>
              rw [(before.append call).none]
              simpa using later
          | some asked =>
              rw [Option.toList_some, List.length_singleton]
              omega

/-- What is behind a comment makes no call: the line is joined to it. -/
theorem length_calls_behind (fits : List Char → List Char → Bool) (files : List (List Char))
    {pending : List (Char × Bool)} (idle : Idle pending) (nonempty : pending ≠ [])
    (line : PropLine) (rest : List PropLine) :
    (callsFrom fits files pending (line :: rest)).length ≤ (settings rest).length := by
  have still := idle.append_of_ne_nil nonempty (protect false line.text)
  cases dangling : dangles false line.text with
  | true =>
      rw [callsFrom_joined dangling]
      exact (length_calls fits files _ rest).2 still
  | false =>
      rw [callsFrom_ended dangling, still.none]
      exact (length_calls fits files [] rest).2 idle_nil

/-! ## What a line needs -/

/-- A setting behind nothing: the line without the backslashes that `read` takes off, and without
the blanks at its end. -/
theorem strip_setting {key : List Char} (noBlank : ∀ char ∈ key, ifs char = false)
    (value : List Char) :
    ∃ back, strip (protect false (key ++ '=' :: value)) = unprotect false key ++ '=' :: back ∧
      back <+: unprotect false value ∧
      ((∀ char ∈ value, ifs char = false) → back = unprotect false value) := by
  have equals : '=' ≠ '\\' := by decide
  have starts : ∀ first ∈ (protect false key).head?, bareBlank first = false := by
    intro first head
    have member : first.1 ∈ unprotect false key :=
      List.mem_map_of_mem (List.mem_of_mem_head? head)
    rw [bareBlank, noBlank _ (mem_of_mem_unprotect member), Bool.and_false]
  have keeps : bareBlank ('=', dangles false key) = false := Bool.and_false _
  refine ⟨((protect false value).rdropWhile bareBlank).map Prod.fst, ?_, ?_, ?_⟩
  · rw [protect_append false key equals, strip_append _ starts keeps]
    rfl
  · exact (List.rdropWhile_prefix _ _).map _
  · intro free
    have whole : (protect false value).rdropWhile bareBlank = protect false value := by
      refine List.rdropWhile_eq_self_iff.mpr fun some blank => ?_
      have member : ((protect false value).getLast some).1 ∈ unprotect false value :=
        List.mem_map_of_mem (List.getLast_mem some)
      rw [bareBlank, free _ (mem_of_mem_unprotect member), Bool.and_false] at blank
      cases blank
    rw [whole]
    rfl

/-- The arguments of a call are the words the line expands to. -/
theorem loopBody_eq_some {l : List Char} {arguments : List (List Char)}
    (made : loopBody fits files l = some arguments) :
    echoed fits files (replaceFirst '=' ' ' l) = arguments := by
  rw [loopBody] at made
  split at made
  · cases made
  · exact Option.some.inj made

variable {key value : List Char}

/-- A well-formed key has no blank. -/
theorem key_noBlank (wellFormed : (PropLine.setting key value).WellFormed) :
    ∀ char ∈ key, ifs char = false := fun char member =>
  PropLine.ifs_of_printable (wellFormed.1 char member).1 (wellFormed.1 char member).2.1

/-- A well-formed key has no equals sign once it is unprotected. -/
theorem unprotect_noEquals (wellFormed : (PropLine.setting key value).WellFormed) :
    '=' ∉ unprotect false key :=
  fun member => (wellFormed.1 '=' (mem_of_mem_unprotect member)).2.2 rfl

/-- A setting that makes its own call is literal. -/
theorem literal_of_call (wellFormed : (PropLine.setting key value).WellFormed)
    (made : loopBody fits [] (strip (protect false (PropLine.setting key value).text)) =
      some [key, value]) :
    Literal key ∧ Literal value ∧ isOption key = false := by
  obtain ⟨back, whole, front, -⟩ := strip_setting (key_noBlank wellFormed) value
  have pair := loopBody_eq_some made
  rw [PropLine.text, whole, replaceFirst_append ' ' (unprotect_noEquals wellFormed)] at pair
  have backBound : back = value ∨ back.length < value.length := by
    rcases front.length_le.lt_or_eq with less | same
    · rcases length_unprotect false value with keeps | shorter
      · exact .inr (keeps ▸ less)
      · exact .inr (less.trans shorter)
    · rw [front.eq_of_length same]
      exact length_unprotect false value
  obtain ⟨keySame, rfl, noOption, ⟨keyWords, keyBraces⟩, valueWords, valueBraces⟩ :=
    eq_of_echoed_pair (length_unprotect false key) backBound pair
  have valueSame : unprotect false back = back :=
    (length_unprotect false back).resolve_right (Nat.not_lt.mpr front.length_le)
  exact ⟨literal_of_words keyWords (free_of_unprotect keySame) keyBraces,
    literal_of_words valueWords (free_of_unprotect valueSame) valueBraces, noOption⟩

/-- A setting of literals has no backslash. -/
theorem free_of_literal (keyLiteral : Literal key) (valueLiteral : Literal value) :
    '\\' ∉ (PropLine.setting key value).text := by
  intro member
  rcases List.mem_append.mp member with inKey | later
  · exact keyLiteral.noBackslash inKey
  · rcases List.mem_cons.mp later with equals | inValue
    · exact absurd equals (by decide)
    · exact valueLiteral.noBackslash inValue

/-- A value of plain words makes a call with each of them. -/
theorem loopBody_words (distinct : files.Nodup) {words : List (List Char)}
    (noEquals : '=' ∉ key) (noComment : key.head? ≠ some '#') (noOption : isOption key = false)
    (nonempty : words ≠ []) (plain : ∀ word ∈ key :: words, Plain fits word) :
    loopBody fits files (key ++ '=' :: [' '].intercalate words) = some (key :: words) := by
  have goesOn : ¬ (key ++ '=' :: [' '].intercalate words = [] ∨
      (key ++ '=' :: [' '].intercalate words).head? = some '#') := by
    rw [not_or, List.head?_append_of_ne_nil _ (plain key List.mem_cons_self).nonempty]
    exact ⟨by simp, noComment⟩
  have text : key ++ ' ' :: [' '].intercalate words = [' '].intercalate (key :: words) := by
    rw [List.intercalate_cons_of_ne_nil nonempty, List.append_assoc]
    rfl
  have starts : ∀ first ∈ (key :: words).head?, isOption first = false := by
    rintro _ ⟨⟩
    exact noOption
  rw [loopBody, if_neg goesOn, replaceFirst_append ' ' noEquals, text,
    echoed_plain distinct plain starts]

/-- A plain setting makes its own call. -/
theorem call_of_plain (distinct : files.Nodup)
    (wellFormed : (PropLine.setting key value).WellFormed) (plainKey : Plain fits key)
    (plainValue : Plain fits value) (noOption : isOption key = false) :
    loopBody fits files (strip (protect false (PropLine.setting key value).text)) =
      some [key, value] := by
  obtain ⟨back, whole, -, all⟩ := strip_setting (key_noBlank wellFormed) value
  rw [PropLine.text, whole, all plainValue.noBlank, unprotect_of_free plainKey.noBackslash,
    unprotect_of_free plainValue.noBackslash]
  have plain : ∀ word ∈ [key, value], Plain fits word := by
    intro word member
    rcases List.mem_cons.mp member with rfl | member
    · exact plainKey
    · rwa [List.mem_singleton.mp member]
  have noEquals : '=' ∉ key := fun member => (wellFormed.1 '=' member).2.2 rfl
  have single : [' '].intercalate [value] = value := List.intercalate_singleton
  have made := loopBody_words distinct noEquals wellFormed.2.1 noOption (List.cons_ne_nil _ _) plain
  rwa [single] at made

/-- A call holds every `#` of what it is made from. -/
theorem count_call {l : List (Char × Bool)}
    (made : loopBody fits [] (strip l) = some [key, value]) :
    (l.map Prod.fst).count '#' ≤ key.count '#' + value.count '#' := by
  have hash : '#' ≠ '=' := by decide
  calc (l.map Prod.fst).count '#' = (strip l).count '#' := (count_strip rfl l).symm
    _ ≤ (replaceFirst '=' ' ' (strip l)).count '#' := count_replaceFirst hash _
    _ ≤ (echoed fits [] (replaceFirst '=' ' ' (strip l))).flatten.count '#' := count_echoed _
    _ = key.count '#' + value.count '#' := by
      rw [loopBody_eq_some made]
      simp

/-! ## Settings that share a call -/

variable {pending : List (Char × Bool)} {line : PropLine} {rest lines : List PropLine}
  {first : List (List Char)} {more : List (List (List Char))}

/-- The first call is that of the first line, unless too few follow. -/
theorem first_call (ends : dangles false line.text = false)
    (made : callsFrom fits files pending (line :: rest) = first :: more) :
    (loopBody fits files (strip (pending ++ protect false line.text)) = some first ∧
      callsFrom fits files [] rest = more) ∨ more.length < (settings rest).length := by
  rw [callsFrom_ended ends] at made
  cases body : loopBody fits files (strip (pending ++ protect false line.text)) with
  | none =>
      right
      have bound := (length_calls fits files [] rest).2 idle_nil
      rw [body, Option.toList_none, List.nil_append] at made
      rw [made, List.length_cons] at bound
      omega
  | some arguments =>
      rw [body, Option.toList_some, List.singleton_append, List.cons.injEq] at made
      exact .inl ⟨congrArg some made.1, made.2⟩

/-- The number of settings of a line and the rest. -/
theorem length_settings_cons (line : PropLine) (rest : List PropLine) :
    (settings (line :: rest)).length = line.call.toList.length + (settings rest).length := by
  rw [settings_cons, List.length_append]

/-- With more `#` in the first line and before it than the call holds, too few calls follow it. -/
theorem few_calls_of_count
    (excess : ∀ line ∈ lines.head?, key.count '#' + value.count '#' <
      ((pending ++ protect false line.text).map Prod.fst).count '#')
    (made : callsFrom fits [] pending lines = [key, value] :: more) :
    more.length < (settings lines).length := by
  induction lines generalizing pending with
  | nil => cases made
  | cons line rest ih =>
      have here := excess line rfl
      rw [length_settings_cons]
      cases dangling : dangles false line.text with
      | true =>
          rw [callsFrom_joined dangling] at made
          have grown : ∀ next ∈ rest.head?, key.count '#' + value.count '#' <
              (((pending ++ protect false line.text) ++
                protect false next.text).map Prod.fst).count '#' := by
            intro next _
            rw [List.map_append, List.count_append]
            omega
          have few := ih grown made
          omega
      | false =>
          rcases first_call dangling made with ⟨body, -⟩ | few
          · exact absurd (count_call body) (Nat.not_le.mpr here)
          · omega

/-- With a setting that is joined to the next line too few calls follow its own. -/
theorem few_calls_of_dangling (wellFormed : (PropLine.setting key value).WellFormed)
    (dangling : dangles false (PropLine.setting key value).text = true)
    (made : callsFrom fits [] (protect false (PropLine.setting key value).text) lines =
      [key, value] :: more) : more.length < (settings lines).length := by
  cases lines with
  | nil => cases made
  | cons line rest =>
      cases line with
      | empty =>
          rw [length_settings_cons]
          rcases first_call rfl made with ⟨body, -⟩ | few
          · have alone : protect false (PropLine.setting key value).text ++
                  protect false PropLine.empty.text =
                protect false (PropLine.setting key value).text := List.append_nil _
            rw [alone] at body
            obtain ⟨keyLiteral, valueLiteral, -⟩ := literal_of_call wellFormed body
            rw [dangles_of_free (free_of_literal keyLiteral valueLiteral)] at dangling
            cases dangling
          · omega
      | comment text =>
          -- The comment brings a `#` that the setting does not hold.
          refine few_calls_of_count ?_ made
          rintro _ ⟨⟩
          have ordinary : '#' ≠ '\\' := by decide
          have own := count_unprotect ordinary false (PropLine.setting key value).text
          have other := count_unprotect ordinary false (PropLine.comment text).text
          rw [unprotect] at own other
          rw [List.map_append, List.count_append, own, other]
          simp only [PropLine.text, List.count_append, List.count_cons]
          simp
      | setting other otherValue =>
          have next := (length_calls fits [] [] rest).2 idle_nil
          rw [length_settings_cons, PropLine.call, Option.toList_some, List.length_singleton]
          cases joins : dangles false (PropLine.setting other otherValue).text with
          | true =>
              rw [callsFrom_joined joins] at made
              have bound := (length_calls fits []
                (protect false (PropLine.setting key value).text ++
                  protect false (PropLine.setting other otherValue).text) rest).1
              rw [made, List.length_cons] at bound
              omega
          | false =>
              rcases first_call joins made with ⟨-, rfl⟩ | few
              · omega
              · omega

/-! ## All lines -/

/-- The settings make their own calls and are not joined to comments. -/
structure OwnCalls (fits : List Char → List Char → Bool) (lines : List PropLine) : Prop where
  apart : lines.IsChain Apart
  own : ∀ key value, .setting key value ∈ lines →
    loopBody fits [] (strip (protect false (PropLine.setting key value).text)) =
      some [key, value]

/-- A line that asks for no call does no harm, if no setting is joined to it. -/
theorem OwnCalls.cons (calls : OwnCalls fits rest) (noCall : line.call = none)
    (notJoined : dangles false line.text = true →
      ∀ key value, rest.head? ≠ some (.setting key value)) : OwnCalls fits (line :: rest) where
  apart := by
    refine calls.apart.cons fun next head text key value comment setting => ?_
    subst comment setting
    have same : dangles false (PropLine.comment text).text = dangles false text := rfl
    by_contra dangling
    exact notJoined (same.trans (by simpa using dangling)) key value head
  own key value member := by
    rcases List.mem_cons.mp member with rfl | later
    · cases noCall
    · exact calls.own key value later

/-- A setting that makes its own call may stand before lines that do. -/
theorem OwnCalls.setting (calls : OwnCalls fits rest)
    (own : loopBody fits [] (strip (protect false (PropLine.setting key value).text)) =
      some [key, value]) : OwnCalls fits (.setting key value :: rest) where
  apart := by
    refine calls.apart.cons fun next head text _ _ comment _ => ?_
    cases comment
  own other otherValue member := by
    rcases List.mem_cons.mp member with same | later
    · cases same
      exact own
    · exact calls.own other otherValue later

/-- If the calls are those that the lines ask for, each setting makes its own. -/
theorem own_calls (wellFormed : ∀ line ∈ lines, line.WellFormed) (idle : Idle pending)
    (made : callsFrom fits [] pending lines = settings lines ++ more) :
    more = [] ∧ OwnCalls fits lines ∧
      (pending ≠ [] → ∀ key value, lines.head? ≠ some (.setting key value)) := by
  induction lines generalizing pending with
  | nil =>
      refine ⟨made.symm, ⟨.nil, fun _ _ => ?_⟩, fun _ _ _ => ?_⟩
      · rintro ⟨⟩
      · rintro ⟨⟩
  | cons line rest ih =>
      have inner : ∀ {pending}, Idle pending →
          callsFrom fits [] pending rest = settings rest ++ more →
          more = [] ∧ OwnCalls fits rest ∧
            (pending ≠ [] → ∀ key value, rest.head? ≠ some (.setting key value)) :=
        fun idle made =>
          ih (fun other member => wellFormed other (List.mem_cons_of_mem _ member)) idle made
      have total := congrArg List.length made
      rw [List.length_append, length_settings_cons] at total
      rw [settings_cons] at made
      cases call : line.call with
      | none =>
          rw [call, Option.toList_none, List.nil_append] at made
          have notSetting : ∀ key value, (line :: rest).head? ≠ some (.setting key value) := by
            rintro key value ⟨⟩
            cases call
          cases dangling : dangles false line.text with
          | true =>
              rw [callsFrom_joined dangling] at made
              obtain ⟨none, calls, head⟩ := inner (idle.append call) made
              have some : pending ++ protect false line.text ≠ [] := by
                cases line with
                | empty => cases dangling
                | comment text => exact List.append_ne_nil_of_right_ne_nil _ (List.cons_ne_nil _ _)
                | setting key value => cases call
              exact ⟨none, calls.cons call fun _ => head some, fun _ => notSetting⟩
          | false =>
              rw [callsFrom_ended dangling, (idle.append call).none, Option.toList_none,
                List.nil_append] at made
              obtain ⟨none, calls, -⟩ := inner idle_nil made
              refine ⟨none, calls.cons call fun also => ?_, fun _ => notSetting⟩
              rw [dangling] at also
              cases also
      | some asked =>
          rw [call, Option.toList_some, List.length_singleton] at total
          -- Behind a comment the setting would be missing.
          have nothing : pending = [] := by
            by_contra nonempty
            have bound := length_calls_behind fits [] idle nonempty line rest
            omega
          subst nothing
          cases line with
          | empty | comment => cases call
          | setting key value =>
              have wellFormed := wellFormed _ List.mem_cons_self
              have made : callsFrom fits [] [] (.setting key value :: rest) =
                  [key, value] :: (settings rest ++ more) := made
              cases dangling : dangles false (PropLine.setting key value).text with
              | true =>
                  rw [callsFrom_joined dangling, List.nil_append] at made
                  have few := few_calls_of_dangling wellFormed dangling made
                  rw [List.length_append] at few
                  omega
              | false =>
                  rcases first_call dangling made with ⟨own, others⟩ | few
                  · obtain ⟨none, calls, -⟩ := inner idle_nil others
                    exact ⟨none, calls.setting own, absurd rfl⟩
                  · rw [List.length_append] at few
                    omega

/-- Plain settings that are kept apart make the calls they ask for. -/
theorem calls_of_plain (distinct : files.Nodup)
    (wellFormed : ∀ line ∈ lines, line.WellFormed)
    (plain : ∀ key value, .setting key value ∈ lines →
      Plain fits key ∧ Plain fits value ∧ isOption key = false)
    (apart : lines.IsChain Apart) (idle : Idle pending)
    (head : pending ≠ [] → ∀ key value, lines.head? ≠ some (.setting key value)) :
    callsFrom fits files pending lines = settings lines := by
  induction lines generalizing pending with
  | nil => rfl
  | cons line rest ih =>
      obtain ⟨next, apart⟩ := List.isChain_cons.mp apart
      have inner : ∀ {pending}, Idle pending →
          (pending ≠ [] → ∀ key value, rest.head? ≠ some (.setting key value)) →
          callsFrom fits files pending rest = settings rest :=
        fun idle head => ih (fun other member => wellFormed other (List.mem_cons_of_mem _ member))
          (fun key value member => plain key value (List.mem_cons_of_mem _ member)) apart idle head
      have fresh := inner idle_nil (absurd rfl)
      rw [settings_cons]
      cases call : line.call with
      | none =>
          cases dangling : dangles false line.text with
          | true =>
              rw [callsFrom_joined dangling]
              refine inner (idle.append call) fun _ key value setting => ?_
              cases line with
              | empty => cases dangling
              | comment text =>
                  have kept := next _ setting text key value rfl rfl
                  exact absurd (dangling.symm.trans kept) (by decide)
              | setting => cases call
          | false => rw [callsFrom_ended dangling, (idle.append call).none, fresh]
      | some asked =>
          cases line with
          | empty | comment => cases call
          | setting key value =>
              cases call
              obtain ⟨plainKey, plainValue, noOption⟩ := plain key value List.mem_cons_self
              have nothing : pending = [] := by
                by_contra some
                exact head some key value rfl
              have free := free_of_literal plainKey.toLiteral plainValue.toLiteral
              have made := call_of_plain distinct (wellFormed _ List.mem_cons_self) plainKey
                plainValue noOption
              rw [nothing, callsFrom_ended (dangles_of_free free), List.nil_append, fresh, made]

/-- The lines that end in a newline. -/
def readable (lines : List PropLine) (terminated : Bool) : List PropLine :=
  if terminated then lines else lines.dropLast

/-- What can be read is among the lines. -/
theorem readable_subset {terminated : Bool} : readable lines terminated ⊆ lines := by
  cases terminated with
  | true => exact List.Subset.refl _
  | false => exact List.dropLast_subset _

/-- The loop goes through the lines that end in a newline. -/
theorem calls_render (wellFormed : ∀ line ∈ lines, line.WellFormed) (terminated : Bool) :
    calls fits files (render lines terminated) =
      callsFrom fits files [] (readable lines terminated) := by
  have inner : ∀ line ∈ readable lines terminated, line.WellFormed :=
    fun line member => wellFormed line (readable_subset member)
  rw [calls, whileRead_eq, callsFrom]
  cases terminated with
  | true =>
      have whole := readFrom_ended inner List.not_mem_nil []
      rw [List.append_nil] at whole
      exact congrArg _ whole
  | false =>
      have oneLine : '\n' ∉ lines.getLast?.elim [] PropLine.text := by
        cases last : lines.getLast? with
        | none => exact List.not_mem_nil
        | some line => exact (wellFormed line (List.mem_of_getLast? last)).oneLine
      exact congrArg _ (readFrom_ended inner oneLine [])

/-- What an unterminated last line asks for is missing. -/
theorem settings_eq (lines : List PropLine) (terminated : Bool) :
    ∃ missing, settings lines = settings (readable lines terminated) ++ missing ∧
      (missing = [] ↔ terminated = true ∨
        ∀ key value, lines.getLast? ≠ some (.setting key value)) := by
  cases terminated with
  | true => exact ⟨[], (List.append_nil _).symm, iff_of_true rfl (.inl rfl)⟩
  | false =>
      rcases List.eq_nil_or_concat lines with rfl | ⟨init, last, rfl⟩
      · exact ⟨[], rfl, iff_of_true rfl (.inr (by rintro _ _ ⟨⟩))⟩
      · refine ⟨last.call.toList, ?_, ?_⟩
        · rw [readable, if_neg Bool.false_ne_true, List.concat_eq_append, List.dropLast_concat,
            settings, settings, List.filterMap_append, List.filterMap_cons]
          cases last with
          | empty | comment | setting => rfl
        · rw [List.concat_eq_append, List.getLast?_concat]
          cases last with
          | empty | comment =>
              refine iff_of_true rfl (.inr ?_)
              rintro _ _ ⟨⟩
          | setting key value =>
              refine iff_of_false (List.cons_ne_nil _ _) ?_
              rintro (⟨⟨⟩⟩ | distinct)
              exact distinct key value rfl

section

variable {terminated : Bool} (ends : terminated = true ∨
  ∀ key value, lines.getLast? ≠ some (.setting key value))

include ends

/-- A setting can be read when it is terminated or not the last line. -/
theorem mem_readable (member : .setting key value ∈ lines) :
    .setting key value ∈ readable lines terminated := by
  cases terminated with
  | true => exact member
  | false =>
      have other := ends.resolve_left Bool.false_ne_true
      rcases List.eq_nil_or_concat lines with rfl | ⟨init, last, rfl⟩
      · cases member
      · rw [List.concat_eq_append] at member other
        rw [readable, if_neg Bool.false_ne_true, List.concat_eq_append, List.dropLast_concat]
        rw [List.getLast?_concat] at other
        rcases List.mem_append.mp member with before | here
        · exact before
        · exact absurd (congrArg some (List.mem_singleton.mp here).symm) (other key value)

/-- Neighbours are apart in the readable lines when they are in all lines. -/
theorem isChain_readable :
    lines.IsChain Apart ↔ (readable lines terminated).IsChain Apart := by
  cases terminated with
  | true => exact Iff.rfl
  | false =>
      have other := ends.resolve_left Bool.false_ne_true
      rcases List.eq_nil_or_concat lines with rfl | ⟨init, last, rfl⟩
      · exact Iff.rfl
      · rw [List.concat_eq_append] at other ⊢
        rw [readable, if_neg Bool.false_ne_true, List.dropLast_concat, List.isChain_append]
        rw [List.getLast?_concat] at other
        refine ⟨fun chains => chains.1, fun chain => ⟨chain, .singleton last, ?_⟩⟩
        rintro before - _ ⟨⟩ text key value - rfl
        exact absurd rfl (other key value)

end

/-- The loop sets every property to its value, whatever files the directory holds (none twice),
exactly if the file is `Verbatim`. -/
theorem calls_eq_settings_iff (wellFormed : ∀ line ∈ lines, line.WellFormed) (terminated : Bool) :
    (∀ files : List (List Char), files.Nodup →
      calls fits files (render lines terminated) = settings lines) ↔
    Verbatim fits lines terminated := by
  have inner : ∀ line ∈ readable lines terminated, line.WellFormed :=
    fun line member => wellFormed line (readable_subset member)
  obtain ⟨missing, split, missing_iff⟩ := settings_eq lines terminated
  constructor
  · intro same
    have made := same [] List.nodup_nil
    rw [calls_render wellFormed, split] at made
    obtain ⟨none, ⟨apart, own⟩, -⟩ := own_calls inner idle_nil made
    have ends := missing_iff.mp none
    refine ⟨fun key value member => ?_, (isChain_readable ends).mpr apart, ends⟩
    -- In a directory with one file, no word of the setting fits its name.
    have patterns : ∀ word ∈ [key, value], ∀ name, fits word name = true → name = word := by
      intro word inside name fitting
      have called : [key, value] ∈ calls fits [name] (render lines terminated) := by
        rw [same [name] (List.nodup_singleton name)]
        exact List.mem_filterMap.mpr ⟨_, member, rfl⟩
      obtain ⟨l, -, made⟩ := List.mem_filterMap.mp called
      rw [← loopBody_eq_some made] at inside
      rcases of_mem_echoed inside with itself | apart
      · exact itself.symm
      · rw [fitting] at apart
        cases apart
    obtain ⟨keyLiteral, valueLiteral, noOption⟩ :=
      literal_of_call (wellFormed _ member) (own key value (mem_readable ends member))
    exact ⟨⟨keyLiteral, patterns key (by simp)⟩, ⟨valueLiteral, patterns value (by simp)⟩, noOption⟩
  · rintro ⟨plain, apart, ends⟩ files distinct
    rw [calls_render wellFormed, split, missing_iff.mpr ends, List.append_nil]
    exact calls_of_plain distinct inner
      (fun key value member => plain key value (readable_subset member))
      ((isChain_readable ends).mp apart) idle_nil (absurd rfl)

theorem calls_eq_settings_commented :
    calls (fun pattern name => pattern = name) [['v']]
        (render [.comment ['#'], .empty, .setting ['k'] ['v', '=']] true) =
      settings [.comment ['#'], .empty, .setting ['k'] ['v', '=']] := by
  refine (calls_eq_settings_iff ?_ true).mpr ⟨?_, ?_, .inl rfl⟩ [['v']] (List.nodup_singleton _)
  · intro line member
    simp only [List.mem_cons, List.not_mem_nil, or_false] at member
    rcases member with rfl | rfl | rfl
    · simp [PropLine.WellFormed]
    · trivial
    · simp [PropLine.WellFormed, PropLine.printable]
  · intro key value member
    simp only [List.mem_cons, List.not_mem_nil, or_false, reduceCtorEq, false_or] at member
    obtain ⟨rfl, rfl⟩ := PropLine.setting.inj member
    refine ⟨plain_of_free ?_ ?_ ?_ ?_, plain_of_free ?_ ?_ ?_ ?_, rfl⟩ <;> simp [ifs]
  · refine List.isChain_cons_cons.mpr ⟨?_, List.isChain_cons_cons.mpr ⟨?_, .singleton _⟩⟩
    · rintro text key value - ⟨⟩
    · rintro text key value ⟨⟩

theorem calls_ne_settings :
    ¬ ∀ (fits : List Char → List Char → Bool) (files : List (List Char)) (lines : List PropLine)
        (terminated : Bool), files.Nodup → (∀ line ∈ lines, line.WellFormed) →
        calls fits files (render lines terminated) = settings lines := by
  intro all
  let fits : List Char → List Char → Bool := fun pattern name => pattern = name
  have wellFormed : ∀ line ∈ [PropLine.setting ['k'] ['a', ' ', 'b']], line.WellFormed := by
    intro line member
    rw [List.mem_singleton.mp member]
    simp [PropLine.WellFormed, PropLine.printable]
  have plain : ∀ word ∈ [['k'], ['a'], ['b']], Plain fits word := by
    intro word member
    simp only [List.mem_cons, List.not_mem_nil, or_false] at member
    rcases member with rfl | rfl | rfl <;> refine plain_of_free ?_ ?_ ?_ ?_ <;> simp [ifs]
  have body : loopBody fits [] ['k', '=', 'a', ' ', 'b'] = some [['k'], ['a'], ['b']] :=
    loopBody_words List.nodup_nil (by decide) (by decide) rfl (List.cons_ne_nil _ _) plain
  have whole : strip (protect false (PropLine.setting ['k'] ['a', ' ', 'b']).text) =
      ['k', '=', 'a', ' ', 'b'] := by decide
  have same := all fits [] _ true List.nodup_nil wellFormed
  rw [calls_render wellFormed, readable, if_pos rfl, callsFrom_ended rfl, List.nil_append, whole,
    body] at same
  have first := congrArg List.head? same
  cases first

end T00F.Rootdir
