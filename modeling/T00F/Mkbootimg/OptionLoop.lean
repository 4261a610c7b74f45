import T00F.Mkbootimg.Wrap

/-!
# The option loop of mkbootimg-wrap

Which arguments stand in option position, and what the loop leaves in the variables of the
wrapper. `parseOptions_ends_iff` says that it ends with the values of the last occurrences
unless the last argument is an option whose value is missing, over which `shift 2` cannot
step.
-/

namespace T00F.Mkbootimg

open Systems

/-- The options that take a value. -/
def valueOptions : List Text :=
  [kernelOption, ramdiskOption, outputOption, cmdlineOption] ++ ignoredOptions

/-- The arguments that are read as options: the first one, and what follows an option and
its value or an argument that takes no value. -/
inductive OptionPosition (args : List Text) : Nat → Prop where
  | first : OptionPosition args 0
  | behindValue {place : Nat} {arg : Text} (position : OptionPosition args place)
      (here : args[place]? = some arg) (takesValue : arg ∈ valueOptions) :
      OptionPosition args (place + 2)
  | behindArg {place : Nat} {arg : Text} (position : OptionPosition args place)
      (here : args[place]? = some arg) (noValue : arg ∉ valueOptions) :
      OptionPosition args (place + 1)

/-- The last argument is an option that takes a value. -/
def MissingValue (args : List Text) : Prop :=
  ∃ place arg, OptionPosition args place ∧ args[place]? = some arg ∧ arg ∈ valueOptions ∧
    place + 1 = args.length

/-- The variables that the loop sets. -/
inductive WrapVariable where
  | kernel
  | ramdisk
  | output
  | cmdline
deriving DecidableEq, Repr

/-- The option of a variable. -/
def WrapVariable.option : WrapVariable → Text
  | .kernel => kernelOption
  | .ramdisk => ramdiskOption
  | .output => outputOption
  | .cmdline => cmdlineOption

/-- The value of a variable. -/
def Options.get (options : Options) : WrapVariable → Text
  | .kernel => options.kernel
  | .ramdisk => options.ramdisk
  | .output => options.output
  | .cmdline => options.cmdline

/-- The value follows the last occurrence of the option among the option positions before
`bound`; without an occurrence it is empty. -/
def LastValue (args : List Text) (bound : Nat) (option value : Text) : Prop :=
  (∃ place < bound, OptionPosition args place ∧ args[place]? = some option ∧
    args[place + 1]? = some value ∧
    ∀ later < bound, place < later → OptionPosition args later → args[later]? ≠ some option) ∨
  (∀ place < bound, OptionPosition args place → args[place]? ≠ some option) ∧ value = []

/-- The value of an option is not in option position. -/
theorem OptionPosition.not_value {args : List Text} {place : Nat} {arg : Text}
    (position : OptionPosition args place) (here : args[place]? = some arg)
    (takesValue : arg ∈ valueOptions) : ¬ OptionPosition args (place + 1) := by
  induction place generalizing arg with
  | zero =>
      intro next
      cases next with
      | behindArg _ same noValue =>
          cases here.symm.trans same
          exact noValue takesValue
  | succ place ih =>
      intro next
      cases next with
      | behindValue before same takes => exact ih before same takes position
      | behindArg _ same noValue =>
          cases here.symm.trans same
          exact noValue takesValue

/-- Between two option positions there is none. -/
theorem OptionPosition.le_of_lt_next {args : List Text} {place later : Nat} {arg : Text}
    (position : OptionPosition args place) (here : args[place]? = some arg)
    (found : OptionPosition args later)
    (before : later < if arg ∈ valueOptions then place + 2 else place + 1) : later ≤ place := by
  split at before
  next takesValue =>
    rcases Nat.lt_or_eq_of_le (Nat.le_of_lt_succ before) with early | value
    · omega
    · rw [value] at found
      exact absurd found (position.not_value here takesValue)
  next => omega

theorem OptionPosition.next {args : List Text} {place : Nat} {arg : Text}
    (position : OptionPosition args place) (here : args[place]? = some arg) :
    OptionPosition args (if arg ∈ valueOptions then place + 2 else place + 1) := by
  split
  next takesValue => exact position.behindValue here takesValue
  next noValue => exact position.behindArg here noValue

/-! ## One iteration -/

/-- The arguments behind the first one, without its value if it takes one. -/
theorem next_args {state : Parsing} {arg : Text} {rest : List Text}
    (more : state.args = arg :: rest) :
    state.next.args = if arg ∈ valueOptions then shiftTwo (arg :: rest) else rest := by
  obtain ⟨args, options⟩ := state
  cases more
  simp only [Parsing.next, valueOptions, List.mem_append, List.mem_cons, List.not_mem_nil, or_false]
  split_ifs <;> first | rfl | grind

/-- Unless a value is missing, what is left starts at the next option position. -/
theorem next_drop {args : List Text} {place : Nat} {state : Parsing}
    (rest : state.args = args.drop place) {arg : Text} (here : args[place]? = some arg)
    (followed : arg ∈ valueOptions → place + 1 < args.length) :
    state.next.args = args.drop (if arg ∈ valueOptions then place + 2 else place + 1) := by
  obtain ⟨inside, rfl⟩ := List.getElem?_eq_some_iff.mp here
  rw [List.drop_eq_getElem_cons inside] at rest
  rw [next_args rest]
  split
  next takesValue =>
    have two : 2 ≤ (args[place] :: args.drop (place + 1)).length := by
      rw [List.length_cons, List.length_drop]
      have := followed takesValue
      omega
    rw [shiftTwo, if_pos two, List.drop_succ_cons, List.drop_drop]
  next => rfl

/-- Only the variable of the option changes. -/
theorem next_get {state : Parsing} {arg : Text} {rest : List Text}
    (more : state.args = arg :: rest) (name : WrapVariable) :
    state.next.options.get name =
      if arg = name.option then rest.headD [] else state.options.get name := by
  obtain ⟨args, options⟩ := state
  cases more
  simp only [Parsing.next]
  cases name
  all_goals
    simp only [WrapVariable.option, Options.get]
    split_ifs
  all_goals
    first
    | rfl
    | grind [kernelOption, ramdiskOption, outputOption, cmdlineOption]

/-- An occurrence of an option that takes a value, with its value, or of any other argument
extends what is known about the last value. -/
theorem LastValue.next {args : List Text} {place : Nat} {arg option value : Text}
    (last : LastValue args place option value) (position : OptionPosition args place)
    (here : args[place]? = some arg)
    (behind : arg = option → args[place + 1]?.isSome) :
    LastValue args (if arg ∈ valueOptions then place + 2 else place + 1) option
      (if arg = option then (args.drop (place + 1)).headD [] else value) := by
  have bound : place < if arg ∈ valueOptions then place + 2 else place + 1 := by
    split <;> omega
  by_cases same : arg = option
  · obtain ⟨found, present⟩ := Option.isSome_iff_exists.mp (behind same)
    rw [if_pos same, List.headD_eq_head?_getD, List.head?_drop, present, Option.getD_some]
    refine Or.inl ⟨place, bound, position, same ▸ here, present, ?_⟩
    intro later before after found
    have := position.le_of_lt_next here found before
    omega
  · rw [if_neg same]
    have absent : ∀ later, OptionPosition args later →
        (later < if arg ∈ valueOptions then place + 2 else place + 1) →
        (later < place → args[later]? ≠ some option) → args[later]? ≠ some option := by
      intro later found before early
      rcases Nat.lt_or_eq_of_le (position.le_of_lt_next here found before) with low | here'
      · exact early low
      · rw [here', here]
        exact fun equal => same (Option.some.inj equal)
    rcases last with ⟨first, low, found, occurs, followed, latest⟩ | ⟨none, empty⟩
    · refine Or.inl ⟨first, Nat.lt_trans low bound, found, occurs, followed, ?_⟩
      intro later before after found
      exact absent later found before fun low => latest later low after found
    · exact Or.inr ⟨fun later before found => absent later found before fun low =>
        none later low found, empty⟩

/-- Behind the last argument nothing is added. -/
theorem LastValue.whole {args : List Text} {place : Nat} {option value : Text}
    (last : LastValue args place option value) (outside : args.length ≤ place) :
    LastValue args args.length option value := by
  rcases last with ⟨first, _, found, occurs, followed, latest⟩ | ⟨none, empty⟩
  · obtain ⟨inside, _⟩ := List.getElem?_eq_some_iff.mp occurs
    exact Or.inl ⟨first, inside, found, occurs, followed,
      fun later before => latest later (Nat.lt_of_lt_of_le before outside)⟩
  · exact Or.inr ⟨fun later before => none later (Nat.lt_of_lt_of_le before outside), empty⟩

/-! ## The whole loop -/

/-- What holds in front of each iteration. -/
structure Parsed (args : List Text) (place : Nat) (state : Parsing) : Prop where
  position : OptionPosition args place
  rest : state.args = args.drop place
  values : ∀ name : WrapVariable, LastValue args place name.option (state.options.get name)

theorem option_mem_valueOptions (name : WrapVariable) : name.option ∈ valueOptions := by
  cases name <;> decide

/-- An iteration that is not left with a missing value goes on at the next option position. -/
theorem Parsed.next {args : List Text} {place : Nat} {state : Parsing}
    (parsed : Parsed args place state) {arg : Text} (here : args[place]? = some arg)
    (followed : arg ∈ valueOptions → place + 1 < args.length) :
    Parsed args (if arg ∈ valueOptions then place + 2 else place + 1) state.next := by
  obtain ⟨inside, rfl⟩ := List.getElem?_eq_some_iff.mp here
  have more : state.args = args[place] :: args.drop (place + 1) := by
    rw [parsed.rest, List.drop_eq_getElem_cons inside]
  constructor
  case position => exact parsed.position.next here
  case rest => exact next_drop parsed.rest here followed
  case values =>
    intro name
    rw [next_get more]
    refine (parsed.values name).next parsed.position here fun same => ?_
    have takesValue : args[place] ∈ valueOptions := same ▸ option_mem_valueOptions name
    rw [List.getElem?_eq_getElem (followed takesValue)]
    rfl

/-- Before the first iteration all variables are empty. -/
theorem initial_parsed (args : List Text) : Parsed args 0 ⟨args, ⟨[], [], [], []⟩⟩ where
  position := .first
  rest := rfl
  values name := Or.inr ⟨fun _ low => absurd low (Nat.not_lt_zero _), by cases name <;> rfl⟩

theorem args_isEmpty_iff {state : Parsing} {args : List Text} {place : Nat}
    (rest : state.args = args.drop place) :
    (!state.args.isEmpty) = true ↔ place < args.length := by
  rw [rest, Bool.not_eq_true', List.isEmpty_eq_false_iff, ne_eq, List.drop_eq_nil_iff, Nat.not_le]

/-- The loop ends unless a value is missing. -/
theorem parseOptions_ends {args : List Text} (complete : ¬ MissingValue args) {fuel : Nat}
    (fueled : args.length < fuel) : ∃ options, parseOptions fuel args = some options ∧
      ∀ name : WrapVariable, LastValue args args.length name.option (options.get name) := by
  have followed : ∀ {place arg}, OptionPosition args place → args[place]? = some arg →
      arg ∈ valueOptions → place + 1 < args.length := by
    intro place arg position here takesValue
    obtain ⟨inside, _⟩ := List.getElem?_eq_some_iff.mp here
    by_contra last
    exact complete ⟨place, arg, position, here, takesValue, by omega⟩
  have step : ∀ state : Parsing, (!state.args.isEmpty) = true →
      (∃ place, Parsed args place state) → ∃ place next, place < next ∧ place < args.length ∧
        Parsed args place state ∧ Parsed args next state.next := by
    rintro state more ⟨place, parsed⟩
    have inside := (args_isEmpty_iff parsed.rest).mp more
    have here := List.getElem?_eq_getElem inside
    refine ⟨place, _, ?_, inside, parsed, parsed.next here (followed parsed.position here)⟩
    split <;> omega
  have preserved : ∀ state : Parsing, (!state.args.isEmpty) = true →
      (∃ place, Parsed args place state) → ∃ place, Parsed args place state.next := by
    intro state more invariant
    obtain ⟨_, next, _, _, _, parsed⟩ := step state more invariant
    exact ⟨next, parsed⟩
  have decreases : ∀ state : Parsing, (!state.args.isEmpty) = true →
      (∃ place, Parsed args place state) → state.next.args.length < state.args.length := by
    intro state more invariant
    obtain ⟨place, next, later, inside, parsed, parsed'⟩ := step state more invariant
    rw [parsed.rest, parsed'.rest, List.length_drop, List.length_drop]
    omega
  have initial : ∃ place, Parsed args place ⟨args, ⟨[], [], [], []⟩⟩ := ⟨0, initial_parsed args⟩
  obtain ⟨final, run, ⟨place, parsed⟩, done⟩ := loop_terminates
    (fun state : Parsing => state.args.length) preserved decreases initial fueled
  have outside : args.length ≤ place := by
    by_contra inside
    rw [(args_isEmpty_iff parsed.rest).mpr (Nat.lt_of_not_le inside)] at done
    cases done
  refine ⟨final.options, ?_, fun name => (parsed.values name).whole outside⟩
  rw [parseOptions, run, Option.map_some]

/-- With a missing value it does not end. -/
theorem parseOptions_endless {args : List Text} (missing : MissingValue args) (fuel : Nat) :
    parseOptions fuel args = none := by
  obtain ⟨last, option, lastPosition, lastHere, lastTakes, ended⟩ := missing
  -- The loop comes to the last argument and stays there.
  let Invariant (state : Parsing) : Prop :=
    ∃ place ≤ last, OptionPosition args place ∧ state.args = args.drop place
  have continues : ∀ state, Invariant state → (!state.args.isEmpty) = true := by
    rintro state ⟨place, before, _, rest⟩
    exact (args_isEmpty_iff rest).mpr (by omega)
  have preserved : ∀ state, Invariant state → Invariant state.next := by
    rintro state ⟨place, before, position, rest⟩
    have inside : place < args.length := by omega
    have here := List.getElem?_eq_getElem inside
    rcases Nat.lt_or_eq_of_le before with earlier | rfl
    · refine ⟨_, ?_, position.next here, next_drop rest here fun _ => by omega⟩
      by_contra skipped
      have := position.le_of_lt_next here lastPosition (Nat.lt_of_not_le skipped)
      omega
    · refine ⟨place, Nat.le_refl _, position, ?_⟩
      cases here.symm.trans lastHere
      have single : args.drop (place + 1) = [] := List.drop_eq_nil_of_le (by omega)
      have alone : state.args = [args[place]] := by
        rw [rest, List.drop_eq_getElem_cons inside, single]
      rw [next_args alone, if_pos lastTakes, List.drop_eq_getElem_cons inside, single]
      rfl
  have initial : Invariant ⟨args, ⟨[], [], [], []⟩⟩ := ⟨0, Nat.zero_le last, .first, rfl⟩
  rw [parseOptions, loop_diverges continues preserved initial, Option.map_none]

/-- The loop ends, with the value that follows the last occurrence of its option in each
variable, exactly if the last argument is not an option in option position that takes a
value. -/
theorem parseOptions_ends_iff (args : List Text) :
    (∃ options, (∃ enough, ∀ fuel ≥ enough, parseOptions fuel args = some options) ∧
      ∀ name : WrapVariable, LastValue args args.length name.option (options.get name)) ↔
    ¬ MissingValue args := by
  constructor
  · rintro ⟨options, ⟨enough, ends⟩, _⟩ missing
    cases (parseOptions_endless missing enough).symm.trans (ends enough (Nat.le_refl _))
  · intro complete
    obtain ⟨options, run, values⟩ := parseOptions_ends complete (Nat.lt_succ_self _)
    refine ⟨options, ⟨args.length + 1, fun fuel enough => ?_⟩, values⟩
    obtain ⟨final, ended, rfl⟩ := Option.map_eq_some_iff.mp run
    rw [parseOptions, loop_mono ended enough, Option.map_some]

/-- `--kernel` alone keeps the loop going. -/
theorem parseOptions_kernelOption : ¬ ∃ options,
    (∃ enough, ∀ fuel ≥ enough, parseOptions fuel [kernelOption] = some options) ∧
      ∀ name : WrapVariable, LastValue [kernelOption] 1 name.option (options.get name) := by
  rintro ⟨options, ⟨enough, ends⟩, _⟩
  have missing : MissingValue [kernelOption] :=
    ⟨0, kernelOption, .first, rfl, List.mem_cons_self, rfl⟩
  cases (parseOptions_endless missing enough).symm.trans (ends enough (Nat.le_refl _))

end T00F.Mkbootimg
