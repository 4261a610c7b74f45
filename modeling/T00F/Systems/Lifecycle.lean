import Mathlib

/-!
# Lifecycles of resources

A log of what a program does with its resources: each may be acquired once, used
while it is live, and released once. `replay` runs a log and fails at the first entry
that breaks this. `replay_released` says what a log that does not fail has done with a
resource that is not live at its end: it was released as often as it was acquired, and
at most once.
-/

namespace Systems

universe u

/-- The stages of a resource, in order. -/
inductive Life where
  | fresh
  | live
  | released
deriving DecidableEq, Repr

/-- An entry of a log. -/
inductive Use (Resource : Type u) where
  | acquire (resource : Resource)
  | touch (resource : Resource)
  | release (resource : Resource)
deriving DecidableEq, Repr

variable {Resource : Type u} [DecidableEq Resource]

/-- One entry; `none` if the resource is not at the stage for it. -/
def Use.apply (lives : Resource → Life) : Use Resource → Option (Resource → Life)
  | .acquire resource =>
      if lives resource = .fresh then some (Function.update lives resource .live) else none
  | .touch resource => if lives resource = .live then some lives else none
  | .release resource =>
      if lives resource = .live then some (Function.update lives resource .released) else none

/-- A whole log, oldest entry first. -/
def replay (lives : Resource → Life) : List (Use Resource) → Option (Resource → Life)
  | [] => some lives
  | use :: rest =>
      match use.apply lives with
      | none => none
      | some lives => replay lives rest

/-- Replaying a use and then the rest. -/
theorem replay_cons (lives : Resource → Life) (use : Use Resource) (rest : List (Use Resource)) :
    replay lives (use :: rest) = (use.apply lives).bind fun lives => replay lives rest := by
  rw [replay]
  cases use.apply lives <;> rfl

/-- Replaying two logs is replaying the second from where the first ends. -/
theorem replay_append (lives : Resource → Life) (first second : List (Use Resource)) :
    replay lives (first ++ second) =
      (replay lives first).bind fun lives => replay lives second := by
  induction first generalizing lives with
  | nil => rfl
  | cons use rest ih => simp only [List.cons_append, replay_cons, ih, Option.bind_assoc]

/-- Releasing some resources: each of them has to be live and may be listed once. -/
theorem replay_release_iff {lives final : Resource → Life} {resources : List Resource} :
    replay lives (resources.map Use.release) = some final ↔
      resources.Nodup ∧ (∀ resource ∈ resources, lives resource = .live) ∧
        final = fun resource => if resource ∈ resources then .released else lives resource := by
  induction resources generalizing lives with
  | nil => simp [replay, eq_comm]
  | cons first rest ih =>
      rw [List.map_cons, replay_cons, Use.apply]
      by_cases stage : lives first = .live
      · rw [if_pos stage, Option.bind_some, ih, List.nodup_cons]
        constructor
        · rintro ⟨nodup, live, rfl⟩
          have absent : first ∉ rest := by
            intro member
            have dead := live first member
            rw [Function.update_self] at dead
            cases dead
          have other : ∀ resource ∈ rest, lives resource = .live := by
            intro resource member
            have stays := live resource member
            rwa [Function.update_of_ne (ne_of_mem_of_not_mem member absent)] at stays
          refine ⟨⟨absent, nodup⟩, List.forall_mem_cons.mpr ⟨stage, other⟩, ?_⟩
          funext resource
          by_cases same : resource = first
          · subst same
            simp
          · simp [same]
        · rintro ⟨⟨absent, nodup⟩, live, rfl⟩
          refine ⟨nodup, fun resource member => ?_, ?_⟩
          · rw [Function.update_of_ne (ne_of_mem_of_not_mem member absent)]
            exact live resource (List.mem_cons_of_mem _ member)
          · funext resource
            by_cases same : resource = first
            · subst same
              simp
            · simp [same]
      · rw [if_neg stage, Option.bind_none]
        constructor
        · intro impossible
          cases impossible
        · rintro ⟨_, live, _⟩
          exact absurd (live first List.mem_cons_self) stage

/-- How often a resource at this stage has been acquired. -/
def Life.acquired : Life → Nat
  | .fresh => 0
  | .live => 1
  | .released => 1

/-- How often a resource at this stage has been released. -/
def Life.releases : Life → Nat
  | .fresh => 0
  | .live => 0
  | .released => 1

/-- The stages count the entries of the log. -/
theorem replay_counts {lives final : Resource → Life} {log : List (Use Resource)}
    (run : replay lives log = some final) (resource : Resource) :
    (final resource).acquired = (lives resource).acquired + log.count (.acquire resource) ∧
      (final resource).releases = (lives resource).releases + log.count (.release resource) := by
  induction log generalizing lives with
  | nil =>
      cases run
      exact ⟨rfl, rfl⟩
  | cons use rest ih =>
      rw [replay_cons, Option.bind_eq_some_iff] at run
      obtain ⟨next, applied, run⟩ := run
      obtain ⟨acquired, released⟩ := ih run
      rw [acquired, released, List.count_cons, List.count_cons]
      cases use with
      | acquire other =>
          simp only [Use.apply, Option.ite_none_right_eq_some, Option.some.injEq] at applied
          obtain ⟨stage, rfl⟩ := applied
          by_cases same : other = resource
          · subst same
            simp [stage, Life.acquired, Life.releases]
            omega
          · simp [same, Ne.symm same]
      | touch other =>
          simp only [Use.apply, Option.ite_none_right_eq_some, Option.some.injEq] at applied
          obtain ⟨_, rfl⟩ := applied
          simp
      | release other =>
          simp only [Use.apply, Option.ite_none_right_eq_some, Option.some.injEq] at applied
          obtain ⟨stage, rfl⟩ := applied
          by_cases same : other = resource
          · subst same
            simp [stage, Life.acquired, Life.releases]
            omega
          · simp [same, Ne.symm same]

/-- What is not live in the end was released as often as it was acquired. -/
theorem replay_released {final : Resource → Life} {log : List (Use Resource)}
    (run : replay (fun _ => .fresh) log = some final) {resource : Resource}
    (ended : final resource ≠ .live) :
    log.count (.release resource) = log.count (.acquire resource) ∧
      log.count (.acquire resource) ≤ 1 := by
  obtain ⟨acquired, released⟩ := replay_counts run resource
  cases stage : final resource with
  | live => exact absurd stage ended
  | fresh =>
      rw [stage] at acquired released
      simp only [Life.acquired, Life.releases] at acquired released
      omega
  | released =>
      rw [stage] at acquired released
      simp only [Life.acquired, Life.releases] at acquired released
      omega

end Systems
