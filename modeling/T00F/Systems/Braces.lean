import T00F.Systems.Shrinking

/-!
# Brace expansion

`braces` replaces the first group `{...,...}` of a word by each of its fields, and goes on
with what is then behind the place of the brace. A group without a comma is passed over, and
behind a brace without its partner nothing is expanded. `Shrinking.braces` and `Keeps.braces`
say what this does to a word.
-/

namespace Systems

/-- The fields of a group, the first of them behind `field`, and what follows the group. `depth`
counts the groups that are open within it. -/
def braceFields (field : List Char) (depth : Nat) :
    List Char → Option (List (List Char) × List Char)
  | [] => none
  | char :: rest =>
      if char = '{' then braceFields (field ++ [char]) (depth + 1) rest
      else if char = '}' then
        if depth = 0 then some ([field], rest) else braceFields (field ++ [char]) (depth - 1) rest
      else if char = ',' ∧ depth = 0 then
        (braceFields [] 0 rest).map fun found => (field :: found.1, found.2)
      else braceFields (field ++ [char]) depth rest

/-- The fields, put together again. -/
theorem braceFields_eq_some {field text tail : List Char} {depth : Nat} {fields : List (List Char)}
    (found : braceFields field depth text = some (fields, tail)) :
    fields ≠ [] ∧ field ++ text = [','].intercalate fields ++ '}' :: tail := by
  induction text generalizing field depth fields with
  | nil => cases found
  | cons char rest ih =>
      have longer : field ++ char :: rest = field ++ [char] ++ rest := by simp
      rw [braceFields] at found
      split_ifs at found with opens closes outer comma
      · rw [longer]
        exact ih found
      · cases found
        rw [closes, List.intercalate_singleton]
        exact ⟨List.cons_ne_nil _ _, rfl⟩
      · rw [longer]
        exact ih found
      · obtain ⟨⟨others, tail⟩, more, same⟩ := Option.map_eq_some_iff.mp found
        cases same
        obtain ⟨some, joined⟩ := ih more
        rw [List.nil_append] at joined
        rw [comma.1, joined, List.intercalate_cons_of_ne_nil some]
        exact ⟨List.cons_ne_nil _ _, by simp⟩
      · rw [longer]
        exact ih found

/-- The first group of a text: what comes before it, its fields, and what comes behind. -/
def braceGroup (text : List Char) : Option (List Char × List (List Char) × List Char) :=
  match text.dropWhile (· ≠ '{') with
  | [] => none
  | _ :: inner =>
      (braceFields [] 0 inner).map fun found => (text.takeWhile (· ≠ '{'), found.1, found.2)

/-- A brace group found in a text is a part of that text, with at least one field. -/
theorem braceGroup_eq_some {text before tail : List Char} {fields : List (List Char)}
    (found : braceGroup text = some (before, fields, tail)) :
    fields ≠ [] ∧ text = before ++ '{' :: ([','].intercalate fields ++ '}' :: tail) := by
  unfold braceGroup at found
  split at found
  · cases found
  next char inner opens =>
    have first : char = '{' := by
      have stopped := List.head?_dropWhile_not (· ≠ '{') text
      rw [opens] at stopped
      simpa using stopped
    obtain ⟨⟨fields, tail⟩, more, same⟩ := Option.map_eq_some_iff.mp found
    cases same
    obtain ⟨some, joined⟩ := braceFields_eq_some more
    rw [List.nil_append] at joined
    refine ⟨some, ?_⟩
    calc text = text.takeWhile (· ≠ '{') ++ text.dropWhile (· ≠ '{') :=
          List.takeWhile_append_dropWhile.symm
      _ = _ := by rw [opens, first, joined]

/-- A field is no longer than the group it stands in. -/
theorem length_field_le {field : List Char} {fields : List (List Char)} (member : field ∈ fields) :
    field.length ≤ ([','].intercalate fields).length := by
  induction fields with
  | nil => cases member
  | cons first fields ih =>
      cases fields with
      | nil =>
          rw [List.mem_singleton.mp member, List.intercalate_singleton]
      | cons second fields =>
          rw [List.intercalate_cons_cons, List.length_append, List.length_append]
          rcases List.mem_cons.mp member with rfl | later
          · omega
          · have inner := ih later
            omega

/-- A field and what comes behind the group are shorter than the text. -/
theorem length_field_tail {text before tail field : List Char} {fields : List (List Char)}
    (found : braceGroup text = some (before, fields, tail)) (member : field ∈ fields) :
    (before ++ (field ++ tail)).length < text.length := by
  obtain ⟨-, joined⟩ := braceGroup_eq_some found
  have bound := length_field_le member
  rw [joined]
  simp only [List.length_append, List.length_cons]
  omega

/-- The expansion of a word of which `done` has been dealt with. -/
def bracesFrom (done rest : List Char) : List (List Char) :=
  match _found : braceGroup rest with
  | none => [done ++ rest]
  | some (before, [field], tail) => bracesFrom (done ++ before ++ '{' :: (field ++ ['}'])) tail
  | some (before, fields, tail) =>
      fields.attach.flatMap fun field => bracesFrom (done ++ before) (field.1 ++ tail)
termination_by rest.length
decreasing_by
  · have shorter := length_field_tail _found (List.mem_singleton_self field)
    simp only [List.length_append] at shorter
    omega
  · have shorter := length_field_tail _found field.2
    simp only [List.length_append] at shorter ⊢
    omega

/-- The expansion of a word. -/
def braces (word : List Char) : List (List Char) := bracesFrom [] word

/-- A group that is passed over is left as it is. -/
theorem passed_over {text before field tail : List Char}
    (found : braceGroup text = some (before, [field], tail)) (done : List Char) :
    done ++ before ++ '{' :: (field ++ ['}']) ++ tail = done ++ text := by
  obtain ⟨-, joined⟩ := braceGroup_eq_some found
  rw [joined, List.intercalate_singleton]
  simp

/-- What comes out is shorter than the word or the word itself. -/
theorem of_mem_bracesFrom {done rest word : List Char} (member : word ∈ bracesFrom done rest) :
    word = done ++ rest ∨ word.length < (done ++ rest).length := by
  fun_induction bracesFrom done rest with
  | case1 done rest none => exact .inl (List.mem_singleton.mp member)
  | case2 done rest before field tail found ih =>
      rw [← passed_over found done]
      exact ih member
  | case3 done rest before fields tail several found ih =>
      right
      obtain ⟨field, -, made⟩ := List.mem_flatMap.mp member
      have shorter := length_field_tail found field.2
      simp only [List.length_append] at shorter ⊢
      rcases ih field made with same | less
      · rw [same]
        simp only [List.length_append]
        omega
      · simp only [List.length_append] at less
        omega

/-- A word that comes out of its own expansion is all that does. -/
theorem bracesFrom_of_self_mem {done rest : List Char}
    (member : done ++ rest ∈ bracesFrom done rest) : bracesFrom done rest = [done ++ rest] := by
  fun_induction bracesFrom done rest with
  | case1 done rest none => rfl
  | case2 done rest before field tail found ih =>
      rw [← passed_over found done] at member ⊢
      exact ih member
  | case3 done rest before fields tail several found ih =>
      exfalso
      obtain ⟨field, -, made⟩ := List.mem_flatMap.mp member
      have shorter := length_field_tail found field.2
      have long := of_mem_bracesFrom made
      simp only [List.length_append] at shorter long
      rcases long with same | less
      · have equal := congrArg List.length same
        simp only [List.length_append] at equal
        omega
      · omega

theorem Shrinking.braces : Shrinking braces where
  shorter := of_mem_bracesFrom
  alone := bracesFrom_of_self_mem

/-- A word without a brace stays as it is. -/
theorem braces_of_free {word : List Char} (free : '{' ∉ word) : braces word = [word] := by
  have none : braceGroup word = none := by
    have closed : word.dropWhile (· ≠ '{') = [] := by
      refine List.dropWhile_eq_nil_iff.mpr fun char member => decide_eq_true ?_
      rintro rfl
      exact free member
    rw [braceGroup, closed]
  rw [braces, bracesFrom]
  split
  · rfl
  next found => rw [none] at found; cases found
  next found => rw [none] at found; cases found

/-- Each of several texts makes at least what they share and what it has itself. -/
theorem count_flatMap_le {α β : Type*} [DecidableEq α] {char : α} {shared : Nat} {own : β → Nat}
    {stage : β → List (List α)} {items : List β} (some : items ≠ [])
    (bound : ∀ item ∈ items, shared + own item ≤ (stage item).flatten.count char) :
    shared + (items.map own).sum ≤ (items.flatMap stage).flatten.count char := by
  induction items with
  | nil => exact absurd rfl some
  | cons item items ih =>
      have here := bound item List.mem_cons_self
      rw [List.map_cons, List.sum_cons, List.flatMap_cons, List.flatten_append, List.count_append]
      cases items with
      | nil =>
          rw [List.map_nil, List.sum_nil]
          omega
      | cons next items =>
          have more := ih (List.cons_ne_nil _ _) fun item member =>
            bound item (List.mem_cons_of_mem _ member)
          omega

/-- Commas aside, joining the fields keeps every character. -/
theorem count_intercalate {char : Char} (noComma : char ≠ ',') (fields : List (List Char)) :
    ([','].intercalate fields).count char = (fields.map (·.count char)).sum := by
  induction fields with
  | nil => rfl
  | cons field fields ih =>
      cases fields with
      | nil => simp
      | cons next fields =>
          rw [List.intercalate_cons_cons, List.count_append, List.count_append, ih,
            List.count_singleton, if_neg (by simpa using noComma.symm)]
          simp

/-- Brace expansion loses no character but the braces and commas. -/
theorem count_bracesFrom {char : Char} (noOpen : char ≠ '{') (noClose : char ≠ '}')
    (noComma : char ≠ ',') (done rest : List Char) :
    (done ++ rest).count char ≤ (bracesFrom done rest).flatten.count char := by
  fun_induction bracesFrom done rest with
  | case1 done rest none => rw [List.flatten_singleton]
  | case2 done rest before field tail found ih =>
      rw [← passed_over found done]
      exact ih
  | case3 done rest before fields tail several found ih =>
      obtain ⟨some, joined⟩ := braceGroup_eq_some found
      have bound : ∀ field ∈ fields.attach,
          ((done ++ before).count char + tail.count char) + field.1.count char ≤
            (bracesFrom (done ++ before) (field.1 ++ tail)).flatten.count char := by
        intro field _
        have here := ih field
        simp only [List.count_append] at here ⊢
        omega
      have total := count_flatMap_le (by rwa [Ne, List.attach_eq_nil_iff]) bound
      have own : (fields.attach.map fun field => field.1.count char) =
          fields.map (·.count char) := List.attach_map_val
      rw [own, ← count_intercalate noComma] at total
      rw [joined]
      simp only [List.count_append, List.count_cons_of_ne noOpen.symm,
        List.count_cons_of_ne noClose.symm] at total ⊢
      omega

/-- Brace expansion keeps every character that is not a brace or a comma. -/
theorem Keeps.braces {char : Char} (noOpen : char ≠ '{') (noClose : char ≠ '}')
    (noComma : char ≠ ',') : Keeps char braces :=
  count_bracesFrom noOpen noClose noComma []

end Systems
