/-!
# Repeated names

A list of names is read from the left, and a name is reported when it is met for the second
time. Each repeated name is therefore reported once, and the reports are in the order of the
second occurrences.
-/

namespace KeyedContainers.FieldName

/-- The names of a list that are met there for the second time, after those already seen. -/
def repeatedAfter (seen : List String) : List String → List String
  | [] => []
  | name :: names =>
    let rest := repeatedAfter (name :: seen) names
    if seen.count name = 1 then name :: rest else rest

/-- The names that occur more than once, in the order of their second occurrences. -/
def repeated (names : List String) : List String := repeatedAfter [] names

theorem repeatedAfter_nil (seen : List String) : repeatedAfter seen [] = [] := rfl

theorem repeatedAfter_cons (seen : List String) (name : String) (names : List String) :
    repeatedAfter seen (name :: names) =
      if seen.count name = 1 then name :: repeatedAfter (name :: seen) names
      else repeatedAfter (name :: seen) names := rfl

/-- A name is still to be reported iff it has been seen at most once and is met a second time. -/
theorem mem_repeatedAfter {seen names : List String} {name : String} :
    name ∈ repeatedAfter seen names ↔
      seen.count name ≤ 1 ∧ 2 ≤ seen.count name + names.count name := by
  induction names generalizing seen with
  | nil =>
    simp only [repeatedAfter_nil, List.not_mem_nil, List.count_nil, false_iff]
    omega
  | cons other names ih =>
    rw [repeatedAfter_cons]
    by_cases hname : other = name
    · subst hname
      split
      · simp only [List.mem_cons, true_or, List.count_cons_self, true_iff]
        omega
      · rw [ih]
        simp only [List.count_cons_self]
        omega
    · have hrest : name ∈ repeatedAfter (other :: seen) names ↔
          seen.count name ≤ 1 ∧ 2 ≤ seen.count name + names.count name := by
        rw [ih, List.count_cons_of_ne hname]
      rw [List.count_cons_of_ne hname]
      split
      · rw [List.mem_cons, hrest]
        exact or_iff_right (Ne.symm hname)
      · exact hrest

/-- The repeated names are those that occur at least twice. -/
theorem mem_repeated {names : List String} {name : String} :
    name ∈ repeated names ↔ 2 ≤ names.count name := by
  simp [repeated, mem_repeatedAfter]

/-- No name is reported twice. -/
theorem nodup_repeatedAfter (seen names : List String) : (repeatedAfter seen names).Nodup := by
  induction names generalizing seen with
  | nil => exact List.nodup_nil
  | cons name names ih =>
    rw [repeatedAfter_cons]
    split
    · refine List.nodup_cons.mpr ⟨?_, ih _⟩
      rw [mem_repeatedAfter, List.count_cons_self]
      omega
    · exact ih _

/-- Every repeated name is listed once. -/
theorem nodup_repeated (names : List String) : (repeated names).Nodup :=
  nodup_repeatedAfter [] names

end KeyedContainers.FieldName
