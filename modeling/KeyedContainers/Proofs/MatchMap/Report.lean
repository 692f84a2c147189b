import KeyedContainers.Proofs.MatchMap.Change

/-!
# Reports of a map

Look-ups report nothing, and neither do removals and writes. An insertion reports that it
replaced a value exactly when the key finds an entry, and binding pairs reports what the
insertions do.
-/

namespace KeyedContainers.MatchMap

variable {K Q V : Type}

@[simp] theorem events_find (m : MatchMap K V) (q : Query K) : (m.find q).trace.events = [] :=
  events_ask m.arena q _

@[simp] theorem events_get? (m : MatchMap K V) (q : Query K) : (m.get? q).trace.events = [] := by
  simp [get?]

@[simp] theorem events_tryGet (m : MatchMap K V) (q : Query K) :
    (m.tryGet q).trace.events = [] := by
  unfold tryGet
  rw [Traced.trace_bind, Trace.events_append, events_get?, List.nil_append]
  cases (m.get? q).value <;> rfl

/-- An insertion reports the hash of a key that finds an entry, and nothing else. -/
theorem events_insert (M : Matching K) (m : MatchMap K V) (k : K) (v : V) :
    (m.insert M k v).trace.events =
      if (m.find (M.query k)).value.isSome then [.replacedValue (M.hash k)] else [] := by
  unfold insert
  rw [Traced.trace_bind, Trace.events_append, events_find, List.nil_append]
  cases (m.find (M.query k)).value <;> rfl

/-- Binding pairs reports what the first insertion does and then what the others do. -/
theorem events_extend_cons (M : Matching K) (m : MatchMap K V) (pair : K × V)
    (pairs : List (K × V)) :
    (m.extend M (pair :: pairs)).trace.events =
      (m.insert M pair.1 pair.2).trace.events ++
        ((m.insert M pair.1 pair.2).value.2.extend M pairs).trace.events := rfl

/-- A map built from pairs reports what binding them does, and its size. -/
theorem events_ofPairs (M : Matching K) (pairs : List (K × V)) :
    (ofPairs M pairs).trace.events =
      ((empty : MatchMap K V).extend M pairs).trace.events ++
        [.builtFromPairs ((empty : MatchMap K V).extend M pairs).value.length] := rfl

/-- Whether an operation may report events. -/
def Step.reports : Step K Q V → Bool
  | .insert .. | .extend _ | .build _ => true
  | _ => false

/-- The other operations report nothing. -/
theorem events_step_eq_nil [Listed K] [Listed V] (S : Setting K Q) (m : MatchMap K V)
    {s : Step K Q V} (hquiet : s.reports = false) : (m.step S s).trace.events = [] := by
  cases s with
  | insert | extend | build => simp [Step.reports] at hquiet
  | set q v =>
    simp only [step, set, Traced.trace_bind, Trace.events_append, events_find]
    cases (m.find (S.query q)).value <;> rfl
  | remove q =>
    simp only [step, remove, Traced.trace_bind, Trace.events_append, events_find]
    cases (m.find (S.query q)).value <;> rfl
  | contains q | get q | tryGet q | demand q | getKeyValue q | find q =>
    simp [step, answering, contains, demand, getKeyValue?]
  | keyOf | valueOf | exchange | removeHandle | size | clear | entries | firstEntries
  | updateFirst | keys | values | inspect | conventional | intoConventional => rfl

/-- A run reports what the first operation does and then what the others do. -/
theorem events_run_cons [Listed K] [Listed V] (S : Setting K Q) (m : MatchMap K V)
    (s : Step K Q V) (steps : List (Step K Q V)) :
    (m.run S (s :: steps)).trace.events =
      (m.step S s).trace.events ++ ((m.step S s).value.2.run S steps).trace.events := by
  simp [run]

end KeyedContainers.MatchMap
