import KeyedContainers.MatchMap.Step

/-!
# Requests that stand for others

A map may be asked for its keys by requests of another type, each of which stands for a request of
the first type. Then it does what it does when asked directly, and cannot tell apart two requests
that stand for the same. So it is with texts and slices of texts, which stand for their characters.
-/

namespace KeyedContainers

variable {K Q R V : Type}

/-- A setting with requests that stand for its own. -/
def Setting.through (f : R → Q) (S : Setting K Q) : Setting K R :=
  { S with query := fun r => S.query (f r) }

/-- Texts asked for by texts and slices are texts asked for by the characters of the requests. -/
theorem Setting.texts_eq_through (hasher : Hasher) :
    texts hasher = (standard hasher fun s t => !(t < s)).through TextRequest.text := by
  have hquery : (texts hasher).query = fun r => Query.of hasher r.text := by
    funext r
    cases r <;> rfl
  exact congrArg (fun query => { texts hasher with query := query }) hquery

namespace MatchMap

/-- The operation with the request for which its own stands. -/
def Step.mapRequest (f : R → Q) : Step K R V → Step K Q V
  | .insert k v => .insert k v
  | .extend pairs => .extend pairs
  | .build pairs => .build pairs
  | .contains r => .contains (f r)
  | .get r => .get (f r)
  | .tryGet r => .tryGet (f r)
  | .demand r => .demand (f r)
  | .getKeyValue r => .getKeyValue (f r)
  | .set r v => .set (f r) v
  | .remove r => .remove (f r)
  | .find r => .find (f r)
  | .keyOf h => .keyOf h
  | .valueOf h => .valueOf h
  | .exchange h v => .exchange h v
  | .removeHandle h => .removeHandle h
  | .size => .size
  | .clear => .clear
  | .entries => .entries
  | .firstEntries n => .firstEntries n
  | .updateFirst limit g => .updateFirst limit g
  | .keys => .keys
  | .values => .values
  | .inspect style => .inspect style
  | .conventional asked => .conventional asked
  | .intoConventional asked => .intoConventional asked

variable [Listed K] [Listed V] (f : R → Q) (S : Setting K Q) (m : MatchMap K V)

/-- An operation does what it does with the request for which its own stands. -/
theorem step_through (s : Step K R V) : m.step (S.through f) s = m.step S (s.mapRequest f) := by
  cases s <;> rfl

/-- Operations do what they do with the requests for which theirs stand. -/
theorem run_through (steps : List (Step K R V)) :
    m.run (S.through f) steps = m.run S (steps.map (Step.mapRequest f)) := by
  induction steps generalizing m with
  | nil => rfl
  | cons s steps ih => simp only [List.map_cons, run, step_through, ih]

/-- A run does not depend on which of the requests with one meaning are used. -/
theorem run_through_congr {steps steps' : List (Step K R V)}
    (hsame : steps'.map (Step.mapRequest f) = steps.map (Step.mapRequest f)) :
    m.run (S.through f) steps' = m.run (S.through f) steps := by
  rw [run_through, hsame, run_through]

end MatchMap

end KeyedContainers
