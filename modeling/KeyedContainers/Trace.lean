import KeyedContainers.Trace.Event

/-!
# Traced computations

Two things about a computation can be watched from outside besides its value: the events that
it reports, and the answers that the caller's match relation gave it, each in order. `Traced`
carries them along with the value. Traces of successive computations are joined end to end.
-/

namespace KeyedContainers

/-- What was seen of a computation. -/
@[ext] structure Trace where
  /-- The reported events. -/
  events : List Event
  /-- The answers of the match relation. -/
  answers : List Bool
deriving DecidableEq, Repr

namespace Trace

/-- Nothing was seen. -/
def empty : Trace := ⟨[], []⟩

/-- One trace after another. -/
instance : Append Trace where
  append s t := ⟨s.events ++ t.events, s.answers ++ t.answers⟩

/-- How often the match relation held. -/
def accepted (t : Trace) : Nat := t.answers.count true

/-- How often the match relation did not hold. -/
def rejected (t : Trace) : Nat := t.answers.count false

@[simp] theorem events_empty : empty.events = [] := rfl

@[simp] theorem answers_empty : empty.answers = [] := rfl

@[simp] theorem events_append (s t : Trace) : (s ++ t).events = s.events ++ t.events := rfl

@[simp] theorem answers_append (s t : Trace) : (s ++ t).answers = s.answers ++ t.answers := rfl

@[simp] theorem empty_append (t : Trace) : empty ++ t = t := rfl

@[simp] theorem append_empty (t : Trace) : t ++ empty = t := by
  ext1 <;> simp

theorem append_assoc (s t u : Trace) : s ++ t ++ u = s ++ (t ++ u) := by
  ext1 <;> simp

end Trace

/-- A value together with what was seen while it was computed. -/
structure Traced (α : Type) where
  value : α
  trace : Trace
deriving Repr

namespace Traced

instance : Monad Traced where
  pure a := ⟨a, Trace.empty⟩
  bind x f := ⟨(f x.value).value, x.trace ++ (f x.value).trace⟩

/-- Reports an event. -/
def report (event : Event) : Traced Unit := ⟨(), ⟨[event], []⟩⟩

/-- Passes on an answer of the match relation. -/
def answer (held : Bool) : Traced Bool := ⟨held, ⟨[], [held]⟩⟩

variable {α β : Type}

@[simp] theorem value_pure (a : α) : (pure a : Traced α).value = a := rfl

@[simp] theorem trace_pure (a : α) : (pure a : Traced α).trace = Trace.empty := rfl

@[simp] theorem value_bind (x : Traced α) (f : α → Traced β) :
    (x >>= f).value = (f x.value).value := rfl

@[simp] theorem trace_bind (x : Traced α) (f : α → Traced β) :
    (x >>= f).trace = x.trace ++ (f x.value).trace := rfl

@[simp] theorem value_map (f : α → β) (x : Traced α) : (f <$> x).value = f x.value := rfl

@[simp] theorem trace_map (f : α → β) (x : Traced α) : (f <$> x).trace = x.trace :=
  Trace.append_empty x.trace

@[simp] theorem value_answer (held : Bool) : (answer held).value = held := rfl

@[simp] theorem trace_answer (held : Bool) : (answer held).trace = ⟨[], [held]⟩ := rfl

@[simp] theorem trace_report (event : Event) : (report event).trace = ⟨[event], []⟩ := rfl

instance : LawfulMonad Traced :=
  LawfulMonad.mk' Traced
    (fun x => by
      cases x
      exact congrArg (Traced.mk _) (Trace.append_empty _))
    (fun _ _ => rfl)
    (fun x f g => congrArg (Traced.mk _) (Trace.append_assoc x.trace _ _))

end Traced

end KeyedContainers
