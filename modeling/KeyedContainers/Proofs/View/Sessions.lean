import KeyedContainers.Proofs.View.Access
import KeyedContainers.View.Session

/-!
# Sessions of views over one buffer

A run through a view is a chain of accesses to one buffer, which keeps one element for each field
all along. A session over a borrowed buffer is such a chain over the buffer itself, so what several
sessions do one after another, through layouts of any definitions, is told without views: each is
refused for the number of elements or makes its accesses to what the sessions before it left.
-/

namespace KeyedContainers

namespace View

variable {α : Type} [Element α]

/-- Accesses one after another to a buffer with one element for each field, their replies and the
buffer after them. -/
inductive Accesses (layout : Layout) : Array α → List (Step α) → List (Reply α) → Array α → Prop
  | nil {data : Array α} (hsize : data.size = layout.fields.length) :
      Accesses layout data [] [] data
  | cons {data between after : Array α} {s : Step α} {steps : List (Step α)} {reply : Reply α}
      {replies : List (Reply α)} (hsize : data.size = layout.fields.length)
      (haccess : Access layout data s reply between)
      (hrest : Accesses layout between steps replies after) :
      Accesses layout data (s :: steps) (reply :: replies) after

variable {layout : Layout} {data after : Array α} {steps : List (Step α)}
  {replies : List (Reply α)}

/-- Accesses that only read leave the buffer as it was. -/
theorem Accesses.eq_of_reads (haccesses : Accesses layout data steps replies after)
    (hreads : ∀ s ∈ steps, s.reads = true) : after = data := by
  induction haccesses with
  | nil => rfl
  | cons _ haccess _ ih =>
    obtain ⟨hfirst, hrest⟩ := List.forall_mem_cons.mp hreads
    exact (ih hrest).trans (haccess.eq_of_reads hfirst)

/-- What the law of accesses allows is what the run does. -/
theorem Accesses.run_eq (hlawful : layout.Lawful)
    (haccesses : Accesses layout data steps replies after) :
    (mk layout data).run steps = (mk layout after, replies) := by
  induction haccesses with
  | nil => rfl
  | cons _ haccess _ ih => rw [run_cons, haccess.step_eq hlawful, ih]

/-- What a run does is what the law of accesses allows. -/
theorem accesses_run (hlawful : layout.Lawful) (hsize : data.size = layout.fields.length)
    (steps : List (Step α)) :
    Accesses layout data steps ((mk layout data).run steps).2
      ((mk layout data).run steps).1.buffer := by
  induction steps generalizing data with
  | nil => exact .nil hsize
  | cons s steps ih =>
    have haccess := access_step hlawful hsize s
    have hrest := ih (haccess.size_eq.trans hsize)
    rw [run_cons, haccess.step_eq hlawful]
    exact .cons hsize haccess hrest

end View

namespace Session

open View

variable {α : Type}

/-- The view works on the caller's buffer; one for reading only is given no writes. -/
def Borrows (session : Session α) : Prop :=
  session.storage = .borrowed ∨
    session.storage = .shared ∧ ∀ s ∈ session.steps, s.reads = true

/-- The caller's own write changes no size. -/
private theorem size_poked (session : Session α) (data : Array α) :
    (session.poked data).size = data.size := by
  unfold poked
  cases session.poke with
  | none => rfl
  | some write => exact Array.size_setIfInBounds

variable [Element α]

/-- A session over the caller's buffer, its outcome and the buffer after it. -/
inductive Performs (session : Session α) (data : Array α) :
    Except ViewError Layout → Outcome α → Array α → Prop
  /-- Without a layout there is nothing to view. -/
  | undefined {error : ViewError} :
      Performs session data (.error error) (.undefined error) (session.poked data)
  /-- A buffer of another size is refused and stays as it is. -/
  | refused {layout : Layout} (hsize : data.size ≠ layout.fields.length) :
      Performs session data (.ok layout)
        (.refused (.lengthMismatch layout.fields.length data.size) (session.poked data))
        (session.poked data)
  /-- The accesses are made to the buffer itself. -/
  | completed {layout : Layout} {replies : List (Reply α)} {after : Array α}
      (hsize : data.size = layout.fields.length)
      (haccesses : Accesses layout (session.poked data) session.steps replies after) :
      Performs session data (.ok layout) (.completed replies after after) after

/-- Sessions one after another over the caller's buffer, and their outcomes. -/
inductive PerformsAll :
    Array α → List (Except ViewError Layout × Session α) → List (Outcome α) → Prop
  | nil {data : Array α} : PerformsAll data [] []
  | cons {data after : Array α} {layout : Except ViewError Layout} {session : Session α}
      {rest : List (Except ViewError Layout × Session α)} {outcome : Outcome α}
      {outcomes : List (Outcome α)} (hfirst : Performs session data layout outcome after)
      (hrest : PerformsAll after rest outcomes) :
      PerformsAll data ((layout, session) :: rest) (outcome :: outcomes)

section Law

variable {layout : Layout} {session : Session α} {data after inner : Array α}

/-- A view that borrows is laid over the caller's buffer. -/
theorem openView_eq (hborrows : session.Borrows) :
    openView session.storage layout data = layout.view data := by
  obtain hstorage | ⟨hstorage, _⟩ := hborrows <;> rw [hstorage, openView]

/-- The caller's buffer ends as the buffer of the view. -/
theorem settle_eq (hborrows : session.Borrows) {replies : List (Reply α)}
    (haccesses : Accesses layout data session.steps replies inner) :
    settle session.storage data inner = inner := by
  obtain hstorage | ⟨hstorage, hreads⟩ := hborrows
  · rw [hstorage, settle]
  · rw [hstorage, settle, haccesses.eq_of_reads hreads]

/-- What the law of sessions allows is what the session does. -/
theorem Performs.run_eq {layout : Except ViewError Layout} {outcome : Outcome α}
    (hlawful : ∀ l, layout = .ok l → l.Lawful) (hborrows : session.Borrows)
    (hperforms : Performs session data layout outcome after) :
    session.run layout data = (outcome, after) := by
  have hpoked := size_poked session data
  cases hperforms with
  | undefined => rfl
  | refused hsize =>
    have hne : ¬(session.poked data).size = Layout.length _ := ne_of_eq_of_ne hpoked hsize
    simp only [run, openView_eq hborrows, Layout.view, if_neg hne]
    rw [hpoked, Layout.length]
  | completed hsize haccesses =>
    have hview := (Layout.view_eq_ok_iff _ _ _).mpr ⟨hpoked.trans hsize, rfl⟩
    simp only [run, openView_eq hborrows, hview, haccesses.run_eq (hlawful _ rfl),
      settle_eq hborrows haccesses]

/-- The law of sessions allows some outcome of every session. -/
theorem exists_performs {layout : Except ViewError Layout}
    (hlawful : ∀ l, layout = .ok l → l.Lawful) (session : Session α) (data : Array α) :
    ∃ outcome after, Performs session data layout outcome after := by
  cases layout with
  | error error => exact ⟨_, _, .undefined⟩
  | ok layout =>
    by_cases hsize : data.size = layout.fields.length
    · have haccesses := accesses_run (hlawful layout rfl) ((size_poked session data).trans hsize)
        session.steps
      exact ⟨_, _, .completed hsize haccesses⟩
    · exact ⟨_, _, .refused hsize⟩

end Law

/-- What the law of sessions allows is what the sessions do. -/
theorem PerformsAll.runAll_eq {data : Array α}
    {sessions : List (Except ViewError Layout × Session α)} {outcomes : List (Outcome α)}
    (hlawful : ∀ s ∈ sessions, ∀ l, s.1 = .ok l → l.Lawful)
    (hborrows : ∀ s ∈ sessions, s.2.Borrows) (hperforms : PerformsAll data sessions outcomes) :
    runAll data sessions = outcomes := by
  induction hperforms with
  | nil => rfl
  | cons hfirst _ ih =>
    obtain ⟨hlawfulFirst, hlawfulRest⟩ := List.forall_mem_cons.mp hlawful
    obtain ⟨hborrowsFirst, hborrowsRest⟩ := List.forall_mem_cons.mp hborrows
    rw [runAll, hfirst.run_eq hlawfulFirst hborrowsFirst, ih hlawfulRest hborrowsRest]

/-- The law of sessions allows some outcomes of sessions one after another. -/
theorem exists_performsAll {sessions : List (Except ViewError Layout × Session α)}
    (hlawful : ∀ s ∈ sessions, ∀ l, s.1 = .ok l → l.Lawful) (data : Array α) :
    ∃ outcomes, PerformsAll data sessions outcomes := by
  induction sessions generalizing data with
  | nil => exact ⟨[], .nil⟩
  | cons s sessions ih =>
    obtain ⟨hlawfulFirst, hlawfulRest⟩ := List.forall_mem_cons.mp hlawful
    obtain ⟨outcome, after, hfirst⟩ := exists_performs hlawfulFirst s.2 data
    obtain ⟨outcomes, hrest⟩ := ih hlawfulRest after
    exact ⟨outcome :: outcomes, .cons hfirst hrest⟩

/-- Sessions over a borrowed buffer, each through a layout that was defined for it, do what the law
of sessions allows and nothing else. -/
theorem runAll_eq_iff (data : Array α) (sessions : List (Layout.Declaration × Session α))
    (hborrows : ∀ s ∈ sessions, s.2.Borrows) (outcomes : List (Outcome α)) :
    runAll data (sessions.map fun s => (s.1.define.value, s.2)) = outcomes ↔
      PerformsAll data (sessions.map fun s => (s.1.define.value, s.2)) outcomes := by
  have hlawful : ∀ s ∈ sessions.map fun s => (s.1.define.value, s.2),
      ∀ l, s.1 = .ok l → l.Lawful := by
    intro s hs l hdefined
    obtain ⟨declared, _, rfl⟩ := List.mem_map.mp hs
    exact Layout.lawful_of_defineWith hdefined
  have hborrowed : ∀ s ∈ sessions.map fun s => (s.1.define.value, s.2), s.2.Borrows :=
    List.forall_mem_map.mpr hborrows
  constructor
  · rintro rfl
    obtain ⟨outcomes, hperforms⟩ := exists_performsAll hlawful data
    rwa [hperforms.runAll_eq hlawful hborrowed]
  · exact PerformsAll.runAll_eq hlawful hborrowed

/-- A write through one layout is read through another; a layout with more fields is refused. -/
theorem runAll_eq_iff_interleaved :
    let sessions : List (Layout.Declaration × Session Bool) :=
      [(⟨"V", ["a-b", "c"], ⟨true⟩⟩, ⟨.borrowed, some (0, false),
        [.set "c" true, .set "a-b" true, .demandSet "d" true, .setAt 2 true,
          .assign #[true, false]]⟩),
      (⟨"W", ["x", "y", "z"], ⟨false⟩⟩, ⟨.borrowed, none, [.fill true]⟩),
      (⟨"X", ["a-b", "c"], ⟨false⟩⟩, ⟨.shared, none, [.get "a-b", .elementAt 1]⟩)]
    let undeclared (name : String) : ViewError := .undeclaredField "V" name ["a_b", "c"]
    (∀ s ∈ sessions, s.2.Borrows) ∧
      PerformsAll #[true, false] (sessions.map fun s => (s.1.define.value, s.2))
        [.completed
          [.elements #[false, true], .failed (.refused (undeclared "a-b")),
            .failed (.fault (.undeclared (undeclared "d"))), .failed (.fault (.outOfBounds 2 2)),
            .elements #[true, false]]
          #[true, false] #[true, false],
        .refused (.lengthMismatch 3 2) #[true, false],
        .completed [.element true, .element false] #[true, false] #[true, false]] := by
  intro sessions undeclared
  have hborrows : ∀ s ∈ sessions, s.2.Borrows := by
    simp [sessions, Borrows, Step.reads]
  exact ⟨hborrows, (runAll_eq_iff #[true, false] sessions hborrows _).mp rfl⟩

end Session

end KeyedContainers
