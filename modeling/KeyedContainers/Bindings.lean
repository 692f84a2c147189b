import KeyedContainers.Key.Matching

/-!
# Bindings

A list of keys with values in which a key is found by walking the list. Setting a key that
the list holds changes the value and keeps the key object; another key is added at the end.
Under a matching by equality this is a conventional table of unique keys. Under any other
matching it says what a map under that matching is for.
-/

namespace KeyedContainers

/-- Keys with values, in the order in which the keys were added. -/
structure Bindings (K V : Type) where
  entries : List (K × V)
deriving DecidableEq, Repr

namespace Bindings

variable {K V : Type}

/-- No bindings. -/
def empty : Bindings K V := ⟨[]⟩

/-- The number of keys. -/
def length (b : Bindings K V) : Nat := b.entries.length

/-- Whether an entry answers a query: its key has the hash of the query and accepts it. -/
def answers (M : Matching K) (q : Query K) (entry : K × V) : Bool :=
  M.hash entry.1 == q.hash && q.accepts entry.1

/-- The first entry that answers a query. -/
def find? (M : Matching K) (b : Bindings K V) (q : Query K) : Option (K × V) :=
  b.entries.find? (answers M q)

/-- The value of the first entry that answers a query. -/
def get? (M : Matching K) (b : Bindings K V) (q : Query K) : Option V :=
  (b.find? M q).map (·.2)

/-- Changes the first entry of a list that has a property. -/
def modifyFirst (p : K × V → Bool) (f : K × V → K × V) : List (K × V) → List (K × V)
  | [] => []
  | entry :: entries =>
    if p entry then f entry :: entries else entry :: modifyFirst p f entries

/-- Writes the value of the first entry that answers a query. -/
def update (M : Matching K) (b : Bindings K V) (q : Query K) (v : V) : Bindings K V :=
  ⟨modifyFirst (answers M q) (fun entry => (entry.1, v)) b.entries⟩

/-- Binds a key; answers the value that it had. -/
def insert (M : Matching K) (b : Bindings K V) (k : K) (v : V) : Option V × Bindings K V :=
  match b.get? M (M.query k) with
  | some old => (some old, b.update M (M.query k) v)
  | none => (none, ⟨b.entries ++ [(k, v)]⟩)

/-- Binds keys one after another. -/
def extend (M : Matching K) (b : Bindings K V) (pairs : List (K × V)) : Bindings K V :=
  pairs.foldl (fun b pair => (b.insert M pair.1 pair.2).2) b

/-- The bindings that arise from a list of pairs. -/
def ofPairs (M : Matching K) (pairs : List (K × V)) : Bindings K V := empty.extend M pairs

/-- Takes out the first entry that answers a query. -/
def remove (M : Matching K) (b : Bindings K V) (q : Query K) : Option (K × V) × Bindings K V :=
  (b.find? M q, ⟨b.entries.eraseP (answers M q)⟩)

/-- The entries in the order of their keys. -/
def sorted (le : K → K → Bool) (b : Bindings K V) : List (K × V) :=
  b.entries.mergeSort fun x y => le x.1 y.1

/-- A key that no entry answers is added at the end. -/
theorem insert_of_get?_eq_none {M : Matching K} {b : Bindings K V} {k : K}
    (h : b.get? M (M.query k) = none) (v : V) :
    b.insert M k v = (none, ⟨b.entries ++ [(k, v)]⟩) := by
  simp [insert, h]

/-- An entry answers a key when its own key is related to it. -/
@[simp] theorem answers_query (M : Matching K) (k : K) (entry : K × V) :
    answers M (M.query k) entry = M.related entry.1 k := rfl

/-- A key has no value exactly when no bound key is related to it. -/
theorem get?_query_eq_none_iff {M : Matching K} {b : Bindings K V} {k : K} :
    b.get? M (M.query k) = none ↔ ∀ entry ∈ b.entries, M.related entry.1 k = false := by
  simp [get?, find?]

/-- Changing the first entry with a property changes all that have it, if no two have. -/
theorem modifyFirst_eq_map_of_pairwise {p : K × V → Bool} {entries : List (K × V)}
    (hp : entries.Pairwise fun d e => p d = true → p e = false) (f : K × V → K × V) :
    modifyFirst p f entries = entries.map fun e => if p e then f e else e := by
  induction entries with
  | nil => rfl
  | cons e entries ih =>
    obtain ⟨hfirst, hrest⟩ := List.pairwise_cons.mp hp
    unfold modifyFirst
    rw [List.map_cons]
    by_cases he : p e = true
    · rw [if_pos he, if_pos he]
      congr 1
      refine (List.map_id entries).symm.trans (List.map_congr_left fun d hd => ?_)
      rw [hfirst d hd he, if_neg Bool.false_ne_true, id]
    · rw [if_neg he, if_neg he, ih hrest]

end Bindings

end KeyedContainers
