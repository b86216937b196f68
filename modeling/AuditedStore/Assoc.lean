/-!
# Association lists in key order

Finite maps from names to values, as lists of pairs.  `Assoc.insert` keeps a list in
ascending order of its keys, without repeated keys; every list of the library is built by
it.  Looking up takes the first pair with a key, so the laws of looking up hold of all
lists.
-/

namespace AuditedStore

/-- A finite map from names. -/
abbrev Assoc (α : Type u) := List (String × α)

namespace Assoc

/-- The value of a key. -/
def get? (k : String) : Assoc α → Option α
  | [] => none
  | (l, v) :: es => if l = k then some v else get? k es

/-- Sets the value of a key, in its place among the keys. -/
def insert (k : String) (v : α) : Assoc α → Assoc α
  | [] => [(k, v)]
  | (l, w) :: es =>
    if k = l then (k, v) :: es
    else if k < l then (k, v) :: (l, w) :: es
    else (l, w) :: insert k v es

/-- Removes a key. -/
def erase (k : String) (es : Assoc α) : Assoc α := es.filter fun e => e.1 ≠ k

/-- Whether a key has a value. -/
def contains (k : String) (es : Assoc α) : Bool := (get? k es).isSome

/-- The keys. -/
def keys (es : Assoc α) : List String := es.map Prod.fst

/-- The map of a list of pairs, of which later ones win. -/
def ofList (es : List (String × α)) : Assoc α :=
  es.foldl (fun acc e => insert e.1 e.2 acc) []

/-- Changes all values. -/
def mapValues (f : α → β) (es : Assoc α) : Assoc β := es.map fun e => (e.1, f e.2)

/-! ### Laws -/

theorem get?_insert (k l : String) (v : α) (es : Assoc α) :
  get? l (insert k v es) = if l = k then some v else get? l es
  := by
  induction es with
  | nil => simp [insert, get?, eq_comm]
  | cons e es ih =>
    obtain ⟨m, w⟩ := e
    simp only [insert]
    split
    · subst_vars
      simp only [get?]
      grind
    · split
      · simp only [get?]
        grind
      · simp only [get?, ih]
        grind

@[simp]
theorem get?_insert_self (k : String) (v : α) (es : Assoc α) :
  get? k (insert k v es) = some v
  := by
  simp [get?_insert]

theorem get?_erase (k l : String) (es : Assoc α) :
  get? l (erase k es) = if l = k then none else get? l es
  := by
  induction es with
  | nil => simp [erase, get?]
  | cons e es ih =>
    obtain ⟨m, w⟩ := e
    simp only [erase, ne_eq, decide_not] at ih ⊢
    by_cases h : m = k
    · simp only [List.filter_cons, h, decide_true, Bool.not_true, get?]
      grind
    · simp only [List.filter_cons, h, decide_false, Bool.not_false, if_true, get?, ih]
      grind

end Assoc

end AuditedStore
