import AuditedStore.Proofs.Document.InPlace
import AuditedStore.Proofs.Text

/-!
# Placing values and reading them

A value is placed at a path unless one that is not an object is in its way, at a path that the path
leads through.  A refused value leaves no object behind.  A value that has been placed is read at
its path, nothing changes at independent paths, and of two values that are placed at a path the
later one counts, as if the earlier one had not been there.

At the path of the id a document reads its id.  A value that is placed there becomes a field, which
only the fields show.
-/

namespace AuditedStore

theorem pathNames_append (front rest : String) :
  pathNames (front ++ "." ++ rest) = pathNames front ++ pathNames rest
  := Text.split_append '.' front rest

/-- Whether a value is an object. -/
def Value.isObject : Value → Bool
  | object _ => true
  | _ => false

/-! ### Values in the way -/

namespace Fields

variable {k : String} {ks : List String} {fields : Fields} {v : Value}

/-- A value that is not an object is in the way of a path, which goes on behind the names that lead
to that value. -/
def IsBlocked (ks : List String) (fields : Fields) : Prop :=
  ∃ js ls w, ls ≠ [] ∧ ks = js ++ ls ∧ at? js fields = some w ∧ w.isObject = false

theorem inner?_eq_none_iff :
  inner? k fields = none ↔ ∃ w, at? [k] fields = some w ∧ w.isObject = false
  := by
  rw [inner?, at?]
  cases Assoc.get? k fields with
  | none => simp
  | some w => cases w <;> simp [Value.isObject]

/-- Nothing is in the way of one name. -/
theorem not_isBlocked_singleton (k : String) (fields : Fields) :
  ¬ IsBlocked [k] fields
  := by
  rintro ⟨js, ls, w, hls, hks, hw, -⟩
  cases js with
  | nil => cases hw
  | cons j js =>
      obtain ⟨-, hnil⟩ := List.cons.inj hks
      exact hls (List.append_eq_nil_iff.mp hnil.symm).2

/-- The way of a path is blocked at its first name, or behind it. -/
theorem isBlocked_cons (h : ks ≠ []) :
  IsBlocked (k :: ks) fields ↔ ∀ inner, inner? k fields = some inner → IsBlocked ks inner
  := by
  constructor
  · rintro ⟨js, ls, w, hls, hks, hw, hobject⟩ inner hinner
    cases js with
    | nil => cases hw
    | cons j js =>
        obtain ⟨rfl, rfl⟩ := List.cons.inj hks
        by_cases hjs : js = []
        · subst hjs
          rw [inner?_eq_none_iff.mpr ⟨w, hw, hobject⟩] at hinner
          cases hinner
        · rw [at?_cons hjs, hinner, Option.bind_some] at hw
          exact ⟨js, ls, w, hls, rfl, hw, hobject⟩
  · intro hblocked
    cases hinner : inner? k fields with
    | none =>
        obtain ⟨w, hw, hobject⟩ := inner?_eq_none_iff.mp hinner
        exact ⟨[k], ks, w, h, rfl, hw, hobject⟩
    | some inner =>
        obtain ⟨js, ls, w, hls, rfl, hw, hobject⟩ := hblocked inner hinner
        have hjs : js ≠ [] := by
          rintro rfl
          cases hw
        refine ⟨k :: js, ls, w, hls, rfl, ?_, hobject⟩
        rw [at?_cons hjs, hinner, Option.bind_some, hw]

/-- A value can be set unless another one is in the way. -/
theorem setAt?_eq_none_iff (h : ks ≠ []) (v : Value) :
  setAt? v ks fields = none ↔ IsBlocked ks fields
  := by
  induction ks generalizing fields with
  | nil => exact absurd rfl h
  | cons k ks ih =>
      by_cases hks : ks = []
      · subst hks
        apply iff_of_false _ (not_isBlocked_singleton k fields)
        rw [setAt?]
        apply Option.some_ne_none
      · rw [setAt?_cons hks, isBlocked_cons hks, Option.bind_eq_none_iff]
        simp only [Option.map_eq_none_iff, ih hks]

end Fields

namespace Document

variable {d e : Document} {path : String} {v : Value}

/-- A value that is not an object is in the way of a dotted path: it is at what stands of the path
before one of its dots. -/
def IsBlocked (d : Document) (path : String) : Prop :=
  ∃ front rest w, path = front ++ "." ++ rest ∧ d.fieldAt? front = some w ∧ w.isObject = false

theorem isBlocked_iff :
  d.IsBlocked path ↔ Fields.IsBlocked (pathNames path) d.fields
  := by
  constructor
  · rintro ⟨front, rest, w, rfl, hw, hobject⟩
    exact ⟨pathNames front, pathNames rest, w, pathNames_ne_nil rest, pathNames_append front rest,
      hw, hobject⟩
  · rintro ⟨js, ls, w, hls, hnames, hw, hobject⟩
    have hjs : js ≠ [] := by
      rintro rfl
      cases hw
    obtain ⟨front, rest, hpath, rfl, rfl⟩ := Text.exists_of_split_eq_append hjs hls hnames
    exact ⟨front, rest, w, hpath, hw, hobject⟩

theorem setAt?_eq_none_iff :
  d.setAt? path v = none ↔ d.IsBlocked path
  := by
  rw [isBlocked_iff, setAt?, Option.map_eq_none_iff]
  apply Fields.setAt?_eq_none_iff (pathNames_ne_nil path)

theorem place_snd_eq_false_iff :
  (d.place path v).2 = false ↔ d.IsBlocked path
  := by
  rw [place_snd_eq, ← setAt?_eq_none_iff (v := v), Option.isSome_eq_false_iff,
    Option.isNone_iff_eq_none]

/-! ### Values that have been placed -/

/-- From `d` to `e` the value at a path has become `v`, and nothing beside it has changed. -/
structure ChangesAt (path : String) (v : Value) (d e : Document) : Prop where
  id_eq : e.id = d.id
  fieldAt?_eq : e.fieldAt? path = some v
  /-- The path of the id reads the id, whatever has been placed there. -/
  at?_eq : e.at? path = some (if path = idField then .string d.id else v)
  fieldAt?_other : ∀ other, IndependentPaths path other → e.fieldAt? other = d.fieldAt? other
  at?_other : ∀ other, IndependentPaths path other → e.at? other = d.at? other
  /-- Nor has anything changed at names with dots in them, which no dotted path leads to. -/
  at?_names : ∀ names, Fields.Independent (pathNames path) names →
    Fields.at? names e.fields = Fields.at? names d.fields
  /-- Ordered documents stay ordered, so that the laws hold again of what has been made of them. -/
  isOrdered : d.IsOrdered → v.IsOrdered → e.IsOrdered

theorem changesAt_of_setAt? (h : d.setAt? path v = some e) :
  ChangesAt path v d e
  where
  id_eq := id_of_setAt? h
  fieldAt?_eq := fieldAt?_of_setAt? h
  at?_eq := by
    rw [at?, id_of_setAt? h, fieldAt?_of_setAt? h]
    split
    · rfl
    · rfl
  fieldAt?_other _ hpaths := fieldAt?_of_setAt?_of_independent hpaths h
  at?_other _ hpaths := by
    rw [at?, at?, id_of_setAt? h, fieldAt?_of_setAt?_of_independent hpaths h]
  at?_names _ hnames := by
    obtain ⟨fields, hfields, rfl⟩ := Option.map_eq_some_iff.mp h
    apply Fields.at?_of_setAt?_of_independent hnames hfields
  isOrdered hd hv := hd.setAt? hv h

/-- Placing another value where one has been placed writes over it, which can be taken back. -/
theorem place_again (h : d.setAt? path v = some e) (w : Value) :
  e.place path w = (e.overwrite path w, true)
    ∧ d.place path w = (e.overwrite path w, true)
    ∧ (e.overwrite path w).place path v = (e, true)
  := by
  have hagain : e.setAt? path w = some (e.overwrite path w) :=
    setAt?_eq_overwrite (fieldAt?_of_setAt? h) w
  refine ⟨place_eq_true_iff.mpr hagain, ?_, ?_⟩
  · rw [place_eq_true_iff, ← setAt?_of_setAt? h, hagain]
  · rw [place_eq_true_iff, setAt?_of_setAt? hagain, setAt?_of_setAt? h, h]

/-- The laws of placing a value at a path of a document, and of setting one as a whole, which is the
same.  It is refused exactly if a value that is not an object is in the way, and then the document
is as it was, with no object made on the way.  Otherwise the value at the path has become the placed
one, and nothing beside it has changed; and another value that is placed there is written over it,
so that nothing but that value changes: the document is as if the other one had been placed at
first, and is the same as before when the first one is placed again. -/
theorem place_lawful (d : Document) (path : String) (v : Value) :
  (d.setAt? path v = if (d.place path v).2 then some (d.place path v).1 else none)
  ∧ ((d.place path v).2 = false ↔ d.IsBlocked path)
  ∧ (d.IsOrdered → d.IsBlocked path → d.place path v = (d, false))
  ∧ (∀ e, d.place path v = (e, true) →
      ChangesAt path v d e
      ∧ ∀ w, e.place path w = (e.overwrite path w, true)
        ∧ ChangesAt path w e (e.overwrite path w)
        ∧ d.place path w = (e.overwrite path w, true)
        ∧ (e.overwrite path w).place path v = (e, true))
  := by
  refine ⟨?_, place_snd_eq_false_iff, ?_, ?_⟩
  · split
    · next hplaced => exact place_eq_true_iff.mp (Prod.ext rfl hplaced)
    · next hrefused =>
        rw [setAt?_eq_none_iff, ← place_snd_eq_false_iff (v := v)]
        exact Bool.eq_false_of_not_eq_true hrefused
  · intro hordered hblocked
    rw [place_eq hordered, setAt?_eq_none_iff.mpr hblocked, Option.getD_none, Option.isSome_none]
  · intro e hplace
    have hset := place_eq_true_iff.mp hplace
    use changesAt_of_setAt? hset
    intro w
    obtain ⟨hagain, hfirst, hback⟩ := place_again hset w
    exact ⟨hagain, changesAt_of_setAt? (place_eq_true_iff.mp hagain), hfirst, hback⟩

/-- A document with a limit in an object, and a name that is not one. -/
def visa : Document :=
  ⟨"abc", [("limits", .object [("daily", .int 500)]), ("name", .string "Visa")]⟩

/-- The document with a limit below an object that is missing in it. -/
def visaWithWeekly : Document :=
  ⟨"abc", [("limits", .object [("daily", .int 500), ("weekly", .object [("max", .int 9)])]),
    ("name", .string "Visa")]⟩

/-- Below the name nothing is placed or made.  A limit is placed with the object around it; the
other limit stays, and the placed one is there again after another value has been written over it.
A value that is placed at the path of the id is read as a field only. -/
theorem place_lawful_visa :
  visa.place "name.first.initial" .null = (visa, false)
  ∧ ChangesAt "limits.weekly.max" (.int 9) visa visaWithWeekly
  ∧ visaWithWeekly.fieldAt? "limits.daily" = some (.int 500)
  ∧ (visaWithWeekly.overwrite "limits.weekly.max" .null).place "limits.weekly.max" (.int 9)
      = (visaWithWeekly, true)
  ∧ (∃ e, visa.place "_id" .null = (e, true) ∧ e.fieldAt? "_id" = some .null
    ∧ e.at? "_id" = some (.string "abc"))
  := by
  have hordered : visa.IsOrdered := by
    apply Fields.isOrdered_iff.mpr
    constructor
    · apply List.pairwise_pair.mpr
      decide
    · simp [visa, Value.IsOrdered, Value.FieldsOrdered, Assoc.Ascending]
  have hblocked : visa.IsBlocked "name.first.initial" :=
    ⟨"name", "first.initial", .string "Visa", rfl, rfl, rfl⟩
  have hweekly : visa.place "limits.weekly.max" (.int 9) = (visaWithWeekly, true) := rfl
  have hid : visa.place "_id" .null = (⟨"abc", ("_id", .null) :: visa.fields⟩, true) := rfl
  obtain ⟨-, -, hrefused, -⟩ := place_lawful visa "name.first.initial" .null
  obtain ⟨-, -, -, hplaced⟩ := place_lawful visa "limits.weekly.max" (.int 9)
  obtain ⟨hchanges, hagain⟩ := hplaced _ hweekly
  obtain ⟨-, -, -, hback⟩ := hagain .null
  obtain ⟨-, -, -, hplacedId⟩ := place_lawful visa "_id" .null
  obtain ⟨hchangesId, -⟩ := hplacedId _ hid
  have hpaths : IndependentPaths "limits.weekly.max" "limits.daily" := by decide +kernel
  refine ⟨hrefused hordered hblocked, hchanges, ?_, hback, _, hid, hchangesId.fieldAt?_eq, ?_⟩
  · rw [hchanges.fieldAt?_other _ hpaths]
    rfl
  · exact hchangesId.at?_eq

end Document

end AuditedStore
