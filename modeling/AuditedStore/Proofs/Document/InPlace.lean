import AuditedStore.Proofs.Document.Path

/-!
# Changing fields in place

A value can be placed at a path in place, a name at a time: an object that is missing on the way is
made before the rest of the path is known to be free.  If another value is in the way, nothing has
been made until then, so placing a value either sets it or leaves the fields as they were.

Fields are kept in ascending order, which makes them the same lists again when an object is put back
where it was.
-/

namespace AuditedStore

/-! ### Ordered fields -/

namespace Value

mutual

/-- The fields of the objects that paths can lead to in a value ascend. -/
def IsOrdered : Value → Prop
  | object fields => Assoc.Ascending fields ∧ FieldsOrdered fields
  | _ => True

/-- The values of fields are ordered. -/
def FieldsOrdered : List (String × Value) → Prop
  | [] => True
  | (_, v) :: es => v.IsOrdered ∧ FieldsOrdered es

end

theorem fieldsOrdered_iff {es : List (String × Value)} :
  FieldsOrdered es ↔ ∀ e ∈ es, e.2.IsOrdered
  := by
  induction es with
  | nil => simp [FieldsOrdered]
  | cons e es ih => rw [FieldsOrdered, ih, List.forall_mem_cons]

end Value

namespace Fields

variable {k : String} {ks : List String} {fields updated inner : Fields} {v w : Value}

/-- Fields ascend, and so do those of all objects that paths lead to. -/
def IsOrdered (fields : Fields) : Prop := (Value.object fields).IsOrdered

theorem isOrdered_iff :
  fields.IsOrdered ↔ Assoc.Ascending fields ∧ ∀ e ∈ fields, e.2.IsOrdered
  := by rw [IsOrdered, Value.IsOrdered, Value.fieldsOrdered_iff]

theorem isOrdered_nil :
  IsOrdered []
  := by
  apply isOrdered_iff.mpr
  exact ⟨List.Pairwise.nil, fun _ h => absurd h List.not_mem_nil⟩

theorem IsOrdered.insert (h : fields.IsOrdered) (hv : v.IsOrdered) (k : String) :
  IsOrdered (Assoc.insert k v fields)
  := by
  obtain ⟨hascending, hvalues⟩ := isOrdered_iff.mp h
  apply isOrdered_iff.mpr
  use hascending.insert k v
  intro e he
  rcases Assoc.mem_insert he with rfl | he
  · exact hv
  · exact hvalues e he

theorem IsOrdered.of_get? (h : fields.IsOrdered) (hk : Assoc.get? k fields = some (.object inner)) :
  inner.IsOrdered
  := (isOrdered_iff.mp h).2 _ (Assoc.mem_of_get? hk)

theorem IsOrdered.of_inner? (h : fields.IsOrdered) (hk : inner? k fields = some inner) :
  inner.IsOrdered
  := by
  rw [inner?] at hk
  split at hk
  · cases hk
    apply isOrdered_nil
  · next hk' =>
      cases hk
      apply h.of_get? hk'
  · cases hk

/-- Fields stay ordered when an ordered value is set. -/
theorem IsOrdered.setAt? (h : fields.IsOrdered) (hv : v.IsOrdered)
    (hset : setAt? v ks fields = some updated) :
  updated.IsOrdered
  := by
  induction ks generalizing fields updated with
  | nil => cases hset
  | cons k ks ih =>
      by_cases hks : ks = []
      · subst hks
        cases hset
        apply h.insert hv
      · obtain ⟨inner, inner', hinner, hinner', rfl⟩ := exists_of_setAt?_cons hks hset
        have hordered : Value.IsOrdered (.object inner') := ih (h.of_inner? hinner) hinner'
        apply h.insert hordered

/-! ### Placing -/

/-- Places a value at a path a name at a time.  An object that is missing is made, and the path is
followed into it; what has been made stays, also if another value is then in the way.  The Boolean
says whether the value has been placed. -/
def place (v : Value) : List String → Fields → Fields × Bool
  | [], fields => (fields, false)
  | [k], fields => (Assoc.insert k v fields, true)
  | k :: l :: ks, fields =>
    let entered := if Assoc.contains k fields then fields else Assoc.insert k (.object []) fields
    match Assoc.get? k entered with
    | some (.object inner) =>
      let (inner, placed) := place v (l :: ks) inner
      (Assoc.insert k (.object inner) entered, placed)
    | _ => (entered, false)

/-- Writes a value over the one at a path, if there is one. -/
def overwrite (v : Value) : List String → Fields → Fields
  | [], fields => fields
  | [k], fields => if Assoc.contains k fields then Assoc.insert k v fields else fields
  | k :: l :: ks, fields =>
    match Assoc.get? k fields with
    | some (.object inner) => Assoc.insert k (.object (overwrite v (l :: ks) inner)) fields
    | _ => fields

/-- Nothing is in the way where there is nothing. -/
theorem exists_setAt?_nil (h : ks ≠ []) (v : Value) :
  ∃ updated, setAt? v ks [] = some updated
  := by
  induction ks with
  | nil => exact absurd rfl h
  | cons k ks ih =>
      by_cases hks : ks = []
      · subst hks
        exact ⟨_, rfl⟩
      · obtain ⟨inner, hinner⟩ := ih hks
        use Assoc.insert k (.object inner) []
        rw [setAt?_cons hks, show inner? k [] = some [] from rfl, Option.bind_some, hinner,
          Option.map_some]

/-- Placing a value that can be set sets it. -/
theorem place_of_setAt? (h : setAt? v ks fields = some updated) :
  place v ks fields = (updated, true)
  := by
  induction ks generalizing fields updated with
  | nil => cases h
  | cons k ks ih =>
      cases ks with
      | nil =>
          cases h
          rfl
      | cons l ks =>
          obtain ⟨inner, inner', hinner, hset, rfl⟩ :=
            exists_of_setAt?_cons (List.cons_ne_nil l ks) h
          have hplace := ih hset
          rw [inner?] at hinner
          rw [place, Assoc.contains]
          cases hk : Assoc.get? k fields with
          | none =>
              rw [hk] at hinner
              cases hinner
              simp [Assoc.get?_insert_self, hplace, Assoc.insert_insert]
          | some w =>
              rw [hk] at hinner
              cases w with
              | object inner =>
                  cases hinner
                  simp [hk, hplace]
              | _ => cases hinner

/-- Placing a value that cannot be set says so, and leaves no object behind.  Fields must be ordered
for this, so that those that are put back on the way are in their places. -/
theorem place_of_setAt?_eq_none (h : setAt? v ks fields = none) :
  (place v ks fields).2 = false ∧ (fields.IsOrdered → (place v ks fields).1 = fields)
  := by
  induction ks generalizing fields with
  | nil => exact ⟨rfl, fun _ => rfl⟩
  | cons k ks ih =>
      cases ks with
      | nil => cases h
      | cons l ks =>
          have hcons : l :: ks ≠ [] := List.cons_ne_nil l ks
          rw [setAt?_cons hcons, inner?] at h
          rw [place, Assoc.contains]
          cases hk : Assoc.get? k fields with
          | none =>
              -- A new object cannot be left behind, since the rest of the path is free in it.
              obtain ⟨inner, hinner⟩ := exists_setAt?_nil hcons v
              simp [hk, hinner] at h
          | some w =>
              cases w with
              | object inner =>
                  have hinner : setAt? v (l :: ks) inner = none := by simpa [hk] using h
                  obtain ⟨hplaced, hsame⟩ := ih hinner
                  constructor
                  · simp [hk, hplaced]
                  · intro hordered
                    have hself := (isOrdered_iff.mp hordered).1.insert_of_get? hk
                    simp [hk, hsame (hordered.of_get? hk), hself]
              | _ => simp [hk]

/-- Placing a value sets it if it can be set, and else leaves no object behind. -/
theorem place_eq (h : fields.IsOrdered) (v : Value) (ks : List String) :
  place v ks fields = ((setAt? v ks fields).getD fields, (setAt? v ks fields).isSome)
  := by
  cases hset : setAt? v ks fields with
  | none =>
      obtain ⟨hplaced, hsame⟩ := place_of_setAt?_eq_none hset
      exact Prod.ext (hsame h) hplaced
  | some updated => exact place_of_setAt? hset

/-- Writing over the value at a path sets it. -/
theorem setAt?_eq_overwrite (h : at? ks fields = some w) (v : Value) :
  setAt? v ks fields = some (overwrite v ks fields)
  := by
  induction ks generalizing fields with
  | nil => cases h
  | cons k ks ih =>
      cases ks with
      | nil =>
          have hk : Assoc.contains k fields = true := Option.isSome_of_mem h
          rw [setAt?, overwrite, if_pos hk]
      | cons l ks =>
          have hcons : l :: ks ≠ [] := List.cons_ne_nil l ks
          rw [at?] at h
          split at h
          · next inner hk =>
              rw [setAt?_cons hcons, overwrite, inner?, hk]
              simp [ih h]
          · cases h

end Fields

/-! ### Documents -/

namespace Document

variable {d e : Document} {path : String} {v w : Value}

/-- The fields of a document are ordered. -/
def IsOrdered (d : Document) : Prop := d.fields.IsOrdered

/-- Places a value at a path of a document, making what is missing on the way. -/
def place (d : Document) (path : String) (v : Value) : Document × Bool :=
  let (fields, placed) := Fields.place v (pathNames path) d.fields
  ({ d with fields := fields }, placed)

/-- Writes a value over the one at a path of a document, if there is one. -/
def overwrite (d : Document) (path : String) (v : Value) : Document :=
  { d with fields := Fields.overwrite v (pathNames path) d.fields }

theorem IsOrdered.setAt? (h : d.IsOrdered) (hv : v.IsOrdered) (hset : d.setAt? path v = some e) :
  e.IsOrdered
  := by
  obtain ⟨fields, hfields, rfl⟩ := Option.map_eq_some_iff.mp hset
  apply Fields.IsOrdered.setAt? h hv hfields

/-- Placing a value at a path of a document succeeds with what setting it there gives. -/
theorem place_eq_true_iff :
  d.place path v = (e, true) ↔ d.setAt? path v = some e
  := by
  rw [place, Document.setAt?]
  cases h : Fields.setAt? v (pathNames path) d.fields with
  | none => simp [(Fields.place_of_setAt?_eq_none h).1]
  | some updated => simp [Fields.place_of_setAt? h]

/-- Placing a value at a path of a document says whether it can be set there. -/
theorem place_snd_eq (d : Document) (path : String) (v : Value) :
  (d.place path v).2 = (d.setAt? path v).isSome
  := by
  cases h : d.setAt? path v with
  | none =>
      rw [Option.isSome_none, ← Bool.not_eq_true]
      intro hplaced
      have hset := place_eq_true_iff.mp (Prod.ext rfl hplaced)
      cases h.symm.trans hset
  | some e => rw [place_eq_true_iff.mpr h, Option.isSome_some]

theorem place_eq (h : d.IsOrdered) (path : String) (v : Value) :
  d.place path v = ((d.setAt? path v).getD d, (d.setAt? path v).isSome)
  := by
  rw [place, Fields.place_eq h, Document.setAt?]
  cases Fields.setAt? v (pathNames path) d.fields <;> rfl

theorem setAt?_eq_overwrite (h : d.fieldAt? path = some w) (v : Value) :
  d.setAt? path v = some (d.overwrite path v)
  := by rw [Document.setAt?, Fields.setAt?_eq_overwrite h, Option.map_some, overwrite]

end Document

end AuditedStore
