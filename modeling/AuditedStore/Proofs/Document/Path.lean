import AuditedStore.Document.Path
import AuditedStore.Proofs.Assoc

/-!
# Reading and setting at paths

What is set at a path is read there.  Two paths are independent if neither leads through the
other; then setting at the one is not seen at the other, and setting at both gives the same
fields in either order, or fails in either order.

The laws are by recursion on the path, a name at a time: a path leads on through the object at
its first name, or through a new object if there is nothing.
-/

namespace AuditedStore

namespace Fields

variable {k l : String} {ks ls : List String} {fields updated inner : Fields} {v w : Value}

/-! ### One name of a path -/

/-- The fields that paths lead on through at a name: those of the object there, or no fields if
there is nothing. -/
def inner? (k : String) (fields : Fields) : Option Fields :=
  match Assoc.get? k fields with
  | none => some []
  | some (.object inner) => some inner
  | some _ => none

@[simp]
theorem inner?_insert_self (k : String) (inner fields : Fields) :
  inner? k (Assoc.insert k (.object inner) fields) = some inner
  := by rw [inner?, Assoc.get?_insert_self]

theorem inner?_insert_of_ne (h : k ≠ l) (v : Value) (fields : Fields) :
  inner? l (Assoc.insert k v fields) = inner? l fields
  := by rw [inner?, Assoc.get?_insert, if_neg h.symm, inner?]

@[simp]
theorem at?_nil (ks : List String) :
  at? ks [] = none
  := by
  cases ks with
  | nil => rfl
  | cons k ks => cases ks <;> rfl

theorem at?_cons (h : ks ≠ []) (k : String) (fields : Fields) :
  at? (k :: ks) fields = (inner? k fields).bind (at? ks)
  := by
  obtain ⟨l, ls, rfl⟩ := List.exists_cons_of_ne_nil h
  rw [at?, inner?]
  cases Assoc.get? k fields with
  | none => exact (at?_nil _).symm
  | some w =>
      cases w with
      | object inner => rfl
      | _ => rfl

theorem setAt?_cons (h : ks ≠ []) (v : Value) (k : String) (fields : Fields) :
  setAt? v (k :: ks) fields
    = (inner? k fields).bind fun inner =>
        (setAt? v ks inner).map fun inner => Assoc.insert k (.object inner) fields
  := by
  obtain ⟨l, ls, rfl⟩ := List.exists_cons_of_ne_nil h
  rw [setAt?, inner?]
  cases Assoc.get? k fields with
  | none => rfl
  | some w =>
      cases w with
      | object inner => rfl
      | _ => rfl

/-- What is set through the object at a first name is set in its fields, which are put back. -/
theorem exists_of_setAt?_cons (h : ks ≠ []) (hset : setAt? v (k :: ks) fields = some updated) :
  ∃ inner inner', inner? k fields = some inner ∧ setAt? v ks inner = some inner'
    ∧ updated = Assoc.insert k (.object inner') fields
  := by
  rw [setAt?_cons h] at hset
  obtain ⟨inner, hinner, hset⟩ := Option.bind_eq_some_iff.mp hset
  obtain ⟨inner', hinner', rfl⟩ := Option.map_eq_some_iff.mp hset
  exact ⟨inner, inner', hinner, hinner', rfl⟩

/-- Setting at a path changes the value at its first name. -/
theorem exists_of_setAt? (h : setAt? v (k :: ks) fields = some updated) :
  ∃ w, updated = Assoc.insert k w fields
  := by
  by_cases hks : ks = []
  · subst hks
    cases h
    exact ⟨v, rfl⟩
  · obtain ⟨_, _, -, -, rfl⟩ := exists_of_setAt?_cons hks h
    exact ⟨_, rfl⟩

/-- Paths that start with another name read past a change. -/
theorem at?_insert_of_ne (h : k ≠ l) (w : Value) (ls : List String) (fields : Fields) :
  at? (l :: ls) (Assoc.insert k w fields) = at? (l :: ls) fields
  := by
  by_cases hls : ls = []
  · subst hls
    rw [at?, Assoc.get?_insert, if_neg h.symm, at?]
  · rw [at?_cons hls, at?_cons hls, inner?_insert_of_ne h]

/-- Setting at a path commutes with a change at another first name. -/
theorem setAt?_insert_of_ne (h : k ≠ l) (v w : Value) (ls : List String) (fields : Fields) :
  setAt? v (l :: ls) (Assoc.insert k w fields)
    = (setAt? v (l :: ls) fields).map (Assoc.insert k w)
  := by
  by_cases hls : ls = []
  · subst hls
    rw [setAt?, setAt?, Option.map_some, Assoc.insert_comm_of_ne h]
  · rw [setAt?_cons hls, setAt?_cons hls, inner?_insert_of_ne h, Option.map_bind]
    congr 1
    funext inner
    rw [Function.comp_apply, Option.map_map]
    congr 1
    funext inner'
    rw [Function.comp_apply, Assoc.insert_comm_of_ne h]

/-- Setting at a path through an object that has just been set changes that object alone. -/
theorem setAt?_insert_self (h : ls ≠ []) (v : Value) (k : String) (inner fields : Fields) :
  setAt? v (k :: ls) (Assoc.insert k (.object inner) fields)
    = (setAt? v ls inner).map fun inner => Assoc.insert k (.object inner) fields
  := by
  rw [setAt?_cons h, inner?_insert_self, Option.bind_some]
  simp only [Assoc.insert_insert]

/-! ### Reading back -/

/-- What is set at a path is read there. -/
theorem at?_of_setAt? (h : setAt? v ks fields = some updated) :
  at? ks updated = some v
  := by
  induction ks generalizing fields updated with
  | nil => cases h
  | cons k ks ih =>
      by_cases hks : ks = []
      · subst hks
        cases h
        rw [at?, Assoc.get?_insert_self]
      · obtain ⟨inner, inner', -, hset, rfl⟩ := exists_of_setAt?_cons hks h
        rw [at?_cons hks, inner?_insert_self]
        apply ih hset

/-- Where there is a value, another one can be set. -/
theorem exists_setAt? (h : at? ks fields = some w) (v : Value) :
  ∃ updated, setAt? v ks fields = some updated
  := by
  induction ks generalizing fields with
  | nil => cases h
  | cons k ks ih =>
      by_cases hks : ks = []
      · subst hks
        exact ⟨_, rfl⟩
      · rw [at?_cons hks] at h
        obtain ⟨inner, hinner, h⟩ := Option.bind_eq_some_iff.mp h
        obtain ⟨updated, hset⟩ := ih h
        use Assoc.insert k (.object updated) fields
        rw [setAt?_cons hks, hinner, Option.bind_some, hset, Option.map_some]

/-- Of two values that are set at a path the later one counts. -/
theorem setAt?_of_setAt? (h : setAt? v ks fields = some updated) (w : Value) :
  setAt? w ks updated = setAt? w ks fields
  := by
  induction ks generalizing fields updated with
  | nil => rfl
  | cons k ks ih =>
      by_cases hks : ks = []
      · subst hks
        cases h
        rw [setAt?, setAt?, Assoc.insert_insert]
      · obtain ⟨inner, inner', hinner, hset, rfl⟩ := exists_of_setAt?_cons hks h
        rw [setAt?_insert_self hks, ih hset, setAt?_cons hks, hinner, Option.bind_some]

/-- Whether a value can be set at a path does not depend on the value. -/
theorem isSome_setAt?_congr (v w : Value) (ks : List String) (fields : Fields) :
  (setAt? v ks fields).isSome = (setAt? w ks fields).isSome
  := by
  have himp : ∀ v w, (setAt? v ks fields).isSome → (setAt? w ks fields).isSome := by
    intro v w h
    obtain ⟨updated, hset⟩ := Option.isSome_iff_exists.mp h
    obtain ⟨updated', hset'⟩ := exists_setAt? (at?_of_setAt? hset) w
    rw [← setAt?_of_setAt? hset, hset', Option.isSome_some]
  apply Bool.eq_iff_iff.mpr
  exact ⟨himp v w, himp w v⟩

/-! ### Independent paths -/

/-- Neither of two paths leads through the other. -/
def Independent (ks ls : List String) : Prop := ¬ ks <+: ls ∧ ¬ ls <+: ks

instance (ks ls : List String) : Decidable (Independent ks ls) :=
  inferInstanceAs (Decidable (_ ∧ _))

theorem Independent.symm (h : Independent ks ls) :
  Independent ls ks
  := And.symm h

theorem Independent.ne_nil (h : Independent ks ls) :
  ks ≠ []
  := by
  rintro rfl
  exact h.1 List.nil_prefix

theorem independent_cons_self :
  Independent (k :: ks) (k :: ls) ↔ Independent ks ls
  := by simp only [Independent, List.prefix_cons_inj]

/-- What is set at a path is not seen at an independent one. -/
theorem at?_of_setAt?_of_independent (h : Independent ks ls)
    (hset : setAt? v ks fields = some updated) :
  at? ls updated = at? ls fields
  := by
  induction ks generalizing ls fields updated with
  | nil => cases hset
  | cons k ks ih =>
      obtain ⟨l, ls, rfl⟩ := List.exists_cons_of_ne_nil h.symm.ne_nil
      by_cases hkl : k = l
      · subst hkl
        have h := independent_cons_self.mp h
        obtain ⟨inner, inner', hinner, hinner', rfl⟩ := exists_of_setAt?_cons h.ne_nil hset
        rw [at?_cons h.symm.ne_nil, at?_cons h.symm.ne_nil, inner?_insert_self, hinner]
        apply ih h hinner'
      · obtain ⟨w, rfl⟩ := exists_of_setAt? hset
        apply at?_insert_of_ne hkl

/-- Setting at independent paths commutes, and fails in the one order if it does in the other. -/
theorem setAt?_comm (h : Independent ks ls) (v w : Value) (fields : Fields) :
  (setAt? v ks fields).bind (setAt? w ls) = (setAt? w ls fields).bind (setAt? v ks)
  := by
  induction ks generalizing ls fields with
  | nil => exact absurd rfl h.ne_nil
  | cons k ks ih =>
      obtain ⟨l, ls, rfl⟩ := List.exists_cons_of_ne_nil h.symm.ne_nil
      by_cases hkl : k = l
      · subst hkl
        have h := independent_cons_self.mp h
        rw [setAt?_cons h.ne_nil, setAt?_cons h.symm.ne_nil]
        cases inner? k fields with
        | none => rfl
        | some inner =>
            have hcomm := congrArg (Option.map fun inner => Assoc.insert k (.object inner) fields)
              (ih h inner)
            simpa only [Option.map_bind, Option.bind_some, Option.bind_map, Function.comp_def,
              setAt?_insert_self h.ne_nil, setAt?_insert_self h.symm.ne_nil] using hcomm
      · have hv : ∀ updated, setAt? v (k :: ks) fields = some updated →
            ∃ x, updated = Assoc.insert k x fields := fun _ => exists_of_setAt?
        have hw : ∀ updated, setAt? w (l :: ls) fields = some updated →
            ∃ y, updated = Assoc.insert l y fields := fun _ => exists_of_setAt?
        cases hks : setAt? v (k :: ks) fields with
        | none =>
            cases hls : setAt? w (l :: ls) fields with
            | none => rfl
            | some updated =>
                obtain ⟨y, rfl⟩ := hw _ hls
                rw [Option.bind_some, setAt?_insert_of_ne (Ne.symm hkl), hks]
                rfl
        | some updated =>
            obtain ⟨x, rfl⟩ := hv _ hks
            rw [Option.bind_some, setAt?_insert_of_ne hkl]
            cases hls : setAt? w (l :: ls) fields with
            | none => rfl
            | some updated =>
                obtain ⟨y, rfl⟩ := hw _ hls
                rw [Option.bind_some, setAt?_insert_of_ne (Ne.symm hkl), hks, Option.map_some,
                  Option.map_some, Assoc.insert_comm_of_ne hkl]

end Fields

/-! ### Paths of documents -/

theorem pathNames_ne_nil (path : String) :
  pathNames path ≠ []
  := by
  rw [pathNames, Text.split, ne_eq, List.map_eq_nil_iff]
  apply Text.pieces_ne_nil

/-- Neither of two dotted paths leads through the other. -/
def IndependentPaths (path other : String) : Prop :=
  Fields.Independent (pathNames path) (pathNames other)

instance (path other : String) : Decidable (IndependentPaths path other) :=
  inferInstanceAs (Decidable (Fields.Independent _ _))

theorem IndependentPaths.symm {path other : String} (h : IndependentPaths path other) :
  IndependentPaths other path
  := Fields.Independent.symm h

namespace Document

variable {d e : Document} {path other : String} {v w : Value}

/-- Setting a value keeps the id. -/
theorem id_of_setAt? (h : d.setAt? path v = some e) :
  e.id = d.id
  := by
  obtain ⟨fields, -, rfl⟩ := Option.map_eq_some_iff.mp h
  rfl

theorem fieldAt?_of_setAt? (h : d.setAt? path v = some e) :
  e.fieldAt? path = some v
  := by
  obtain ⟨fields, hfields, rfl⟩ := Option.map_eq_some_iff.mp h
  apply Fields.at?_of_setAt? hfields

/-- Of two values that are set at a path of a document the later one counts. -/
theorem setAt?_of_setAt? (h : d.setAt? path v = some e) (w : Value) :
  e.setAt? path w = d.setAt? path w
  := by
  obtain ⟨fields, hfields, rfl⟩ := Option.map_eq_some_iff.mp h
  rw [setAt?, setAt?, Fields.setAt?_of_setAt? hfields]

/-- Whether a value can be set at a path of a document does not depend on the value. -/
theorem isSome_setAt?_congr (v w : Value) (path : String) (d : Document) :
  (d.setAt? path v).isSome = (d.setAt? path w).isSome
  := by
  rw [setAt?, setAt?, Option.isSome_map, Option.isSome_map]
  apply Fields.isSome_setAt?_congr

theorem fieldAt?_of_setAt?_of_independent (h : IndependentPaths path other)
    (hset : d.setAt? path v = some e) :
  e.fieldAt? other = d.fieldAt? other
  := by
  obtain ⟨fields, hfields, rfl⟩ := Option.map_eq_some_iff.mp hset
  apply Fields.at?_of_setAt?_of_independent h hfields

/-- What has been set at one path and then at an independent one can be set in the other order. -/
theorem exists_setAt?_of_independent {x : Document} (h : IndependentPaths path other)
    (hset : d.setAt? path v = some e) (hset' : e.setAt? other w = some x) :
  ∃ e', d.setAt? other w = some e' ∧ e'.setAt? path v = some x
  := by
  obtain ⟨fields, hfields, rfl⟩ := Option.map_eq_some_iff.mp hset
  obtain ⟨fields', hfields', rfl⟩ := Option.map_eq_some_iff.mp hset'
  have hcomm := Fields.setAt?_comm h v w d.fields
  rw [hfields, Option.bind_some, hfields'] at hcomm
  obtain ⟨between, hbetween, hrest⟩ := Option.bind_eq_some_iff.mp hcomm.symm
  use { d with fields := between }
  constructor
  · rw [setAt?, hbetween, Option.map_some]
  · rw [setAt?, hrest, Option.map_some]

end Document

end AuditedStore
