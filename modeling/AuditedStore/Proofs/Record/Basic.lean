import AuditedStore.Proofs.Assoc
import AuditedStore.Proofs.Value.Json
import AuditedStore.Record.Basic

/-!
# Records through JSON

The JSON object of a strictly named record becomes a document and is got back from it, as
long as its members are flat: null, Booleans, signed words and texts.
-/

namespace AuditedStore

open Json (Tree Number)

/-! ### Flat trees -/

/-- A tree that is a single value, which is stored and written as it is. -/
def Json.Tree.IsFlat : Tree → Prop
  | .null => True
  | .bool _ => True
  | .number n => ∃ i, n = Number.ofInt64 i
  | .string _ => True
  | .array _ => False
  | .object _ => False

namespace Value

/-- A flat tree is written as it was read. -/
theorem toTree_ofTree_of_isFlat {t : Tree} (h : t.IsFlat) :
  (ofTree t).toTree = t
  := by
  cases t with
  | null => simp [ofTree, toTree]
  | bool b => simp [ofTree, toTree]
  | number n =>
      obtain ⟨i, rfl⟩ := h
      rw [ofTree, ofNumber_ofInt64, toTree, Tree.int64]
  | string s => simp [ofTree, toTree]
  | array items => cases h
  | object members => cases h

theorem ofTree_string (s : String) :
  ofTree (.string s) = string s
  := by rw [ofTree]

theorem cases_of_isFlat {t : Tree} (h : t.IsFlat) :
  t = .null ∨ (∃ b, t = .bool b) ∨ (∃ i, t = .int64 i) ∨ ∃ s, t = .string s
  := by
  cases t with
  | null => exact Or.inl rfl
  | bool b => exact Or.inr (Or.inl ⟨b, rfl⟩)
  | number n =>
      obtain ⟨i, rfl⟩ := h
      exact Or.inr (Or.inr (Or.inl ⟨i, rfl⟩))
  | string s => exact Or.inr (Or.inr (Or.inr ⟨s, rfl⟩))
  | array items => cases h
  | object members => cases h

/-- Flat trees that are read as equal values are the same. -/
theorem eq_of_beq_ofTree {t u : Tree} (ht : t.IsFlat) (hu : u.IsFlat)
    (h : (ofTree t == ofTree u) = true) :
  t = u
  := by
  change (ofTree t).equals (ofTree u) = true at h
  rcases cases_of_isFlat ht with rfl | ⟨b, rfl⟩ | ⟨i, rfl⟩ | ⟨s, rfl⟩
  all_goals
    rcases cases_of_isFlat hu with rfl | ⟨b', rfl⟩ | ⟨i', rfl⟩ | ⟨s', rfl⟩
    all_goals
      simp_all [ofTree, ofTree_int64, equals]

theorem ofMembers_eq_mapValues (members : Assoc Tree) :
  ofMembers members = Assoc.mapValues ofTree members
  := by
  induction members with
  | nil => rw [ofMembers, Assoc.mapValues, List.map_nil]
  | cons e members ih =>
      obtain ⟨k, t⟩ := e
      rw [ofMembers, ih, Assoc.mapValues, Assoc.mapValues, List.map_cons]

theorem toMembers_eq_mapValues (fields : Fields) :
  toMembers fields = Assoc.mapValues toTree fields
  := by
  induction fields with
  | nil => rw [toMembers, Assoc.mapValues, List.map_nil]
  | cons e fields ih =>
      obtain ⟨k, v⟩ := e
      rw [toMembers, ih, Assoc.mapValues, Assoc.mapValues, List.map_cons]

/-- Flat members are written as they were read. -/
theorem toMembers_ofMembers_of_isFlat {members : Assoc Tree} (h : ∀ e ∈ members, e.2.IsFlat) :
  toMembers (ofMembers members) = members
  := by
  rw [toMembers_eq_mapValues, ofMembers_eq_mapValues, Assoc.mapValues, Assoc.mapValues,
    List.map_map]
  apply Eq.trans (List.map_congr_left _) members.map_id
  intro e he
  rw [Function.comp_apply, toTree_ofTree_of_isFlat (h e he)]
  rfl

end Value

/-! ### Documents of records -/

namespace Record

/-- The document of a strictly named record with the members of its JSON object. -/
def documentOfMembers (id : String) (members : Assoc Tree) : Document :=
  ⟨id, Assoc.erase recordIdField (Value.ofMembers members)⟩

variable {members : Assoc Tree} {id : String}

theorem get?_ofMembers (k : String) (members : Assoc Tree) :
  Assoc.get? k (Value.ofMembers members) = (Assoc.get? k members).map Value.ofTree
  := by
  rw [Value.ofMembers_eq_mapValues, Assoc.get?_mapValues]

theorem documentOfTree_object
    (hid : Assoc.get? recordIdField members = some (.string id)) :
  documentOfTree (.object members) = .ok (documentOfMembers id members)
  := by
  have hvalue : Document.ofTree "" (.object members) = .ok ⟨"", Value.ofMembers members⟩ := by
    rw [Document.ofTree, Value.ofTree]
  have hget : Assoc.get? recordIdField (Value.ofMembers members) = some (.string id) := by
    rw [get?_ofMembers, hid, Option.map_some, Value.ofTree]
  rw [documentOfTree, hvalue]
  dsimp only [bind, Except.bind]
  rw [hget]
  rfl

/-- The JSON object of a strictly named record is got back from its document. -/
theorem treeOfDocument_documentOfMembers (hascending : Assoc.Ascending members)
    (hflat : ∀ e ∈ members, e.2.IsFlat)
    (hid : Assoc.get? recordIdField members = some (.string id)) :
  treeOfDocument (documentOfMembers id members) = .object members
  := by
  have hget : Assoc.get? recordIdField (Value.ofMembers members) = some (.string id) := by
    rw [get?_ofMembers, hid, Option.map_some, Value.ofTree]
  have hfields : Assoc.Ascending (Value.ofMembers members) := by
    rw [Value.ofMembers_eq_mapValues]
    apply hascending.mapValues
  rw [treeOfDocument, Document.set, documentOfMembers, hfields.insert_erase hget, Document.toTree,
    Value.toTree, Value.toMembers_ofMembers_of_isFlat hflat]

end Record

end AuditedStore
