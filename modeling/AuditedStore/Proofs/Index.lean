import AuditedStore.Index
import AuditedStore.Proofs.Assoc
import Mathlib.Algebra.GroupWithZero.Nat
import Mathlib.Data.List.FinRange
import Mathlib.GroupTheory.Perm.Basic

/-!
# Grouping the declarations of indexes

The groups of a list of declarations are its parts of one index name, so that no declaration is
lost or counted twice.  Within a group the sort by column is stable: the fields of one column stay
as they were declared, and a list that ascends by column is determined by its fields of each column.
The indexes therefore depend on the order of the declarations only as far as these share the name
of an index and a column.
-/

namespace AuditedStore.IndexDefinition

/-- The declarations for one index, in their order. -/
def declared (name : String) (fields : List IndexedField) : List IndexedField :=
  fields.filter fun f => f.index == name

/-- The declarations for one column. -/
def ofColumn (column : Int) (fields : List IndexedField) : List IndexedField :=
  fields.filter fun f => f.column == column

variable {fields members : List IndexedField} {name : String}

/-! ### Groups -/

theorem groups_concat (fields : List IndexedField) (f : IndexedField) :
  groups (fields ++ [f])
    = Assoc.insert f.index ((Assoc.get? f.index (groups fields)).getD [] ++ [f]) (groups fields)
  := by
  rw [groups, List.foldl_concat]
  rfl

theorem declared_concat (name : String) (fields : List IndexedField) (f : IndexedField) :
  declared name (fields ++ [f])
    = if f.index = name then declared name fields ++ [f] else declared name fields
  := by
  rw [declared, declared, List.filter_append]
  split
  · next hname => simp [hname]
  · next hname => simp [hname]

theorem ascending_groups (fields : List IndexedField) :
  Assoc.Ascending (groups fields)
  := by
  induction fields using List.reverseRecOn with
  | nil => exact List.Pairwise.nil
  | append_singleton fields f ih =>
      rw [groups_concat]
      apply ih.insert

/-- The group of a name is what is declared for it, if anything is. -/
theorem get?_groups (name : String) (fields : List IndexedField) :
  Assoc.get? name (groups fields)
    = if declared name fields = [] then none else some (declared name fields)
  := by
  induction fields using List.reverseRecOn with
  | nil => rfl
  | append_singleton fields f ih =>
      rw [groups_concat, declared_concat, Assoc.get?_insert]
      by_cases hname : name = f.index
      · subst hname
        rw [if_pos rfl, if_pos rfl, if_neg (by simp), ih]
        split
        · next hnil => rw [hnil, Option.getD_none]
        · rw [Option.getD_some]
      · rw [if_neg hname, if_neg (Ne.symm hname), ih]

theorem mem_groups_iff :
  (name, members) ∈ groups fields ↔ declared name fields ≠ [] ∧ members = declared name fields
  := by
  rw [← (ascending_groups fields).get?_eq_some_iff, get?_groups]
  split
  · next hnil => simp [hnil]
  · next hne => simp [hne, eq_comm]

/-- Every declaration stands in one group, as often as it was made. -/
theorem perm_flatMap_groups (fields : List IndexedField) :
  ((groups fields).flatMap Prod.snd).Perm fields
  := by
  induction fields using List.reverseRecOn with
  | nil => rfl
  | append_singleton fields f ih =>
      have hasc := ascending_groups fields
      have hnew := (hasc.perm_insert_erase f.index
        ((Assoc.get? f.index (groups fields)).getD [] ++ [f])).flatMap_right Prod.snd
      rw [← groups_concat, List.flatMap_cons] at hnew
      cases hget : Assoc.get? f.index (groups fields) with
      | none =>
          rw [hget, Assoc.erase_eq_self hget] at hnew
          exact (hnew.trans (ih.cons f)).trans (List.perm_append_singleton f fields).symm
      | some old =>
          have hold := (hasc.perm_insert_erase f.index old).flatMap_right Prod.snd
          rw [hasc.insert_of_get? hget, List.flatMap_cons] at hold
          rw [hget, Option.getD_some, List.append_assoc] at hnew
          apply hnew.trans
          apply (List.perm_append_comm.append_left old).trans
          rw [← List.append_assoc]
          apply (hold.symm.trans ih).append_right [f]

/-! ### Sorting by column -/

theorem ofColumn_cons (column : Int) (f : IndexedField) (fields : List IndexedField) :
  ofColumn column (f :: fields)
    = if f.column = column then f :: ofColumn column fields else ofColumn column fields
  := by
  rw [ofColumn, ofColumn, List.filter_cons]
  simp only [beq_iff_eq]

/-- The declarations of an index in the order of their columns, those of one column as they were
declared. -/
structure IsByColumn (members fields : List IndexedField) : Prop where
  perm : members.Perm fields
  ascending : members.Pairwise fun f g => f.column ≤ g.column
  stable : ∀ column, ofColumn column members = ofColumn column fields

theorem isByColumn_mergeSort (fields : List IndexedField) :
  IsByColumn (fields.mergeSort fun f g => f.column ≤ g.column) fields
  := by
  have hsorted : (fields.mergeSort fun f g => f.column ≤ g.column).Pairwise
      fun f g => decide (f.column ≤ g.column) = true := by
    apply List.pairwise_mergeSort
    · simpa using fun _ _ _ => le_trans
    · simpa using fun _ _ => le_total _ _
  constructor
  · apply List.mergeSort_perm
  · simpa using hsorted
  · intro column
    -- The declarations of the column ascend already, so the sort keeps them in their order.
    have hcolumn : (ofColumn column fields).Pairwise fun f g => f.column ≤ g.column := by
      apply List.pairwise_of_forall_mem_list
      intro f hf g hg
      have hf := eq_of_beq (List.mem_filter.mp hf).2
      have hg := eq_of_beq (List.mem_filter.mp hg).2
      exact (hf.trans hg.symm).le
    have hsub : (ofColumn column fields).Sublist
        (fields.mergeSort fun f g => f.column ≤ g.column) := by
      apply List.sublist_mergeSort (by simpa using fun _ _ _ => le_trans)
        (by simpa using fun _ _ => le_total _ _)
      · simpa using hcolumn
      · apply List.filter_sublist
    have hfilter := hsub.filter fun f => f.column == column
    rw [ofColumn, List.filter_filter] at hfilter
    simp only [Bool.and_self] at hfilter
    symm
    apply hfilter.eq_of_length
    apply ((List.mergeSort_perm _ _).filter _).length_eq.symm

theorem mem_of_ofColumn_eq {others : List IndexedField} {f : IndexedField}
    (h : ∀ column, ofColumn column members = ofColumn column others) (hf : f ∈ members) :
  f ∈ others
  := by
  have hmem : f ∈ ofColumn f.column others := by
    rw [← h]
    exact List.mem_filter.mpr ⟨hf, beq_self_eq_true _⟩
  exact List.mem_of_mem_filter hmem

/-- A list that ascends by column is determined by its fields of each column. -/
theorem eq_of_ofColumn_eq {others : List IndexedField}
    (h : members.Pairwise fun f g => f.column ≤ g.column)
    (h' : others.Pairwise fun f g => f.column ≤ g.column)
    (hsame : ∀ column, ofColumn column members = ofColumn column others) :
  members = others
  := by
  induction members generalizing others with
  | nil =>
      cases others with
      | nil => rfl
      | cons g others => simpa [ofColumn] using hsame g.column
  | cons f members ih =>
      obtain ⟨hle, htail⟩ := List.pairwise_cons.mp h
      cases others with
      | nil => simpa [ofColumn] using hsame f.column
      | cons g others =>
          obtain ⟨hle', htail'⟩ := List.pairwise_cons.mp h'
          have hfg : f.column ≤ g.column := by
            rcases List.mem_cons.mp (mem_of_ofColumn_eq (fun c => (hsame c).symm)
              List.mem_cons_self) with rfl | hg
            · rfl
            · apply hle g hg
          have hgf : g.column ≤ f.column := by
            rcases List.mem_cons.mp (mem_of_ofColumn_eq hsame List.mem_cons_self) with rfl | hf
            · rfl
            · apply hle' f hf
          have hcolumn : g.column = f.column := le_antisymm hgf hfg
          -- The first fields share a column, and are the first of it in both lists.
          have hhead := hsame f.column
          rw [ofColumn_cons, ofColumn_cons, if_pos rfl, if_pos hcolumn] at hhead
          obtain ⟨rfl, -⟩ := List.cons_eq_cons.mp hhead
          congr 1
          apply ih htail htail'
          intro column
          have htails := hsame column
          rw [ofColumn_cons, ofColumn_cons] at htails
          split at htails
          · exact (List.cons_eq_cons.mp htails).2
          · exact htails

/-! ### Indexes -/

variable {collection : String} {kind : SchemaKind}

theorem mem_ofFields_iff {i : IndexDefinition} :
  i ∈ ofFields collection kind fields
    ↔ declared i.name fields ≠ []
      ∧ i = ofGroup collection kind i.name (declared i.name fields)
  := by
  rw [ofFields, List.mem_map]
  constructor
  · rintro ⟨⟨name, members⟩, hmem, rfl⟩
    obtain ⟨hne, rfl⟩ := mem_groups_iff.mp hmem
    exact ⟨hne, rfl⟩
  · rintro ⟨hne, hi⟩
    exact ⟨_, mem_groups_iff.mpr ⟨hne, rfl⟩, hi.symm⟩

theorem declared_ne_nil_iff :
  declared name fields ≠ [] ↔ ∃ f ∈ fields, f.index = name
  := by
  simp [declared, List.filter_eq_nil_iff]

theorem pairwise_ofFields (collection : String) (kind : SchemaKind)
    (fields : List IndexedField) :
  (ofFields collection kind fields).Pairwise fun i j => i.name < j.name
  := List.pairwise_map.mpr (ascending_groups fields)

theorem sum_length_keys (collection : String) (kind : SchemaKind) (fields : List IndexedField) :
  ((ofFields collection kind fields).map fun i => i.keys.length).sum = fields.length
  := by
  rw [← (perm_flatMap_groups fields).length_eq, List.length_flatMap, ofFields, List.map_map]
  congr 1
  apply List.map_congr_left
  rintro ⟨name, members⟩ -
  simp [ofGroup]

/-! ### Rearranging declarations -/

/-- The declarations in another order. -/
def rearrange (fields : List IndexedField) (σ : Equiv.Perm (Fin fields.length)) :
    List IndexedField :=
  (List.finRange fields.length).map fun i => fields.get (σ i)

/-- A new order keeps the declarations of one index and one column in their order. -/
def KeepsOrder (fields : List IndexedField) (σ : Equiv.Perm (Fin fields.length)) : Prop :=
  ∀ i j, i < j → (fields.get (σ i)).index = (fields.get (σ j)).index →
    (fields.get (σ i)).column = (fields.get (σ j)).column → σ i < σ j

instance (fields : List IndexedField) (σ : Equiv.Perm (Fin fields.length)) :
    Decidable (KeepsOrder fields σ) :=
  inferInstanceAs (Decidable (∀ _ _, _))

variable {σ : Equiv.Perm (Fin fields.length)}

/-- The places of the declarations for one index and one column. -/
def places (name : String) (column : Int) (fields : List IndexedField) :
    Fin fields.length → Bool :=
  fun i => (fields.get i).column == column && (fields.get i).index == name

theorem ofColumn_declared_map (name : String) (column : Int) (order : List (Fin fields.length)) :
  ofColumn column (declared name (order.map fields.get))
    = (order.filter (places name column fields)).map fields.get
  := by
  rw [ofColumn, declared, List.filter_filter, List.filter_map]
  rfl

/-- The places of one index and one column are met in their order. -/
theorem KeepsOrder.filter_places (h : KeepsOrder fields σ) (name : String) (column : Int) :
  ((List.finRange fields.length).map σ).filter (places name column fields)
    = (List.finRange fields.length).filter (places name column fields)
  := by
  have hplaces := (List.pairwise_lt_finRange fields.length).filter (places name column fields)
  have hmoved : (((List.finRange fields.length).map σ).filter (places name column fields)).Pairwise
      (· < ·) := by
    rw [List.filter_map, List.pairwise_map]
    apply ((List.pairwise_lt_finRange _).filter _).imp_of_mem
    intro i j hi hj hlt
    have hi := (List.mem_filter.mp hi).2
    have hj := (List.mem_filter.mp hj).2
    simp only [Function.comp_apply, places, Bool.and_eq_true, beq_iff_eq] at hi hj
    exact h i j hlt (hi.2.trans hj.2.symm) (hi.1.trans hj.1.symm)
  apply (σ.map_finRange_perm.filter _).eq_of_pairwise _ hmoved hplaces
  intro i j _ _ hlt hgt
  exact absurd (hlt.trans hgt) (lt_irrefl i)

theorem KeepsOrder.ofColumn_declared (h : KeepsOrder fields σ) (name : String) (column : Int) :
  ofColumn column (declared name (rearrange fields σ)) = ofColumn column (declared name fields)
  := by
  have hall : fields = (List.finRange fields.length).map fields.get := by
    rw [List.map_get_finRange]
  have hplaces := ofColumn_declared_map name column (List.finRange fields.length)
  rw [← hall] at hplaces
  have hrearranged := ofColumn_declared_map name column ((List.finRange fields.length).map σ)
  rw [List.map_map, h.filter_places, ← hplaces] at hrearranged
  exact hrearranged

/-- The sorted groups determine the indexes. -/
theorem ofFields_eq_map (collection : String) (kind : SchemaKind) (fields : List IndexedField) :
  ofFields collection kind fields
    = (Assoc.mapValues (fun members => members.mergeSort fun f g => f.column ≤ g.column)
        (groups fields)).map fun (name, members) =>
          ⟨name, collection, members.map fun f => ⟨kind.normalize f.field, f.direction⟩, true⟩
  := by
  rw [ofFields, Assoc.mapValues, List.map_map]
  rfl

/-- The indexes depend on the declarations of each index and each column only. -/
theorem ofFields_congr {others : List IndexedField}
    (h : ∀ name column,
      ofColumn column (declared name others) = ofColumn column (declared name fields)) :
  ofFields collection kind others = ofFields collection kind fields
  := by
  have hsort : ∀ name, (declared name others).mergeSort (fun f g => f.column ≤ g.column)
      = (declared name fields).mergeSort fun f g => f.column ≤ g.column := by
    intro name
    have hsorted := isByColumn_mergeSort (declared name others)
    have hsorted' := isByColumn_mergeSort (declared name fields)
    apply eq_of_ofColumn_eq hsorted.ascending hsorted'.ascending
    intro column
    rw [hsorted.stable, hsorted'.stable, h]
  have hnil : ∀ name, declared name others = [] ↔ declared name fields = [] := by
    intro name
    have hlength := congrArg List.length (hsort name)
    rw [List.length_mergeSort, List.length_mergeSort] at hlength
    rw [← List.length_eq_zero_iff, ← List.length_eq_zero_iff, hlength]
  rw [ofFields_eq_map, ofFields_eq_map]
  congr 1
  apply ((ascending_groups others).mapValues _).ext ((ascending_groups fields).mapValues _)
  intro name
  rw [Assoc.get?_mapValues, Assoc.get?_mapValues, get?_groups, get?_groups]
  simp only [hnil]
  split
  · rfl
  · rw [Option.map_some, Option.map_some, hsort]

/-! ### The whole -/

/-- Grouping loses, adds and mixes up nothing.  The indexes are those that are declared, once each
and in the order of their names; the keys of an index are the fields that are declared for it, by
column and within a column in the order of the declarations; so the keys are as many as the
declarations.  Rearranging the declarations has no effect as long as those of one index and one
column keep their order. -/
theorem ofFields_exact (collection : String) (kind : SchemaKind) (fields : List IndexedField) :
  (ofFields collection kind fields).Pairwise (fun i j => i.name < j.name)
    ∧ (∀ name, (∃ i ∈ ofFields collection kind fields, i.name = name)
        ↔ ∃ f ∈ fields, f.index = name)
    ∧ (∀ i ∈ ofFields collection kind fields,
        i.collection = collection ∧ i.background = true
        ∧ ∃ members, IsByColumn members (declared i.name fields)
          ∧ i.keys = members.map fun f => ⟨kind.normalize f.field, f.direction⟩)
    ∧ ((ofFields collection kind fields).map fun i => i.keys.length).sum = fields.length
    ∧ ∀ σ, KeepsOrder fields σ →
        ofFields collection kind (rearrange fields σ) = ofFields collection kind fields
  := by
  refine ⟨pairwise_ofFields .., ?names, ?keys, sum_length_keys .., ?order⟩
  case names =>
    intro name
    rw [← declared_ne_nil_iff]
    constructor
    · rintro ⟨i, hi, rfl⟩
      exact (mem_ofFields_iff.mp hi).1
    · intro hne
      exact ⟨ofGroup collection kind name (declared name fields),
        mem_ofFields_iff.mpr ⟨hne, rfl⟩, rfl⟩
  case keys =>
    intro i hi
    obtain ⟨-, hi⟩ := mem_ofFields_iff.mp hi
    refine ⟨?_, ?_, _, isByColumn_mergeSort _, ?_⟩
    · rw [hi]
      rfl
    · rw [hi]
      rfl
    · rw [congrArg keys hi]
      rfl
  case order =>
    intro σ hσ
    apply ofFields_congr hσ.ofColumn_declared

/-- The second column of an index may be declared before or after the first. -/
theorem ofFields_exact_swapped :
  let fields : List IndexedField :=
    [⟨"by_client", "createdDate", 1, .descending⟩, ⟨"by_name", "name", 0, .ascending⟩,
      ⟨"by_client", "clientId", 0, .ascending⟩]
  KeepsOrder fields (Equiv.swap 0 2)
    ∧ ofFields "cards" .typed (rearrange fields (Equiv.swap 0 2)) = ofFields "cards" .typed fields
  := by
  intro fields
  have hkeeps : KeepsOrder fields (Equiv.swap 0 2) := by decide
  exact ⟨hkeeps, (ofFields_exact "cards" .typed fields).2.2.2.2 _ hkeeps⟩

/-- Fields of one column stay in the order of their declarations. -/
example :
  (ofFields "cards" .dynamic
    [⟨"i", "b", -1, .ascending⟩, ⟨"h", "x", 0, .ascending⟩, ⟨"i", "c", -2, .descending⟩,
      ⟨"i", "a", -1, .ascending⟩]).map (fun i => (i.name, i.keys.map SortKey.field))
    = [("h", ["x"]), ("i", ["c", "b", "a"])]
  := by
  cbv

end AuditedStore.IndexDefinition
