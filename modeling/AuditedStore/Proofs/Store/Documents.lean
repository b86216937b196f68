import AuditedStore.Store.Command
import Mathlib.Data.List.Nodup
import Mathlib.Data.List.Perm.Basic

/-!
# Lists of documents with distinct ids

In a list of documents with distinct ids, a document is found by its id wherever it stands,
and putting another document in the place of the one with its id is setting one position.
-/

namespace AuditedStore

namespace Document

/-- The documents of a list, where `d` stands in place of the one with its id. -/
def replaceIn (d : Document) (docs : List Document) : List Document :=
  docs.map fun e => if e.id = d.id then d else e

/-- Two documents of a list with distinct ids are equal when their ids are. -/
theorem eq_of_id_eq {docs : List Document} {d e : Document}
    (h : (docs.map Document.id).Nodup) (hd : d ∈ docs) (he : e ∈ docs) (hid : d.id = e.id) :
  d = e
  := List.inj_on_of_nodup_map h hd he hid

/-- Setting a position of a list with distinct ids to a document with the id that stands
there replaces the document with that id. -/
theorem replaceIn_eq_set {docs : List Document} {i : Nat} {d e : Document}
    (h : (docs.map Document.id).Nodup) (hd : docs[i]? = some d) (hid : e.id = d.id) :
  e.replaceIn docs = docs.set i e
  := by
  obtain ⟨hi, rfl⟩ := List.getElem?_eq_some_iff.mp hd
  apply List.ext_getElem
  · simp [replaceIn]
  · intro j hj hj'
    simp only [replaceIn, List.getElem_map, List.getElem_set]
    have hjd : j < docs.length := by simpa [replaceIn] using hj
    by_cases hij : i = j
    · subst hij
      simp [hid]
    · have hne : docs[j].id ≠ e.id := by
        intro hjid
        have heq := eq_of_id_eq h (List.getElem_mem hjd) (List.getElem_mem hi) (hjid.trans hid)
        apply hij
        symm
        apply (List.Nodup.getElem_inj_iff h.of_map).mp heq
      simp [hij, hne]

/-- A document that is replaced by itself leaves the list as it is, and only such a one. -/
theorem replaceIn_eq_self_iff {docs : List Document} {d e : Document}
    (h : (docs.map Document.id).Nodup) (hd : d ∈ docs) (hid : e.id = d.id) :
  e.replaceIn docs = docs ↔ e = d
  := by
  constructor
  · intro heq
    have hmem : e ∈ e.replaceIn docs := List.mem_map.mpr ⟨d, hd, by simp [hid]⟩
    rw [heq] at hmem
    apply eq_of_id_eq h hmem hd hid
  · rintro rfl
    rw [replaceIn]
    apply Eq.trans (List.map_congr_left _) docs.map_id
    intro f hf
    split
    · next hfid => exact eq_of_id_eq h hd hf hfid.symm
    · rfl

/-- The document of a list with an id. -/
def withId? (id : String) (docs : List Document) : Option Document :=
  docs.find? fun d => d.id == id

theorem id_of_withId? {docs : List Document} {id : String} {d : Document}
    (h : withId? id docs = some d) :
  d.id = id
  := by simpa using List.find?_some h

theorem withId?_eq_none_iff {docs : List Document} {id : String} :
  withId? id docs = none ↔ id ∉ docs.map Document.id
  := by
  simp [withId?, List.find?_eq_none]

/-- In a list with distinct ids, exactly the document with an id is found by it. -/
theorem withId?_eq_some_iff {docs : List Document} {id : String} {d : Document}
    (h : (docs.map Document.id).Nodup) :
  withId? id docs = some d ↔ d ∈ docs ∧ d.id = id
  := by
  constructor
  · intro hd
    exact ⟨List.mem_of_find?_eq_some hd, id_of_withId? hd⟩
  · rintro ⟨hd, rfl⟩
    cases hf : withId? d.id docs with
    | none =>
        exact absurd (List.mem_map_of_mem hd) (withId?_eq_none_iff.mp hf)
    | some e =>
        rw [eq_of_id_eq h (List.mem_of_find?_eq_some hf) hd (id_of_withId? hf)]

/-- What is found by id does not depend on the order of a list with distinct ids. -/
theorem withId?_perm {docs docs' : List Document} (h : (docs.map Document.id).Nodup)
    (hp : docs'.Perm docs) (id : String) :
  withId? id docs' = withId? id docs
  := by
  have h' : (docs'.map Document.id).Nodup := (hp.map Document.id).nodup_iff.mpr h
  apply Option.ext
  intro d
  rw [withId?_eq_some_iff h', withId?_eq_some_iff h, hp.mem_iff]

theorem withId?_cons (d : Document) (docs : List Document) (id : String) :
  withId? id (d :: docs) = if id = d.id then some d else withId? id docs
  := by
  by_cases h : id = d.id
  · simp [withId?, h]
  · simp [withId?, h, beq_false_of_ne (Ne.symm h)]

/-- Of the documents with a property that one id alone has, only the one with the id has to
be looked at. -/
theorem filter_withId? {docs : List Document} {p : Document → Bool} {id : String}
    (h : (docs.map Document.id).Nodup) (hp : ∀ d, p d = true → d.id = id) :
  (withId? id docs).toList.filter p = docs.filter p
  := by
  induction docs with
  | nil => rfl
  | cons d docs ih =>
      obtain ⟨hd, hdocs⟩ := List.nodup_cons.mp h
      rw [withId?_cons]
      by_cases hid : id = d.id
      · have hrest : docs.filter p = [] := by
          apply List.filter_eq_nil_iff.mpr
          intro e he hpe
          apply hd
          rw [← hid, ← hp e hpe]
          apply List.mem_map_of_mem he
        simp [hid, List.filter_cons, hrest]
      · have hpd : p d = false := by
          apply Bool.eq_false_iff.mpr
          intro hpd
          apply hid (hp d hpd).symm
        simp [hid, hpd, ih hdocs]

/-- The documents with an id of which something is true are the one with the id, if it is true of
that. -/
theorem filter_id_and {docs : List Document} (h : (docs.map id).Nodup) (name : String)
    (q : Document → Bool) :
  docs.filter (fun d => d.id == name && q d) = ((withId? name docs).filter q).toList
  := by
  have hpins : ∀ d, (d.id == name && q d) = true → d.id = name := by
    intro d hd
    apply eq_of_beq (Bool.and_eq_true_iff.mp hd).1
  rw [← filter_withId? h hpins]
  cases hd : withId? name docs with
  | none => rfl
  | some d =>
      rw [Option.toList_some, Option.filter_some, List.filter_singleton, id_of_withId? hd,
        beq_self_eq_true, Bool.true_and]
      cases q d with
      | true => rfl
      | false => rfl

theorem withId?_replaceIn (e : Document) (docs : List Document) (id : String) :
  withId? id (e.replaceIn docs)
    = if id = e.id then (withId? id docs).map fun _ => e else withId? id docs
  := by
  induction docs with
  | nil => simp [replaceIn, withId?]
  | cons d docs ih =>
      have hcons : e.replaceIn (d :: docs) = (if d.id = e.id then e else d) :: e.replaceIn docs :=
        rfl
      rw [hcons, withId?_cons, withId?_cons, ih]
      grind

end Document

end AuditedStore
