import AuditedStore.Assoc
import Mathlib.Data.List.Induction
import Mathlib.Data.List.Pairwise
import Mathlib.Data.List.Perm.Basic
import Mathlib.Data.String.Basic

/-!
# Ascending association lists

Inserting keeps the keys of a list ascending.  It changes the pair of a key that is there in
its place, and adds a pair of a key that is not, so that erasing the key again gives the
list as it was.
-/

namespace AuditedStore.Assoc

/-- The keys of a list ascend strictly. -/
def Ascending (es : Assoc α) : Prop := es.Pairwise fun e f => e.1 < f.1

variable {es : Assoc α} {k : String}

theorem get?_eq_none_iff :
  get? k es = none ↔ ∀ e ∈ es, e.1 ≠ k
  := by
  induction es with
  | nil => simp [get?]
  | cons e es ih =>
      rw [List.forall_mem_cons, ← ih, get?]
      split
      · next h => simp [h]
      · next h => simp [h]

theorem mem_of_get? {v : α} (h : get? k es = some v) :
  (k, v) ∈ es
  := by
  induction es with
  | nil => cases h
  | cons e es ih =>
      rw [get?] at h
      split at h
      · next hk =>
          obtain rfl := hk
          obtain rfl := Option.some.inj h
          apply List.mem_cons_self
      · apply List.mem_cons_of_mem _ (ih h)

/-- In an ascending list, every pair is found by its key. -/
theorem Ascending.get?_eq_some_iff (h : Ascending es) {v : α} :
  get? k es = some v ↔ (k, v) ∈ es
  := by
  constructor
  · apply mem_of_get?
  · intro hmem
    induction es with
    | nil => cases hmem
    | cons e es ih =>
        obtain ⟨hlt, hes⟩ := List.pairwise_cons.mp h
        rcases List.mem_cons.mp hmem with rfl | hmem
        · simp [get?]
        · have hne : e.1 ≠ k := ne_of_lt (hlt _ hmem)
          rw [get?, if_neg hne]
          apply ih hes hmem

theorem Ascending.mapValues {β : Type} (h : Ascending es) (f : α → β) :
  Ascending (mapValues f es)
  := List.pairwise_map.mpr h

theorem get?_mapValues {β : Type} (f : α → β) (k : String) (es : Assoc α) :
  get? k (mapValues f es) = (get? k es).map f
  := by
  induction es with
  | nil => rfl
  | cons e es ih =>
      rw [mapValues, List.map_cons, get?, get?]
      split
      · rfl
      · apply ih

/-- The pairs after an insertion are the inserted one and old ones. -/
theorem mem_insert {v : α} {e : String × α} (h : e ∈ insert k v es) :
  e = (k, v) ∨ e ∈ es
  := by
  induction es with
  | nil => simpa [insert] using h
  | cons f es ih =>
      grind [insert]

theorem Ascending.insert (h : Ascending es) (k : String) (v : α) :
  Ascending (insert k v es)
  := by
  induction es with
  | nil => apply List.pairwise_singleton
  | cons e es ih =>
      obtain ⟨hlt, hes⟩ := List.pairwise_cons.mp h
      rw [Assoc.insert]
      split
      · next hk =>
          apply List.pairwise_cons.mpr
          use fun f hf => hk ▸ hlt f hf, hes
      · next hk =>
          split
          · next hke =>
              apply List.pairwise_cons.mpr
              constructor
              · intro f hf
                rcases List.mem_cons.mp hf with rfl | hf
                · apply hke
                · apply lt_trans hke (hlt f hf)
              · apply h
          · next hke =>
              apply List.pairwise_cons.mpr
              constructor
              · intro f hf
                rcases mem_insert hf with rfl | hf
                · apply lt_of_le_of_ne (not_lt.mp hke) (Ne.symm hk)
                · apply hlt f hf
              · apply ih hes

/-- Inserting a key that is there changes its pair alone. -/
theorem Ascending.insert_eq_map (h : Ascending es) (hk : k ∈ keys es) (v : α) :
  Assoc.insert k v es = es.map fun e => if e.1 = k then (k, v) else e
  := by
  induction es with
  | nil => cases hk
  | cons e es ih =>
      obtain ⟨hlt, hes⟩ := List.pairwise_cons.mp h
      rw [Assoc.insert, List.map_cons]
      split
      · next hke =>
          rw [if_pos hke.symm]
          congr 1
          symm
          apply Eq.trans (List.map_congr_left _) es.map_id
          intro f hf
          apply if_neg
          intro hfk
          apply ne_of_lt (hlt f hf) (hke.symm.trans hfk.symm)
      · next hke =>
          have hmem : k ∈ keys es := by
            rcases List.mem_cons.mp hk with rfl | hmem
            · exact absurd rfl hke
            · apply hmem
          obtain ⟨f, hf, rfl⟩ := List.mem_map.mp hmem
          rw [if_neg (not_lt_of_gt (hlt f hf)), if_neg (Ne.symm hke), ih hes hmem]

/-- Inserting a key that is not there adds its pair. -/
theorem perm_insert (hk : get? k es = none) (v : α) :
  (Assoc.insert k v es).Perm ((k, v) :: es)
  := by
  induction es with
  | nil => rfl
  | cons e es ih =>
      obtain ⟨hne, hes⟩ := List.forall_mem_cons.mp (get?_eq_none_iff.mp hk)
      rw [Assoc.insert, if_neg (Ne.symm hne)]
      split
      · rfl
      · apply ((ih (get?_eq_none_iff.mpr hes)).cons e).trans (List.Perm.swap _ _ _)

theorem Ascending.erase (h : Ascending es) (k : String) :
  Ascending (erase k es)
  := List.Pairwise.filter _ h

/-- Erasing a key that is not there leaves the list as it is. -/
theorem erase_eq_self (hk : get? k es = none) :
  erase k es = es
  := by
  apply List.filter_eq_self.mpr
  intro e he
  simpa using get?_eq_none_iff.mp hk e he

/-- Erasing a key erases what was inserted under it. -/
theorem erase_insert_self (k : String) (v : α) (es : Assoc α) :
  erase k (insert k v es) = erase k es
  := by
  induction es with
  | nil => simp [Assoc.insert, erase]
  | cons e es ih =>
      rw [Assoc.insert]
      split
      · next hk => simp [erase, hk]
      · next hne =>
          split
          · simp [erase]
          · rw [erase, erase, List.filter_cons_of_pos (by simpa using Ne.symm hne),
              List.filter_cons_of_pos (by simpa using Ne.symm hne)]
            apply congrArg (List.cons e) ih

/-- Erasing a key takes back its insertion. -/
theorem erase_insert (hk : get? k es = none) (v : α) :
  erase k (insert k v es) = es
  := (erase_insert_self k v es).trans (erase_eq_self hk)

/-- Inserting the value of a key again takes back its erasure. -/
theorem Ascending.insert_erase (h : Ascending es) {v : α} (hk : get? k es = some v) :
  Assoc.insert k v (Assoc.erase k es) = es
  := by
  induction es with
  | nil => cases hk
  | cons e es ih =>
      obtain ⟨hlt, hes⟩ := List.pairwise_cons.mp h
      obtain ⟨l, w⟩ := e
      rw [get?] at hk
      split at hk
      · next hl =>
          cases hk
          subst hl
          have hrest : Assoc.erase l es = es := by
            apply List.filter_eq_self.mpr
            intro f hf
            simpa using (ne_of_lt (hlt f hf)).symm
          rw [Assoc.erase, List.filter_cons_of_neg (by simp)]
          change Assoc.insert l v (Assoc.erase l es) = _
          rw [hrest]
          cases es with
          | nil => rfl
          | cons f fs =>
              have hf := hlt f List.mem_cons_self
              rw [Assoc.insert, if_neg (ne_of_lt hf), if_pos hf]
      · next hl =>
          have hlk : l < k := hlt (k, v) (mem_of_get? hk)
          rw [Assoc.erase, List.filter_cons_of_pos (by simpa using hl), Assoc.insert,
            if_neg (Ne.symm hl), if_neg (not_lt_of_gt hlk)]
          congr 1
          apply ih hes hk

/-- A key stands at most once in an ascending list. -/
theorem Ascending.length_filter_le (h : Ascending es) (k : String) :
  (es.filter fun e => e.1 == k).length ≤ 1
  := by
  induction es with
  | nil => simp
  | cons e es ih =>
      obtain ⟨hlt, hes⟩ := List.pairwise_cons.mp h
      rw [List.filter_cons]
      split
      · next hk =>
          have hnil : es.filter (fun f => f.1 == k) = [] := by
            apply List.filter_eq_nil_iff.mpr
            intro f hf hfk
            have hne := ne_of_lt (hlt f hf)
            rw [eq_of_beq hk, eq_of_beq hfk] at hne
            apply hne rfl
          rw [hnil]
          rfl
      · apply ih hes

/-! ### Other keys -/

/-- The value of a key is that of the first pair with the key. -/
theorem get?_eq_head?_filter (k : String) (es : Assoc α) :
  get? k es = ((es.filter fun e => e.1 == k).head?).map Prod.snd
  := by
  induction es with
  | nil => rfl
  | cons e es ih =>
      obtain ⟨m, w⟩ := e
      rw [get?, List.filter_cons, ih]
      by_cases h : m = k
      · simp [h]
      · simp [h]

/-- In an ascending list, the pairs of a key are the one that is found by it. -/
theorem Ascending.filter_key (h : Ascending es) (k : String) :
  es.filter (fun e => e.1 == k) = ((get? k es).map fun v => (k, v)).toList
  := by
  have hlength := h.length_filter_le k
  have hkey : ∀ e ∈ es.filter (fun e => e.1 == k), e = (k, e.2) := by
    intro e he
    exact Prod.ext (eq_of_beq (List.mem_filter.mp he).2) rfl
  rw [get?_eq_head?_filter]
  generalize es.filter (fun e => e.1 == k) = pairs at hlength hkey
  match pairs with
  | [] => rfl
  | [e] => exact congrArg (fun f => [f]) (hkey e List.mem_cons_self)
  | _ :: _ :: _ => exact absurd hlength (by simp)

/-- An ascending list is what is found by its keys. -/
theorem Ascending.ext {fs : Assoc α} (h : Ascending es) (h' : Ascending fs)
    (hget : ∀ k, get? k es = get? k fs) :
  es = fs
  := by
  have hirrefl : ∀ {gs : Assoc α}, Ascending gs → gs.Nodup := by
    intro gs hgs
    apply List.Pairwise.imp _ hgs
    rintro e _ hlt rfl
    exact lt_irrefl _ hlt
  have hperm : es.Perm fs := by
    apply (List.perm_ext_iff_of_nodup (hirrefl h) (hirrefl h')).mpr
    rintro ⟨k, v⟩
    rw [← h.get?_eq_some_iff, ← h'.get?_eq_some_iff, hget]
  apply hperm.eq_of_pairwise _ h h'
  intro e f _ _ hlt hgt
  exact absurd (hlt.trans hgt) (lt_irrefl _)

/-- Pairs of different keys can be inserted in either order. -/
theorem insert_comm {l : String} (h : k < l) (v w : α) (es : Assoc α) :
  insert k v (insert l w es) = insert l w (insert k v es)
  := by
  have hne : l ≠ k := ne_of_gt h
  have hlt : ¬ l < k := not_lt_of_gt h
  induction es with
  | nil => simp [insert, h, hne, hne.symm, hlt]
  | cons e es ih =>
      obtain ⟨m, x⟩ := e
      rcases lt_trichotomy m k with hk | rfl | hk
      · have hml : m < l := hk.trans h
        simp only [insert, ne_of_gt hk, not_lt_of_gt hk, ne_of_gt hml, not_lt_of_gt hml, if_false, ih]
      · simp only [insert, hne, hlt, if_false, if_true]
      · rcases lt_trichotomy m l with hl | rfl | hl
        · simp [insert, ne_of_gt hl, not_lt_of_gt hl, ne_of_lt hk, hk, hne, hlt]
        · simp [insert, hne, hlt, hne.symm, h]
        · simp [insert, ne_of_lt hl, hl, ne_of_lt hk, hk, hne, hlt, hne.symm, h]

/-- Insertions of different keys commute, whichever of the keys comes first. -/
theorem insert_comm_of_ne {l : String} (h : k ≠ l) (v w : α) (es : Assoc α) :
  insert k v (insert l w es) = insert l w (insert k v es)
  := by
  rcases lt_or_gt_of_ne h with hlt | hgt
  · apply insert_comm hlt
  · symm
    apply insert_comm hgt

/-- Of two insertions of a key the later one counts. -/
theorem insert_insert (k : String) (v w : α) (es : Assoc α) :
  insert k v (insert k w es) = insert k v es
  := by
  induction es with
  | nil => simp [insert]
  | cons e es ih =>
      obtain ⟨m, x⟩ := e
      rw [insert]
      split
      · next hk => rw [insert, if_pos rfl, insert, if_pos hk]
      · next hk =>
          split
          · next hlt => rw [insert, if_pos rfl, insert, if_neg hk, if_pos hlt]
          · next hlt => rw [insert, if_neg hk, if_neg hlt, ih, insert, if_neg hk, if_neg hlt]

/-- Inserting what is there already changes nothing. -/
theorem Ascending.insert_of_get? (h : Ascending es) {v : α} (hk : get? k es = some v) :
  Assoc.insert k v es = es
  := by
  apply (h.insert k v).ext h
  intro l
  rw [get?_insert]
  split
  · next hl => rw [hl, hk]
  · rfl

/-- An insertion puts its pair before or among the pairs of the other keys. -/
theorem Ascending.perm_insert_erase (h : Ascending es) (k : String) (v : α) :
  (Assoc.insert k v es).Perm ((k, v) :: Assoc.erase k es)
  := by
  have hsame : Assoc.insert k v es = Assoc.insert k v (Assoc.erase k es) := by
    apply (h.insert k v).ext ((h.erase k).insert k v)
    intro l
    rw [get?_insert, get?_insert, get?_erase]
    split
    · rfl
    · rfl
  rw [hsame]
  apply perm_insert
  rw [get?_erase, if_pos rfl]

/-- The pairs of a part of the keys stay as they are if the inserted key is not in it. -/
theorem filter_insert_of_neg {q : String → Bool} (h : q k = false) (v : α) (es : Assoc α) :
  (insert k v es).filter (fun e => q e.1) = es.filter fun e => q e.1
  := by
  induction es with
  | nil => simp [insert, h]
  | cons e es ih =>
      obtain ⟨m, w⟩ := e
      rw [insert]
      split
      · next hkm => simp [h, ← hkm]
      · split
        · simp [h]
        · rw [List.filter_cons, List.filter_cons, ih]

/-- The pairs of other keys stay as they are. -/
theorem filter_insert_of_ne {l : String} (h : l ≠ k) (v : α) (es : Assoc α) :
  (insert k v es).filter (fun e => e.1 == l) = es.filter fun e => e.1 == l
  := filter_insert_of_neg (q := (· == l)) (beq_false_of_ne h.symm) v es

/-! ### Keys -/

/-- Where a key is inserted depends on the keys alone. -/
theorem keys_insert_congr {β : Type} {es : Assoc α} {fs : Assoc β} (h : keys es = keys fs)
    (k : String) (v : α) (w : β) :
  keys (insert k v es) = keys (insert k w fs)
  := by
  induction es generalizing fs with
  | nil =>
      obtain rfl : fs = [] := List.map_eq_nil_iff.mp h.symm
      rfl
  | cons e es ih =>
      cases fs with
      | nil => cases h
      | cons f fs =>
          obtain ⟨l, v'⟩ := e
          obtain ⟨m, w'⟩ := f
          obtain ⟨rfl, hkeys⟩ : l = m ∧ keys es = keys fs := List.cons_eq_cons.mp h
          rw [insert, insert]
          split
          · apply congrArg (List.cons k) hkeys
          · split
            · apply congrArg (List.cons k) h
            · apply congrArg (List.cons l) (ih hkeys)

theorem keys_erase (k : String) (es : Assoc α) :
  keys (erase k es) = (keys es).filter fun l => l ≠ k
  := by
  rw [keys, keys, erase, List.filter_map]
  rfl

theorem mem_keys_iff :
  k ∈ keys es ↔ get? k es ≠ none
  := by
  rw [ne_eq, get?_eq_none_iff, keys, List.mem_map]
  push Not
  rfl

theorem mem_keys_insert_iff {l : String} {v : α} :
  l ∈ keys (insert k v es) ↔ l = k ∨ l ∈ keys es
  := by
  rw [mem_keys_iff, mem_keys_iff, get?_insert]
  split
  · next hl => simp [hl]
  · next hl => simp [hl]

/-- A key that has no value is not among the keys. -/
theorem notMem_keys_of_contains (h : contains k es = false) :
  k ∉ keys es
  := by
  rw [mem_keys_iff]
  simpa [contains] using h

/-- Inserting a key that is there keeps the keys. -/
theorem Ascending.keys_insert (h : Ascending es) (hk : k ∈ keys es) (v : α) :
  keys (Assoc.insert k v es) = keys es
  := by
  rw [h.insert_eq_map hk, keys, keys, List.map_map]
  apply List.map_congr_left
  intro e _
  rw [Function.comp_apply]
  split
  · next he => exact he.symm
  · rfl

/-! ### Lists of pairs -/

/-- What is read off a state after the pairs of a list with distinct keys, if it changes with the
pair of one key alone, is read from that pair. -/
theorem foldl_eq_of_step {σ β : Type} {step : σ → String × α → σ} (view : σ → Option β)
    (read : String × α → Option β)
    (hstep : ∀ s e, view (step s e) = if e.1 = k then (read e).or (view s) else view s)
    (h : (keys es).Nodup) (s : σ) :
  view (es.foldl step s) = ((get? k es).bind fun v => read (k, v)).or (view s)
  := by
  induction es generalizing s with
  | nil => rfl
  | cons e es ih =>
      obtain ⟨hfresh, hes⟩ := List.nodup_cons.mp h
      obtain ⟨l, v⟩ := e
      rw [List.foldl_cons, ih hes, hstep, get?]
      split
      · next hk =>
          have hnone : get? k es = none := by
            apply get?_eq_none_iff.mpr
            intro f hf hfk
            exact hfresh (hk.trans hfk.symm ▸ List.mem_map_of_mem hf)
          rw [hnone, Option.bind_none, Option.none_or, Option.bind_some, ← hk]
      · rfl

theorem mem_ofList {es : List (String × α)} {e : String × α} (h : e ∈ ofList es) :
  e ∈ es
  := by
  induction es using List.reverseRecOn with
  | nil => cases h
  | append_singleton es f ih =>
      rw [ofList, List.foldl_append] at h
      rcases mem_insert h with rfl | h
      · simp
      · apply List.mem_append_left _ (ih h)

theorem ascending_ofList (es : List (String × α)) :
  Ascending (ofList es)
  := by
  have h : ∀ acc : Assoc α, Ascending acc →
      Ascending (es.foldl (fun acc e => insert e.1 e.2 acc) acc) := by
    induction es with
    | nil => exact fun _ hacc => hacc
    | cons e es ih => exact fun _ hacc => ih _ (hacc.insert e.1 e.2)
  apply h _ List.Pairwise.nil

end AuditedStore.Assoc
