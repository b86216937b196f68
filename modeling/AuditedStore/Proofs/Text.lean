import AuditedStore.Proofs.Numeral
import AuditedStore.Text
import Mathlib.Data.List.DropRight
import Mathlib.Data.List.TakeWhile

/-!
# Pieces of texts

A text that is joined of two with a separator between them is cut into the pieces of both, and
a text without the separator is its only piece; the pieces of a text, joined again, are the text.  A blank text has no words and leaves nothing
when it is trimmed; of a joined text, both ends are trimmed alone; digits are not blank.  What a text begins or ends with can be
split off it; two texts that are joined at a separator cannot always be told from what they give.
-/

namespace AuditedStore.Text

variable {p : Char → Bool} {cs ds : List Char} {c sep : Char} {s t front back : String}

/-! ### Pieces of characters -/

theorem pieces_cons_of_pos (hc : p c = true) :
  pieces p (c :: cs) = [] :: pieces p cs
  := by rw [pieces, if_pos hc]

theorem pieces_cons_of_neg (hc : p c = false) {w : List Char} {ws : List (List Char)}
    (h : pieces p cs = w :: ws) :
  pieces p (c :: cs) = (c :: w) :: ws
  := by rw [pieces, hc, if_neg Bool.false_ne_true, h]

/-- Characters that are joined with a separator are cut into the pieces of both. -/
theorem pieces_append_cons (hc : p c = true) (cs ds : List Char) :
  pieces p (cs ++ c :: ds) = pieces p cs ++ pieces p ds
  := by
  induction cs with
  | nil => apply pieces_cons_of_pos hc
  | cons b cs ih =>
      cases hb : p b with
      | true => rw [List.cons_append, pieces_cons_of_pos hb, pieces_cons_of_pos hb, ih,
          List.cons_append]
      | false =>
          obtain ⟨w, ws, hws⟩ := List.exists_cons_of_ne_nil (pieces_ne_nil p cs)
          have hjoined : pieces p (cs ++ c :: ds) = w :: (ws ++ pieces p ds) := by
            rw [ih, hws, List.cons_append]
          rw [List.cons_append, pieces_cons_of_neg hb hjoined, pieces_cons_of_neg hb hws,
            List.cons_append]

/-- Without a separator, all characters are one piece. -/
theorem pieces_of_forall (h : ∀ c ∈ cs, p c = false) :
  pieces p cs = [cs]
  := by
  induction cs with
  | nil => rfl
  | cons c cs ih =>
      obtain ⟨hc, hcs⟩ := List.forall_mem_cons.mp h
      apply pieces_cons_of_neg hc (ih hcs)

/-- The characters of the pieces are those that do not separate them. -/
theorem of_mem_pieces {w : List Char} (hw : w ∈ pieces p cs) (hc : c ∈ w) :
  c ∈ cs ∧ p c = false
  := by
  induction cs generalizing w with
  | nil =>
      rw [pieces, List.mem_singleton] at hw
      rw [hw] at hc
      cases hc
  | cons b cs ih =>
      cases hb : p b with
      | true =>
          rw [pieces_cons_of_pos hb] at hw
          rcases List.mem_cons.mp hw with rfl | hw
          · cases hc
          · obtain ⟨hmem, hp⟩ := ih hw hc
            exact ⟨List.mem_cons_of_mem _ hmem, hp⟩
      | false =>
          obtain ⟨v, vs, hvs⟩ := List.exists_cons_of_ne_nil (pieces_ne_nil p cs)
          rw [pieces_cons_of_neg hb hvs] at hw
          rw [hvs] at ih
          rcases List.mem_cons.mp hw with rfl | hw
          · rcases List.mem_cons.mp hc with rfl | hc
            · exact ⟨List.mem_cons_self, hb⟩
            · obtain ⟨hmem, hp⟩ := ih List.mem_cons_self hc
              exact ⟨List.mem_cons_of_mem _ hmem, hp⟩
          · obtain ⟨hmem, hp⟩ := ih (List.mem_cons_of_mem _ hw) hc
            exact ⟨List.mem_cons_of_mem _ hmem, hp⟩

/-! ### Pieces of texts -/

/-- Texts that are joined with a separator are cut into the pieces of both. -/
theorem split_append (sep : Char) (s t : String) :
  split sep (s ++ String.singleton sep ++ t) = split sep s ++ split sep t
  := by
  have hchars : (s ++ String.singleton sep ++ t).toList = s.toList ++ sep :: t.toList := by
    simp
  have hpieces := pieces_append_cons (p := (· == sep)) (beq_self_eq_true sep) s.toList t.toList
  rw [split, hchars, hpieces, List.map_append, split, split]

theorem split_of_notMem (h : sep ∉ s.toList) :
  split sep s = [s]
  := by
  have hne : ∀ c ∈ s.toList, (c == sep) = false := by
    intro c hc
    apply beq_false_of_ne
    rintro rfl
    exact h hc
  rw [split, pieces_of_forall hne, List.map_singleton, String.ofList_toList]

theorem pieces_eq_splitOnP (p : Char → Bool) (cs : List Char) :
  pieces p cs = cs.splitOnP p
  := by
  induction cs with
  | nil => rfl
  | cons c cs ih =>
      obtain ⟨w, ws, hws⟩ := List.exists_cons_of_ne_nil (pieces_ne_nil p cs)
      rw [List.splitOnP_cons_eq_if_modifyHead, ← ih, pieces, hws, List.modifyHead_cons]

theorem map_toList_split (sep : Char) (s : String) :
  (split sep s).map String.toList = s.toList.splitOn sep
  := by
  rw [split, List.map_map, pieces_eq_splitOnP, List.splitOn_eq_splitOnP]
  simp [Function.comp_def]

/-- The pieces of a text, joined by the separator, are the text. -/
theorem intercalate_split (sep : Char) (s : String) :
  (String.singleton sep).intercalate (split sep s) = s
  := by
  apply String.toList_injective
  rw [String.toList_intercalate, map_toList_split, String.toList_singleton,
    List.intercalate_splitOn]

/-- Texts without the separator that are joined by it are the pieces of the joined text. -/
theorem split_intercalate {ts : List String} (hne : ts ≠ []) (h : ∀ t ∈ ts, sep ∉ t.toList) :
  split sep ((String.singleton sep).intercalate ts) = ts
  := by
  apply List.map_injective_iff.mpr fun _ _ => String.toList_injective
  rw [map_toList_split, String.toList_intercalate, String.toList_singleton]
  apply List.splitOn_intercalate
  · rintro cs hcs
    obtain ⟨t, ht, rfl⟩ := List.mem_map.mp hcs
    exact h t ht
  · rwa [ne_eq, List.map_eq_nil_iff]

/-- The characters of the pieces are those of the text other than the separator. -/
theorem mem_of_mem_split (ht : t ∈ split sep s) (hc : c ∈ t.toList) :
  c ∈ s.toList ∧ c ≠ sep
  := by
  obtain ⟨w, hw, rfl⟩ := List.mem_map.mp ht
  rw [String.toList_ofList] at hc
  obtain ⟨hmem, hne⟩ := of_mem_pieces hw hc
  exact ⟨hmem, ne_of_beq_false hne⟩

theorem notMem_of_mem_split (ht : t ∈ split sep s) :
  sep ∉ t.toList
  := fun hc => (mem_of_mem_split ht hc).2 rfl

/-- A text has some pieces exactly if it is joined of them and none has the separator in it. -/
theorem split_eq_iff {ts : List String} (hne : ts ≠ []) :
  split sep s = ts
    ↔ s = (String.singleton sep).intercalate ts ∧ ∀ t ∈ ts, sep ∉ t.toList
  := by
  constructor
  · rintro rfl
    exact ⟨(intercalate_split sep s).symm, fun _ ht => notMem_of_mem_split ht⟩
  · rintro ⟨rfl, h⟩
    exact split_intercalate hne h

/-- A text whose pieces are those of two others is joined of these. -/
theorem exists_of_split_eq_append {ts us : List String} (hts : ts ≠ []) (hus : us ≠ [])
    (h : split sep s = ts ++ us) :
  ∃ front rest, s = front ++ String.singleton sep ++ rest
    ∧ split sep front = ts ∧ split sep rest = us
  := by
  have hsep : ∀ t ∈ ts ++ us, sep ∉ t.toList := by
    intro t ht
    rw [← h] at ht
    exact notMem_of_mem_split ht
  obtain ⟨hsepTs, hsepUs⟩ := List.forall_mem_append.mp hsep
  have hfront := split_intercalate hts hsepTs
  have hrest := split_intercalate hus hsepUs
  refine ⟨_, _, ?_, hfront, hrest⟩
  apply Function.LeftInverse.injective (intercalate_split sep)
  rw [split_append, hfront, hrest, h]

/-- There is one piece more than there are separators. -/
theorem length_split (sep : Char) (s : String) :
  (split sep s).length = s.toList.count sep + 1
  := by
  rw [split, List.length_map]
  induction s.toList with
  | nil => rfl
  | cons c cs ih =>
      obtain ⟨w, ws, hws⟩ := List.exists_cons_of_ne_nil (pieces_ne_nil (· == sep) cs)
      rw [List.count_cons, ← Nat.add_right_comm, ← ih, pieces, hws]
      split
      · rfl
      · rfl

/-! ### Blank texts -/

/-- The pieces of a blank text are blank. -/
theorem isBlank_of_mem_split (hs : isBlank s = true) (ht : t ∈ split sep s) :
  isBlank t = true
  := by
  obtain ⟨w, hw, rfl⟩ := List.mem_map.mp ht
  apply List.all_eq_true.mpr
  intro c hc
  rw [String.toList_ofList] at hc
  apply List.all_eq_true.mp hs c (of_mem_pieces hw hc).1

theorem words_of_isBlank (hs : isBlank s = true) :
  words s = []
  := by
  rw [words, List.map_eq_nil_iff, List.filter_eq_nil_iff]
  intro w hw hne
  -- A character of a word would be a character of the text that is not blank.
  cases w with
  | nil => cases hne
  | cons c w =>
      obtain ⟨hc, hblank⟩ := of_mem_pieces hw List.mem_cons_self
      rw [List.all_eq_true.mp hs c hc] at hblank
      cases hblank

theorem trim_of_isBlank (hs : isBlank s = true) :
  trim s = ""
  := by
  have hleft : trimLeft s.toList = [] := List.dropWhile_eq_nil_iff.mpr (List.all_eq_true.mp hs)
  rw [trim, hleft]
  rfl

theorem toLower_of_isBlankChar (h : isBlankChar c = true) :
  c.toLower = c
  := by
  have hupper : ¬ (65 ≤ c.toNat ∧ c.toNat ≤ 90) := by
    intro hrange
    simp [isBlankChar] at h
    omega
  exact dif_neg hupper

theorem asciiLower_of_isBlank (hs : isBlank s = true) :
  asciiLower s = s
  := by
  have hchars : s.toList.map Char.toLower = s.toList.map id := by
    apply List.map_congr_left
    intro c hc
    exact toLower_of_isBlankChar (List.all_eq_true.mp hs c hc)
  rw [asciiLower, hchars, List.map_id, String.ofList_toList]

/-! ### Trimmed texts -/

/-- A text without the blank characters in front. -/
def trimStart (s : String) : String := String.ofList (trimLeft s.toList)

/-- A text without the blank characters at its end. -/
def trimEnd (s : String) : String := String.ofList (trimRight s.toList)

theorem trimLeft_cons (hc : isBlankChar c = false) (cs : List Char) :
  trimLeft (c :: cs) = c :: cs
  := by simp [trimLeft, hc]

/-- Blank characters in front stand before the first character that is not blank. -/
theorem trimLeft_append_cons (hc : isBlankChar c = false) (cs ds : List Char) :
  trimLeft (cs ++ c :: ds) = trimLeft cs ++ c :: ds
  := by
  induction cs with
  | nil => exact trimLeft_cons hc ds
  | cons b cs ih =>
      cases hb : isBlankChar b with
      | true =>
          rw [trimLeft, trimLeft, List.cons_append, List.dropWhile_cons_of_pos hb,
            List.dropWhile_cons_of_pos hb]
          exact ih
      | false => rw [List.cons_append, trimLeft_cons hb, trimLeft_cons hb, List.cons_append]

theorem trimRight_append_cons (hc : isBlankChar c = false) (cs ds : List Char) :
  trimRight (cs ++ c :: ds) = cs ++ c :: trimRight ds
  := by
  have hreverse : ∀ es : List Char, trimRight es = (trimLeft es.reverse).reverse := fun _ => rfl
  rw [hreverse, hreverse, List.reverse_append, List.reverse_cons, List.append_assoc,
    List.singleton_append, trimLeft_append_cons hc, List.reverse_append, List.reverse_cons,
    List.reverse_reverse, List.append_assoc, List.singleton_append]

theorem trimStart_append (hsep : isBlankChar sep = false) (s t : String) :
  trimStart (s ++ String.singleton sep ++ t) = trimStart s ++ String.singleton sep ++ t
  := by
  apply String.toList_injective
  simp [trimStart, trimLeft_append_cons hsep]

/-- Of two texts that are joined at a separator, the one is trimmed in front and the other at its
end. -/
theorem trim_append (hsep : isBlankChar sep = false) (s t : String) :
  trim (s ++ String.singleton sep ++ t) = trimStart s ++ String.singleton sep ++ trimEnd t
  := by
  apply String.toList_injective
  simp [trim, trimStart, trimEnd, trimLeft_append_cons hsep, trimRight_append_cons hsep]

theorem trim_trimStart (s : String) :
  trim (trimStart s) = trim s
  := by
  have htwice : trimLeft (trimLeft s.toList) = trimLeft s.toList := List.dropWhile_idempotent _ _
  rw [trim, trimStart, String.toList_ofList, htwice, trim]

theorem trimLeft_eq_self (h : ∀ c ∈ cs, isBlankChar c = false) :
  trimLeft cs = cs
  := by
  apply List.dropWhile_eq_self_iff.mpr
  intro hl
  rw [h _ (List.getElem_mem hl)]
  exact Bool.false_ne_true

theorem trimRight_eq_self (h : ∀ c ∈ cs, isBlankChar c = false) :
  trimRight cs = cs
  := by
  have hreverse : trimLeft cs.reverse = cs.reverse :=
    trimLeft_eq_self fun c hc => h c (List.mem_reverse.mp hc)
  rw [trimLeft] at hreverse
  rw [trimRight, hreverse, List.reverse_reverse]

/-- A text without blank characters is left as it is. -/
theorem trim_eq_self (h : ∀ c ∈ s.toList, isBlankChar c = false) :
  trim s = s
  := by rw [trim, trimLeft_eq_self h, trimRight_eq_self h, String.ofList_toList]

theorem trimEnd_eq_self (h : ∀ c ∈ s.toList, isBlankChar c = false) :
  trimEnd s = s
  := by rw [trimEnd, trimRight_eq_self h, String.ofList_toList]

/-- A character that is not blank is in no blank text. -/
theorem notMem_of_isBlank (hs : isBlank s = true) (hc : isBlankChar c = false) :
  c ∉ s.toList
  := by
  intro hmem
  rw [List.all_eq_true.mp hs c hmem] at hc
  cases hc

/-- The first character of a text, if there is one, is not blank. -/
def IsTrimmedStart (s : String) : Prop := ∀ c ∈ s.toList.head?, isBlankChar c = false

/-- The last character of a text, if there is one, is not blank. -/
def IsTrimmedEnd (s : String) : Prop := ∀ c ∈ s.toList.getLast?, isBlankChar c = false

theorem IsTrimmedStart.of_append (h : IsTrimmedStart (s ++ t)) :
  IsTrimmedStart s
  := by
  intro c hc
  apply h
  rw [String.toList_append, List.head?_append, hc]
  rfl

theorem IsTrimmedEnd.of_append (h : IsTrimmedEnd (s ++ t)) :
  IsTrimmedEnd t
  := by
  intro c hc
  apply h
  rw [String.toList_append, List.getLast?_append, hc]
  rfl

/-- Blank text in front of a text that is not blank there is trimmed. -/
theorem IsTrimmedStart.trimStart_append (h : IsTrimmedStart s) (hfront : isBlank front = true) :
  trimStart (front ++ s) = s
  := by
  have hkept : trimLeft s.toList = s.toList := by
    cases hs : s.toList with
    | nil => rfl
    | cons c cs => exact trimLeft_cons (h c (by rw [hs]; rfl)) cs
  rw [trimStart, String.toList_append, trimLeft,
    List.dropWhile_append_of_pos (List.all_eq_true.mp hfront)]
  exact (congrArg String.ofList hkept).trans String.ofList_toList

/-- Blank text behind a text that is not blank there is trimmed. -/
theorem IsTrimmedEnd.trimEnd_append (h : IsTrimmedEnd s) (hback : isBlank back = true) :
  trimEnd (s ++ back) = s
  := by
  have hreversed : IsTrimmedStart (String.ofList s.toList.reverse) := by
    intro c hc
    apply h
    rwa [String.toList_ofList, List.head?_reverse] at hc
  have hblank : isBlank (String.ofList back.toList.reverse) = true := by
    rw [isBlank, String.toList_ofList, List.all_reverse]
    exact hback
  have htrim := congrArg String.toList (hreversed.trimStart_append hblank)
  rw [trimStart, String.toList_append, String.toList_ofList, String.toList_ofList,
    String.toList_ofList, trimLeft] at htrim
  rw [trimEnd, String.toList_append, trimRight, List.reverse_append, htrim, List.reverse_reverse,
    String.ofList_toList]

/-- A text is what is left of it when it is trimmed, with blank text before and after. -/
theorem exists_eq_append_trim (s : String) :
  ∃ front back, isBlank front = true ∧ isBlank back = true ∧ s = front ++ trim s ++ back
  := by
  have hsplit : ∀ cs : List Char, cs.takeWhile isBlankChar ++ trimLeft cs = cs :=
    fun _ => List.takeWhile_append_dropWhile
  let middle := trimLeft s.toList
  refine ⟨String.ofList (s.toList.takeWhile isBlankChar),
    String.ofList (middle.reverse.takeWhile isBlankChar).reverse, ?_, ?_, ?_⟩
  · rw [isBlank, String.toList_ofList]
    exact List.all_takeWhile
  · rw [isBlank, String.toList_ofList, List.all_reverse]
    exact List.all_takeWhile
  · have hmiddle : trimRight middle ++ (middle.reverse.takeWhile isBlankChar).reverse = middle := by
      have := congrArg List.reverse (hsplit middle.reverse)
      rwa [List.reverse_append, List.reverse_reverse] at this
    apply String.toList_injective
    rw [String.append_assoc, String.toList_append, String.toList_append, trim, String.toList_ofList,
      String.toList_ofList, String.toList_ofList, hmiddle, hsplit]

/-- Trimming leaves all characters in place that are not blank. -/
theorem count_trim (hc : isBlankChar c = false) (s : String) :
  (trim s).toList.count c = s.toList.count c
  := by
  obtain ⟨front, back, hfront, hback, heq⟩ := exists_eq_append_trim s
  have hnone : front.toList.count c = 0 ∧ back.toList.count c = 0 :=
    ⟨List.count_eq_zero_of_not_mem (notMem_of_isBlank hfront hc),
      List.count_eq_zero_of_not_mem (notMem_of_isBlank hback hc)⟩
  conv_rhs => rw [heq]
  simp [List.count_append, hnone]

theorem isTrimmedEnd_trim (s : String) :
  IsTrimmedEnd (trim s)
  := by
  intro c hc
  have hkept := List.head?_dropWhile_not isBlankChar (trimLeft s.toList).reverse
  rw [trim, String.toList_ofList, trimRight, List.getLast?_reverse] at hc
  rwa [hc] at hkept

theorem isTrimmedStart_trim (s : String) :
  IsTrimmedStart (trim s)
  := by
  -- What is left begins as the text does without the blank characters in front.
  obtain ⟨back, hback⟩ : trimRight (trimLeft s.toList) <+: trimLeft s.toList :=
    List.rdropWhile_prefix _ _
  intro c hc
  have hkept := List.head?_dropWhile_not isBlankChar s.toList
  rw [trim, String.toList_ofList] at hc
  have hhead : (trimLeft s.toList).head? = some c := by
    rw [← hback, List.head?_append, hc, Option.some_or]
  rw [trimLeft] at hhead
  rwa [hhead] at hkept

theorem mem_of_mem_trimStart (h : c ∈ (trimStart s).toList) :
  c ∈ s.toList
  := by
  rw [trimStart, String.toList_ofList] at h
  exact (List.dropWhile_sublist _).mem h

theorem mem_of_mem_trimEnd (h : c ∈ (trimEnd s).toList) :
  c ∈ s.toList
  := by
  rw [trimEnd, String.toList_ofList, trimRight, List.mem_reverse] at h
  exact List.mem_reverse.mp ((List.dropWhile_sublist _).mem h)

/-! ### Digits -/

theorem isBlankChar_of_isDigit (h : Numeral.isDigit c = true) :
  isBlankChar c = false
  := by
  obtain ⟨hlower, hupper⟩ := Numeral.isDigit_iff.mp h
  simp only [isBlankChar, Bool.or_eq_false_iff, Bool.and_eq_false_iff, decide_eq_false_iff_not,
    beq_eq_false_iff_ne]
  omega

theorem toNat_of_hexDigit? (h : (hexDigit? c).isSome = true) :
  48 ≤ c.toNat ∧ c.toNat ≤ 57 ∨ 97 ≤ c.toNat ∧ c.toNat ≤ 102 ∨ 65 ≤ c.toNat ∧ c.toNat ≤ 70
  := by
  rw [hexDigit?] at h
  split at h
  · next hd => exact Or.inl hd
  · split at h
    · next hd => exact Or.inr (Or.inl hd)
    · split at h
      · next hd => exact Or.inr (Or.inr hd)
      · cases h

theorem isBlankChar_of_hexDigit? (h : (hexDigit? c).isSome = true) :
  isBlankChar c = false
  := by
  have hrange := toNat_of_hexDigit? h
  simp [isBlankChar]
  omega

/-! ### Beginnings and ends -/

/-- A text begins with another one exactly if it is that one with some text after it. -/
theorem beginsWith_iff :
  beginsWith s front = true ↔ ∃ t, s = front ++ t
  := by
  rw [beginsWith, List.isPrefixOf_iff_prefix]
  constructor
  · rintro ⟨cs, hcs⟩
    refine ⟨String.ofList cs, String.toList_injective ?_⟩
    rw [String.toList_append, String.toList_ofList, hcs]
  · rintro ⟨t, rfl⟩
    rw [String.toList_append]
    apply List.prefix_append

theorem beginsWith_append (h : beginsWith s front = true) (t : String) :
  beginsWith (s ++ t) front = true
  := by
  obtain ⟨u, rfl⟩ := beginsWith_iff.mp h
  exact beginsWith_iff.mpr ⟨u ++ t, String.append_assoc⟩

/-- A text ends with another one exactly if it is that one with some text before it. -/
theorem endsWith_iff :
  endsWith s back = true ↔ ∃ t, s = t ++ back
  := by
  rw [endsWith, List.isSuffixOf_iff_suffix]
  constructor
  · rintro ⟨cs, hcs⟩
    refine ⟨String.ofList cs, String.toList_injective ?_⟩
    rw [String.toList_append, String.toList_ofList, hcs]
  · rintro ⟨t, rfl⟩
    rw [String.toList_append]
    apply List.suffix_append

theorem dropEnd?_append (t back : String) :
  dropEnd? (t ++ back) back = some t
  := by
  rw [dropEnd?, if_pos (endsWith_iff.mpr ⟨t, rfl⟩), String.toList_append, List.length_append,
    Nat.add_sub_cancel, List.take_left, String.ofList_toList]

/-- A text without its end is what stands before that end. -/
theorem dropEnd?_eq_some_iff :
  dropEnd? s back = some t ↔ s = t ++ back
  := by
  constructor
  · intro h
    have hends : endsWith s back = true := by
      by_contra hends
      rw [dropEnd?, if_neg hends] at h
      cases h
    obtain ⟨u, rfl⟩ := endsWith_iff.mp hends
    rw [dropEnd?_append] at h
    rw [Option.some.inj h]
  · rintro rfl
    apply dropEnd?_append

theorem dropEnd?_eq_none_iff :
  dropEnd? s back = none ↔ endsWith s back = false
  := by simp [dropEnd?]

/-! ### Joined texts -/

/-- Characters that are joined at a separator in two ways are joined at the same place, or at two
places with the characters between them in one part of each. -/
theorem append_cons_eq_iff {cs' ds' : List Char} :
  cs ++ sep :: ds = cs' ++ sep :: ds'
    ↔ cs = cs' ∧ ds = ds'
      ∨ (∃ es, cs' = cs ++ sep :: es ∧ ds = es ++ sep :: ds')
      ∨ ∃ es, cs = cs' ++ sep :: es ∧ ds' = es ++ sep :: ds
  := by
  constructor
  · intro h
    rcases List.append_eq_append_iff.mp h with ⟨es, hcs, hds⟩ | ⟨es, hcs, hds⟩
    · cases es with
      | nil =>
          rw [List.append_nil] at hcs
          exact Or.inl ⟨hcs.symm, (List.cons.inj hds).2⟩
      | cons e es =>
          obtain ⟨rfl, htail⟩ := List.cons.inj hds
          exact Or.inr (Or.inl ⟨es, hcs, htail⟩)
    · cases es with
      | nil =>
          rw [List.append_nil] at hcs
          exact Or.inl ⟨hcs, (List.cons.inj hds).2.symm⟩
      | cons e es =>
          obtain ⟨rfl, htail⟩ := List.cons.inj hds
          exact Or.inr (Or.inr ⟨es, hcs, htail⟩)
  · rintro (⟨rfl, rfl⟩ | ⟨es, rfl, rfl⟩ | ⟨es, rfl, rfl⟩)
    · rfl
    · simp
    · simp

/-- Texts that are joined at a separator in two ways are joined at the same place, or at two places
with the text between them in one part of each. -/
theorem joined_eq_iff (sep : Char) {s' t' : String} :
  s ++ String.singleton sep ++ t = s' ++ String.singleton sep ++ t'
    ↔ s = s' ∧ t = t'
      ∨ (∃ u, s' = s ++ String.singleton sep ++ u ∧ t = u ++ String.singleton sep ++ t')
      ∨ ∃ u, s = s' ++ String.singleton sep ++ u ∧ t' = u ++ String.singleton sep ++ t
  := by
  have hchars : ∀ u v w : String, u = v ++ String.singleton sep ++ w
      ↔ u.toList = v.toList ++ sep :: w.toList := by
    intro u v w
    rw [← String.toList_inj]
    simp
  have htext : ∀ P : List Char → Prop, (∃ es, P es) ↔ ∃ u : String, P u.toList := by
    intro P
    constructor
    · rintro ⟨es, hes⟩
      exact ⟨String.ofList es, by rwa [String.toList_ofList]⟩
    · rintro ⟨u, hu⟩
      exact ⟨_, hu⟩
  rw [hchars, String.toList_append, String.toList_append, String.toList_singleton,
    List.append_assoc, List.singleton_append, append_cons_eq_iff, htext, htext]
  simp only [hchars, String.toList_inj]

end AuditedStore.Text
