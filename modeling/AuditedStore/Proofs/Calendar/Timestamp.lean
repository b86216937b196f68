import AuditedStore.Calendar.Timestamp
import AuditedStore.Proofs.Calendar.Date
import AuditedStore.Proofs.Numeral
import AuditedStore.Proofs.Text

/-!
# Reading timestamps back

The text of an instant is read as the instant it was written for, up to a leap second that is
not at the end of a minute: this is written, and so read, as the second after it.  Every
instant that is read is written and read back as it is.
-/

namespace AuditedStore

namespace Instant

/-! ### Digits -/

/-- Texts that go on with something else than a digit. -/
def EndsDigits (rest : List Char) : Prop := rest.takeWhile Numeral.isDigit = []

theorem endsDigits_cons {c : Char} (h : Numeral.isDigit c = false) (cs : List Char) :
  EndsDigits (c :: cs)
  := by simp [EndsDigits, h]

/-- The digits among the first `most` characters. -/
theorem takeWhile_take_append {most : Nat} {ds rest : List Char}
    (hdigits : ∀ c ∈ ds, Numeral.isDigit c = true) (hlength : ds.length ≤ most)
    (hrest : ds.length = most ∨ EndsDigits rest) :
  ((ds ++ rest).take most).takeWhile Numeral.isDigit = ds
  := by
  rw [List.take_append, List.take_of_length_le hlength, List.takeWhile_append_of_pos hdigits]
  rcases hrest with heq | hends
  · simp [heq]
  · have htake : (rest.take (most - ds.length)).takeWhile Numeral.isDigit = [] := by
      cases rest with
      | nil => simp
      | cons c cs =>
          have hc : Numeral.isDigit c = false := by
            rw [EndsDigits, List.takeWhile_cons] at hends
            by_contra hc
            simp [hc] at hends
          cases most - ds.length with
          | zero => rfl
          | succ n => simp [hc]
    rw [htake, List.append_nil]

/-- Digits are read up to the number that is asked for, or to their end. -/
theorem readDigits?_append {most : Nat} {ds rest : List Char}
    (hdigits : ∀ c ∈ ds, Numeral.isDigit c = true) (hne : ds ≠ []) (hlength : ds.length ≤ most)
    (hrest : ds.length = most ∨ EndsDigits rest) :
  readDigits? most (ds ++ rest) = some (Numeral.value ds, rest)
  := by
  rw [readDigits?, takeWhile_take_append hdigits hlength hrest]
  simp [hne]

/-- Digits have no blanks in front. -/
theorem trimLeft_append {ds : List Char} (hdigits : ∀ c ∈ ds, Numeral.isDigit c = true)
    (hne : ds ≠ []) (rest : List Char) :
  Text.trimLeft (ds ++ rest) = ds ++ rest
  := by
  cases ds with
  | nil => exact absurd rfl hne
  | cons c cs =>
      have hblank := Text.isBlankChar_of_isDigit (hdigits c List.mem_cons_self)
      rw [List.cons_append, Text.trimLeft_cons hblank]

/-! ### Parts -/

/-- A number of two digits is read back. -/
theorem readPart?_padded {least most n : Nat} (hleast : least ≤ n) (hmost : n ≤ most)
    (h : n < 100) (rest : List Char) :
  readPart? least most (Numeral.paddedDigits 2 n ++ rest) = some (n, rest)
  := by
  have hlength := Numeral.length_paddedDigits (by decide : 2 ≠ 0) h
  have hread : readDigits? 2 (Numeral.paddedDigits 2 n ++ rest)
      = some (Numeral.value (Numeral.paddedDigits 2 n), rest) :=
    readDigits?_append (fun c => Numeral.isDigit_of_mem_paddedDigits)
      (Numeral.paddedDigits_ne_nil 2 n) (Nat.le_of_eq hlength) (Or.inl hlength)
  rw [readPart?, trimLeft_append (fun c => Numeral.isDigit_of_mem_paddedDigits)
    (Numeral.paddedDigits_ne_nil 2 n), hread, Numeral.value_paddedDigits]
  simp [hleast, hmost]

theorem readMark?_cons {mark : Char} (h : Text.isBlankChar mark = false) (cs : List Char) :
  readMark? mark (mark :: cs) = some cs
  := by
  rw [readMark?, Text.trimLeft_cons h]
  simp

/-- Four digits are read as a year. -/
theorem readYear?_of_digits {ds rest : List Char}
    (hdigits : ∀ c ∈ ds, Numeral.isDigit c = true) (hlength : ds.length = 4) :
  readYear? (ds ++ rest) = some ((Numeral.value ds : Int), rest)
  := by
  have hne : ds ≠ [] := List.ne_nil_of_length_eq_add_one hlength
  have hread : readDigits? 4 (ds ++ rest) = some (Numeral.value ds, rest) :=
    readDigits?_append hdigits hne (Nat.le_of_eq hlength) (Or.inl hlength)
  have hvalue : Numeral.value ds < yearLimit := by
    have hlt := Numeral.value_lt hdigits
    rw [hlength] at hlt
    rw [yearLimit]
    omega
  have hsign : ∀ {c : Char} {cs : List Char}, ds ++ rest = c :: cs → Numeral.isDigit c = true := by
    intro c cs heq
    obtain ⟨d, ds', rfl⟩ := List.exists_cons_of_ne_nil hne
    obtain ⟨rfl, -⟩ := List.cons.inj heq
    apply hdigits d List.mem_cons_self
  rw [readYear?, trimLeft_append hdigits hne]
  split
  · next heq => exact absurd (hsign heq) (by decide)
  · next heq => exact absurd (hsign heq) (by decide)
  · simp [hread, hvalue]

/-- A year is read back, whatever its sign. -/
theorem readYear?_yearText {year : Int} (h : year.natAbs < yearLimit) (rest : List Char) :
  readYear? ((yearText year).toList ++ '-' :: rest) = some (year, '-' :: rest)
  := by
  have hends : EndsDigits ('-' :: rest) := endsDigits_cons (by decide) rest
  have hread : readDigits? (Numeral.paddedDigits 4 year.natAbs ++ '-' :: rest).length
      (Numeral.paddedDigits 4 year.natAbs ++ '-' :: rest) = some (year.natAbs, '-' :: rest) := by
    rw [readDigits?_append (fun c => Numeral.isDigit_of_mem_paddedDigits)
      (Numeral.paddedDigits_ne_nil 4 year.natAbs) (by simp) (Or.inr hends),
      Numeral.value_paddedDigits]
  rw [yearText]
  split
  · next hrange =>
      have hlength := Numeral.length_paddedDigits (by decide : 4 ≠ 0)
        (by omega : year.toNat < 10 ^ 4)
      rw [Numeral.toList_padded, readYear?_of_digits (fun c => Numeral.isDigit_of_mem_paddedDigits)
        hlength, Numeral.value_paddedDigits, Int.toNat_of_nonneg hrange.1]
  · split
    · next hneg =>
        have hyear : -(year.natAbs : Int) = year := by omega
        rw [String.toList_append, Numeral.toList_padded]
        change readYear? ('-' :: (Numeral.paddedDigits 4 year.natAbs ++ '-' :: rest)) = _
        rw [readYear?, Text.trimLeft_cons (by decide)]
        simp only [hread, Option.map_some, hyear]
        simp [h]
    · next hrange hneg =>
        have hyear : (year.natAbs : Int) = year := by omega
        rw [String.toList_append, Numeral.toList_padded]
        change readYear? ('+' :: (Numeral.paddedDigits 4 year.natAbs ++ '-' :: rest)) = _
        rw [readYear?, Text.trimLeft_cons (by decide)]
        simp only [hread, Option.map_some, hyear]
        simp [h]

/-- Up to nine digits of a fraction are read, in nanoseconds. -/
theorem readFraction?_of_digits {ds : List Char} (hdigits : ∀ c ∈ ds, Numeral.isDigit c = true)
    (hne : ds ≠ []) (hlength : ds.length ≤ 9) {rest : List Char} (hrest : EndsDigits rest) :
  readFraction? ('.' :: (ds ++ rest)) = some (Numeral.value ds * 10 ^ (9 - ds.length), rest)
  := by
  have hread : readDigits? 9 (ds ++ rest) = some (Numeral.value ds, rest) :=
    readDigits?_append hdigits hne hlength (Or.inr hrest)
  have hdrop : (ds ++ rest).dropWhile Numeral.isDigit = rest := by
    have happend := List.takeWhile_append_dropWhile (p := Numeral.isDigit) (l := rest)
    rw [hrest, List.nil_append] at happend
    rw [List.dropWhile_append_of_pos hdigits, happend]
  rw [readFraction?, hread, takeWhile_take_append hdigits hlength (Or.inr hrest), hdrop]
  rfl

/-- A padded number of so many decimals is read in nanoseconds. -/
theorem readFraction?_padded {width n : Nat} (hw : width ≠ 0) (hle : width ≤ 9)
    (h : n < 10 ^ width) :
  readFraction? (("." ++ Numeral.padded width n).toList ++ ['Z'])
    = some (n * 10 ^ (9 - width), ['Z'])
  := by
  have hlength := Numeral.length_paddedDigits hw h
  have hends : EndsDigits ['Z'] := endsDigits_cons (by decide) []
  have hread := readFraction?_of_digits (fun c => Numeral.isDigit_of_mem_paddedDigits)
    (Numeral.paddedDigits_ne_nil width n) (hlength.trans_le hle) hends
  rw [hlength, Numeral.value_paddedDigits] at hread
  rw [String.toList_append, Numeral.toList_padded]
  apply hread

/-- The decimals of a second are read back, however many are written. -/
theorem readFraction?_fractionText {nanos : Nat} (h : nanos < nanosPerSecond) :
  readFraction? ((fractionText nanos).toList ++ ['Z']) = some (nanos, ['Z'])
  := by
  rw [nanosPerSecond] at h
  rw [fractionText]
  split
  · next hzero =>
      rw [hzero]
      rfl
  · split
    · next hmillis =>
        have hback : nanos / 1000000 * 10 ^ (9 - 3) = nanos :=
          Nat.div_mul_cancel (Nat.dvd_of_mod_eq_zero hmillis)
        rw [readFraction?_padded (by decide) (by decide) (by omega), hback]
    · split
      · next hmicros =>
          have hback : nanos / 1000 * 10 ^ (9 - 6) = nanos :=
            Nat.div_mul_cancel (Nat.dvd_of_mod_eq_zero hmicros)
          rw [readFraction?_padded (by decide) (by decide) (by omega), hback]
      · rw [readFraction?_padded (by decide) (by decide) (by omega), Nat.sub_self, Nat.pow_zero,
          Nat.mul_one]

/-! ### Instants -/

/-- An instant that can be written: its year is in range, and its fraction of a second is less
than two seconds. -/
structure IsValid (t : Instant) : Prop where
  year_in_range : isYearInRange t.date.year = true
  nanos_lt : t.nanos < 2 * nanosPerSecond

/-- The instant that the text of an instant shows: a leap second that is not at the end of a
minute is the second after it. -/
def settled (t : Instant) : Instant :=
  if nanosPerSecond ≤ t.nanos ∧ t.seconds % 60 ≠ 59 then
    ⟨t.seconds + 1, t.nanos - nanosPerSecond⟩
  else t

/-- An instant that is not in a leap second is shown as it is. -/
theorem settled_eq_self {t : Instant} (h : t.nanos < nanosPerSecond) :
  t.settled = t
  := if_neg fun hleap => absurd h (Nat.not_lt.mpr hleap.1)

theorem date_settled (t : Instant) :
  t.settled.date = t.date
  := by
  have hday : t.settled.seconds / secondsPerDay = t.seconds / secondsPerDay := by
    rw [settled, secondsPerDay]
    split
    · dsimp only
      omega
    · rfl
  rw [date, hday, date]

/-- The day and the time of day of an instant, taken together. -/
theorem seconds_eq (t : Instant) :
  t.date.toDays * secondsPerDay + (t.secondOfDay / 3600 : Nat) * 3600
      + (t.secondOfDay / 60 % 60 : Nat) * 60 + (t.secondOfDay % 60 : Nat)
    = t.seconds
  := by
  rw [date, Date.toDays_ofDays, secondOfDay, secondsPerDay]
  omega

/-- The parts of the text of an instant make the instant that it shows. -/
theorem ofParts?_eq_settled {t : Instant} (h : t.IsValid) :
  ofParts? t.date (t.secondOfDay / 3600) (t.secondOfDay / 60 % 60)
      (t.secondOfDay % 60 + t.nanos / nanosPerSecond) (t.nanos % nanosPerSecond) 0
    = some t.settled
  := by
  have hdate : t.date.isValid = true := Date.isValid_ofDays _
  have hyear := h.year_in_range
  have hsettled : (⟨t.date.toDays * secondsPerDay + (t.secondOfDay / 3600 : Nat) * 3600
      + (t.secondOfDay / 60 % 60 : Nat) * 60
      + ((t.secondOfDay % 60 + t.nanos / nanosPerSecond : Nat)
        - ((t.secondOfDay % 60 + t.nanos / nanosPerSecond) / 60 : Nat)) - 0,
      t.nanos % nanosPerSecond
        + (t.secondOfDay % 60 + t.nanos / nanosPerSecond) / 60 * nanosPerSecond⟩ : Instant)
      = t.settled := by
    have hseconds := t.seconds_eq
    have hnanos := h.nanos_lt
    have hsecond : ((t.secondOfDay % 60 : Nat) : Int) = t.seconds % 60 := by
      rw [secondOfDay, secondsPerDay]
      omega
    rw [nanosPerSecond] at hnanos
    rw [settled, nanosPerSecond]
    split
    · rw [mk.injEq]
      omega
    · apply mk.injEq .. |>.mpr
      omega
  rw [ofParts?]
  dsimp only
  rw [hsettled, date_settled]
  simp [hdate, hyear, secondsPerDay]

/-- The characters of the text of an instant, part by part. -/
theorem toList_toText (t : Instant) :
  t.toText.toList
    = (yearText t.date.year).toList ++ '-' :: (Numeral.paddedDigits 2 t.date.month
      ++ '-' :: (Numeral.paddedDigits 2 t.date.day
      ++ 'T' :: (Numeral.paddedDigits 2 (t.secondOfDay / 3600)
      ++ ':' :: (Numeral.paddedDigits 2 (t.secondOfDay / 60 % 60)
      ++ ':' :: (Numeral.paddedDigits 2 (t.secondOfDay % 60 + t.nanos / nanosPerSecond)
      ++ ((fractionText (t.nanos % nanosPerSecond)).toList ++ ['Z']))))))
  := by
  simp [toText, clockText, dateText, timeText, Numeral.toList_padded]

/-- The years that instants may have can be read. -/
theorem natAbs_lt_yearLimit {year : Int} (h : isYearInRange year = true) :
  year.natAbs < yearLimit
  := by
  rw [isYearInRange, Bool.and_eq_true, decide_eq_true_eq, decide_eq_true_eq] at h
  rw [yearLimit]
  omega

/-- A text is read part by part. -/
theorem read?_of_toList_eq {s : String} {year : Int} {month day hour minute second nanos : Nat}
    {fraction : List Char}
    (hs : s.toList = (yearText year).toList ++ '-' :: (Numeral.paddedDigits 2 month
      ++ '-' :: (Numeral.paddedDigits 2 day ++ 'T' :: (Numeral.paddedDigits 2 hour
      ++ ':' :: (Numeral.paddedDigits 2 minute ++ ':' :: (Numeral.paddedDigits 2 second
      ++ (fraction ++ ['Z'])))))))
    (hyear : year.natAbs < yearLimit) (hmonth : 1 ≤ month ∧ month ≤ 12)
    (hday : 1 ≤ day ∧ day ≤ 31) (hhour : hour ≤ 23) (hminute : minute ≤ 59) (hsecond : second ≤ 60)
    (hnanos : readFraction? (fraction ++ ['Z']) = some (nanos, ['Z'])) :
  read? s = ofParts? ⟨year, month, day⟩ hour minute second nanos 0
  := by
  have hdash : ∀ cs, readMark? '-' ('-' :: cs) = some cs := readMark?_cons (by decide)
  have hcolon : ∀ cs, readMark? ':' (':' :: cs) = some cs := readMark?_cons (by decide)
  have hzone : readOffset? (Text.trimLeft ['Z']) = some (0, []) := by decide
  rw [read?, hs, readYear?_yearText hyear]
  simp only [Option.bind_eq_bind]
  rw [Option.bind_some]
  dsimp only
  rw [hdash, Option.bind_some, readPart?_padded hmonth.1 hmonth.2 (by omega), Option.bind_some]
  dsimp only
  rw [hdash, Option.bind_some, readPart?_padded hday.1 hday.2 (by omega), Option.bind_some]
  dsimp only
  rw [if_pos (by decide), Option.bind_some, readPart?_padded (Nat.zero_le _) hhour (by omega),
    Option.bind_some]
  dsimp only
  rw [hcolon, Option.bind_some, readPart?_padded (Nat.zero_le _) hminute (by omega),
    Option.bind_some]
  dsimp only
  rw [hcolon, Option.bind_some, readPart?_padded (Nat.zero_le _) hsecond (by omega),
    Option.bind_some]
  dsimp only
  rw [hnanos, Option.bind_some]
  dsimp only
  rw [hzone, Option.bind_some]
  rfl

/-- The text of an instant is read as the instant that it shows. -/
theorem read?_toText {t : Instant} (h : t.IsValid) :
  read? t.toText = some t.settled
  := by
  obtain ⟨hmonth1, hmonth12, hday1, hday31⟩ :=
    Date.bounds_of_isValid (Date.isValid_ofDays _ : t.date.isValid = true)
  have hsecond : t.secondOfDay < 86400 := by
    rw [secondOfDay, secondsPerDay]
    omega
  have hcarry : t.nanos / nanosPerSecond < 2 := by
    apply Nat.div_lt_of_lt_mul
    rw [Nat.mul_comm]
    apply h.nanos_lt
  have hfraction : t.nanos % nanosPerSecond < nanosPerSecond := Nat.mod_lt _ (by decide)
  rw [read?_of_toList_eq t.toList_toText (natAbs_lt_yearLimit h.year_in_range)
    ⟨hmonth1, hmonth12⟩ ⟨hday1, hday31⟩ (by omega) (by omega) (by omega)
    (readFraction?_fractionText hfraction)]
  apply ofParts?_eq_settled h

/-! ### Instants that are read -/

theorem second_le_of_readPart? {least most n : Nat} {cs rest : List Char}
    (h : readPart? least most cs = some (n, rest)) :
  n ≤ most
  := by
  rw [readPart?] at h
  obtain ⟨⟨m, cs'⟩, -, hm⟩ := Option.bind_eq_some_iff.mp h
  dsimp only at hm
  split at hm
  · next hrange =>
      cases hm
      apply hrange.2
  · cases hm

/-- The digits that are read are less than that power of ten. -/
theorem lt_of_readDigits? {most n : Nat} {cs rest : List Char}
    (h : readDigits? most cs = some (n, rest)) :
  n < 10 ^ ((cs.take most).takeWhile Numeral.isDigit).length
  := by
  rw [readDigits?] at h
  split at h
  · cases h
  · cases h
    apply Numeral.value_lt
    intro c hc
    exact List.all_eq_true.mp List.all_takeWhile c hc

theorem lt_of_readFraction? {n : Nat} {cs rest : List Char}
    (h : readFraction? cs = some (n, rest)) :
  n < nanosPerSecond
  := by
  rw [readFraction?.eq_def] at h
  split at h
  · next cs =>
      obtain ⟨⟨m, cs'⟩, hread, hm⟩ := Option.bind_eq_some_iff.mp h
      cases hm
      have hlt := lt_of_readDigits? hread
      have hwidth : ((cs.take 9).takeWhile Numeral.isDigit).length ≤ 9 := by
        apply Nat.le_trans (List.takeWhile_sublist _).length_le
        simp
      calc m * 10 ^ (9 - ((cs.take 9).takeWhile Numeral.isDigit).length)
          < 10 ^ ((cs.take 9).takeWhile Numeral.isDigit).length
            * 10 ^ (9 - ((cs.take 9).takeWhile Numeral.isDigit).length) := by
            apply Nat.mul_lt_mul_of_pos_right hlt
            apply Nat.pow_pos (by decide)
        _ = nanosPerSecond := by
            rw [← Nat.pow_add, Nat.add_sub_cancel' hwidth]
            rfl
  · cases h
    decide

/-- Offsets are whole minutes. -/
theorem emod_of_readOffsetDigits? {n : Int} {cs rest : List Char}
    (h : readOffsetDigits? cs = some (n, rest)) :
  n % 60 = 0
  := by
  rw [readOffsetDigits?.eq_def] at h
  split at h
  · split at h
    · split at h
      · cases h
        omega
      · cases h
    · cases h
  · cases h

theorem emod_of_readOffset? {n : Int} {cs rest : List Char}
    (h : readOffset? cs = some (n, rest)) :
  n % 60 = 0
  := by
  have hneg : ∀ {cs : List Char},
      (readOffsetDigits? cs).map (fun e => (-e.1, e.2)) = some (n, rest) → n % 60 = 0 := by
    intro cs h
    obtain ⟨⟨m, rest'⟩, hread, hm⟩ := Option.map_eq_some_iff.mp h
    cases hm
    have := emod_of_readOffsetDigits? hread
    omega
  rw [readOffset?.eq_def] at h
  split at h
  · cases h
    rfl
  · split at h
    · cases h
      rfl
    · cases h
      rfl
    · apply emod_of_readOffsetDigits? h
    · apply hneg h
    · apply hneg h
    · cases h

/-- Parts with whole minutes of offset make an instant that is shown as it is. -/
theorem settled_of_ofParts? {d : Date} {hour minute second nanos : Nat} {offset : Int}
    {t : Instant} (hsecond : second ≤ 60) (hnanos : nanos < nanosPerSecond)
    (hoffset : offset % 60 = 0) (h : ofParts? d hour minute second nanos offset = some t) :
  t.IsValid ∧ t.settled = t
  := by
  rw [ofParts?] at h
  split at h
  · dsimp only at h
    split at h
    · next hyear =>
        cases h
        constructor
        · constructor
          · apply hyear
          · rw [nanosPerSecond] at hnanos ⊢
            dsimp only
            omega
        · rw [settled, if_neg]
          rw [nanosPerSecond] at hnanos ⊢
          rw [secondsPerDay]
          dsimp only
          omega
    · cases h
  · cases h

/-- Every instant that is read is shown as it is. -/
theorem settled_of_read? {s : String} {t : Instant} (h : read? s = some t) :
  t.IsValid ∧ t.settled = t
  := by
  rw [read?] at h
  obtain ⟨⟨year, cs⟩, -, h⟩ := Option.bind_eq_some_iff.mp h
  obtain ⟨cs, -, h⟩ := Option.bind_eq_some_iff.mp h
  obtain ⟨⟨month, cs⟩, -, h⟩ := Option.bind_eq_some_iff.mp h
  obtain ⟨cs, -, h⟩ := Option.bind_eq_some_iff.mp h
  obtain ⟨⟨day, cs⟩, -, h⟩ := Option.bind_eq_some_iff.mp h
  dsimp only at h
  split at h
  · split at h
    · obtain ⟨cs, -, h⟩ := Option.bind_eq_some_iff.mp h
      obtain ⟨⟨hour, cs⟩, -, h⟩ := Option.bind_eq_some_iff.mp h
      obtain ⟨cs, -, h⟩ := Option.bind_eq_some_iff.mp h
      obtain ⟨⟨minute, cs⟩, -, h⟩ := Option.bind_eq_some_iff.mp h
      obtain ⟨cs, -, h⟩ := Option.bind_eq_some_iff.mp h
      obtain ⟨⟨second, cs⟩, hsecond, h⟩ := Option.bind_eq_some_iff.mp h
      obtain ⟨⟨nanos, cs⟩, hnanos, h⟩ := Option.bind_eq_some_iff.mp h
      obtain ⟨⟨offset, cs⟩, hoffset, h⟩ := Option.bind_eq_some_iff.mp h
      dsimp only at h
      split at h
      · apply settled_of_ofParts? (second_le_of_readPart? hsecond) (lt_of_readFraction? hnanos)
          (emod_of_readOffset? hoffset) h
      · cases h
    · cases h
  · cases h

end Instant

end AuditedStore
