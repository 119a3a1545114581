import DispatchStore.Proofs.Except
import DispatchStore.Proofs.Text.Trim
import DispatchStore.Proofs.Time.TextOrder
import DispatchStore.Time.Strict

/-!
# Reading canonical texts back

The canonical text of an instant is what the strict form asks for as long as the year has four
digits, and then it is read as the instant cut off to the millisecond (`Timestamp.parse_iso`). A
year with a sign is refused. So a text that was read and written in the canonical form is read
again, and written as the same text, unless the offset carried it out of the years 0 to 9999
(`Timestamp.rereads_of_parse`): to the last day before them or to the first day after them.
-/

namespace DispatchStore

/-! ## Digits -/

namespace Decimal

/-- A decimal digit is read as its value. -/
theorem digitValue_digitChar {d : Nat} (h : d < 10) : digitValue (Nat.digitChar d) = d := by
  unfold digitValue
  rw [Nat.toNat_digitChar_of_lt_ten h]
  show 48 + d - 48 = d
  omega

/-- The last digits of a number are digits. -/
theorem isDigit_of_mem_digits {width n : Nat} : ∀ c ∈ digits width n, c.isDigit = true := by
  induction width generalizing n with
  | zero => simp [digits]
  | succ width ih =>
    intro c hc
    rw [digits, List.mem_append, List.mem_singleton] at hc
    rcases hc with hc | rfl
    · exact ih c hc
    · rw [Nat.isDigit_digitChar, decide_eq_true_eq]
      omega

/-- The last digits of a number are those of its front part and then the others. -/
theorem digits_add (width width' n : Nat) :
    digits (width + width') n = digits width (n / 10 ^ width') ++ digits width' n := by
  induction width' generalizing n with
  | zero => simp [digits]
  | succ width' ih =>
    rw [← Nat.add_assoc, digits, ih, Nat.div_div_eq_div_mul, ← Nat.pow_succ', List.append_assoc,
      digits]

/-- One more digit makes ten times the number and the digit. -/
theorem ofDigits_append_digit (ds : List Char) (c : Char) :
    ofDigits (ds ++ [c]) = 10 * ofDigits ds + digitValue c := by
  unfold ofDigits
  rw [List.foldl_append, List.foldl_cons, List.foldl_nil]

/-- A number that fits is read back from its digits. -/
theorem ofDigits_digits {width n : Nat} (hn : n < 10 ^ width) : ofDigits (digits width n) = n := by
  induction width generalizing n with
  | zero =>
    have hzero : n = 0 := by simpa using hn
    rw [hzero]
    rfl
  | succ width ih =>
    rw [Nat.pow_succ] at hn
    rw [digits, ofDigits_append_digit, ih (by omega), digitValue_digitChar (by omega)]
    omega

/-- Each zero behind digits makes ten times the number. -/
@[simp] theorem ofDigits_append_zeros (ds : List Char) (k : Nat) :
    ofDigits (ds ++ List.replicate k '0') = ofDigits ds * 10 ^ k := by
  induction k with
  | zero => simp
  | succ k ih =>
    have hzero : digitValue '0' = 0 := rfl
    rw [List.replicate_succ', ← List.append_assoc, ofDigits_append_digit, ih, hzero, Nat.pow_succ,
      Nat.add_zero, Nat.mul_comm (10 ^ k) 10, Nat.mul_left_comm]

/-- A padded number is at least as long as its width. -/
theorem le_length_padded (width n : Nat) : width ≤ (padded width n).toList.length := by
  unfold padded padLeft
  rw [String.toList_append, String.toList_ofList, List.length_append, List.length_replicate,
    String.length_toList]
  omega

end Decimal

/-! ## Lengths -/

namespace Text

/-- No character takes less than a byte. -/
theorem length_le_byteCount (cs : List Char) : cs.length ≤ byteCount cs := by
  induction cs with
  | nil => exact Nat.le_refl _
  | cons c cs ih =>
    have hsize := c.utf8Size_pos
    rw [List.length_cons, byteCount]
    omega

end Text

/-! ## Parts of the canonical text -/

namespace Time

/-- A result is there exactly if it was not replaced by the fault. -/
@[simp] theorem orFault_eq_ok_iff {α : Type} {fault : Fault} {o : Option α} {a : α} :
    orFault fault o = .ok a ↔ o = some a := by
  cases o <;> simp [orFault]

/-- A date is made again of its year, month and day. -/
@[simp] theorem Date.of?_parts (d : Date) : Date.of? d.year d.month d.day = some d := by
  unfold Date.of?
  rw [dif_pos ⟨⟨d.year_ge, d.year_le⟩, ⟨d.month_pos, d.month_le⟩, ⟨d.day_pos, d.day_le⟩⟩]

/-- A date has the year, month and day that it was made of. -/
theorem Date.parts_of_of? {year : Int} {month day : Nat} {d : Date}
    (h : Date.of? year month day = some d) : d.year = year ∧ d.month = month ∧ d.day = day := by
  unfold Date.of? at h
  split_ifs at h
  cases h
  exact ⟨rfl, rfl, rfl⟩

/-- The day before lies in the same year, or it is the last one of the year before. -/
theorem Date.year_prev? {d d' : Date} (h : d.prev? = some d') :
    d'.year = d.year ∨ d'.year = d.year - 1 ∧ d'.month = 12 ∧ d'.day = 31 := by
  unfold Date.prev? at h
  split_ifs at h
  · exact .inl (Date.parts_of_of? h).1
  · exact .inl (Date.parts_of_of? h).1
  · exact .inr (Date.parts_of_of? h)

/-- The next day lies in the same year, or it is the first one of the next year. -/
theorem Date.year_next? {d d' : Date} (h : d.next? = some d') :
    d'.year = d.year ∨ d'.year = d.year + 1 ∧ d'.month = 1 ∧ d'.day = 1 := by
  unfold Date.next? at h
  split_ifs at h
  · exact .inl (Date.parts_of_of? h).1
  · exact .inl (Date.parts_of_of? h).1
  · exact .inr (Date.parts_of_of? h)

/-- The last two digits of a number are read. -/
@[simp] theorem twoDigits_digits (n : Nat) (rest : List Char) :
    twoDigits (Decimal.digits 2 n ++ rest) = .ok (n % 100, rest) := by
  have hdigits : Decimal.digits 2 n ++ rest =
      Nat.digitChar (n / 10 % 10) :: Nat.digitChar (n % 10) :: rest := rfl
  have hdigit : ∀ (d : Nat) (cs : List Char), d < 10 →
      digit (Nat.digitChar d :: cs) = .ok (d, cs) := by
    intro d cs hd
    rw [digit, Nat.isDigit_digitChar, decide_eq_true hd, Decimal.digitValue_digitChar hd]
    rfl
  have hvalue : 10 * (n / 10 % 10) + n % 10 = n % 100 := by omega
  unfold twoDigits
  rw [hdigits, hdigit _ _ (by omega)]
  dsimp only [bind, Except.bind]
  rw [hdigit _ _ (by omega), ← hvalue]
  rfl

/-- The digits of a fraction are read as so many nanoseconds. -/
theorem fraction_digits {width n : Nat} (hwidth : 0 < width ∧ width ≤ 9) (hn : n < 10 ^ width)
    (rest : List Char) :
    fraction ('.' :: (Decimal.digits width n ++ 'Z' :: rest)) =
      .ok (n * 10 ^ (9 - width), 'Z' :: rest) := by
  have hdigit : ∀ c ∈ Decimal.digits width n, c.isDigit = true := Decimal.isDigit_of_mem_digits
  have hlength := Decimal.length_digits width n
  have hbefore : (Decimal.digits width n ++ 'Z' :: rest).takeWhile Char.isDigit =
      Decimal.digits width n := by
    rw [List.takeWhile_append_of_pos hdigit]
    exact List.append_nil _
  have hbehind : (Decimal.digits width n ++ 'Z' :: rest).dropWhile Char.isDigit = 'Z' :: rest := by
    rw [List.dropWhile_append_of_pos hdigit]
    rfl
  have hnine : (Decimal.digits width n ++ List.replicate 9 '0').take 9 =
      Decimal.digits width n ++ List.replicate (9 - width) '0' := by
    rw [List.take_append, hlength, List.take_of_length_le (by omega), List.take_replicate]
    congr 2
    omega
  have hvalue : Decimal.ofDigits ((Decimal.digits width n ++ List.replicate 9 '0').take 9) =
      n * 10 ^ (9 - width) := by
    rw [hnine, Decimal.ofDigits_append_zeros, Decimal.ofDigits_digits hn]
  show fractionDigits (Decimal.digits width n ++ 'Z' :: rest) = _
  unfold fractionDigits
  rw [hbefore, hbehind, ← hvalue]
  cases hdigits : Decimal.digits width n with
  | nil =>
    rw [hdigits, List.length_nil] at hlength
    omega
  | cons c cs => rfl

/-- A written date with a year of four digits is read back. -/
theorem strictDate_digits {d : Date} (hlow : 0 ≤ d.year) (hhigh : d.year ≤ 9999)
    (rest : List Char) :
    strictDate (Decimal.digits 4 d.year.toNat ++ '-' :: (Decimal.digits 2 d.month ++
      '-' :: (Decimal.digits 2 d.day ++ rest))) = .ok (d, rest) := by
  have hyear : Decimal.digits 4 d.year.toNat =
      Decimal.digits 2 (d.year.toNat / 100) ++ Decimal.digits 2 d.year.toNat :=
    Decimal.digits_add 2 2 d.year.toNat
  have hmonth := d.month_le
  have hday : d.day < 100 := by
    have hday := d.day_le
    unfold daysInMonth at hday
    split_ifs at hday <;> omega
  have hparts : ((100 * (d.year.toNat / 100 % 100) + d.year.toNat % 100 : Nat) : Int) = d.year := by
    omega
  unfold strictDate
  rw [hyear, List.append_assoc]
  simp only [ok_bind, twoDigits_digits, exactly, if_true]
  rw [hparts, Nat.mod_eq_of_lt (show d.month < 100 by omega), Nat.mod_eq_of_lt hday, Date.of?_parts]
  rfl

/-- A digit that is read is less than ten. -/
theorem digit_lt {cs rest : List Char} {d : Nat} (h : digit cs = .ok (d, rest)) : d < 10 := by
  cases cs with
  | nil => cases h
  | cons c cs =>
    rw [digit] at h
    split_ifs at h with hc
    · obtain ⟨rfl, -⟩ := Prod.mk.inj (Except.ok.inj h)
      have hhigh : c.toNat ≤ 57 := by
        unfold Char.isDigit at hc
        rw [Bool.and_eq_true, decide_eq_true_eq, decide_eq_true_eq] at hc
        exact hc.2
      show c.toNat - 48 < 10
      omega

/-- Two digits that are read are less than a hundred. -/
theorem twoDigits_lt {cs rest : List Char} {n : Nat} (h : twoDigits cs = .ok (n, rest)) :
    n < 100 := by
  obtain ⟨⟨a, cs₁⟩, ha, h⟩ := bind_eq_ok_iff.1 h
  obtain ⟨⟨b, cs₂⟩, hb, h⟩ := bind_eq_ok_iff.1 h
  obtain ⟨rfl, -⟩ := Prod.mk.inj (Except.ok.inj h)
  have htens := digit_lt ha
  have hones := digit_lt hb
  omega

/-- A date that is read has a year of four digits. -/
theorem strictDate_year {cs rest : List Char} {d : Date} (h : strictDate cs = .ok (d, rest)) :
    0 ≤ d.year ∧ d.year ≤ 9999 := by
  obtain ⟨⟨y₁, _⟩, hy₁, h⟩ := bind_eq_ok_iff.1 h
  obtain ⟨⟨y₂, _⟩, hy₂, h⟩ := bind_eq_ok_iff.1 h
  obtain ⟨_, -, h⟩ := bind_eq_ok_iff.1 h
  obtain ⟨_, -, h⟩ := bind_eq_ok_iff.1 h
  obtain ⟨_, -, h⟩ := bind_eq_ok_iff.1 h
  obtain ⟨_, -, h⟩ := bind_eq_ok_iff.1 h
  obtain ⟨date, hdate, h⟩ := bind_eq_ok_iff.1 h
  obtain ⟨rfl, -⟩ := Prod.mk.inj (Except.ok.inj h)
  have hcentury := twoDigits_lt hy₁
  have hrest := twoDigits_lt hy₂
  obtain ⟨hyear, -, -⟩ := Date.parts_of_of? (orFault_eq_ok_iff.1 hdate)
  omega

/-! ## The strict form -/

/-- An offset is accepted exactly if it is shorter than a day. -/
theorem checkOffset_eq_ok_iff {minutes checked : Int} :
    checkOffset minutes = .ok checked ↔ minutes = checked ∧ checked.natAbs < 1440 := by
  unfold checkOffset
  split_ifs with h
  · rw [Except.ok.injEq]
    exact ⟨fun heq => ⟨heq, heq ▸ h⟩, And.left⟩
  · exact ⟨(nomatch ·), fun ⟨heq, hsmall⟩ => absurd (heq ▸ hsmall) h⟩

/-- An instant is read if each of its parts is, one behind the other, and nothing is left. -/
theorem readStrict_eq_ok_iff {cs : List Char} {t : Timestamp} :
    readStrict cs = .ok t ↔ 19 ≤ Text.byteCount cs ∧
      ∃ date cs₁, strictDate cs = .ok (date, cs₁) ∧
      ∃ cs₂, separator cs₁ = .ok ((), cs₂) ∧
      ∃ second nano cs₃, strictClock cs₂ = .ok ((second, nano), cs₃) ∧
      ∃ minutes, offset (fun cs => (exactly ':' cs).map Prod.snd) cs₃ = .ok (minutes, []) ∧
        minutes.natAbs < 1440 ∧ Timestamp.ofLocal? date second nano minutes = some t := by
  unfold readStrict
  by_cases hlength : Text.byteCount cs < 19
  · rw [if_pos hlength]
    simp only [not_le.2 hlength, false_and, iff_false]
    exact fun h => nomatch h
  · rw [if_neg hlength]
    simp only [bind_eq_ok_iff, Prod.exists]
    constructor
    · rintro ⟨date, cs₁, hdate, _, cs₂, hseparator, second, nano, cs₃, hclock, minutes,
        rest, hoffset, h⟩
      cases rest with
      | cons c rest => exact nomatch h
      | nil =>
        obtain ⟨checked, hcheck, h⟩ := bind_eq_ok_iff.1 h
        obtain ⟨rfl, hsmall⟩ := checkOffset_eq_ok_iff.1 hcheck
        exact ⟨not_lt.1 hlength, date, cs₁, hdate, cs₂, hseparator, second, nano, cs₃, hclock,
          minutes, hoffset, hsmall, orFault_eq_ok_iff.1 h⟩
    · rintro ⟨-, date, cs₁, hdate, cs₂, hseparator, second, nano, cs₃, hclock, minutes, hoffset,
        hsmall, hlocal⟩
      refine ⟨date, cs₁, hdate, (), cs₂, hseparator, second, nano, cs₃, hclock, minutes,
        [], hoffset,
        bind_eq_ok_iff.2 ⟨minutes, checkOffset_eq_ok_iff.2 ⟨rfl, hsmall⟩,
          orFault_eq_ok_iff.2 hlocal⟩⟩

end Time

namespace Timestamp

open Time

/-- A clock that shows an instant as it is written shows that instant. -/
theorem clock?_written (t : Timestamp) :
    clock? (t.second / 3600) (t.second / 60 % 60) t.writtenSecond (t.nano % 1000000000) =
      some (t.second, t.nano) := by
  have hsecond := t.second_lt
  have hnano := t.nano_lt
  have hbounds :
      (t.second / 3600 ≤ 23 && t.second / 60 % 60 ≤ 59 && t.writtenSecond ≤ 60) = true := by
    have hwritten : t.writtenSecond ≤ 60 := by
      unfold writtenSecond
      split_ifs <;> omega
    simp only [Bool.and_eq_true, decide_eq_true_eq]
    omega
  unfold clock?
  rw [if_pos hbounds]
  unfold writtenSecond
  by_cases hleap : 1000000000 ≤ t.nano
  · -- a leap second is written as second 60 of its minute
    have hlast := t.leap_ends_minute hleap
    simp only [hleap, if_true, hlast, Nat.reduceAdd, Option.some.injEq, Prod.mk.injEq]
    omega
  · simp only [hleap, if_false, Nat.add_zero]
    rw [if_neg (by omega)]
    simp only [Option.some.injEq, Prod.mk.injEq]
    omega

/-- A written time of day is read back, cut off to the millisecond. -/
theorem strictClock_digits (t : Timestamp) (rest : List Char) :
    strictClock
      (Decimal.digits 2 (t.second / 3600) ++ ':' ::
        (Decimal.digits 2 (t.second / 60 % 60) ++ ':' ::
          (Decimal.digits 2 t.writtenSecond ++ '.' ::
            (Decimal.digits 3 t.writtenMilli ++ 'Z' :: rest)))) =
      .ok ((t.truncated.second, t.truncated.nano), 'Z' :: rest) := by
  have hsecond := t.second_lt
  have hwritten : t.truncated.writtenSecond = t.writtenSecond := by
    have hleap : 1000000000 ≤ t.nano / 1000000 * 1000000 ↔ 1000000000 ≤ t.nano := by omega
    unfold writtenSecond truncated
    simp only [hleap]
  have hmilli : t.truncated.nano % 1000000000 = t.writtenMilli * 1000000 := by
    show t.nano / 1000000 * 1000000 % 1000000000 = t.nano % 1000000000 / 1000000 * 1000000
    omega
  have hclock : clock? (t.second / 3600) (t.second / 60 % 60) t.writtenSecond
      (t.writtenMilli * 1000000) = some (t.truncated.second, t.truncated.nano) := by
    rw [← hwritten, ← hmilli]
    exact clock?_written t.truncated
  have hhour : t.second / 3600 % 100 = t.second / 3600 := by omega
  have hminute : t.second / 60 % 60 % 100 = t.second / 60 % 60 := by omega
  have hfraction : fraction ('.' :: (Decimal.digits 3 t.writtenMilli ++ 'Z' :: rest)) =
      .ok (t.writtenMilli * 1000000, 'Z' :: rest) :=
    fraction_digits (by decide) t.writtenMilli_lt rest
  unfold strictClock
  simp only [ok_bind, twoDigits_digits, exactly, if_true, hfraction, hhour, hminute,
    Nat.mod_eq_of_lt t.writtenSecond_lt, hclock, orFault]
  rfl

/-! ## The canonical text -/

/-- An instant is made again of its date, its second and its fraction. -/
@[simp] theorem of?_parts (t : Timestamp) : of? t.date t.second t.nano = some t := by
  unfold of?
  rw [dif_pos ⟨t.second_lt, t.nano_lt, t.leap_ends_minute⟩]

/-- Where universal time is shown, the instant is the one that the clock shows. -/
@[simp] theorem ofLocal?_zero (t : Timestamp) : ofLocal? t.date t.second t.nano 0 = some t := by
  have hsecond := t.second_lt
  unfold ofLocal?
  simp only [zero_mul, sub_zero]
  rw [if_neg (by omega), if_pos (by omega), Int.toNat_natCast, of?_parts]

/-- The canonical text is the one to the second, and behind it a dot, the milliseconds and the
letter `Z`. -/
theorem toList_iso_eq (t : Timestamp) :
    t.iso.toList =
      t.secondsText.toList ++ '.' :: ((Decimal.padded 3 t.writtenMilli).toList ++ ['Z']) := by
  have hiso : t.iso = t.secondsText ++ "." ++ Decimal.padded 3 t.writtenMilli ++ "Z" := rfl
  rw [hiso]
  simp [String.toList_append]

/-- What is cut off does not show in the canonical text. -/
@[simp] theorem iso_truncated (t : Timestamp) : t.truncated.iso = t.iso := by
  have hleap : 1000000000 ≤ t.nano / 1000000 * 1000000 ↔ 1000000000 ≤ t.nano := by omega
  have hmilli : t.nano / 1000000 * 1000000 % 1000000000 / 1000000 =
      t.nano % 1000000000 / 1000000 := by
    omega
  unfold iso secondsText truncated
  simp only [hleap, hmilli]

/-- A text that ends as the canonical ones do is without blanks around it if it begins without. -/
theorem trim_iso {t : Timestamp} (h : ∀ c ∈ t.iso.toList.head?, Text.isBlank c = false) :
    Text.trim t.iso = t.iso := by
  refine Text.trim_eq_self_iff.2 ⟨h, fun c hc => ?_⟩
  rw [toList_iso_eq, ← List.cons_append, ← List.append_assoc, List.getLast?_append] at hc
  have hZ : c = 'Z' := by simpa using hc.symm
  rw [hZ]
  decide

/-- A digit is not blank. -/
theorem isBlank_of_isDigit {c : Char} (h : c.isDigit = true) : Text.isBlank c = false := by
  unfold Char.isDigit at h
  rw [Bool.and_eq_true, decide_eq_true_eq, decide_eq_true_eq] at h
  have hlow : 48 ≤ c.toNat := h.1
  have hhigh : c.toNat ≤ 57 := h.2
  unfold Text.isBlank Text.inRanges Text.blankRanges
  simp only [List.any_cons, List.any_nil, Bool.or_eq_false_iff, Bool.and_eq_false_iff,
    decide_eq_false_iff_not, and_true]
  omega

/-- The canonical text of a short year is read back, cut off to the millisecond. -/
theorem readStrict_parts {t : Timestamp} (h : t.HasShortYear) :
    readStrict t.parts.flatten = .ok t.truncated := by
  have hlength : 19 ≤ Text.byteCount t.parts.flatten := by
    refine le_trans ?_ (Text.length_le_byteCount _)
    simp [parts]
  have hflatten : t.parts.flatten = Decimal.digits 4 t.date.year.toNat ++ '-' ::
      (Decimal.digits 2 t.date.month ++ '-' :: (Decimal.digits 2 t.date.day ++ 'T' ::
        (Decimal.digits 2 (t.second / 3600) ++ ':' ::
          (Decimal.digits 2 (t.second / 60 % 60) ++ ':' ::
            (Decimal.digits 2 t.writtenSecond ++ '.' ::
              (Decimal.digits 3 t.writtenMilli ++ ['Z'])))))) := by
    simp [parts]
  have hdate := strictDate_digits h.1 h.2
  rw [readStrict_eq_ok_iff]
  refine ⟨hlength, t.date, _, by rw [hflatten, hdate], _, rfl, t.truncated.second, t.truncated.nano,
    ['Z'], strictClock_digits t [], 0, rfl, by decide, ofLocal?_zero t.truncated⟩

/-- A sign where the year should be is refused. -/
theorem readStrict_sign {sign : Char} {cs : List Char} (hsign : sign.isDigit = false)
    (hlength : 18 ≤ cs.length) : readStrict (sign :: cs) = .error .invalid := by
  have hbytes := Text.length_le_byteCount (sign :: cs)
  rw [List.length_cons] at hbytes
  have hdigit : digit (sign :: cs) = .error .invalid := by
    rw [digit, hsign]
    rfl
  unfold readStrict strictDate twoDigits
  rw [if_neg (by omega), hdigit]
  rfl

/-- A year that is not short is written behind a sign, and so the text is longer. -/
theorem exists_sign {t : Timestamp} (h : ¬ t.HasShortYear) :
    ∃ sign cs, t.iso.toList = sign :: cs ∧ (sign = '-' ∨ sign = '+') ∧ 18 ≤ cs.length := by
  have hlong : (decide (0 ≤ t.date.year) && decide (t.date.year ≤ 9999)) = false := by
    rw [← Bool.decide_and]
    exact decide_eq_false h
  have hpadded := Decimal.le_length_padded 4 t.date.year.natAbs
  have hyear : ∃ sign, (yearText t.date.year).toList =
      sign :: (Decimal.padded 4 t.date.year.natAbs).toList ∧ (sign = '-' ∨ sign = '+') := by
    unfold yearText
    rw [hlong, if_neg Bool.false_ne_true, String.toList_append]
    by_cases hneg : t.date.year < 0
    · exact ⟨'-', by rw [if_pos hneg]; rfl, .inl rfl⟩
    · exact ⟨'+', by rw [if_neg hneg]; rfl, .inr rfl⟩
  have htwo : ∀ n, 2 ≤ (two n).toList.length := Decimal.le_length_padded 2
  have hmonth := htwo t.date.month
  have hday := htwo t.date.day
  have hhour := htwo (t.second / 3600)
  have hminute := htwo (t.second / 60 % 60)
  have hdash : "-".toList.length = 1 := rfl
  have hcolon : ":".toList.length = 1 := rfl
  obtain ⟨sign, hyear, hsign⟩ := hyear
  rw [toList_iso_eq]
  unfold secondsText
  simp only [String.toList_append, hyear, List.cons_append]
  refine ⟨sign, _, rfl, hsign, ?_⟩
  simp only [List.length_append, List.length_cons]
  omega

/-- The canonical text of an instant is read back if the year is short, and else refused. -/
theorem parse_iso (t : Timestamp) :
    parse t.iso = if t.HasShortYear then .ok t.truncated else .error .invalid := by
  unfold parse
  by_cases h : t.HasShortYear
  · have hfirst : ∀ c ∈ t.iso.toList.head?, Text.isBlank c = false := by
      intro c hc
      have hmem : c ∈ Decimal.digits 4 t.date.year.toNat := by
        rw [toList_iso h] at hc
        have hhead : c = Nat.digitChar (t.date.year.toNat / 10 / 10 / 10 % 10) := by
          simpa [parts, Decimal.digits] using hc.symm
        simp [Decimal.digits, hhead]
      exact isBlank_of_isDigit (Decimal.isDigit_of_mem_digits c hmem)
    rw [trim_iso hfirst, toList_iso h, readStrict_parts h, if_pos h]
  · obtain ⟨sign, cs, hlist, hsign, hlength⟩ := exists_sign h
    have hfirst : ∀ c ∈ t.iso.toList.head?, Text.isBlank c = false := by
      intro c hc
      rw [hlist, List.head?_cons, Option.mem_some_iff] at hc
      subst hc
      rcases hsign with rfl | rfl <;> decide
    have hdigit : sign.isDigit = false := by
      rcases hsign with rfl | rfl <;> rfl
    rw [trim_iso hfirst, hlist, readStrict_sign hdigit hlength, if_neg h]

/-! ## Texts that were read -/

/-- An instant has the date that it was made of. -/
theorem date_of_of? {date : Date} {second nano : Nat} {t : Timestamp}
    (h : of? date second nano = some t) : t.date = date := by
  unfold of? at h
  split_ifs at h
  cases h
  rfl

/-- An offset carries an instant out of the years 0 to 9999 by one day at most. -/
theorem date_of_ofLocal? {date : Date} {second nano : Nat} {minutes : Int} {t : Timestamp}
    (hlow : 0 ≤ date.year) (hhigh : date.year ≤ 9999)
    (h : ofLocal? date second nano minutes = some t) : t.HasShortYear ∨
      (t.date.year = -1 ∧ t.date.month = 12 ∧ t.date.day = 31) ∨
      (t.date.year = 10000 ∧ t.date.month = 1 ∧ t.date.day = 1) := by
  unfold HasShortYear
  unfold ofLocal? at h
  dsimp only at h
  split_ifs at h
  · obtain ⟨d, hprev, h⟩ := Option.bind_eq_some_iff.1 h
    rw [date_of_of? h]
    rcases Date.year_prev? hprev with hyear | ⟨hyear, hmonth, hday⟩ <;> omega
  · rw [date_of_of? h]
    exact .inl ⟨hlow, hhigh⟩
  · obtain ⟨d, hnext, h⟩ := Option.bind_eq_some_iff.1 h
    rw [date_of_of? h]
    rcases Date.year_next? hnext with hyear | ⟨hyear, hmonth, hday⟩ <;> omega

/-- A text that is read stands for an instant whose canonical text is read back as the instant cut
off to the millisecond, and this one has the same canonical text. The exceptions are the instants
that an offset carried to the last day before the year 0 or to the first day after the year 9999:
their canonical texts begin with a sign and are refused. -/
theorem rereads_of_parse {s : String} {t : Timestamp} (h : parse s = .ok t) :
    t.truncated.iso = t.iso ∧
    (t.HasShortYear → parse t.iso = .ok t.truncated) ∧
    (¬ t.HasShortYear → parse t.iso = .error .invalid ∧
      ((t.date.year = -1 ∧ t.date.month = 12 ∧ t.date.day = 31) ∨
        (t.date.year = 10000 ∧ t.date.month = 1 ∧ t.date.day = 1))) := by
  obtain ⟨-, date, _, hdate, _, -, second, nano, _, -, minutes, -, -, hlocal⟩ :=
    readStrict_eq_ok_iff.1 h
  obtain ⟨hlow, hhigh⟩ := strictDate_year hdate
  refine ⟨iso_truncated t, fun hshort => ?_, fun hlong => ⟨?_, ?_⟩⟩
  · rw [parse_iso, if_pos hshort]
  · rw [parse_iso, if_neg hlong]
  · exact (date_of_ofLocal? hlow hhigh hlocal).resolve_left hlong

/-- The leap second at the end of 2016, read with white space around it from a clock five hours
behind universal time. -/
theorem rereads_of_parse_leap :
    ∃ t, parse " 2016-12-31T18:59:60.98765-05:00\t" = .ok t ∧ t.date.month = 12 ∧
      t.iso = "2016-12-31T23:59:60.987Z" ∧ parse t.iso = .ok t.truncated ∧
      t.truncated.iso = t.iso := by
  have hread : parse " 2016-12-31T18:59:60.98765-05:00\t" = .ok
      { date := ⟨2016, 12, 31, by decide, by decide, by decide, by decide, by decide, by decide⟩
        second := 86399
        nano := 1987650000
        second_lt := by decide
        nano_lt := by decide
        leap_ends_minute := by decide } := by
    decide +kernel
  obtain ⟨hiso, hshort, -⟩ := rereads_of_parse hread
  exact ⟨_, hread, rfl, by decide +kernel, hshort (by decide), hiso⟩

/-- The last second of the year 9999 on a clock one hour behind universal time lies in the year
10000. -/
theorem not_rereads_late :
    ¬ ∀ s t, parse s = .ok t → ∃ u, parse t.iso = .ok u ∧ u = t.truncated ∧ u.iso = t.iso := by
  intro hall
  have hread : parse "9999-12-31T23:59:59-01:00" = .ok
      { date := ⟨10000, 1, 1, by decide, by decide, by decide, by decide, by decide, by decide⟩
        second := 3599
        nano := 0
        second_lt := by decide
        nano_lt := by decide
        leap_ends_minute := by decide } := by
    decide +kernel
  obtain ⟨u, hu, -⟩ := hall _ _ hread
  rw [parse_iso, if_neg (by decide)] at hu
  cases hu

end Timestamp

end DispatchStore
