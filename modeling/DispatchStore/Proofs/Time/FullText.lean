import DispatchStore.Proofs.Json.Decoding
import DispatchStore.Proofs.Time.Rereading
import DispatchStore.Time.Lenient

/-!
# Reading full texts back

The full text of an instant has as many fraction digits as its nanoseconds need, and a year of any
width. The lenient form takes all of it, so an instant is read back from its JSON form to the
nanosecond (`Timestamp.run_render_toJson`). The canonical text keeps an instant only if the year is
short and nothing is cut off.
-/

namespace DispatchStore

/-! ## Digits -/

namespace Decimal

/-- A number is the value of its digits. -/
@[simp] theorem ofDigits_toDigits (n : Nat) : ofDigits (Nat.toDigits 10 n) = n :=
  Nat.ofDigitChars_ten_toDigits

/-- Zeros in front of digits do not count. -/
@[simp] theorem ofDigits_zeros_append (k : Nat) (ds : List Char) :
    ofDigits (List.replicate k '0' ++ ds) = ofDigits ds := by
  induction k with
  | zero => rfl
  | succ k ih => exact ih

/-- A padded number is its digits behind some zeros. -/
theorem toList_padded_eq (width n : Nat) :
    ∃ k, (padded width n).toList = List.replicate k '0' ++ Nat.toDigits 10 n := by
  refine ⟨width - (toString n : String).length, ?_⟩
  unfold padded padLeft
  rw [String.toList_append, String.toList_ofList]
  congr 1
  exact Nat.toList_repr

/-- A number that is filled up with zeros is written in digits. -/
theorem isDigit_of_mem_padded {width n : Nat} :
    ∀ c ∈ (padded width n).toList, c.isDigit = true := by
  intro c hc
  obtain ⟨k, hpadded⟩ := toList_padded_eq width n
  rw [hpadded, List.mem_append] at hc
  rcases hc with hc | hc
  · rw [List.eq_of_mem_replicate hc]
    rfl
  · exact Nat.isDigit_of_mem_toDigits (by decide) (by decide) hc

/-- A padded number has the value of the number. -/
@[simp] theorem ofDigits_padded (width n : Nat) : ofDigits (padded width n).toList = n := by
  obtain ⟨k, hpadded⟩ := toList_padded_eq width n
  simp [hpadded]

end Decimal

namespace Time

open Decimal (ofDigits)

/-! ## Parts of the lenient form -/

/-- Digits are taken up to the width, or to the first character that is none. -/
theorem digitsUpTo_append {width : Nat} {ds rest : List Char} (hds : ∀ c ∈ ds, c.isDigit = true)
    (hwidth : ds.length ≤ width)
    (hrest : ds.length < width → ∀ c ∈ rest.head?, c.isDigit = false) :
    digitsUpTo width (ds ++ rest) = (ds, rest) := by
  induction ds generalizing width with
  | nil =>
    cases width with
    | zero => rfl
    | succ width =>
      cases rest with
      | nil => rfl
      | cons c rest =>
        have hc := hrest (Nat.succ_pos width) c rfl
        rw [List.nil_append, digitsUpTo, hc, if_neg Bool.false_ne_true]
  | cons d ds ih =>
    obtain ⟨n, rfl⟩ := Nat.exists_eq_succ_of_ne_zero (Nat.ne_zero_of_lt hwidth)
    rw [List.cons_append, digitsUpTo, if_pos (hds d List.mem_cons_self),
      ih (fun c hc => hds c (List.mem_cons_of_mem _ hc)) (Nat.le_of_succ_le_succ hwidth)
        fun hlt => hrest (Nat.succ_lt_succ hlt)]

/-- Digits are read as their number if they end where the width does or where no digit follows. -/
theorem shortNumber_append {width : Nat} {ds : List Char} (hds : ∀ c ∈ ds, c.isDigit = true)
    (hpos : ds ≠ []) (hwidth : ds.length ≤ width) (rest : List Char)
    (hrest : ds.length < width → ∀ c ∈ rest.head?, c.isDigit = false)
    (hvalue : ofDigits ds ≤ 9223372036854775807) :
    shortNumber width (ds ++ rest) = .ok (ofDigits ds, rest) := by
  unfold shortNumber
  rw [digitsUpTo_append hds hwidth hrest]
  cases ds with
  | nil => exact absurd rfl hpos
  | cons d ds =>
    dsimp only [List.cons_append]
    rw [if_pos hvalue]

/-- Nothing is trimmed in front of a character that is not blank. -/
theorem trimStart_cons {c : Char} (hc : Text.isBlank c = false) (cs : List Char) :
    Text.trimStart (c :: cs) = c :: cs := by
  unfold Text.trimStart
  rw [List.dropWhile_cons, hc, if_neg Bool.false_ne_true]

/-- Two written digits are read. -/
theorem part_digits {low high n : Nat} (hn : low ≤ n ∧ n ≤ high) (hhigh : high < 100)
    (rest : List Char) : part low high (Decimal.digits 2 n ++ rest) = .ok (n, rest) := by
  have hdigit : ∀ c ∈ Decimal.digits 2 n, c.isDigit = true := Decimal.isDigit_of_mem_digits
  have hlength := Decimal.length_digits 2 n
  have hvalue := Decimal.ofDigits_digits (show n < 10 ^ 2 by omega)
  have htrim : Text.trimStart (Decimal.digits 2 n ++ rest) = Decimal.digits 2 n ++ rest :=
    trimStart_cons (Timestamp.isBlank_of_isDigit (hdigit _ List.mem_cons_self)) _
  have hread := shortNumber_append hdigit (List.ne_nil_of_length_pos (by omega)) hlength.le rest
    (fun hlt => absurd hlt (by omega)) (by omega)
  unfold part
  rw [htrim, hread, hvalue]
  simp [hn, pure, Except.pure]

/-- A mark is read where it stands, if it is not blank. -/
theorem mark_cons {c : Char} (hc : Text.isBlank c = false) (cs : List Char) :
    mark c (c :: cs) = .ok cs := by
  unfold mark
  rw [trimStart_cons hc]
  dsimp only
  rw [if_pos rfl]

/-- A year is read up to the hyphen behind it. -/
theorem shortNumber_padded (width n : Nat)
    (hwidth : (Decimal.padded 4 n).toList.length ≤ width) (hn : n ≤ 9223372036854775807)
    (rest : List Char) :
    shortNumber width ((Decimal.padded 4 n).toList ++ '-' :: rest) = .ok (n, '-' :: rest) := by
  have hvalue := Decimal.ofDigits_padded 4 n
  have hpos := Decimal.le_length_padded 4 n
  have hread := shortNumber_append (Decimal.isDigit_of_mem_padded (n := n))
    (List.ne_nil_of_length_pos (by omega)) hwidth ('-' :: rest)
      (fun _ c hc => by cases hc; rfl) (by omega)
  rw [hread, hvalue]

/-- A year is read back however wide it is. -/
theorem lenientYear_yearText {year : Int} (hlow : minYear ≤ year) (hhigh : year ≤ maxYear)
    (rest : List Char) :
    lenientYear ((Timestamp.yearText year).toList ++ '-' :: rest) = .ok (year, '-' :: rest) := by
  unfold minYear at hlow
  unfold maxYear at hhigh
  have hrange : (decide (-2147483648 ≤ year) && decide (year ≤ 2147483647)) = true := by
    simp only [Bool.and_eq_true, decide_eq_true_eq]
    omega
  have hwide := shortNumber_padded ((Decimal.padded 4 year.natAbs).toList ++ '-' :: rest).length
    year.natAbs (by simp) (by omega) rest
  unfold Timestamp.yearText lenientYear
  split_ifs with hshort hneg
  · -- four digits, none of which is a sign
    simp only [Bool.and_eq_true, decide_eq_true_eq] at hshort
    have hdigits : (Decimal.padded 4 year.toNat).toList = Decimal.digits 4 year.toNat :=
      Decimal.toList_padded (by omega)
    have hread := shortNumber_padded 4 year.toNat
      (by rw [hdigits, Decimal.length_digits]) (by omega) rest
    have hnat : ((year.toNat : Nat) : Int) = year := by omega
    obtain ⟨c, cs, hcs⟩ : ∃ c cs, (Decimal.padded 4 year.toNat).toList = c :: cs := by
      rw [hdigits]
      exact ⟨_, _, rfl⟩
    have hc : c.isDigit = true :=
      Decimal.isDigit_of_mem_padded c (by rw [hcs]; exact List.mem_cons_self)
    rw [hcs] at hread ⊢
    rw [List.cons_append, trimStart_cons (Timestamp.isBlank_of_isDigit hc)]
    split
    · next heq =>
      cases heq
      cases hc
    · next heq =>
      cases heq
      cases hc
    · rw [← List.cons_append, hread]
      simp [bind, Except.bind, pure, Except.pure, hnat, hrange]
  · have hnat : -((year.natAbs : Nat) : Int) = year := by omega
    have htrim :=
      trimStart_cons (c := '-') (by decide) ((Decimal.padded 4 year.natAbs).toList ++ '-' :: rest)
    rw [String.toList_append, show "-".toList = ['-'] from rfl, List.append_assoc,
      List.singleton_append, htrim]
    simp only [hwide, ok_bind, pure, Except.pure, hnat, hrange, if_true]
  · have hnat : ((year.natAbs : Nat) : Int) = year := by omega
    have htrim :=
      trimStart_cons (c := '+') (by decide) ((Decimal.padded 4 year.natAbs).toList ++ '-' :: rest)
    rw [String.toList_append, show "+".toList = ['+'] from rfl, List.append_assoc,
      List.singleton_append, htrim]
    simp only [hwide, ok_bind, pure, Except.pure, hnat, hrange, if_true]

end Time

namespace Timestamp

open Time

/-! ## The full text -/

/-- The fraction of a second as the full text has it. -/
def fractionText (n : Nat) : String :=
  if n = 0 then ""
  else if n % 1000000 = 0 then "." ++ Decimal.padded 3 (n / 1000000)
  else if n % 1000 = 0 then "." ++ Decimal.padded 6 (n / 1000)
  else "." ++ Decimal.padded 9 n

/-- The digits that are left away are zeros, so the fraction is read back as it was. -/
theorem fraction_fractionText {n : Nat} (hn : n < 1000000000) :
    fraction ((fractionText n).toList ++ ['Z']) = .ok (n, ['Z']) := by
  have hpoint : ∀ s : String, ("." ++ s).toList = '.' :: s.toList := fun s => String.toList_append
  unfold fractionText
  split_ifs with hzero hmilli hmicro
  · rw [hzero]
    rfl
  · have hread : fraction ('.' :: (Decimal.digits 3 (n / 1000000) ++ ['Z'])) =
        .ok (n / 1000000 * 10 ^ (9 - 3), ['Z']) :=
      fraction_digits (by decide) (by omega) []
    have hvalue : n / 1000000 * 10 ^ (9 - 3) = n := by omega
    rw [hpoint, Decimal.toList_padded (by omega), List.cons_append, hread, hvalue]
  · have hread : fraction ('.' :: (Decimal.digits 6 (n / 1000) ++ ['Z'])) =
        .ok (n / 1000 * 10 ^ (9 - 6), ['Z']) :=
      fraction_digits (by decide) (by omega) []
    have hvalue : n / 1000 * 10 ^ (9 - 6) = n := by omega
    rw [hpoint, Decimal.toList_padded (by omega), List.cons_append, hread, hvalue]
  · have hread : fraction ('.' :: (Decimal.digits 9 n ++ ['Z'])) = .ok (n * 10 ^ (9 - 9), ['Z']) :=
      fraction_digits (by decide) (by omega) []
    have hvalue : n * 10 ^ (9 - 9) = n := by omega
    rw [hpoint, Decimal.toList_padded (by omega), List.cons_append, hread, hvalue]

/-- The full text of an instant, part by part. -/
theorem toList_full (t : Timestamp) :
    t.full.toList = (yearText t.date.year).toList ++ '-' :: (Decimal.digits 2 t.date.month ++
      '-' :: (Decimal.digits 2 t.date.day ++ 'T' :: (Decimal.digits 2 (t.second / 3600) ++
        ':' :: (Decimal.digits 2 (t.second / 60 % 60) ++ ':' :: (Decimal.digits 2 t.writtenSecond ++
          ((fractionText (t.nano % 1000000000)).toList ++ ['Z'])))))) := by
  have hmonth := t.date.month_le
  have hsecond := t.second_lt
  have htwo : ∀ n < 100, (two n).toList = Decimal.digits 2 n := fun n hn => Decimal.toList_padded hn
  have hfull : t.full = yearText t.date.year ++ "-" ++ two t.date.month ++ "-" ++ two t.date.day ++
      "T" ++ two (t.second / 3600) ++ ":" ++ two (t.second / 60 % 60) ++ ":" ++
      two t.writtenSecond ++ fractionText (t.nano % 1000000000) ++ "Z" := rfl
  rw [hfull]
  simp only [String.toList_append, htwo t.date.month (by omega), htwo t.date.day t.day_lt,
    htwo (t.second / 3600) (by omega), htwo (t.second / 60 % 60) (by omega),
    htwo t.writtenSecond t.writtenSecond_lt, List.append_assoc]
  rfl

/-- The lenient form takes the full text of every instant. -/
@[simp] theorem parseLenient_full (t : Timestamp) : parseLenient t.full = .ok t := by
  have hsecond := t.second_lt
  have hday : 1 ≤ t.date.day ∧ t.date.day ≤ 31 := by
    refine ⟨t.date.day_pos, t.date.day_le.trans ?_⟩
    unfold daysInMonth
    split_ifs <;> decide
  have hwritten : 0 ≤ t.writtenSecond ∧ t.writtenSecond ≤ 60 := by
    unfold writtenSecond
    split_ifs <;> omega
  have hyear := lenientYear_yearText t.date.year_ge t.date.year_le
  have hmonth := part_digits ⟨t.date.month_pos, t.date.month_le⟩ (by decide)
  have hday := part_digits hday (by decide)
  have hhour : ∀ rest, part 0 23 (Decimal.digits 2 (t.second / 3600) ++ rest) =
      .ok (t.second / 3600, rest) :=
    part_digits (by omega) (by decide)
  have hminute : ∀ rest, part 0 59 (Decimal.digits 2 (t.second / 60 % 60) ++ rest) =
      .ok (t.second / 60 % 60, rest) :=
    part_digits (by omega) (by decide)
  have hwritten := part_digits hwritten (by decide)
  have hfraction := fraction_fractionText (n := t.nano % 1000000000) (by omega)
  have hdash := mark_cons (c := '-') (by decide)
  have hcolon := mark_cons (c := ':') (by decide)
  unfold parseLenient readLenient
  rw [toList_full]
  -- one part behind the other
  refine bind_eq_ok_iff.2 ⟨_, hyear _, bind_eq_ok_iff.2 ⟨_, hdash _, ?_⟩⟩
  refine bind_eq_ok_iff.2 ⟨_, hmonth _, bind_eq_ok_iff.2 ⟨_, hdash _, ?_⟩⟩
  refine bind_eq_ok_iff.2 ⟨_, hday _, bind_eq_ok_iff.2 ⟨_, rfl, ?_⟩⟩
  refine bind_eq_ok_iff.2 ⟨_, hhour _, bind_eq_ok_iff.2 ⟨_, hcolon _, ?_⟩⟩
  refine bind_eq_ok_iff.2 ⟨_, hminute _, bind_eq_ok_iff.2 ⟨_, hcolon _, ?_⟩⟩
  refine bind_eq_ok_iff.2 ⟨_, hwritten _, bind_eq_ok_iff.2 ⟨_, hfraction, ?_⟩⟩
  refine bind_eq_ok_iff.2 ⟨(0, []), rfl, ?_⟩
  refine bind_eq_ok_iff.2 ⟨_, orFault_eq_ok_iff.2 t.date.of?_parts, ?_⟩
  refine bind_eq_ok_iff.2 ⟨_, orFault_eq_ok_iff.2 t.clock?_written, ?_⟩
  exact bind_eq_ok_iff.2 ⟨0, rfl, orFault_eq_ok_iff.2 t.ofLocal?_zero⟩

/-- An instant is cut off nowhere exactly if it is on a millisecond. -/
theorem truncated_eq_self_iff {t : Timestamp} : t.truncated = t ↔ t.nano % 1000000 = 0 := by
  constructor
  · intro h
    have hnano : t.nano / 1000000 * 1000000 = t.nano := congrArg nano h
    omega
  · intro h
    have hnano : t.nano / 1000000 * 1000000 = t.nano := by omega
    unfold truncated
    simp only [hnano]

/-- An instant is read back from its JSON form to the nanosecond, leap seconds and wide years
included. The canonical text gives back only the instants of a short year that have no nanoseconds
beyond the millisecond. -/
theorem run_render_toJson (t : Timestamp) :
    decoder.run t.toJson.render = .ok t ∧
      (parse t.iso = .ok t ↔ t.HasShortYear ∧ t.nano % 1000000 = 0) := by
  constructor
  · have hcheck : (parseLenient t.full).mapError Time.Fault.message = .ok t := by
      rw [parseLenient_full]
      rfl
    exact Json.Reads.run (Json.Reads.checkedText hcheck)
  · rw [parse_iso, ← truncated_eq_self_iff]
    split_ifs with hshort
    · rw [Except.ok.injEq]
      exact ⟨fun h => ⟨hshort, h⟩, And.right⟩
    · exact ⟨(nomatch ·), fun h => absurd h.1 hshort⟩

end Timestamp

end DispatchStore
