import DispatchStore.Time.Timestamp
import Mathlib.Data.List.Lex
import Mathlib.Data.String.Basic
import Mathlib.Tactic.IntervalCases

/-!
# The order of canonical texts

Within the years 0 to 9999 all parts of a canonical text have a fixed width, so that texts are
ordered as the instants they write, up to the millisecond (`Timestamp.iso_lt_iff`).

Numbers of a fixed width are ordered as their digits (`Decimal.digits_lt_iff`), and texts that are
put together of parts of the same lengths as the lists of the parts (`flatten_lt_flatten_iff`).
-/

namespace DispatchStore

/-! ## Texts put together of parts -/

section Parts

variable {α : Type} [LinearOrder α]

/-- Behind beginnings of one length the rest decides only if the beginnings are the same. -/
theorem append_lt_append_iff {as bs : List α} (h : as.length = bs.length) (xs ys : List α) :
    as ++ xs < bs ++ ys ↔ as < bs ∨ as = bs ∧ xs < ys := by
  induction as generalizing bs with
  | nil =>
    have hbs : bs = [] := List.length_eq_zero_iff.1 h.symm
    rw [hbs]
    simp
  | cons a as ih =>
    cases bs with
    | nil => cases h
    | cons b bs =>
      have hlength : as.length = bs.length := Nat.succ.inj h
      simp only [List.cons_append, List.cons_lt_cons_iff, ih hlength, List.cons.injEq]
      constructor
      · rintro (hlt | ⟨rfl, hlt | ⟨rfl, hlt⟩⟩)
        · exact .inl (.inl hlt)
        · exact .inl (.inr ⟨rfl, hlt⟩)
        · exact .inr ⟨⟨rfl, rfl⟩, hlt⟩
      · rintro ((hlt | ⟨rfl, hlt⟩) | ⟨⟨rfl, rfl⟩, hlt⟩)
        · exact .inl hlt
        · exact .inr ⟨rfl, .inl hlt⟩
        · exact .inr ⟨rfl, .inr ⟨rfl, hlt⟩⟩

/-- Where the parts have the same lengths, what they are put together to is ordered as they are. -/
theorem flatten_lt_flatten_iff {l l' : List (List α)}
    (h : List.Forall₂ (fun a b => a.length = b.length) l l') : l.flatten < l'.flatten ↔ l < l' := by
  induction h with
  | nil => simp
  | cons hlength _ ih =>
    rw [List.flatten_cons, List.flatten_cons, append_lt_append_iff hlength, ih,
      List.cons_lt_cons_iff]

end Parts

/-! ## Digits -/

namespace Decimal

/-- The last digits of a number, as many as the width. -/
def digits : Nat → Nat → List Char
  | 0, _ => []
  | width + 1, n => digits width (n / 10) ++ [Nat.digitChar (n % 10)]

/-- As many digits are written as the width says. -/
@[simp] theorem length_digits (width n : Nat) : (digits width n).length = width := by
  induction width generalizing n with
  | zero => rfl
  | succ width ih => rw [digits, List.length_append, ih, List.length_singleton]

/-- The digits of zero are zeros. -/
theorem digits_zero (width : Nat) : digits width 0 = List.replicate width '0' := by
  induction width with
  | zero => rfl
  | succ width ih =>
    rw [digits, Nat.zero_div, ih, List.replicate_succ']
    rfl

/-- Digits are in the order of their values. -/
theorem digitChar_lt_iff {a b : Nat} (ha : a < 10) (hb : b < 10) :
    Nat.digitChar a < Nat.digitChar b ↔ a < b := by
  interval_cases a <;> interval_cases b <;> decide

/-- Numbers that fit in the width are ordered as their digits. -/
theorem digits_lt_iff {width m n : Nat} (hm : m < 10 ^ width) (hn : n < 10 ^ width) :
    digits width m < digits width n ↔ m < n := by
  induction width generalizing m n with
  | zero =>
    have hm : m = 0 := by simpa using hm
    have hn : n = 0 := by simpa using hn
    simp [hm, hn, digits]
  | succ width ih =>
    rw [Nat.pow_succ] at hm hn
    have hlength : (digits width (m / 10)).length = (digits width (n / 10)).length := by simp
    have hfront := ih (m := m / 10) (n := n / 10) (by omega) (by omega)
    have hfront' := ih (m := n / 10) (n := m / 10) (by omega) (by omega)
    have hsame : digits width (m / 10) = digits width (n / 10) ↔ m / 10 = n / 10 := by
      constructor
      · intro heq
        rw [heq] at hfront hfront'
        have hirrefl := lt_irrefl (digits width (n / 10))
        rw [hfront] at hirrefl
        have hirrefl' := lt_irrefl (digits width (n / 10))
        rw [hfront'] at hirrefl'
        omega
      · intro heq
        rw [heq]
    have hlast : [Nat.digitChar (m % 10)] < [Nat.digitChar (n % 10)] ↔ m % 10 < n % 10 := by
      rw [List.cons_lt_cons_iff, digitChar_lt_iff (by omega) (by omega)]
      simp
    rw [digits, digits, append_lt_append_iff hlength, hfront, hsame, hlast]
    omega

/-- Numbers that the width has room for are told apart by their digits. -/
theorem digits_inj {width m n : Nat} (hm : m < 10 ^ width) (hn : n < 10 ^ width) :
    digits width m = digits width n ↔ m = n := by
  constructor
  · intro heq
    have hlt := digits_lt_iff hm hn
    have hgt := digits_lt_iff hn hm
    rw [heq] at hlt hgt
    have hirrefl := lt_irrefl (digits width n)
    rcases lt_trichotomy m n with h | h | h
    · exact absurd (hlt.2 h) hirrefl
    · exact h
    · exact absurd (hgt.2 h) hirrefl
  · intro heq
    rw [heq]

/-- The digits of a number that fits, filled up with zeros. -/
theorem replicate_append_toDigits {width n : Nat} (hn : n < 10 ^ (width + 1)) :
    List.replicate (width + 1 - (Nat.toDigits 10 n).length) '0' ++ Nat.toDigits 10 n =
      digits (width + 1) n := by
  induction width generalizing n with
  | zero =>
    have hsmall : n < 10 := by simpa using hn
    rw [Nat.toDigits_of_lt_base hsmall, digits, digits, Nat.mod_eq_of_lt hsmall]
    rfl
  | succ width ih =>
    by_cases hsmall : n < 10
    · rw [Nat.toDigits_of_lt_base hsmall, digits, Nat.div_eq_of_lt hsmall, digits_zero,
        Nat.mod_eq_of_lt hsmall]
      rfl
    · have hdigits := Nat.toDigits_of_base_le (b := 10) (by decide) (not_lt.1 hsmall)
      have hdiv : n / 10 < 10 ^ (width + 1) := by
        rw [Nat.pow_succ] at hn
        omega
      rw [digits, ← ih hdiv, hdigits, List.length_append, List.length_singleton,
        Nat.add_sub_add_right, List.append_assoc]

/-- A number that the width has room for is padded to its last digits. -/
theorem toList_padded {width n : Nat} (hn : n < 10 ^ (width + 1)) :
    (padded (width + 1) n).toList = digits (width + 1) n := by
  have hlist : (toString n : String).toList = Nat.toDigits 10 n := Nat.toList_repr
  have hlength : (toString n : String).length = (Nat.toDigits 10 n).length := by
    rw [← String.length_toList, hlist]
  unfold padded padLeft
  rw [String.toList_append, String.toList_ofList, hlist, hlength]
  exact replicate_append_toDigits hn

end Decimal

/-! ## Instants -/

namespace Timestamp

/-- The instant cut off to the millisecond. -/
def truncated (t : Timestamp) : Timestamp where
  date := t.date
  second := t.second
  nano := t.nano / 1000000 * 1000000
  second_lt := t.second_lt
  nano_lt := Nat.lt_of_le_of_lt (Nat.div_mul_le_self t.nano 1000000) t.nano_lt
  leap_ends_minute := fun h => t.leap_ends_minute (h.trans (Nat.div_mul_le_self t.nano 1000000))

/-- The year is written with four digits and no sign. -/
def HasShortYear (t : Timestamp) : Prop := 0 ≤ t.date.year ∧ t.date.year ≤ 9999

instance (t : Timestamp) : Decidable t.HasShortYear :=
  inferInstanceAs (Decidable (0 ≤ t.date.year ∧ t.date.year ≤ 9999))

/-- The second of the minute as it is written. -/
def writtenSecond (t : Timestamp) : Nat := t.second % 60 + if 1000000000 ≤ t.nano then 1 else 0

/-- The millisecond as it is written. -/
def writtenMilli (t : Timestamp) : Nat := t.nano % 1000000000 / 1000000

/-- The parts of the canonical text. -/
def parts (t : Timestamp) : List (List Char) :=
  [Decimal.digits 4 t.date.year.toNat, ['-'], Decimal.digits 2 t.date.month, ['-'],
    Decimal.digits 2 t.date.day, ['T'], Decimal.digits 2 (t.second / 3600), [':'],
    Decimal.digits 2 (t.second / 60 % 60), [':'], Decimal.digits 2 t.writtenSecond, ['.'],
    Decimal.digits 3 t.writtenMilli, ['Z']]

/-- A day has at most two digits. -/
theorem day_lt (t : Timestamp) : t.date.day < 100 := by
  have hday := t.date.day_le
  unfold Time.daysInMonth at hday
  split_ifs at hday <;> omega

/-- A second has at most two digits, also one that is a leap second. -/
theorem writtenSecond_lt (t : Timestamp) : t.writtenSecond < 100 := by
  unfold writtenSecond
  split_ifs <;> omega

/-- A millisecond has at most three digits. -/
theorem writtenMilli_lt (t : Timestamp) : t.writtenMilli < 1000 := by
  unfold writtenMilli
  omega

/-- Where the year is short the canonical text is its parts, each of a fixed length. -/
theorem toList_iso {t : Timestamp} (h : t.HasShortYear) : t.iso.toList = t.parts.flatten := by
  obtain ⟨hlow, hhigh⟩ := h
  have hyear : yearText t.date.year = Decimal.padded 4 t.date.year.toNat := by
    unfold yearText
    rw [if_pos (by simp [hlow, hhigh])]
  have hmonth := t.date.month_le
  have hsecond := t.second_lt
  have hdigits : (Decimal.padded 4 t.date.year.toNat).toList = Decimal.digits 4 t.date.year.toNat ∧
      (two t.date.month).toList = Decimal.digits 2 t.date.month ∧
      (two t.date.day).toList = Decimal.digits 2 t.date.day ∧
      (two (t.second / 3600)).toList = Decimal.digits 2 (t.second / 3600) ∧
      (two (t.second / 60 % 60)).toList = Decimal.digits 2 (t.second / 60 % 60) ∧
      (two t.writtenSecond).toList = Decimal.digits 2 t.writtenSecond ∧
      (Decimal.padded 3 t.writtenMilli).toList = Decimal.digits 3 t.writtenMilli := by
    refine ⟨?_, ?_, ?_, ?_, ?_, ?_, ?_⟩ <;> apply Decimal.toList_padded
    · omega
    · omega
    · exact t.day_lt
    · omega
    · omega
    · exact t.writtenSecond_lt
    · exact t.writtenMilli_lt
  obtain ⟨h₁, h₂, h₃, h₄, h₅, h₆, h₇⟩ := hdigits
  have hiso : t.iso = yearText t.date.year ++ "-" ++ two t.date.month ++ "-" ++ two t.date.day ++
      "T" ++ two (t.second / 3600) ++ ":" ++ two (t.second / 60 % 60) ++ ":" ++
      two t.writtenSecond ++ "." ++ Decimal.padded 3 t.writtenMilli ++ "Z" := rfl
  rw [hiso, hyear]
  simp only [String.toList_append, h₁, h₂, h₃, h₄, h₅, h₆, h₇, parts, List.flatten_cons,
    List.flatten_nil, List.append_assoc, List.append_nil]
  rfl

/-- The time of day is ordered as it is written. A leap second is written as the sixtieth second of
its minute, and so comes behind all others of the minute. -/
theorem written_lt_iff (t u : Timestamp) :
    (t.second / 3600 < u.second / 3600 ∨ t.second / 3600 = u.second / 3600 ∧
      (t.second / 60 % 60 < u.second / 60 % 60 ∨ t.second / 60 % 60 = u.second / 60 % 60 ∧
        (t.writtenSecond < u.writtenSecond ∨ t.writtenSecond = u.writtenSecond ∧
          t.writtenMilli < u.writtenMilli))) ↔
      t.second < u.second ∨ t.second = u.second ∧
        t.nano / 1000000 * 1000000 < u.nano / 1000000 * 1000000 := by
  have htleap := t.leap_ends_minute
  have huleap := u.leap_ends_minute
  have htnano := t.nano_lt
  have hunano := u.nano_lt
  unfold writtenSecond writtenMilli
  split_ifs with h h' h'
  · have := htleap h
    have := huleap h'
    omega
  · have := htleap h
    omega
  · have := huleap h'
    omega
  · omega

/-- The parts are ordered as the instants. -/
theorem parts_lt_iff {t u : Timestamp} (ht : t.HasShortYear) (hu : u.HasShortYear) :
    t.parts < u.parts ↔ t.truncated.key < u.truncated.key := by
  obtain ⟨htlow, hthigh⟩ := ht
  obtain ⟨hulow, huhigh⟩ := hu
  have hyear : t.date.year.toNat < u.date.year.toNat ↔ t.date.year < u.date.year := by omega
  have hyear' : t.date.year.toNat = u.date.year.toNat ↔ t.date.year = u.date.year := by omega
  have htmonth := t.date.month_le
  have humonth := u.date.month_le
  have htday := t.day_lt
  have huday := u.day_lt
  have htsecond := t.second_lt
  have husecond := u.second_lt
  have htwritten := t.writtenSecond_lt
  have huwritten := u.writtenSecond_lt
  have htmilli := t.writtenMilli_lt
  have humilli := u.writtenMilli_lt
  have hwritten := written_lt_iff t u
  unfold parts key truncated
  simp (disch := omega) only [List.cons_lt_cons_iff, Decimal.digits_lt_iff, Decimal.digits_inj,
    hyear, hyear', lt_irrefl, true_and, false_or, and_false, or_false, Nat.cast_lt, Nat.cast_inj,
    hwritten]

/-- The canonical texts of short years are in the order of the instants, cut off to the
millisecond. -/
theorem iso_lt_iff {t u : Timestamp} (ht : t.HasShortYear) (hu : u.HasShortYear) :
    t.iso < u.iso ↔ t.truncated.key < u.truncated.key := by
  have hlengths : List.Forall₂ (fun a b : List Char => a.length = b.length) t.parts u.parts := by
    simp [parts]
  rw [String.lt_iff_toList_lt, toList_iso ht, toList_iso hu, flatten_lt_flatten_iff hlengths,
    parts_lt_iff ht hu]

/-! ## The order of instants -/

variable {t u : Timestamp}

/-- An instant is earlier exactly if its key is less. -/
theorem compare_eq_lt_iff : t.compare u = .lt ↔ t.key < u.key := by
  unfold compare compareOfLessAndEq
  split_ifs <;> simp_all

/-- An instant is no later exactly if its key is no greater. -/
theorem le_iff_key_le : t ≤ u ↔ t.key ≤ u.key := by
  show t.compare u ≠ .gt ↔ _
  unfold compare compareOfLessAndEq
  split_ifs with hlt heq
  · simp [hlt.le]
  · simp [heq]
  · simp only [ne_eq, not_true_eq_false, false_iff, not_le]
    exact (not_lt.1 hlt).lt_of_ne' heq

/-- Instants with the same key are the same. -/
theorem eq_of_key_eq (h : t.key = u.key) : t = u := by
  obtain ⟨⟨year, month, day, _, _, _, _, _, _⟩, second, nano, _, _, _⟩ := t
  obtain ⟨⟨year', month', day', _, _, _, _, _, _⟩, second', nano', _, _, _⟩ := u
  simpa [key, and_assoc] using h

/-- What comes first when it is cut off to the millisecond comes first. -/
theorem key_lt_of_truncated (h : t.truncated.key < u.truncated.key) : t.key < u.key := by
  have hnano : t.nano / 1000000 * 1000000 < u.nano / 1000000 * 1000000 → t.nano < u.nano := by omega
  unfold truncated key at *
  simp only [List.cons_lt_cons_iff, Nat.cast_lt, Nat.cast_inj, lt_irrefl, and_false,
    or_false] at h ⊢
  rcases h with h | ⟨hyear, h | ⟨hmonth, h | ⟨hday, h | ⟨hsecond, h⟩⟩⟩⟩
  · exact .inl h
  · exact .inr ⟨hyear, .inl h⟩
  · exact .inr ⟨hyear, .inr ⟨hmonth, .inl h⟩⟩
  · exact .inr ⟨hyear, .inr ⟨hmonth, .inr ⟨hday, .inl h⟩⟩⟩
  · exact .inr ⟨hyear, .inr ⟨hmonth, .inr ⟨hday, .inr ⟨hsecond, hnano h⟩⟩⟩⟩

section ShortYears

variable (ht : t.HasShortYear) (hu : u.HasShortYear)
include ht hu

/-- Of two instants of short years the text that comes no later is that of the instant that is no
later. -/
theorem iso_le_iff : t.iso ≤ u.iso ↔ t.truncated ≤ u.truncated := by
  rw [← not_lt, iso_lt_iff hu ht, not_lt, le_iff_key_le]

/-- Two instants of short years have one text exactly if they are the same to the millisecond. -/
theorem iso_eq_iff : t.iso = u.iso ↔ t.truncated = u.truncated := by
  have hle := iso_le_iff ht hu
  have hge := iso_le_iff hu ht
  rw [le_iff_key_le] at hle hge
  constructor
  · intro h
    exact eq_of_key_eq (le_antisymm (hle.1 h.le) (hge.1 h.ge))
  · intro h
    rw [h] at hle hge
    exact le_antisymm (hle.2 le_rfl) (hge.2 le_rfl)

end ShortYears

end Timestamp

end DispatchStore
