import DispatchStore.Proofs.Text.Utf8
import Mathlib.Data.String.Basic

/-!
# The order of texts

Texts are ordered by their characters, and that is the order of their bytes (`utf8_lt_utf8_iff`): of
two characters the smaller one has the smaller bytes, because all bytes of a character but the first
are digits in base 64 and longer characters begin with larger bytes (`encoded_lt`).
-/

namespace DispatchStore.Text

/-- The smaller one of two numbers has the smaller digit at the first place in base 64 at which they
differ. There are four places, of which the first one takes all that is left. -/
theorem places_lt {v w : Nat} (h : v < w) :
    v / 262144 < w / 262144 ∨ v / 262144 = w / 262144 ∧
      (v / 4096 % 64 < w / 4096 % 64 ∨ v / 4096 % 64 = w / 4096 % 64 ∧
        (v / 64 % 64 < w / 64 % 64 ∨ v / 64 % 64 = w / 64 % 64 ∧ v % 64 < w % 64)) := by
  have hdigit : ∀ m n : Nat, m < n → m / 64 < n / 64 ∨ m / 64 = n / 64 ∧ m % 64 < n % 64 := by omega
  have hthird : ∀ n : Nat, n / 64 / 64 = n / 4096 := fun n => Nat.div_div_eq_div_mul n 64 64
  have hfourth : ∀ n : Nat, n / 4096 / 64 = n / 262144 := fun n => Nat.div_div_eq_div_mul n 4096 64
  rcases hdigit v w h with h₁ | ⟨h₁, hlast⟩
  · rcases hdigit _ _ h₁ with h₂ | ⟨h₂, hthird'⟩
    · rw [hthird, hthird] at h₂
      rcases hdigit _ _ h₂ with h₃ | ⟨h₃, hsecond⟩
      · rw [hfourth, hfourth] at h₃
        exact .inl h₃
      · rw [hfourth, hfourth] at h₃
        exact .inr ⟨h₃, .inl hsecond⟩
    · rw [hthird, hthird] at h₂
      refine .inr ⟨?_, .inr ⟨by rw [h₂], .inl hthird'⟩⟩
      rw [← hfourth, ← hfourth, h₂]
  · have h₂ : v / 4096 = w / 4096 := by rw [← hthird, ← hthird, h₁]
    refine .inr ⟨?_, .inr ⟨by rw [h₂], .inr ⟨by rw [h₁], hlast⟩⟩⟩
    rw [← hfourth, ← hfourth, h₂]

/-- The bytes of a smaller character come first, whatever is behind them. -/
theorem encoded_lt {c d : Char} (h : c < d) (xs ys : List UInt8) :
    String.utf8EncodeChar c ++ xs < String.utf8EncodeChar d ++ ys := by
  have hlt : c.val.toNat < d.val.toNat := UInt32.lt_iff_toNat_lt.1 (Char.lt_def.1 h)
  have hd : d.val.toNat < 0x110000 := by
    rcases d.valid with hd | hd
    · exact Nat.lt_trans hd (by decide)
    · exact hd.2
  unfold String.utf8EncodeChar
  generalize c.val.toNat = v at hlt
  generalize d.val.toNat = w at hlt hd
  have hplaces := places_lt hlt
  have hfirst : v / 262144 % 8 = v / 262144 ∧ w / 262144 % 8 = w / 262144 := by omega
  have hbyte : ∀ n < 256, (UInt8.ofNat n).toNat = n := fun _ => UInt8.toNat_ofNat_of_lt
  dsimp only
  split_ifs <;>
    simp (disch := omega) only [List.cons_append, List.nil_append, List.cons_lt_cons_iff,
      UInt8.lt_iff_toNat_lt, ← UInt8.toNat_inj, hbyte] <;> omega

/-- Characters that come first lexicographically come first by their bytes as well. -/
theorem flatMap_encoded_lt {as bs : List Char} (h : as < bs) :
    as.flatMap String.utf8EncodeChar < bs.flatMap String.utf8EncodeChar := by
  induction as generalizing bs with
  | nil =>
    cases bs with
    | nil => exact absurd h (List.lt_irrefl _)
    | cons b bs =>
      obtain ⟨first, rest, hencoded, -⟩ := utf8Head_encoded b []
      rw [List.flatMap_nil, List.flatMap_cons, hencoded]
      exact List.nil_lt_cons _ _
  | cons a as ih =>
    cases bs with
    | nil => cases h
    | cons b bs =>
      rw [List.flatMap_cons, List.flatMap_cons]
      rcases List.cons_lt_cons_iff.1 h with hab | ⟨rfl, hrest⟩
      · exact encoded_lt hab _ _
      · exact List.append_left_lt (ih hrest)

/-- The order of texts is that of their bytes. -/
@[simp] theorem utf8_lt_utf8_iff {s t : String} : utf8 s < utf8 t ↔ s < t := by
  rw [String.lt_iff_toList_lt]
  constructor
  · intro h
    by_contra hnot
    rcases (not_lt.1 hnot).lt_or_eq with hlt | heq
    · exact List.lt_asymm (flatMap_encoded_lt hlt) h
    · rw [utf8, utf8, heq] at h
      exact List.lt_irrefl _ h
  · exact flatMap_encoded_lt

end DispatchStore.Text
