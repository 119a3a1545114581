import DispatchStore.Text.Percent
import Mathlib.Data.List.TakeWhile
import Mathlib.Tactic.Common

/-!
# Texts as bytes and back

The bytes of a text are read as that text (`ofUtf8_utf8`): a character is read from its own bytes,
whatever comes behind them (`utf8Head_encoded`). Without a percent sign nothing in a text is
decoded (`percentDecode_of_forall_ne`).
-/

namespace DispatchStore.Text

/-! ## One character -/

/-- The first byte of a sequence tells its length; a byte that begins none gives zero. -/
theorem sequenceLength_eq (b : UInt8) :
    sequenceLength b = if b.toNat < 0x80 then 1
      else if 0xC2 ≤ b.toNat ∧ b.toNat ≤ 0xDF then 2
      else if 0xE0 ≤ b.toNat ∧ b.toNat ≤ 0xEF then 3
      else if 0xF0 ≤ b.toNat ∧ b.toNat ≤ 0xF4 then 4
      else 0 := by
  unfold sequenceLength
  simp only [UInt8.lt_iff_toNat_lt, UInt8.le_iff_toNat_le, Bool.and_eq_true, decide_eq_true_eq]
  rfl

/-- The bytes of ASCII stand for themselves. -/
theorem sequenceLength_one {b : UInt8} (h : b.toNat < 0x80) : sequenceLength b = 1 := by
  rw [sequenceLength_eq, if_pos h]

/-- The bytes `C2` to `DF` begin sequences of two. -/
theorem sequenceLength_two {b : UInt8} (hl : 0xC2 ≤ b.toNat) (hu : b.toNat ≤ 0xDF) :
    sequenceLength b = 2 := by
  have hone : ¬ b.toNat < 0x80 := by omega
  rw [sequenceLength_eq, if_neg hone, if_pos ⟨hl, hu⟩]

/-- The bytes `E0` to `EF` begin sequences of three. -/
theorem sequenceLength_three {b : UInt8} (hl : 0xE0 ≤ b.toNat) (hu : b.toNat ≤ 0xEF) :
    sequenceLength b = 3 := by
  have hone : ¬ b.toNat < 0x80 := by omega
  have htwo : ¬ (0xC2 ≤ b.toNat ∧ b.toNat ≤ 0xDF) := by omega
  rw [sequenceLength_eq, if_neg hone, if_neg htwo, if_pos ⟨hl, hu⟩]

/-- The bytes `F0` to `F4` begin sequences of four. -/
theorem sequenceLength_four {b : UInt8} (hl : 0xF0 ≤ b.toNat) (hu : b.toNat ≤ 0xF4) :
    sequenceLength b = 4 := by
  have hone : ¬ b.toNat < 0x80 := by omega
  have htwo : ¬ (0xC2 ≤ b.toNat ∧ b.toNat ≤ 0xDF) := by omega
  have hthree : ¬ (0xE0 ≤ b.toNat ∧ b.toNat ≤ 0xEF) := by omega
  rw [sequenceLength_eq, if_neg hone, if_neg htwo, if_neg hthree, if_pos ⟨hl, hu⟩]

/-- A continuation byte fits as the second one, except where it would write a number that fewer
bytes can write, or no character. -/
theorem fits_second {first second : UInt8} (hl : 0x80 ≤ second.toNat) (hu : second.toNat ≤ 0xBF)
    (h3 : first.toNat = 0xE0 → 0xA0 ≤ second.toNat)
    (hs : first.toNat = 0xED → second.toNat ≤ 0x9F)
    (h4 : first.toNat = 0xF0 → 0x90 ≤ second.toNat)
    (hm : first.toNat = 0xF4 → second.toNat ≤ 0x8F) :
    (secondRange first).1 ≤ second ∧ second ≤ (secondRange first).2 := by
  unfold secondRange
  simp only [UInt8.le_iff_toNat_le, ← UInt8.toNat_inj]
  split_ifs with he hd hf hg
  · exact ⟨h3 he, hu⟩
  · exact ⟨hl, hs hd⟩
  · exact ⟨h4 hf, hu⟩
  · exact ⟨hl, hm hg⟩
  · exact ⟨hl, hu⟩

/-- The bytes that continue a sequence are those from `80` to `BF`. -/
theorem isContinuation_iff {b : UInt8} :
    isContinuation b = true ↔ 0x80 ≤ b.toNat ∧ b.toNat ≤ 0xBF := by
  simp [isContinuation, UInt8.le_iff_toNat_le]

/-- A second byte in the range of the first one and continuation bytes behind it all fit, whatever
follows. -/
theorem fitting_eq {first second : UInt8} {others : List UInt8} (rest : List UInt8)
    (h : (secondRange first).1 ≤ second ∧ second ≤ (secondRange first).2)
    (hothers : ∀ b ∈ others, isContinuation b = true) :
    fitting first (second :: others).length (second :: others ++ rest) =
      (second :: others).length := by
  have htake : (second :: others ++ rest).take (second :: others).length = second :: others :=
    List.take_left
  have hwhile : others.takeWhile isContinuation = others := List.takeWhile_eq_self_iff.2 hothers
  unfold fitting
  rw [htake]
  simp only [h.1, h.2, decide_true, Bool.and_self, if_true, hwhile, List.length_cons]
  exact Nat.add_comm _ _

/-- A sequence all of whose bytes fit is the character of its code point. -/
theorem utf8Head_eq {first : UInt8} {bs rest : List UInt8}
    (hlength : sequenceLength first = bs.length + 1)
    (hfit : fitting first bs.length (bs ++ rest) = bs.length) :
    utf8Head first (bs ++ rest) =
      .char (Char.ofNat (codePoint (first :: bs))) (bs.length + 1) := by
  unfold utf8Head
  rw [hlength]
  simp only [hfit, if_true, List.take_left]

/-- The bytes of a character begin with that character. -/
theorem utf8Head_encoded (c : Char) (rest : List UInt8) :
    ∃ first bs, String.utf8EncodeChar c = first :: bs ∧
      utf8Head first (bs ++ rest) = .char c (bs.length + 1) := by
  have hvalid : c.val.toNat < 0xD800 ∨ 0xDFFF < c.val.toNat ∧ c.val.toNat < 0x110000 := c.valid
  have hchar : Char.ofNat c.val.toNat = c := Char.ofNat_toNat c
  generalize hv : c.val.toNat = v at hvalid hchar
  have hbyte : ∀ n < 256, (UInt8.ofNat n).toNat = n := fun _ => UInt8.toNat_ofNat_of_lt
  have hcontinuation : ∀ n, isContinuation (UInt8.ofNat (n % 64 + 128)) = true := fun n => by
    rw [isContinuation_iff, hbyte _ (by omega)]
    omega
  unfold String.utf8EncodeChar
  simp only [hv]
  split_ifs with h1 h2 h3
  · refine ⟨_, [], rfl, ?_⟩
    have hfirst := hbyte v (by omega)
    rw [utf8Head_eq (sequenceLength_one (by omega)) rfl, codePoint, hfirst, hchar]
  · refine ⟨_, _, rfl, ?_⟩
    have hfirst := hbyte (v / 64 % 32 + 192) (by omega)
    have hsecond := hbyte (v % 64 + 128) (by omega)
    have hrange := @fits_second (UInt8.ofNat (v / 64 % 32 + 192)) (UInt8.ofNat (v % 64 + 128))
      (by omega) (by omega) (by omega) (by omega) (by omega) (by omega)
    rw [utf8Head_eq (sequenceLength_two (by omega) (by omega)) (fitting_eq rest hrange (by simp)),
      codePoint, hfirst, hsecond, ← hchar]
    congr 2
    omega
  · refine ⟨_, _, rfl, ?_⟩
    have hfirst := hbyte (v / 4096 % 16 + 224) (by omega)
    have hsecond := hbyte (v / 64 % 64 + 128) (by omega)
    have hthird := hbyte (v % 64 + 128) (by omega)
    have hrange := @fits_second (UInt8.ofNat (v / 4096 % 16 + 224))
      (UInt8.ofNat (v / 64 % 64 + 128)) (by omega) (by omega) (by omega) (by omega) (by omega)
      (by omega)
    rw [utf8Head_eq (sequenceLength_three (by omega) (by omega))
      (fitting_eq rest hrange (List.forall_mem_singleton.2 (hcontinuation _))), codePoint, hfirst,
      hsecond, hthird, ← hchar]
    congr 2
    omega
  · refine ⟨_, _, rfl, ?_⟩
    have hfirst := hbyte (v / 262144 % 8 + 240) (by omega)
    have hsecond := hbyte (v / 4096 % 64 + 128) (by omega)
    have hthird := hbyte (v / 64 % 64 + 128) (by omega)
    have hfourth := hbyte (v % 64 + 128) (by omega)
    have hrange := @fits_second (UInt8.ofNat (v / 262144 % 8 + 240))
      (UInt8.ofNat (v / 4096 % 64 + 128)) (by omega) (by omega) (by omega) (by omega) (by omega)
      (by omega)
    rw [utf8Head_eq (sequenceLength_four (by omega) (by omega))
      (fitting_eq rest hrange (List.forall_mem_cons.2 ⟨hcontinuation _,
        List.forall_mem_singleton.2 (hcontinuation _)⟩)), codePoint, hfirst, hsecond, hthird,
      hfourth, ← hchar]
    congr 2
    omega

/-! ## Texts -/

/-- Bytes that belong to a character already read are passed over, and counted. -/
theorem ofUtf8From_skip (index : Nat) (bs rest : List UInt8) :
    ofUtf8From index bs.length (bs ++ rest) = ofUtf8From (index + bs.length) 0 rest := by
  induction bs generalizing index with
  | nil => rfl
  | cons b bs ih =>
    rw [List.length_cons, List.cons_append, ofUtf8From, ih, Nat.add_right_comm, Nat.add_assoc]

/-- Reading the bytes of characters gives the characters, wherever reading begins. -/
theorem ofUtf8From_encoded (cs : List Char) (index : Nat) :
    ofUtf8From index 0 (cs.flatMap String.utf8EncodeChar) = .ok cs := by
  induction cs generalizing index with
  | nil => rfl
  | cons c cs ih =>
    obtain ⟨first, bs, hencoded, hhead⟩ :=
      utf8Head_encoded c (cs.flatMap String.utf8EncodeChar)
    rw [List.flatMap_cons, hencoded, List.cons_append, ofUtf8From, hhead]
    simp only [Nat.add_sub_cancel, ofUtf8From_skip, ih]
    rfl

/-- The bytes of a text are read as that text. -/
@[simp] theorem ofUtf8_utf8 (s : String) : ofUtf8 (utf8 s) = .ok s := by
  unfold ofUtf8 utf8
  rw [ofUtf8From_encoded]
  exact congrArg Except.ok String.ofList_toList

/-- A byte of ASCII is found in the bytes of a text only if its character is in the text. -/
theorem mem_of_mem_utf8 {s : String} {b : UInt8} (hb : b.toNat < 0x80) (h : b ∈ utf8 s) :
    Char.ofNat b.toNat ∈ s.toList := by
  obtain ⟨c, hc, hbc⟩ := List.mem_flatMap.1 h
  have hchar : Char.ofNat c.val.toNat = c := Char.ofNat_toNat c
  have hbyte : ∀ n < 256, (UInt8.ofNat n).toNat = n := fun _ => UInt8.toNat_ofNat_of_lt
  unfold String.utf8EncodeChar at hbc
  dsimp only at hbc
  split_ifs at hbc with h1 h2 h3
  · rw [List.mem_singleton.1 hbc, hbyte _ (by omega), hchar]
    exact hc
  -- the bytes of all other characters are above those of ASCII
  all_goals
    simp only [List.mem_cons, List.not_mem_nil, or_false] at hbc
    rcases hbc with rfl | rfl | rfl | rfl <;> rw [hbyte _ (by omega)] at hb <;> omega

/-- What the bytes of a text begin with, if those are the bytes of a text again, the text itself
begins with. -/
theorem prefix_of_encoded {as cs : List Char}
    (h : as.flatMap String.utf8EncodeChar <+: cs.flatMap String.utf8EncodeChar) : as <+: cs := by
  induction as generalizing cs with
  | nil => exact List.nil_prefix
  | cons a as ih =>
    obtain ⟨rest, hrest⟩ := h
    obtain ⟨first, bs, hencoded, hhead⟩ :=
      utf8Head_encoded a (as.flatMap String.utf8EncodeChar ++ rest)
    rw [List.flatMap_cons, hencoded, List.append_assoc, List.cons_append] at hrest
    cases cs with
    | nil => cases hrest
    | cons c cs =>
      obtain ⟨first', bs', hencoded', hhead'⟩ :=
        utf8Head_encoded c (cs.flatMap String.utf8EncodeChar)
      rw [List.flatMap_cons, hencoded', List.cons_append, List.cons.injEq] at hrest
      obtain ⟨rfl, hbehind⟩ := hrest
      rw [hbehind, hhead', Utf8Head.char.injEq] at hhead
      obtain ⟨rfl, -⟩ := hhead
      have hbs : bs = bs' := (List.cons.inj (hencoded.symm.trans hencoded')).2
      rw [hbs, List.append_cancel_left_eq] at hbehind
      exact (List.cons_prefix_cons).2 ⟨rfl, ih ⟨rest, hbehind⟩⟩

/-! ## Percent signs -/

/-- Bytes without a percent sign among them stand for themselves. -/
theorem percentDecode_of_forall_ne {bs : List UInt8} (h : ∀ b ∈ bs, b ≠ 0x25) :
    percentDecode bs = bs := by
  fun_induction percentDecode bs with
  | case1 => rfl
  | case2 a b rest x y _ _ _ => exact absurd rfl (h _ List.mem_cons_self)
  | case3 a b rest _ ih => exact absurd rfl (h _ List.mem_cons_self)
  | case4 b a c rest hne ih => rw [ih fun x hx => h x (List.mem_cons_of_mem _ hx)]
  | case5 b rest _ ih => rw [ih fun x hx => h x (List.mem_cons_of_mem _ hx)]

end DispatchStore.Text
