import Mathlib.Tactic.SplitIfs
import DispatchStore.Json.Printer
import DispatchStore.Json.Reader

/-!
# Reading back texts and numbers

A step reads characters as a value if it does so wherever they stand and whatever follows them, as
long as that cannot go on with a number (`Reads`). A text is read back from the characters that are
written for it (`reads_text`), and so is a whole number in the 64-bit ranges (`reads_integer`).
-/

namespace DispatchStore.Json

/-! ## Reading in any place -/

/-- The place behind characters. -/
def Position.after (p : Position) (cs : List Char) : Position := cs.foldl Position.past p

/-- No characters lead nowhere. -/
@[simp]
theorem Position.after_nil (p : Position) : p.after [] = p := rfl

/-- The place behind characters is reached one by one. -/
@[simp]
theorem Position.after_cons (p : Position) (c : Char) (cs : List Char) :
    p.after (c :: cs) = (p.past c).after cs := rfl

/-- The place behind two texts is the one behind the second, from behind the first. -/
@[simp]
theorem Position.after_append (p : Position) (cs ds : List Char) :
    p.after (cs ++ ds) = (p.after cs).after ds := List.foldl_append

/-- What follows a value: nothing, or a character that no number goes on with. -/
def Stops (rest : List Char) : Prop :=
  ∀ c ∈ rest.head?, c.isDigit = false ∧ c ≠ '.' ∧ c ≠ 'e' ∧ c ≠ 'E'

/-- The step reads the characters as a value, wherever they stand. -/
def Reads {α : Type} (read : Cursor → Step α) (cs : List Char) (a : α) : Prop :=
  ∀ rest p, Stops rest → read ⟨cs ++ rest, p⟩ = .done a ⟨rest, p.after cs⟩

/-- Nothing follows a number at the end. -/
theorem stops_nil : Stops [] := nofun

/-- A number ends before a character that goes on with none. -/
theorem stops_cons {c : Char} {rest : List Char}
    (h : c.isDigit = false ∧ c ≠ '.' ∧ c ≠ 'e' ∧ c ≠ 'E') : Stops (c :: rest) := by
  intro d hd
  cases hd
  exact h

/-- There is no white space before a character that is none. -/
theorem skipSpace_cons {c : Char} (hc : isSpace c = false) (cs : List Char) (p : Position) :
    Cursor.skipSpace ⟨c :: cs, p⟩ = ⟨c :: cs, p⟩ := by
  unfold Cursor.skipSpace skipSpaceFrom
  rw [hc]
  rfl

/-- A keyword is read where it stands. -/
@[simp] theorem keyword_append (ks rest : List Char) (p : Position) :
    keyword ks ⟨ks ++ rest, p⟩ = .done () ⟨rest, p.after ks⟩ := by
  induction ks generalizing p with
  | nil => rfl
  | cons k ks ih =>
    unfold keyword
    dsimp only [List.cons_append]
    rw [if_pos rfl]
    exact ih (p.past k)

/-! ## Texts -/

/-- A hexadecimal digit is read as its value. -/
theorem hexValue?_digitChar : ∀ d < 16, Text.hexValue? (Nat.digitChar d) = some d := by decide

/-- A hexadecimal digit is one byte. -/
theorem utf8Size_digitChar : ∀ d < 16, (Nat.digitChar d).utf8Size = 1 := by decide

/-- The escape of a control character is read as that character. -/
theorem unicodeEscape_control {n : Nat} (hn : n < 0x20) (rest : List Char) (p : Position) :
    unicodeEscape ⟨['0', '0', Nat.digitChar (n / 16), Nat.digitChar (n % 16)] ++ rest, p⟩ =
      .done (Char.ofNat n)
        ⟨rest, p.after ['0', '0', Nat.digitChar (n / 16), Nat.digitChar (n % 16)]⟩ := by
  have hzero : Text.hexValue? '0' = some 0 := by decide
  have hhigh := hexValue?_digitChar (n / 16) (by omega)
  have hlow := hexValue?_digitChar (n % 16) (by omega)
  have hbytes : ¬ Text.byteCount
      ('0' :: '0' :: Nat.digitChar (n / 16) :: Nat.digitChar (n % 16) :: rest) < 4 := by
    simp only [Text.byteCount, utf8Size_digitChar (n / 16) (by omega),
      utf8Size_digitChar (n % 16) (by omega), show '0'.utf8Size = 1 from rfl]
    omega
  have hunit : ((0 * 16 + 0) * 16 + n / 16) * 16 + n % 16 = n := by omega
  have hscalar : ¬ (decide (0xDC00 ≤ n) && decide (n ≤ 0xDFFF)) = true := by simp; omega
  have hbasic : (decide (n < 0xD800) || decide (0xDBFF < n)) = true := by simp; omega
  unfold unicodeEscape hexUnit
  dsimp only [List.cons_append, List.nil_append]
  rw [if_neg hbytes, hzero, hhigh, hlow]
  dsimp only [Step.andThen]
  rw [hunit, if_neg hscalar, if_pos hbasic]
  rfl

/-- A character is read back from what is written for it. -/
theorem textFrom_escapedChar (c : Char) (fuel : Nat) (acc rest : List Char) (p : Position) :
    textFrom (fuel + 1) acc ⟨escapedChar c ++ rest, p⟩ =
      textFrom fuel (c :: acc) ⟨rest, p.after (escapedChar c)⟩ := by
  unfold escapedChar
  split_ifs with hquote hslash hb hf hn hr ht hcontrol
  · subst hquote
    rfl
  · subst hslash
    rfl
  · subst hb
    rfl
  · subst hf
    rfl
  · subst hn
    rfl
  · subst hr
    rfl
  · subst ht
    rfl
  · have hescape := unicodeEscape_control hcontrol rest ((p.past '\\').past 'u')
    rw [Char.ofNat_toNat] at hescape
    have hread : escape ⟨'u' :: (['0', '0', Nat.digitChar (c.toNat / 16),
        Nat.digitChar (c.toNat % 16)] ++ rest), p.past '\\'⟩ = _ := hescape
    rw [textFrom]
    dsimp only [List.cons_append, List.nil_append, Cursor.skipOne] at hread ⊢
    rw [if_neg (by decide), if_pos rfl, hread]
    rfl
  · rw [textFrom]
    dsimp only [List.cons_append]
    rw [if_neg hquote, if_neg hslash, if_neg hcontrol]
    rfl

/-- The characters of a text are read back up to the closing quote. -/
theorem textFrom_escaped (cs : List Char) {fuel : Nat} (hfuel : cs.length < fuel)
    (acc rest : List Char) (p : Position) :
    textFrom fuel acc ⟨cs.flatMap escapedChar ++ '"' :: rest, p⟩ =
      .done (String.ofList (acc.reverse ++ cs))
        ⟨rest, (p.after (cs.flatMap escapedChar)).past '"'⟩ := by
  induction cs generalizing fuel acc p with
  | nil =>
    obtain ⟨n, rfl⟩ := Nat.exists_eq_succ_of_ne_zero (Nat.ne_zero_of_lt hfuel)
    rw [List.append_nil]
    rfl
  | cons c cs ih =>
    obtain ⟨n, rfl⟩ := Nat.exists_eq_succ_of_ne_zero (Nat.ne_zero_of_lt hfuel)
    rw [List.flatMap_cons, List.append_assoc, textFrom_escapedChar,
      ih (Nat.lt_of_succ_lt_succ hfuel)]
    simp

/-- Every character is written as at least one. -/
theorem escapedChar_length_pos (c : Char) : 1 ≤ (escapedChar c).length := by
  unfold escapedChar
  split_ifs <;> simp

/-- Text is written with at least one character for each of its own. -/
theorem length_le_escaped (cs : List Char) : cs.length ≤ (cs.flatMap escapedChar).length := by
  induction cs with
  | nil => exact Nat.le_refl _
  | cons c cs ih =>
    have hone := escapedChar_length_pos c
    rw [List.flatMap_cons, List.length_append, List.length_cons]
    omega

/-- A text is read back. -/
@[simp] theorem textLiteral_append (s : String) (rest : List Char) (p : Position) :
    textLiteral ⟨textChars s ++ rest, p⟩ = .done s ⟨rest, p.after (textChars s)⟩ := by
  have hlength := length_le_escaped s.toList
  have hfuel : s.toList.length < (textChars s ++ rest).length := by
    unfold textChars
    simp only [List.length_append, List.length_cons]
    omega
  have hread := textFrom_escaped s.toList hfuel [] rest (p.past '"')
  rw [List.reverse_nil, List.nil_append, String.ofList_toList] at hread
  unfold textLiteral
  have hskip : Cursor.skipOne ⟨textChars s ++ rest, p⟩ =
      ⟨s.toList.flatMap escapedChar ++ '"' :: rest, p.past '"'⟩ := by
    simp [textChars, Cursor.skipOne]
  rw [hskip, hread]
  simp [textChars]

/-! ## Whole numbers -/

/-- The digits at the front are read up to what stops them. -/
theorem digitRunFrom_append {ds : List Char} (hds : ∀ c ∈ ds, c.isDigit = true) {rest : List Char}
    (hrest : Stops rest) (p : Position) :
    digitRunFrom p (ds ++ rest) = (ds.map fun c => c.toNat - '0'.toNat, ⟨rest, p.after ds⟩) := by
  induction ds generalizing p with
  | nil =>
    cases rest with
    | nil => rfl
    | cons c cs =>
      have hc := (hrest c rfl).1
      unfold digitRunFrom
      dsimp only [List.nil_append]
      rw [if_neg (by simp [hc])]
      rfl
  | cons d ds ih =>
    unfold digitRunFrom
    dsimp only [List.cons_append]
    rw [if_pos (hds d List.mem_cons_self), ih (fun c hc => hds c (List.mem_cons_of_mem _ hc))]
    rfl

/-- More digits do not make a number smaller. -/
theorem le_ofDigitChars (cs : List Char) (n : Nat) : n ≤ Nat.ofDigitChars 10 cs n := by
  rw [Nat.ofDigitChars_eq_ofDigitChars_zero]
  have hpow : 0 < 10 ^ cs.length := Nat.pow_pos (by decide)
  exact Nat.le_trans (Nat.le_mul_of_pos_left n hpow) (Nat.le_add_right _ _)

/-- Digits of a number within the bound are gathered in full. -/
theorem gather_eq {bound : Nat} {cs : List Char} {n : Nat} (h : Nat.ofDigitChars 10 cs n ≤ bound) :
    gather bound n (cs.map fun c => c.toNat - '0'.toNat) = (Nat.ofDigitChars 10 cs n, 0) := by
  induction cs generalizing n with
  | nil => rfl
  | cons c cs ih =>
    rw [Nat.ofDigitChars_cons, Nat.mul_comm] at h ⊢
    have hstep : n * 10 + (c.toNat - '0'.toNat) ≤ bound := Nat.le_trans (le_ofDigitChars _ _) h
    rw [List.map_cons, gather, if_pos hstep]
    exact ih h

/-- A number other than zero is written without a leading zero. -/
theorem head?_toDigits {n : Nat} (hn : 0 < n) :
    ∀ c ∈ (Nat.toDigits 10 n).head?, c.toNat - '0'.toNat ≠ 0 := by
  induction n using Nat.strongRecOn with
  | ind n ih =>
    rw [Nat.toDigits_eq_if (by decide)]
    split
    · next hlt =>
      intro c hc
      cases hc
      rw [Nat.toNat_digitChar_of_lt_ten hlt]
      show 48 + n - 48 ≠ 0
      omega
    · next hge =>
      have hhead : (Nat.toDigits 10 (n / 10)).head? ≠ none := by
        rw [ne_eq, List.head?_eq_none_iff]
        exact Nat.toDigits_ne_nil
      rw [List.head?_append, Option.or_of_isSome (Option.isSome_iff_ne_none.2 hhead)]
      exact ih (n / 10) (by omega) (by omega)

/-- A number within the bound is read back from its digits. -/
theorem numberLiteral_toDigits (negative : Bool) {n : Nat} (hn : n ≤ significandBound)
    {rest : List Char} (hrest : Stops rest) (p : Position) :
    numberLiteral negative ⟨Nat.toDigits 10 n ++ rest, p⟩ =
      .done (wholeNumber negative n) ⟨rest, p.after (Nat.toDigits 10 n)⟩ := by
  have hdigits : ∀ c ∈ Nat.toDigits 10 n, c.isDigit = true := fun c hc =>
    Nat.isDigit_of_mem_toDigits (by decide) (by decide) hc
  have hrun : digitRun ⟨Nat.toDigits 10 n ++ rest, p⟩ = _ := digitRunFrom_append hdigits hrest p
  have hvalue : Nat.ofDigitChars 10 (Nat.toDigits 10 n) 0 = n := Nat.ofDigitChars_ten_toDigits
  have hgather : gather significandBound 0
      ((Nat.toDigits 10 n).map fun c => c.toNat - '0'.toNat) = (n, 0) := by
    rw [gather_eq (by rw [hvalue]; exact hn), hvalue]
  unfold numberLiteral
  rw [hrun]
  split
  · next hnil =>
    have hempty := List.map_eq_nil_iff.1 (Prod.mk.inj hnil).1
    exact absurd hempty Nat.toDigits_ne_nil
  · next heq =>
    -- of two digits the first one is not zero
    obtain ⟨c, cs, htoDigits, hc, hcs⟩ := List.map_eq_cons_iff.1 (Prod.mk.inj heq).1
    rcases Nat.eq_zero_or_pos n with rfl | hpos
    · cases htoDigits
      cases hcs
    · exact absurd hc (head?_toDigits hpos c (by rw [htoDigits]; rfl))
  · next ds next _ _ heq =>
    obtain ⟨rfl, rfl⟩ := Prod.mk.inj heq
    rw [hgather]
    dsimp only
    split
    · exact absurd rfl (hrest '.' rfl).2.1
    · exact absurd rfl (hrest 'e' rfl).2.2.1
    · exact absurd rfl (hrest 'E' rfl).2.2.2
    · rfl

end DispatchStore.Json
