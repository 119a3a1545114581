import Mathlib.Data.String.Basic
import DispatchStore.Json.Decoder
import DispatchStore.Proofs.Json.Literals

/-!
# Reading back values

A value is read back from the text that is written for it if the text can hold it (`IsReadable`):
its numbers are whole and in the 64-bit ranges, its objects are in order and do not begin with the
key of an embedded text, and its containers do not nest too deep. By induction over the value, each
part is read in the place where it stands (`IsReadable.reads`), and hence the whole text
(`IsReadable.run_render`).
-/

namespace DispatchStore.Json

/-- A value that its text can hold: at most `levels` containers lie inside each other. -/
inductive IsReadable : Nat → Json → Prop where
  | null {levels : Nat} : IsReadable levels .null
  | bool {levels : Nat} (b : Bool) : IsReadable levels (.bool b)
  | integer {levels : Nat} {n : Int} (h : -9223372036854775808 ≤ n ∧ n ≤ 18446744073709551615) :
    IsReadable levels (.number (.integer n))
  | text {levels : Nat} (s : String) : IsReadable levels (.text s)
  | array {levels : Nat} {items : List Json} (h : ∀ v ∈ items, IsReadable levels v) :
    IsReadable (levels + 1) (.array items)
  | object {levels : Nat} {members : List (String × Json)}
    (h : ∀ m ∈ members, IsReadable levels m.2)
    (hkeys : (members.map Prod.fst).Pairwise (· < ·))
    (hplain : ∀ m ∈ members.head?, m.1 ≠ embeddingKey) : IsReadable (levels + 1) (.object members)

/-- What a text can hold it can hold where more levels are left. -/
theorem IsReadable.mono {m n : Nat} {v : Json} (h : IsReadable m v) (hle : m ≤ n) :
    IsReadable n v := by
  induction h generalizing n with
  | null => exact .null
  | bool b => exact .bool b
  | integer hn => exact .integer hn
  | text s => exact .text s
  | array _ ih =>
    obtain ⟨k, rfl⟩ := Nat.exists_eq_add_one_of_ne_zero (Nat.ne_zero_of_lt hle)
    exact .array fun v hv => ih v hv (Nat.le_of_succ_le_succ hle)
  | object _ hkeys hplain ih =>
    obtain ⟨k, rfl⟩ := Nat.exists_eq_add_one_of_ne_zero (Nat.ne_zero_of_lt hle)
    exact .object (fun m hm => ih m hm (Nat.le_of_succ_le_succ hle)) hkeys hplain

/-- A digit is none of the characters that are no digits. -/
theorem ne_of_isDigit {c d : Char} (hc : c.isDigit = true) (hd : d.isDigit = false) : c ≠ d := by
  rintro rfl
  rw [hc] at hd
  cases hd

/-- A digit is no white space. -/
theorem isSpace_digit {c : Char} (hc : c.isDigit = true) : isSpace c = false := by
  have hne := fun (d : Char) (hd : d.isDigit = false) => ne_of_isDigit hc hd
  simp [isSpace, hne ' ' rfl, hne '\n' rfl, hne '\t' rfl, hne '\r' rfl]

/-! ## Values that are no containers -/

section Scalars

variable {container : Char → Cursor → Step Json}

/-- The word for null is read as null. -/
theorem reads_null : Reads (scalarOr container) ['n', 'u', 'l', 'l'] .null := by
  intro rest p _
  have hread : (keyword ['u', 'l', 'l'] ⟨['u', 'l', 'l'] ++ rest, p.past 'n'⟩).map (fun _ => null) =
      .done .null ⟨rest, p.after ['n', 'u', 'l', 'l']⟩ := by
    rw [keyword_append]
    rfl
  unfold scalarOr
  dsimp only [List.cons_append]
  rw [skipSpace_cons rfl]
  exact hread

/-- The words for the two truth values are read as these. -/
theorem reads_bool (b : Bool) : Reads (scalarOr container) (Json.bool b).chars (.bool b) := by
  intro rest p _
  unfold scalarOr
  cases b with
  | true =>
    have hread : (keyword ['r', 'u', 'e'] ⟨['r', 'u', 'e'] ++ rest, p.past 't'⟩).map
        (fun _ => bool true) = .done (.bool true) ⟨rest, p.after ['t', 'r', 'u', 'e']⟩ := by
      rw [keyword_append]
      rfl
    simp only [chars, List.cons_append]
    rw [skipSpace_cons rfl]
    exact hread
  | false =>
    have hread : (keyword ['a', 'l', 's', 'e'] ⟨['a', 'l', 's', 'e'] ++ rest, p.past 'f'⟩).map
        (fun _ => bool false) = .done (.bool false) ⟨rest, p.after ['f', 'a', 'l', 's', 'e']⟩ := by
      rw [keyword_append]
      rfl
    simp only [chars, List.cons_append]
    rw [skipSpace_cons rfl]
    exact hread

/-- A quoted text is read as the text. -/
theorem reads_text (s : String) : Reads (scalarOr container) (textChars s) (.text s) := by
  intro rest p _
  have hread := textLiteral_append s rest p
  have hchars : textChars s ++ rest = '"' :: (s.toList.flatMap escapedChar ++ ['"'] ++ rest) := rfl
  unfold scalarOr
  rw [hchars] at hread ⊢
  rw [skipSpace_cons rfl]
  show (textLiteral ⟨'"' :: (s.toList.flatMap escapedChar ++ ['"'] ++ rest), p⟩).map _ = _
  rw [hread]
  rfl

/-- A digit is none of the characters that other values begin with. -/
theorem scalarOr_digit {c : Char} (hc : c.isDigit = true) (cs : List Char) (p : Position) :
    scalarOr container ⟨c :: cs, p⟩ = (numberLiteral false ⟨c :: cs, p⟩).map .number := by
  unfold scalarOr
  rw [skipSpace_cons (isSpace_digit hc)]
  dsimp only
  rw [if_neg (ne_of_isDigit hc (by decide)), if_neg (ne_of_isDigit hc (by decide)),
    if_neg (ne_of_isDigit hc (by decide)), if_neg (ne_of_isDigit hc (by decide)), if_pos hc]

/-- A whole number that fits 64 bits, with or without a sign, is read as it is. -/
theorem reads_integer {n : Int} (h : -9223372036854775808 ≤ n ∧ n ≤ 18446744073709551615) :
    Reads (scalarOr container) (integerChars n) (.number (.integer n)) := by
  intro rest p hrest
  have hbound : n.natAbs ≤ significandBound := by
    show n.natAbs ≤ 18446744073709551615
    omega
  unfold integerChars
  by_cases hneg : n < 0
  · have hread := numberLiteral_toDigits true hbound hrest (p.past '-')
    have hnumber : wholeNumber true n.natAbs = .integer n := by
      have hrange : ¬ (n.natAbs = 0 || 9223372036854775808 < n.natAbs) = true := by
        simp
        omega
      unfold wholeNumber
      rw [if_pos rfl, if_neg hrange]
      congr 1
      omega
    rw [if_pos hneg]
    unfold scalarOr
    dsimp only [List.cons_append]
    rw [skipSpace_cons rfl]
    show (numberLiteral true ⟨Nat.toDigits 10 n.natAbs ++ rest, p.past '-'⟩).map _ = _
    rw [hread, hnumber]
    rfl
  · have hread := numberLiteral_toDigits false hbound hrest p
    have hnumber : wholeNumber false n.natAbs = .integer n := by
      unfold wholeNumber
      rw [if_neg Bool.false_ne_true]
      congr 1
      omega
    rw [if_neg hneg]
    cases hdigits : Nat.toDigits 10 n.natAbs with
    | nil => exact absurd hdigits Nat.toDigits_ne_nil
    | cons c cs =>
      have hc : c.isDigit = true :=
        Nat.isDigit_of_mem_toDigits (b := 10) (by decide) (by decide)
          (by rw [hdigits]; exact List.mem_cons_self)
      rw [hdigits] at hread
      rw [List.cons_append, scalarOr_digit hc]
      dsimp only [List.cons_append] at hread
      rw [hread, hnumber]
      rfl

/-- A bracket or brace is left to what reads containers. -/
theorem scalarOr_bracket {c : Char} (hc : c = '[' ∨ c = '\x7b') (cs : List Char) (p : Position) :
    scalarOr container ⟨c :: cs, p⟩ = container c ⟨c :: cs, p⟩ := by
  unfold scalarOr
  rcases hc with rfl | rfl
  · rw [skipSpace_cons rfl]
    rfl
  · rw [skipSpace_cons rfl]
    rfl

end Scalars

/-! ## Arrays -/

/-- The characters begin with one that neither is white space nor ends an array. -/
def Opens (cs : List Char) : Prop := ∃ c ds, cs = c :: ds ∧ isSpace c = false ∧ c ≠ ']'

/-- A whole number begins with a sign or a digit. -/
theorem opens_integerChars (n : Int) : Opens (integerChars n) := by
  unfold integerChars
  split
  · exact ⟨_, _, rfl, rfl, by decide⟩
  · cases hdigits : Nat.toDigits 10 n.natAbs with
    | nil => exact absurd hdigits Nat.toDigits_ne_nil
    | cons c cs =>
      have hc : c.isDigit = true :=
        Nat.isDigit_of_mem_toDigits (b := 10) (by decide) (by decide)
          (by rw [hdigits]; exact List.mem_cons_self)
      exact ⟨c, cs, rfl, isSpace_digit hc, ne_of_isDigit hc rfl⟩

/-- The text of a value begins with a character that opens a value. -/
theorem IsReadable.opens {levels : Nat} {v : Json} (h : IsReadable levels v) : Opens v.chars := by
  cases h with
  | null => exact ⟨_, _, rfl, rfl, by decide⟩
  | bool b => cases b <;> exact ⟨_, _, rfl, rfl, by decide⟩
  | integer _ => exact opens_integerChars _
  | text s => exact ⟨_, _, rfl, rfl, by decide⟩
  | @array _ items _ =>
    cases items with
    | nil => exact ⟨_, _, rfl, rfl, by decide⟩
    | cons v vs => exact ⟨_, _, rfl, rfl, by decide⟩
  | @object _ members _ _ _ =>
    match members with
    | [] => exact ⟨_, _, rfl, rfl, by decide⟩
    | (k, v) :: ms => exact ⟨_, _, rfl, rfl, by decide⟩

/-- The first item is read without a comma. -/
theorem nextItem_first {cs : List Char} (h : Opens cs) (rest : List Char) (p : Position) :
    nextItem true ⟨cs ++ rest, p⟩ = .done true ⟨cs ++ rest, p⟩ := by
  obtain ⟨c, ds, rfl, hspace, hend⟩ := h
  unfold nextItem
  rw [List.cons_append, skipSpace_cons hspace]
  dsimp only
  split
  · next heq => cases heq
  · next heq =>
    cases heq
    exact absurd rfl hend
  · rfl

/-- Every other item is read behind a comma. -/
theorem nextItem_comma {cs : List Char} (h : Opens cs) (rest : List Char) (p : Position) :
    nextItem false ⟨',' :: (cs ++ rest), p⟩ = .done true ⟨cs ++ rest, p.past ','⟩ := by
  obtain ⟨c, ds, rfl, hspace, hend⟩ := h
  have hskip : Cursor.skipSpace (Cursor.skipOne ⟨',' :: (c :: ds ++ rest), p⟩) =
      ⟨c :: ds ++ rest, p.past ','⟩ := skipSpace_cons hspace _ _
  unfold nextItem
  rw [skipSpace_cons rfl]
  dsimp only
  split
  · next heq => cases heq
  · next heq => cases heq
  · next heq =>
    cases heq
    rw [if_neg Bool.false_ne_true, if_pos rfl, hskip]
    dsimp only [List.cons_append]
    split
    · next heq => cases heq
    · next heq =>
      cases heq
      exact absurd rfl hend
    · rfl

/-- At a closing bracket there is no further item. -/
@[simp] theorem nextItem_end (first : Bool) (rest : List Char) (p : Position) :
    nextItem first ⟨']' :: rest, p⟩ = .done false ⟨']' :: rest, p⟩ := by
  unfold nextItem
  rw [skipSpace_cons rfl]
  rfl

/-- A closing bracket ends an array. -/
@[simp] theorem closeArray_cons (rest : List Char) (p : Position) :
    closeArray ⟨']' :: rest, p⟩ = .done () ⟨rest, p.past ']'⟩ := by
  unfold closeArray
  rw [skipSpace_cons rfl]
  rfl

/-- No number goes on behind an item. -/
theorem stops_itemsChars (items : List Json) (rest : List Char) :
    Stops (itemsChars items ++ rest) := by
  cases items with
  | nil => exact stops_cons (by decide)
  | cons v vs => exact stops_cons (by decide)

/-- Items are written with at least one character each. -/
theorem length_le_itemsChars (items : List Json) : items.length ≤ (itemsChars items).length := by
  induction items with
  | nil => exact Nat.zero_le _
  | cons v vs ih =>
    simp only [itemsChars, List.length_cons, List.length_append]
    omega

section Items

variable {item : Cursor → Step Json} {items : List Json}
  (h : ∀ v ∈ items, Opens v.chars ∧ Reads item v.chars v)
include h

/-- The items behind the first are read up to the closing bracket. -/
theorem itemsFrom_itemsChars {fuel : Nat} (hfuel : items.length < fuel) (rest : List Char)
    (p : Position) :
    ∃ q, itemsFrom item fuel false ⟨itemsChars items ++ rest, p⟩ = .done items ⟨']' :: rest, q⟩ ∧
      q.past ']' = p.after (itemsChars items) := by
  induction items generalizing fuel p with
  | nil =>
    obtain ⟨n, rfl⟩ := Nat.exists_eq_succ_of_ne_zero (Nat.ne_zero_of_lt hfuel)
    refine ⟨p, ?_, rfl⟩
    simp only [itemsChars, List.cons_append, List.nil_append]
    rw [itemsFrom, nextItem_end]
    rfl
  | cons v vs ih =>
    obtain ⟨n, rfl⟩ := Nat.exists_eq_succ_of_ne_zero (Nat.ne_zero_of_lt hfuel)
    obtain ⟨hopens, hreads⟩ := h v List.mem_cons_self
    obtain ⟨q, hrest, hq⟩ := ih (fun w hw => h w (List.mem_cons_of_mem _ hw))
      (Nat.lt_of_succ_lt_succ hfuel) ((p.past ',').after v.chars)
    have hread := hreads (itemsChars vs ++ rest) (p.past ',') (stops_itemsChars vs rest)
    refine ⟨q, ?_, ?_⟩
    · simp only [itemsChars, List.cons_append, List.append_assoc]
      rw [itemsFrom, nextItem_comma hopens]
      dsimp only [Step.andThen]
      rw [if_pos rfl, hread]
      dsimp only
      rw [hrest]
      rfl
    · rw [hq]
      simp [itemsChars]

/-- An array is read from its opening bracket to behind its closing one. -/
theorem arrayOf_chars (rest : List Char) (p : Position) :
    arrayOf item ⟨(Json.array items).chars ++ rest, p⟩ =
      .done items ⟨rest, p.after (Json.array items).chars⟩ := by
  unfold arrayOf
  cases items with
  | nil =>
    simp only [chars, List.cons_append, List.nil_append]
    rw [itemsFrom]
    dsimp only [Cursor.skipOne]
    rw [nextItem_end]
    dsimp only [Step.andThen, Step.enclosed]
    rw [if_neg Bool.false_ne_true]
    dsimp only
    rw [closeArray_cons]
    rfl
  | cons v vs =>
    obtain ⟨hopens, hreads⟩ := h v List.mem_cons_self
    have hlength := length_le_itemsChars vs
    have hread := hreads (itemsChars vs ++ rest) (p.past '[') (stops_itemsChars vs rest)
    have hfuel : vs.length < ('[' :: (v.chars ++ (itemsChars vs ++ rest))).length := by
      simp only [List.length_cons, List.length_append]
      omega
    obtain ⟨q, hrest, hq⟩ := itemsFrom_itemsChars (fun w hw => h w (List.mem_cons_of_mem _ hw))
      hfuel rest ((p.past '[').after v.chars)
    simp only [chars, List.cons_append, List.append_assoc]
    rw [itemsFrom]
    dsimp only [Cursor.skipOne]
    rw [nextItem_first hopens]
    dsimp only [Step.andThen]
    rw [if_pos rfl, hread]
    dsimp only
    rw [hrest]
    dsimp only [Step.map, Step.andThen, Step.enclosed]
    rw [closeArray_cons, hq]
    simp

end Items

/-! ## Objects -/

/-- A text begins with a quote. -/
theorem textChars_append (k : String) (rest : List Char) :
    textChars k ++ rest = '"' :: (k.toList.flatMap escapedChar ++ '"' :: rest) := by
  simp [textChars]

/-- The key of the first member is read without a comma. -/
theorem nextKey_first (k : String) (rest : List Char) (p : Position) :
    nextKey true ⟨textChars k ++ rest, p⟩ = .done (some k) ⟨rest, p.after (textChars k)⟩ := by
  have hread := textLiteral_append k rest p
  rw [textChars_append] at hread ⊢
  unfold nextKey
  rw [skipSpace_cons rfl]
  dsimp only
  split
  · next heq => cases heq
  · next heq => cases heq
  · next heq =>
    cases heq
    rw [if_pos rfl, if_pos rfl, hread]
    rfl

/-- The key of every other member is read behind a comma. -/
theorem nextKey_comma (k : String) (rest : List Char) (p : Position) :
    nextKey false ⟨',' :: (textChars k ++ rest), p⟩ =
      .done (some k) ⟨rest, (p.past ',').after (textChars k)⟩ := by
  have hread := textLiteral_append k rest (p.past ',')
  rw [textChars_append] at hread ⊢
  have hskip : Cursor.skipSpace (Cursor.skipOne
      ⟨',' :: '"' :: (k.toList.flatMap escapedChar ++ '"' :: rest), p⟩) =
      ⟨'"' :: (k.toList.flatMap escapedChar ++ '"' :: rest), p.past ','⟩ := skipSpace_cons rfl _ _
  unfold nextKey
  rw [skipSpace_cons rfl]
  dsimp only
  split
  · next heq => cases heq
  · next heq => cases heq
  · next heq =>
    cases heq
    rw [if_neg Bool.false_ne_true, if_pos rfl, hskip]
    dsimp only
    rw [hread]
    rfl

/-- At a closing brace there is no further member. -/
@[simp] theorem nextKey_end (first : Bool) (rest : List Char) (p : Position) :
    nextKey first ⟨'\x7d' :: rest, p⟩ = .done none ⟨'\x7d' :: rest, p⟩ := by
  unfold nextKey
  rw [skipSpace_cons rfl]
  rfl

/-- A colon separates a key from its value. -/
@[simp] theorem colon_cons (rest : List Char) (p : Position) :
    colon ⟨':' :: rest, p⟩ = .done () ⟨rest, p.past ':'⟩ := by
  unfold colon
  rw [skipSpace_cons rfl]
  rfl

/-- A closing brace ends an object. -/
@[simp] theorem closeObject_cons (rest : List Char) (p : Position) :
    closeObject ⟨'\x7d' :: rest, p⟩ = .done () ⟨rest, p.past '\x7d'⟩ := by
  unfold closeObject
  rw [skipSpace_cons rfl]
  rfl

/-- No number goes on behind a member. -/
theorem stops_membersChars (members : List (String × Json)) (rest : List Char) :
    Stops (membersChars members ++ rest) := by
  match members with
  | [] => exact stops_cons (by decide)
  | (k, v) :: ms => exact stops_cons (by decide)

/-- Members are written with at least one character each. -/
theorem length_le_membersChars (members : List (String × Json)) :
    members.length ≤ (membersChars members).length := by
  induction members with
  | nil => exact Nat.zero_le _
  | cons m ms ih =>
    obtain ⟨k, v⟩ := m
    simp only [membersChars, List.length_cons, List.length_append]
    omega

/-- A member with a key larger than all others goes to the end. -/
theorem insertMember_last {key : String} {value : Json} {members : List (String × Json)}
    (h : ∀ m ∈ members, m.1 < key) :
    insertMember key value members = members ++ [(key, value)] := by
  induction members with
  | nil => rfl
  | cons m ms ih =>
    obtain ⟨k, v⟩ := m
    have hlt := h (k, v) List.mem_cons_self
    rw [insertMember, if_neg (lt_asymm hlt), if_neg (ne_of_gt hlt),
      ih fun x hx => h x (List.mem_cons_of_mem _ hx)]
    rfl

/-- Members in ascending order of their keys make up the object. -/
theorem ofMembers_eq {members : List (String × Json)}
    (h : (members.map Prod.fst).Pairwise (· < ·)) : ofMembers members = .object members := by
  have hfold : ∀ before : List (String × Json),
      ((before ++ members).map Prod.fst).Pairwise (· < ·) →
        members.foldl (fun acc m => insertMember m.1 m.2 acc) before = before ++ members := by
    clear h
    induction members with
    | nil =>
      intro before _
      rw [List.append_nil]
      rfl
    | cons m ms ih =>
      intro before hbefore
      have hlast : insertMember m.1 m.2 before = before ++ [m] := by
        refine insertMember_last fun x hx => ?_
        rw [List.map_append, List.pairwise_append] at hbefore
        exact hbefore.2.2 _ (List.mem_map_of_mem hx) _ (List.mem_map_of_mem List.mem_cons_self)
      rw [List.foldl_cons, hlast, ih (before ++ [m]) (by rwa [List.append_assoc]),
        List.append_assoc]
      rfl
  exact congrArg Json.object (hfold [] h)

section Members

variable {value : Cursor → Step Json} {members : List (String × Json)}
  (h : ∀ m ∈ members, Reads value m.2.chars m.2)
include h

/-- The members behind the first are read up to the closing brace. -/
theorem membersFrom_membersChars {fuel : Nat} (hfuel : members.length < fuel) (rest : List Char)
    (p : Position) :
    ∃ q, membersFrom value fuel false ⟨membersChars members ++ rest, p⟩ =
        .done members ⟨'\x7d' :: rest, q⟩ ∧ q.past '\x7d' = p.after (membersChars members) := by
  induction members generalizing fuel p with
  | nil =>
    obtain ⟨n, rfl⟩ := Nat.exists_eq_succ_of_ne_zero (Nat.ne_zero_of_lt hfuel)
    refine ⟨p, ?_, rfl⟩
    simp only [membersChars, List.cons_append, List.nil_append]
    rw [membersFrom, nextKey_end]
    rfl
  | cons m ms ih =>
    obtain ⟨k, v⟩ := m
    obtain ⟨n, rfl⟩ := Nat.exists_eq_succ_of_ne_zero (Nat.ne_zero_of_lt hfuel)
    let behindKey := ((p.past ',').after (textChars k)).past ':'
    obtain ⟨q, hrest, hq⟩ := ih (fun w hw => h w (List.mem_cons_of_mem _ hw))
      (Nat.lt_of_succ_lt_succ hfuel) (behindKey.after v.chars)
    have hread := h (k, v) List.mem_cons_self (membersChars ms ++ rest) behindKey
      (stops_membersChars ms rest)
    dsimp only at hread
    refine ⟨q, ?_, ?_⟩
    · simp only [membersChars, List.cons_append, List.append_assoc]
      rw [membersFrom, nextKey_comma]
      dsimp only [Step.andThen]
      rw [colon_cons]
      dsimp only
      rw [hread]
      dsimp only
      rw [hrest]
      rfl
    · rw [hq]
      simp [membersChars, behindKey]

/-- An object is read from its opening brace to behind its closing one. -/
theorem objectValue_chars (hkeys : (members.map Prod.fst).Pairwise (· < ·))
    (hplain : ∀ m ∈ members.head?, m.1 ≠ embeddingKey) (read : String → Except Error Json)
    (rest : List Char) (p : Position) :
    objectValue read value ⟨(Json.object members).chars ++ rest, p⟩ =
      .done (.object members) ⟨rest, p.after (Json.object members).chars⟩ := by
  unfold objectValue
  match members, h, hkeys, hplain with
  | [], _, _, _ =>
    simp only [chars, List.cons_append, List.nil_append]
    dsimp only [Cursor.skipOne]
    rw [nextKey_end]
    dsimp only [Step.andThen, Step.enclosed]
    rw [closeObject_cons]
    rfl
  | (k, v) :: ms, h, hkeys, hplain =>
    let behindKey := ((p.past '\x7b').after (textChars k)).past ':'
    have hlength := length_le_membersChars ms
    have hread := h (k, v) List.mem_cons_self (membersChars ms ++ rest) behindKey
      (stops_membersChars ms rest)
    have hfuel : ms.length < (membersChars ms ++ rest).length + 1 := by
      simp only [List.length_append]
      omega
    obtain ⟨q, hrest, hq⟩ := membersFrom_membersChars (fun w hw => h w (List.mem_cons_of_mem _ hw))
      hfuel rest (behindKey.after v.chars)
    dsimp only at hread
    simp only [chars, List.cons_append, List.append_assoc]
    dsimp only [Cursor.skipOne]
    rw [nextKey_first]
    dsimp only [Step.andThen]
    rw [if_neg (hplain (k, v) rfl), colon_cons]
    dsimp only
    rw [hread]
    dsimp only
    rw [hrest]
    dsimp only [Step.map, Step.andThen, Step.enclosed]
    rw [closeObject_cons, hq, ofMembers_eq hkeys]
    simp [behindKey]

end Members

/-! ## All values -/

/-- What is read without entering a container is read on all levels. -/
theorem reads_scalar {cs : List Char} {v : Json}
    (h : ∀ container, Reads (scalarOr container) cs v) (read : String → Except Error Json)
    (levels : Nat) : Reads (valueWith read levels) cs v := by
  cases levels with
  | zero => exact h _
  | succ n => exact h _

/-- A value is read where its text stands, whatever the embedded texts are read with. -/
theorem IsReadable.reads {levels : Nat} {v : Json} (h : IsReadable levels v)
    (read : String → Except Error Json) : Reads (valueWith read levels) v.chars v := by
  induction h with
  | null => exact reads_scalar (fun _ => reads_null) read _
  | bool b => exact reads_scalar (fun _ => reads_bool b) read _
  | integer hn => exact reads_scalar (fun _ => reads_integer hn) read _
  | text s => exact reads_scalar (fun _ => reads_text s) read _
  | @array levels items hitems ih =>
    intro rest p _
    have hread := arrayOf_chars (fun w hw => ⟨(hitems w hw).opens, ih w hw⟩) rest p
    have hchars : ∃ cs, (Json.array items).chars = '[' :: cs := by
      cases items <;> exact ⟨_, rfl⟩
    obtain ⟨cs, hcs⟩ := hchars
    rw [hcs] at hread ⊢
    unfold valueWith
    rw [List.cons_append, scalarOr_bracket (.inl rfl), if_pos rfl]
    rw [List.cons_append] at hread
    rw [hread]
    rfl
  | @object levels members hmembers hkeys hplain ih =>
    intro rest p _
    have hread := objectValue_chars ih hkeys hplain read rest p
    have hchars : ∃ cs, (Json.object members).chars = '\x7b' :: cs := by
      match members with
      | [] => exact ⟨_, rfl⟩
      | (k, v) :: ms => exact ⟨_, rfl⟩
    obtain ⟨cs, hcs⟩ := hchars
    rw [hcs] at hread ⊢
    unfold valueWith
    rw [List.cons_append, scalarOr_bracket (.inr rfl), if_neg (by decide)]
    exact hread

/-- Reading a text begins at its first character, in the first line. -/
theorem start_ofList (cs : List Char) : Cursor.start (String.ofList cs) = ⟨cs ++ [], ⟨1, 0⟩⟩ := by
  unfold Cursor.start
  rw [String.toList_ofList, List.append_nil]

/-- What is read wherever it stands is read as a whole text. -/
theorem Reads.wholeText {α : Type} {read : Cursor → Step α} {cs : List Char} {a : α}
    (h : Reads read cs a) : wholeText read (String.ofList cs) = .ok a := by
  unfold Json.wholeText
  rw [start_ofList, h [] _ stops_nil]
  rfl

/-- What is read wherever it stands is read as a whole text. -/
theorem Reads.run {α : Type} {d : Decoder α} {cs : List Char} {a : α}
    (h : Reads (d maxLevels) cs a) :
    d.run (String.ofList cs) = .ok a :=
  h.wholeText

/-- A value that its text can hold is read back where the text stands. -/
theorem IsReadable.reads_json {levels : Nat} {v : Json} (h : IsReadable levels v) :
    Reads (Decoder.json levels) v.chars v :=
  fun rest p hrest => h.reads _ rest p hrest

/-- A value that its text can hold is read back from it. -/
theorem IsReadable.run_render {v : Json} (h : IsReadable maxLevels v) :
    Decoder.json.run v.render = .ok v :=
  h.reads_json.run

end DispatchStore.Json
