import DispatchStore.Proofs.Json.Decoding

/-!
# Embedded texts and nesting

An object with a text under the key of embedded texts stands for the value that the text writes
(`reads_embedded`). The value is read with a depth of its own, so it may nest deeper than the place
at which it stands allows. Written out there, it is refused (`valueWith_replicate`).
-/

namespace DispatchStore.Json

variable {levels : Nat} {read : String → Except Error Json}

/-- An object under the key of embedded texts is read as the value that its text writes. -/
theorem reads_embedded {s : String} {v : Json} (h : read s = .ok v) :
    Reads (valueWith read (levels + 1)) (Json.object [(embeddingKey, .text s)]).chars v := by
  intro rest p _
  let behindColon := ((p.past '\x7b').after (textChars embeddingKey)).past ':'
  have htext : textAs "raw value" ⟨textChars s ++ ('\x7d' :: rest), behindColon⟩ =
      .done s ⟨'\x7d' :: rest, behindColon.after (textChars s)⟩ :=
    reads_textAs "raw value" s _ _ (stops_cons (by decide))
  have hembedded : objectValue read (valueWith read levels)
      ⟨(Json.object [(embeddingKey, .text s)]).chars ++ rest, p⟩ =
      .done v ⟨rest, p.after (Json.object [(embeddingKey, .text s)]).chars⟩ := by
    unfold objectValue
    simp only [chars, membersChars, List.cons_append, List.nil_append, List.append_assoc]
    dsimp only [Cursor.skipOne]
    rw [nextKey_first]
    dsimp only [Step.andThen]
    rw [if_pos rfl]
    unfold embedded
    rw [colon_cons]
    dsimp only [Step.andThen]
    rw [htext]
    dsimp only
    rw [h]
    dsimp only [Step.enclosed]
    rw [closeObject_cons]
    simp [Step.map, Step.andThen, behindColon]
  rw [chars_object, List.cons_append] at hembedded ⊢
  unfold valueWith
  rw [scalarOr_bracket (.inr rfl), if_neg (by decide)]
  exact hembedded

/-- More brackets than there are levels are refused. -/
theorem valueWith_replicate (cs : List Char) (p : Position) :
    ∃ place next, valueWith read levels ⟨List.replicate (levels + 1) '[' ++ cs, p⟩ =
      .failed ⟨.nestedTooDeep, some place⟩ next := by
  induction levels generalizing p with
  | zero =>
    refine ⟨p.pastByte '[', ⟨'[' :: cs, p⟩, ?_⟩
    unfold valueWith
    exact scalarOr_bracket (.inl rfl) cs p
  | succ levels ih =>
    obtain ⟨place, next, hinner⟩ := ih (p.past '[')
    have hopens : Opens (List.replicate (levels + 1) '[') := ⟨_, _, rfl, rfl, by decide⟩
    refine ⟨place, next, ?_⟩
    unfold valueWith
    rw [List.replicate_succ, List.cons_append, scalarOr_bracket (.inl rfl), if_pos rfl]
    unfold arrayOf
    rw [itemsFrom]
    dsimp only [Cursor.skipOne]
    rw [nextItem_first hopens]
    dsimp only [Step.andThen]
    rw [if_pos rfl, hinner]
    rfl

/-! ## Values in an embedded text -/

/-- A text that is embedded is read as the value that it writes. -/
theorem embeddedText_render {v : Json} (h : IsReadable maxLevels v) (depth : Nat) :
    embeddedText depth v.render = .ok v := by
  cases depth with
  | zero => exact (h.reads _).wholeText
  | succ depth => exact (h.reads _).wholeText

/-- An object with nothing but an embedded text is read as the value in that text. -/
theorem reads_json_embedded {v : Json} (h : IsReadable maxLevels v) :
    Reads (Decoder.json (levels + 1)) (Json.object [(embeddingKey, .text v.render)]).chars v :=
  fun rest p hrest => reads_embedded (embeddedText_render h _) rest p hrest

/-- An empty array inside `n` others. -/
def nestedArray : Nat → Json
  | 0 => .array []
  | n + 1 => .array [nestedArray n]

/-- An array inside others can be read if its levels are allowed. -/
theorem isReadable_nestedArray (n : Nat) : IsReadable (n + 1) (nestedArray n) := by
  induction n with
  | zero => exact .array nofun
  | succ n ih => exact .array (List.forall_mem_cons.2 ⟨ih, nofun⟩)

/-- An array inside others is written with as many brackets. -/
theorem chars_nestedArray (n : Nat) :
    (nestedArray n).chars = List.replicate (n + 1) '[' ++ List.replicate (n + 1) ']' := by
  induction n with
  | zero => rfl
  | succ n ih =>
    rw [nestedArray, chars, ih, itemsChars, List.append_assoc, ← List.replicate_succ']
    rfl

/-- Arrays that nest deeper than there are levels are refused. -/
theorem value_nestedArray {n : Nat} (h : levels ≤ n) (rest : List Char) (p : Position) :
    ∃ place next, Decoder.json levels ⟨(nestedArray n).chars ++ rest, p⟩ =
      .failed ⟨.nestedTooDeep, some place⟩ next := by
  have hsplit : ∃ cs, (nestedArray n).chars ++ rest = List.replicate (levels + 1) '[' ++ cs := by
    have hcount : n + 1 = levels + 1 + (n - levels) := by omega
    rw [chars_nestedArray]
    nth_rewrite 1 [hcount]
    rw [List.replicate_add, List.append_assoc, List.append_assoc]
    exact ⟨_, rfl⟩
  obtain ⟨cs, hcs⟩ := hsplit
  rw [hcs]
  exact valueWith_replicate cs p

end DispatchStore.Json
