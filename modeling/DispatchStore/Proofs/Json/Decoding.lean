import DispatchStore.Proofs.Json.RoundTrip

/-!
# Reading back records

A record is written as an object. Each of its members fills one field of the draft (`Fills`), and
when the draft is complete, so is what is read back (`Fills.reads`). A member whose value is refused
without a place fails the record; the error is placed behind the object (`Fills.refused`).
-/

namespace DispatchStore.Json

/-! ## Single values -/

section Values

variable {α β : Type} {read : Cursor → Step α} {d : Decoder α} {levels : Nat}
    {cs : List Char} {a : α}

/-- The step reads the characters wherever they stand, and then refuses them without a place. -/
def Refuses (read : Cursor → Step α) (cs : List Char) (fault : Fault) : Prop :=
  ∀ rest p, Stops rest → read ⟨cs ++ rest, p⟩ = .failed ⟨fault, none⟩ ⟨rest, p.after cs⟩

/-- What is read can be mapped. -/
theorem Reads.map (h : Reads read cs a) (f : α → β) :
    Reads (fun c => (read c).map f) cs (f a) := by
  intro rest p hrest
  dsimp only
  rw [h rest p hrest]
  rfl

/-- What is refused is refused before it is mapped. -/
theorem Refuses.map {fault : Fault} (h : Refuses read cs fault) (f : α → β) :
    Refuses (fun c => (read c).map f) cs fault := by
  intro rest p hrest
  dsimp only
  rw [h rest p hrest]
  rfl

/-- The error of a whole text is that of the step. -/
theorem run_of_failed {e : Error} {next : Cursor}
    (h : d maxLevels ⟨cs ++ [], ⟨1, 0⟩⟩ = .failed e next) :
    d.run (String.ofList cs) = .error e := by
  unfold Decoder.run wholeText
  rw [start_ofList, h]
  rfl

/-- A quoted text is read as the text. -/
theorem reads_textAs (expected s : String) : Reads (textAs expected) (textChars s) s := by
  intro rest p _
  have hread := textLiteral_append s rest p
  have hchars := textChars_append s rest
  rw [hchars] at hread ⊢
  unfold textAs atValue
  rw [skipSpace_cons rfl]
  exact hread

/-- A text that passes the check is read as what the check makes of it. -/
theorem Reads.checkedText {expected s : String} {check : String → Except String α}
    (h : check s = .ok a) : Reads (Decoder.checkedText expected check levels) (textChars s) a := by
  intro rest p hrest
  unfold Decoder.checkedText
  dsimp only
  rw [reads_textAs expected s rest p hrest]
  dsimp only [Step.andThen]
  rw [h]

section Refined

variable {check : α → Except String β} (h : Reads (d levels) cs a)
include h

/-- A value that passes the check is read as what the check makes of it. -/
theorem Reads.refined {b : β} (hcheck : check a = .ok b) :
    Reads (Decoder.refined d check levels) cs b := by
  intro rest p hrest
  unfold Decoder.refined
  rw [h rest p hrest]
  dsimp only [Step.andThen]
  rw [hcheck]

/-- A value that does not pass the check is refused with its reason. -/
theorem Reads.refuses {reason : String} (hcheck : check a = .error reason) :
    Refuses (Decoder.refined d check levels) cs (.refused reason) := by
  intro rest p hrest
  unfold Decoder.refined
  rw [h rest p hrest]
  dsimp only [Step.andThen]
  rw [hcheck]
  rfl

end Refined

end Values

/-! ## Members of a record -/

/-- What stands before a member: a comma, unless it is the first. -/
def lead (first : Bool) : List Char := if first then [] else [',']

/-- Members up to the closing brace; `first` says that none stands before them. -/
def innerChars (first : Bool) : List (String × Json) → List Char
  | [] => ['\x7d']
  | (k, v) :: ms => lead first ++ (textChars k ++ ':' :: (v.chars ++ membersChars ms))

/-- Behind a first member the others follow, each one behind a comma. -/
theorem innerChars_false (members : List (String × Json)) :
    innerChars false members = membersChars members := by
  cases members <;> rfl

/-- An object is written as a brace and its members. -/
theorem chars_object (members : List (String × Json)) :
    (Json.object members).chars = '\x7b' :: innerChars true members := by
  cases members <;> rfl

/-- The characters of members are at least as many as the members. -/
theorem length_le_innerChars (first : Bool) (members : List (String × Json)) :
    members.length ≤ (innerChars first members).length := by
  match members with
  | [] => exact Nat.zero_le _
  | (k, v) :: ms =>
    have hlength := length_le_membersChars ms
    simp only [innerChars, List.length_append, List.length_cons]
    omega

/-- The key of a member is read behind its comma, or without one if the member is the first. -/
theorem nextKey_lead (first : Bool) (k : String) (rest : List Char) (p : Position) :
    nextKey first ⟨lead first ++ (textChars k ++ rest), p⟩ =
      .done (some k) ⟨rest, p.after (lead first ++ textChars k)⟩ := by
  cases first with
  | true => exact nextKey_first k rest p
  | false => exact nextKey_comma k rest p

namespace Record

variable {σ α : Type} {fields : List (Field σ)} {levels : Nat} {draft draft' : σ}

/-- The members fill the draft, each its own field. -/
inductive Fills (fields : List (Field σ)) (levels : Nat) :
    List (String × Json) → σ → σ → Prop where
  | nil {draft : σ} : Fills fields levels [] draft draft
  | cons {k : String} {v : Json} {members : List (String × Json)} {f : Field σ} {set : σ → σ}
    {draft draft' : σ} (hfield : fields.find? (fun f => f.name == k) = some f)
    (hnew : f.present draft = false) (hread : Reads (f.read levels) v.chars set)
    (hrest : Fills fields levels members (set draft) draft') :
    Fills fields levels ((k, v) :: members) draft draft'

/-- Members that fill a draft can be followed by others that fill it further. -/
theorem Fills.append {before behind : List (String × Json)} {draft'' : σ}
    (h : Fills fields levels before draft draft') (h' : Fills fields levels behind draft' draft'') :
    Fills fields levels (before ++ behind) draft draft'' := by
  induction h with
  | nil => exact h'
  | cons hfield hnew hread _ ih => exact .cons hfield hnew hread (ih h')

/-- At the member of a new field, its value is read and the draft goes on with it. -/
theorem fromMembers_member {f : Field σ} {k : String}
    (hfield : fields.find? (fun f => f.name == k) = some f) (hnew : f.present draft = false)
    (fuel : Nat) (first : Bool) (v : Json) (members : List (String × Json)) (rest : List Char)
    (p : Position) :
    fromMembers fields levels (fuel + 1) first draft
        ⟨innerChars first ((k, v) :: members) ++ rest, p⟩ =
      (f.read levels ⟨v.chars ++ (innerChars false members ++ rest),
        p.after (lead first ++ (textChars k ++ [':']))⟩).andThen
        fun set => fromMembers fields levels fuel false (set draft) := by
  rw [innerChars, List.append_assoc, List.append_assoc, List.cons_append, List.append_assoc,
    fromMembers, nextKey_lead, innerChars_false]
  dsimp only [Step.andThen]
  rw [hfield]
  dsimp only
  rw [hnew, if_neg Bool.false_ne_true, colon_cons]
  simp

/-- No number goes on behind a member. -/
theorem stops_innerChars (members : List (String × Json)) (rest : List Char) :
    Stops (innerChars false members ++ rest) := by
  rw [innerChars_false]
  exact stops_membersChars members rest

/-- The members that fill a draft are read into it, and the others follow. -/
theorem Fills.fromMembers_append {before : List (String × Json)}
    (h : Fills fields levels before draft draft') (fuel : Nat) (first : Bool)
    (behind : List (String × Json)) (rest : List Char) (p : Position) :
    ∃ next q, fromMembers fields levels (before.length + fuel) first draft
        ⟨innerChars first (before ++ behind) ++ rest, p⟩ =
      fromMembers fields levels fuel next draft' ⟨innerChars next behind ++ rest, q⟩ ∧
      q.after (innerChars next behind) = p.after (innerChars first (before ++ behind)) := by
  induction h generalizing first p with
  | nil =>
    refine ⟨first, p, ?_, rfl⟩
    rw [List.length_nil, Nat.zero_add]
    rfl
  | @cons k v members f set draft draft' hfield hnew hread _ ih =>
    let behindColon := p.after (lead first ++ (textChars k ++ [':']))
    obtain ⟨next, q, hrest, hq⟩ := ih false (behindColon.after v.chars)
    refine ⟨next, q, ?_, ?_⟩
    · -- one unit of fuel is used up by each member
      rw [List.length_cons, Nat.add_right_comm, List.cons_append, fromMembers_member hfield hnew,
        hread _ _ (stops_innerChars _ _)]
      exact hrest
    · rw [hq, innerChars_false, List.cons_append, innerChars]
      simp [behindColon]

/-! ## Whole records -/

section Inside

variable (fields levels) (name : String) (empty : σ) (complete : σ → Except Fault α)

/-- A record is read from its members to the closing brace. -/
theorem decoder_object (members : List (String × Json)) (rest : List Char) (p : Position) :
    ∃ fuel, decoder name fields empty complete (levels + 1)
        ⟨(Json.object members).chars ++ rest, p⟩ =
      (finish complete (fromMembers fields levels (members.length + (fuel + 1)) true empty
        ⟨innerChars true members ++ rest, p.past '\x7b'⟩)).enclosed closeObject := by
  have hlength := length_le_innerChars true members
  have hfuel : ∃ fuel, ('\x7b' :: innerChars true members ++ rest).length + 1 =
      members.length + (fuel + 1) := by
    refine ⟨('\x7b' :: innerChars true members ++ rest).length - members.length, ?_⟩
    simp only [List.length_append, List.length_cons]
    omega
  obtain ⟨fuel, hfuel⟩ := hfuel
  refine ⟨fuel, ?_⟩
  rw [← hfuel, chars_object]
  unfold decoder atValue
  rw [List.cons_append, skipSpace_cons rfl]
  rfl

end Inside

variable {name : String} {empty : σ} {complete : σ → Except Fault α}

section Filled

variable {before : List (String × Json)} (h : Fills fields levels before empty draft)
include h

/-- Behind the members that fill a draft, the record is read on with it. -/
theorem Fills.decoder_append (name : String) (complete : σ → Except Fault α)
    (behind : List (String × Json)) (rest : List Char) (p : Position) :
    ∃ fuel next q, decoder name fields empty complete (levels + 1)
        ⟨(Json.object (before ++ behind)).chars ++ rest, p⟩ =
      (finish complete (fromMembers fields levels (fuel + 1) next draft
        ⟨innerChars next behind ++ rest, q⟩)).enclosed closeObject ∧
      q.after (innerChars next behind) = p.after (Json.object (before ++ behind)).chars := by
  obtain ⟨fuel, hdecoder⟩ :=
    decoder_object fields levels name empty complete (before ++ behind) rest p
  have hlength : (before ++ behind).length + (fuel + 1) =
      before.length + (behind.length + fuel + 1) := by
    rw [List.length_append]
    omega
  obtain ⟨next, q, hmembers, hq⟩ :=
    h.fromMembers_append (behind.length + fuel + 1) true behind rest (p.past '\x7b')
  refine ⟨behind.length + fuel, next, q, ?_, ?_⟩
  · rw [hdecoder, hlength, hmembers]
  · rw [hq, chars_object, Position.after_cons]

/-- A record whose members complete its draft is read back. -/
theorem Fills.reads {a : α} (hcomplete : complete draft = .ok a) :
    Reads (decoder name fields empty complete (levels + 1)) (Json.object before).chars a := by
  intro rest p _
  obtain ⟨fuel, next, q, hdecoder, hq⟩ := h.decoder_append name complete [] rest p
  have hend : fromMembers fields levels (fuel + 1) next draft ⟨'\x7d' :: rest, q⟩ =
      .done draft ⟨'\x7d' :: rest, q⟩ := by
    rw [fromMembers, nextKey_end]
    rfl
  have hinner : innerChars next [] ++ rest = '\x7d' :: rest := rfl
  rw [List.append_nil] at hdecoder hq
  rw [hdecoder, hinner, hend, ← hq]
  unfold finish
  dsimp only [Step.andThen]
  rw [hcomplete]
  dsimp only [Step.enclosed]
  rw [closeObject_cons]
  rfl

section Last

variable {f : Field σ} {k : String} {v : Json} {fault : Fault}
  (hfield : fields.find? (fun f => f.name == k) = some f) (hnew : f.present draft = false)
include hfield hnew

/-- A record whose last member is refused without a place is refused behind its text. -/
theorem Fills.refused (hread : Refuses (f.read levels) v.chars fault) (rest : List Char)
    (p : Position) :
    decoder name fields empty complete (levels + 1)
        ⟨(Json.object (before ++ [(k, v)])).chars ++ rest, p⟩ =
      .failed ⟨fault, some (p.after (Json.object (before ++ [(k, v)])).chars)⟩
        ⟨rest, p.after (Json.object (before ++ [(k, v)])).chars⟩ := by
  obtain ⟨fuel, next, q, hdecoder, hq⟩ := h.decoder_append name complete [(k, v)] rest p
  have hinner : innerChars false [] ++ rest = '\x7d' :: rest := rfl
  rw [hdecoder, fromMembers_member hfield hnew, hread _ _ (stops_innerChars _ _), ← hq]
  unfold finish
  dsimp only [Step.andThen, Step.enclosed]
  -- the brace is looked for all the same, and the error placed behind it
  rw [hinner, closeObject_cons]
  dsimp only [Error.placedAt]
  simp [innerChars, membersChars]

/-- A record fails where its last member does. -/
theorem Fills.failed (name : String) (complete : σ → Except Fault α)
    (hread : ∀ rest p, ∃ place next, f.read levels ⟨v.chars ++ rest, p⟩ =
      .failed ⟨fault, some place⟩ next) (rest : List Char) (p : Position) :
    ∃ place next, decoder name fields empty complete (levels + 1)
        ⟨(Json.object (before ++ [(k, v)])).chars ++ rest, p⟩ =
          .failed ⟨fault, some place⟩ next := by
  obtain ⟨fuel, first, q, hdecoder, -⟩ := h.decoder_append name complete [(k, v)] rest p
  obtain ⟨place, next, hread⟩ := hread (innerChars false [] ++ rest)
    (q.after (lead first ++ (textChars k ++ [':'])))
  refine ⟨place, next, ?_⟩
  rw [hdecoder, fromMembers_member hfield hnew, hread]
  rfl

end Last

end Filled

section Run

variable {before : List (String × Json)} {f : Field σ} {k : String} {v : Json} {fault : Fault}
  (h : Fills fields 126 before empty draft)
  (hfield : fields.find? (fun f => f.name == k) = some f) (hnew : f.present draft = false)
include h hfield hnew

/-- The error of a whole record whose last member is refused without a place lies behind its
text. -/
theorem Fills.run_refused (hread : Refuses (f.read 126) v.chars fault) :
    (decoder name fields empty complete).run (Json.object (before ++ [(k, v)])).render =
      .error ⟨fault, some (Position.after ⟨1, 0⟩ (Json.object (before ++ [(k, v)])).chars)⟩ :=
  run_of_failed (h.refused hfield hnew hread [] ⟨1, 0⟩)

/-- A record is refused with the fault of the first field that is refused, behind any that fill. -/
theorem Fills.run_failed
    (hread : ∀ rest p, ∃ place next, f.read 126 ⟨v.chars ++ rest, p⟩ =
      .failed ⟨fault, some place⟩ next) :
    ∃ place, (decoder name fields empty complete).run (Json.object (before ++ [(k, v)])).render =
      .error ⟨fault, some place⟩ := by
  obtain ⟨place, next, hfailed⟩ := h.failed hfield hnew name complete hread [] ⟨1, 0⟩
  exact ⟨place, run_of_failed hfailed⟩

end Run

end Record

end DispatchStore.Json
