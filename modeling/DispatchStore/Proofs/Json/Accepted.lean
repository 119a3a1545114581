import Mathlib.Data.String.Basic
import Mathlib.Tactic.SplitIfs
import DispatchStore.Json.Decoder
import DispatchStore.Proofs.Json.RoundTrip

/-!
# What reading can give

A step gives only values with a property if every value that it reads has it, whatever it reads from
(`Step.Gives`). A record has what each of its fields keeps of the draft (`Record.gives_decoder`). A
property of values that reading keeps as it puts values together (`KeptByReading`) holds of every
value that is read (`KeptByReading.gives`).
-/

namespace DispatchStore.Json

/-! ## Steps -/

section Steps

variable {α β : Type}

/-- Every value that the step reads has the property. -/
def Step.Gives (s : Step α) (P : α → Prop) : Prop := ∀ a c, s = .done a c → P a

namespace Step.Gives

variable {P : α → Prop} {Q : β → Prop} {s : Step α}

/-- A step that has read a value gives that value. -/
theorem done {a : α} (h : P a) (c : Cursor) : (Step.done a c).Gives P := by
  rintro _ _ ⟨⟩
  exact h

/-- A step that fails gives nothing. -/
theorem failed (e : Error) (c : Cursor) : (Step.failed e c).Gives P := nofun

/-- A step that fails at the next character gives nothing. -/
theorem failNext (c : Cursor) (fault : Fault) : (c.failNext fault).Gives P := by
  unfold Cursor.failNext
  split
  · exact failed _ _
  · exact failed _ _

/-- Every step gives what nothing is asked of. -/
theorem trivial (s : Step α) : s.Gives fun _ => True := fun _ _ _ => True.intro

/-- A choice between two steps gives what both give. -/
theorem ite {t : Step α} {c : Prop} [Decidable c] (hs : s.Gives P) (ht : t.Gives P) :
    (if c then s else t).Gives P := by
  split_ifs
  · exact hs
  · exact ht

/-- What comes second gives its property of whatever the first step gives. -/
theorem andThen (h : s.Gives P) {f : α → Cursor → Step β} (hf : ∀ a c, P a → (f a c).Gives Q) :
    (s.andThen f).Gives Q := by
  cases s with
  | done a c => exact hf a c (h a c rfl)
  | failed e c => exact failed e c

/-- What a step goes on with decides what it gives. -/
theorem andThen' {f : α → Cursor → Step β} (hf : ∀ a c, (f a c).Gives Q) : (s.andThen f).Gives Q :=
  (trivial s).andThen fun a c _ => hf a c

/-- A mapped step gives the images of what the step gives. -/
theorem map {f : α → β} (h : s.Gives fun a => Q (f a)) : (s.map f).Gives Q :=
  h.andThen fun _ c ha => done ha c

/-- Reading a closing bracket behind a value does not change the value. -/
theorem enclosed (h : s.Gives P) (close : Cursor → Step Unit) : (s.enclosed close).Gives P := by
  cases s with
  | done a c => exact andThen' fun _ c' => done (h a c rfl) c'
  | failed e c =>
    unfold Step.enclosed
    split
    · next heq => cases heq
    · split <;> exact failed _ _

end Step.Gives

open Step (Gives)

/-- To refuse a value of the wrong type gives nothing. -/
theorem gives_refuseType (expected : String) (c : Cursor) (P : α → Prop) :
    (refuseType expected c).Gives P := by
  unfold refuseType
  dsimp only
  split
  · exact .failNext _ _
  · split_ifs
    · exact .andThen' fun _ _ => .failed _ _
    · exact .andThen' fun _ _ => .failed _ _
    · exact .andThen' fun _ _ => .failed _ _
    · refine .andThen' fun n _ => ?_
      cases n <;> exact .failed _ _
    · refine .andThen' fun n _ => ?_
      cases n <;> exact .failed _ _
    · exact .andThen' fun _ _ => .failed _ _
    · exact .failed _ _
    · exact .failed _ _
    · exact .failNext _ _

/-- What is read behind white space is what is read at the first character. -/
theorem gives_atValue {read : Char → Cursor → Step α} {P : α → Prop}
    (h : ∀ ch c, (read ch c).Gives P) (c : Cursor) : (atValue read c).Gives P := by
  unfold atValue
  dsimp only
  split
  · exact .failNext _ _
  · exact h _ _

/-- A value that was checked is one that the check lets through. -/
theorem gives_refined {d : Decoder α} {check : α → Except String β} {Q : β → Prop}
    (h : ∀ a b, check a = .ok b → Q b) (levels : Nat) (c : Cursor) :
    (Decoder.refined d check levels c).Gives Q := by
  refine .andThen' fun a c => ?_
  split
  · next b hb => exact .done (h a b hb) c
  · exact .failed _ _

/-- A whole text gives what the step gives. -/
theorem of_wholeText {read : Cursor → Step α} {P : α → Prop} (h : ∀ c, (read c).Gives P)
    {s : String}
    {a : α} (hs : wholeText read s = .ok a) : P a := by
  have hend : ((read (Cursor.start s)).andThen atEnd).Gives P := by
    refine (h _).andThen fun b c hb => ?_
    unfold atEnd
    dsimp only
    split
    · exact .done hb _
    · exact .failNext _ _
  unfold wholeText at hs
  split at hs
  · next hdone =>
    cases hs
    exact hend _ _ hdone
  · cases hs

end Steps

open Step (Gives)

/-! ## Records -/

section Records

variable {σ α : Type} {fields : List (Field σ)} {levels : Nat} {I : σ → Prop} {draft : σ}

/-- What reading the field does to a draft keeps the property. -/
def Field.Keeps (f : Field σ) (levels : Nat) (I : σ → Prop) : Prop :=
  ∀ c, (f.read levels c).Gives fun set => ∀ draft, I draft → I (set draft)

section Part

variable {β : Type} {name : String} {omissible : Bool} {part : σ → Option β} {P : β → Prop}

/-- A field leaves the other parts of a draft as they are. -/
theorem Field.keeps_other {get : σ → Option α} {set : α → σ → σ} {d : Decoder α}
    (hset : ∀ a draft, part (set a draft) = part draft) :
    (Field.of name get set d omissible).Keeps levels fun draft => ∀ b ∈ part draft, P b := by
  intro c
  refine Gives.map fun a next _ => ?_
  intro draft hdraft b hb
  rw [hset] at hb
  exact hdraft b hb

/-- A field puts what it reads into its own part of a draft. -/
theorem Field.keeps_own {get : σ → Option β} {set : β → σ → σ} {d : Decoder β}
    (hread : ∀ c, (d levels c).Gives P) (hset : ∀ b draft, part (set b draft) = some b) :
    (Field.of name get set d omissible).Keeps levels fun draft => ∀ b ∈ part draft, P b := by
  intro c
  refine Gives.map fun a next ha => ?_
  intro draft _ b hb
  rw [hset, Option.mem_some_iff] at hb
  rw [← hb]
  exact hread c a next ha

end Part

namespace Record

/-- A record that is complete has every field that it needs. -/
theorem exists_of_need {β : Type} {name : String} {field : Option α}
    {f : α → Except Fault β} {b : β}
    (h : need name field >>= f = .ok b) : ∃ a, field = some a ∧ f a = .ok b := by
  cases field with
  | none => cases h
  | some a => exact ⟨a, rfl, h⟩

/-- A record that is read from an array keeps what its fields keep. -/
theorem gives_fromItems (h : ∀ f ∈ fields, f.Keeps levels I) (hdraft : I draft) (expected : String)
    (index : Nat) (c : Cursor) : (fromItems expected fields levels draft index c).Gives I := by
  induction fields generalizing draft index c with
  | nil => exact .done hdraft c
  | cons f fs ih =>
    rw [fromItems]
    refine .andThen' fun more c => ?_
    split_ifs
    · refine (h f List.mem_cons_self c).andThen fun set c hset => ?_
      exact ih (fun g hg => h g (List.mem_cons_of_mem _ hg)) (hset draft hdraft) _ _
    · exact .done hdraft c
    · exact .failed _ _

/-- A record that is read from an object keeps what its fields keep. -/
theorem gives_fromMembers (h : ∀ f ∈ fields, f.Keeps levels I) (hdraft : I draft) (fuel : Nat)
    (first : Bool) (c : Cursor) : (fromMembers fields levels fuel first draft c).Gives I := by
  induction fuel generalizing first draft c with
  | zero => exact .failed _ _
  | succ fuel ih =>
    rw [fromMembers]
    refine .andThen' fun key? c => ?_
    cases key? with
    | none => exact .done hdraft c
    | some key =>
      dsimp only
      split
      · exact .andThen' fun _ c => .andThen' fun _ c => ih hdraft _ c
      · next f hf =>
        split_ifs
        · exact .failed _ _
        · refine .andThen' fun _ c =>
            (h f (List.mem_of_find?_eq_some hf) c).andThen fun set c hset => ?_
          exact ih (hset draft hdraft) _ c

/-- What each field keeps of the draft, the record has. -/
theorem gives_decoder {name : String} {empty : σ} {complete : σ → Except Fault α} {P : α → Prop}
    (h : ∀ f ∈ fields, f.Keeps levels I) (hempty : I empty)
    (hcomplete : ∀ draft a, I draft → complete draft = .ok a → P a) (c : Cursor) :
    (decoder name fields empty complete (levels + 1) c).Gives P := by
  have hfinish : ∀ {s : Step σ}, s.Gives I → (finish complete s).Gives P := by
    intro s hs
    refine hs.andThen fun draft c hdraft => ?_
    split
    · next a ha => exact .done (hcomplete draft a hdraft ha) c
    · exact .failed _ _
  unfold decoder
  refine gives_atValue (fun ch c => ?_) c
  split_ifs
  · exact (hfinish (gives_fromItems h hempty _ _ _)).enclosed _
  · exact (hfinish (gives_fromMembers h hempty _ _ _)).enclosed _
  · exact gives_refuseType _ _ _

end Record

end Records

/-! ## Numbers -/

/-- A number that is read fits the 64-bit ranges or is a double. -/
def Number.IsRead : Number → Prop
  | .integer n => -9223372036854775808 ≤ n ∧ n ≤ 18446744073709551615
  | .double _ => True

/-- Digits are gathered no further than the bound. -/
theorem gather_le {bound n : Nat} (hn : n ≤ bound) (ds : List Nat) :
    (gather bound n ds).1 ≤ bound := by
  induction ds generalizing n with
  | nil => exact hn
  | cons d ds ih =>
    rw [gather]
    split_ifs with h
    · exact ih h
    · exact hn

/-- A number with a fraction or an exponent is read as a double. -/
theorem gives_finishDouble (negative : Bool) (significand : Nat) (power : Int) (c : Cursor) :
    (finishDouble negative significand power c).Gives Number.IsRead := by
  unfold finishDouble
  split
  · exact .done True.intro _
  · exact .failed _ _

/-- A missing digit gives nothing. -/
theorem gives_noDigit {α : Type} (c : Cursor) (P : α → Prop) : (noDigit c).Gives P := by
  unfold noDigit
  split
  · exact .failed _ _
  · exact .failNext _ _

/-- Whatever stands in the exponent, what is read is a double. -/
theorem gives_exponentPart (negative : Bool) (significand : Nat) (power : Int) (c : Cursor) :
    (exponentPart negative significand power c).Gives Number.IsRead := by
  unfold exponentPart
  dsimp only
  split
  · exact gives_noDigit _ _
  · exact .ite (gives_finishDouble _ _ _ _) (.ite (.failed _ _) (.done True.intro _))

/-- Whatever stands in the fraction, what is read is a double. -/
theorem gives_fractionPart (negative : Bool) (significand : Nat) (power : Int) (c : Cursor) :
    (fractionPart negative significand power c).Gives Number.IsRead := by
  unfold fractionPart doubleTail
  dsimp only
  split
  · exact gives_noDigit _ _
  · split
    · exact gives_exponentPart _ _ _ _
    · exact gives_exponentPart _ _ _ _
    · exact gives_finishDouble _ _ _ _

/-- A whole number within the bound of its digits fits 64 bits or becomes a double. -/
theorem wholeNumber_isRead (negative : Bool) {n : Nat} (hn : n ≤ significandBound) :
    (wholeNumber negative n).IsRead := by
  have hbound : n ≤ 18446744073709551615 := hn
  unfold wholeNumber
  split_ifs with hnegative hdouble
  · exact True.intro
  · rw [Bool.or_eq_true, decide_eq_true_eq, decide_eq_true_eq] at hdouble
    show -9223372036854775808 ≤ -(n : Int) ∧ -(n : Int) ≤ 18446744073709551615
    omega
  · show -9223372036854775808 ≤ (n : Int) ∧ (n : Int) ≤ 18446744073709551615
    omega

/-- A number that is read fits the 64-bit ranges or is a double. -/
theorem gives_numberLiteral (negative : Bool) (c : Cursor) :
    (numberLiteral negative c).Gives Number.IsRead := by
  unfold numberLiteral
  split
  · exact gives_noDigit _ _
  · exact .failNext _ _
  · next ds next _ _ _ =>
    have hle : (gather significandBound 0 ds).1 ≤ significandBound := gather_le (Nat.zero_le _) ds
    dsimp only
    split
    · exact gives_fractionPart _ _ _ _
    · exact gives_exponentPart _ _ _ _
    · exact gives_exponentPart _ _ _ _
    · split_ifs
      · exact .done (wholeNumber_isRead negative hle) _
      · exact gives_finishDouble _ _ _ _

/-! ## Members in order -/

/-- A member after an insertion is the new one or was there. -/
theorem mem_insertMember {key : String} {value : Json} {members : List (String × Json)}
    {m : String × Json} (hm : m ∈ insertMember key value members) :
    m = (key, value) ∨ m ∈ members := by
  induction members with
  | nil => exact .inl (List.mem_singleton.1 hm)
  | cons x xs ih =>
    rw [insertMember] at hm
    split_ifs at hm
    · exact List.mem_cons.1 hm
    · exact (List.mem_cons.1 hm).imp_right (List.mem_cons_of_mem x)
    · rcases List.mem_cons.1 hm with rfl | hm
      · exact .inr List.mem_cons_self
      · exact (ih hm).imp_right (List.mem_cons_of_mem x)

/-- The keys stay in ascending order, each of them once. -/
theorem pairwise_insertMember {members : List (String × Json)}
    (h : (members.map Prod.fst).Pairwise (· < ·)) (key : String) (value : Json) :
    ((insertMember key value members).map Prod.fst).Pairwise (· < ·) := by
  induction members with
  | nil => exact List.pairwise_singleton _ _
  | cons x xs ih =>
    obtain ⟨hfirst, hrest⟩ := List.pairwise_cons.1 h
    rw [insertMember]
    split_ifs with hlt heq
    · refine List.pairwise_cons.2 ⟨fun k hk => ?_, h⟩
      rcases List.mem_cons.1 hk with rfl | hk
      · exact hlt
      · exact lt_trans hlt (hfirst k hk)
    · subst heq
      exact List.pairwise_cons.2 ⟨hfirst, hrest⟩
    · refine List.pairwise_cons.2 ⟨fun k hk => ?_, ih hrest⟩
      obtain ⟨m, hm, rfl⟩ := List.mem_map.1 hk
      rcases mem_insertMember hm with rfl | hm
      · exact lt_of_le_of_ne (not_lt.1 hlt) (Ne.symm heq)
      · exact hfirst m.1 (List.mem_map_of_mem hm)

/-- An object is put together of the members that were read, in ascending order of their keys. -/
theorem exists_ofMembers (members : List (String × Json)) :
    ∃ ms, ofMembers members = .object ms ∧ (ms.map Prod.fst).Pairwise (· < ·) ∧
      ∀ m ∈ ms, m ∈ members := by
  have hfold : ∀ acc : List (String × Json), (acc.map Prod.fst).Pairwise (· < ·) →
      ∃ ms, members.foldl (fun acc m => insertMember m.1 m.2 acc) acc = ms ∧
        (ms.map Prod.fst).Pairwise (· < ·) ∧ ∀ m ∈ ms, m ∈ acc ∨ m ∈ members := by
    induction members with
    | nil => exact fun acc hacc => ⟨acc, rfl, hacc, fun m hm => .inl hm⟩
    | cons x xs ih =>
      intro acc hacc
      obtain ⟨ms, hms, hsorted, hmem⟩ := ih _ (pairwise_insertMember hacc x.1 x.2)
      refine ⟨ms, hms, hsorted, fun m hm => ?_⟩
      rcases hmem m hm with hm | hm
      · exact (mem_insertMember hm).elim (fun heq => .inr (List.mem_cons.2 (.inl heq))) .inl
      · exact .inr (List.mem_cons_of_mem x hm)
  obtain ⟨ms, hms, hsorted, hmem⟩ := hfold [] List.Pairwise.nil
  exact ⟨ms, congrArg Json.object hms, hsorted,
    fun m hm => (hmem m hm).resolve_left List.not_mem_nil⟩

/-! ## Values -/

section Values

variable {α : Type} {Q : α → Prop}

/-- The items of an array have what every value that is read has. -/
theorem gives_itemsFrom {item : Cursor → Step α} (h : ∀ c, (item c).Gives Q) (fuel : Nat)
    (first : Bool) (c : Cursor) : (itemsFrom item fuel first c).Gives fun vs => ∀ v ∈ vs, Q v := by
  induction fuel generalizing first c with
  | zero => exact .failed _ _
  | succ fuel ih =>
    rw [itemsFrom]
    refine .andThen' fun more c => .ite ?_ (.done (fun v hv => absurd hv List.not_mem_nil) c)
    refine (h c).andThen fun v c hv => .map fun vs next hvs => ?_
    exact List.forall_mem_cons.2 ⟨hv, ih false c vs next hvs⟩

/-- The members of an object have what every value that is read has. -/
theorem gives_membersFrom {value : Cursor → Step α} (h : ∀ c, (value c).Gives Q) (fuel : Nat)
    (first : Bool) (c : Cursor) :
    (membersFrom value fuel first c).Gives fun ms => ∀ m ∈ ms, Q m.2 := by
  induction fuel generalizing first c with
  | zero => exact .failed _ _
  | succ fuel ih =>
    rw [membersFrom]
    refine .andThen' fun key? c => ?_
    cases key? with
    | none => exact .done (fun m hm => absurd hm List.not_mem_nil) c
    | some key =>
      refine .andThen' fun _ c => (h c).andThen fun v c hv => .map fun ms next hms => ?_
      exact List.forall_mem_cons.2 ⟨hv, ih false c ms next hms⟩

/-- A property of values, for each number of levels that their containers may take up, which holds
of all that is put together while a value is read; `read` reads the embedded texts. -/
structure KeptByReading (P : Nat → Json → Prop) (read : String → Except Error Json) : Prop where
  null (levels : Nat) : P levels .null
  bool (levels : Nat) (b : Bool) : P levels (.bool b)
  number (levels : Nat) (n : Number) (h : n.IsRead) : P levels (.number n)
  text (levels : Nat) (s : String) : P levels (.text s)
  array (levels : Nat) (items : List Json) (h : ∀ v ∈ items, P levels v) :
  P (levels + 1) (.array items)
  object (levels : Nat) (members : List (String × Json)) (h : ∀ m ∈ members, P levels m.2)
    (hkeys : (members.map Prod.fst).Pairwise (· < ·)) : P (levels + 1) (.object members)
  embedded (levels : Nat) (s : String) (v : Json) (h : read s = .ok v) : P levels v

namespace KeptByReading

variable {P : Nat → Json → Prop} {read : String → Except Error Json} (h : KeptByReading P read)
include h

/-- A scalar, or what a container gives, has the property. -/
theorem gives_scalarOr {levels : Nat} {container : Char → Cursor → Step Json}
    (hcontainer : ∀ ch c, (container ch c).Gives (P levels)) (c : Cursor) :
    (scalarOr container c).Gives (P levels) := by
  have hnumber : ∀ negative c, ((numberLiteral negative c).map Json.number).Gives (P levels) :=
    fun negative c => .map fun n next hn => h.number levels n
      (gives_numberLiteral negative c n next hn)
  unfold scalarOr
  dsimp only
  split
  · exact .failNext _ _
  · split_ifs
    · exact .map fun _ _ _ => h.null levels
    · exact .map fun _ _ _ => h.bool levels true
    · exact .map fun _ _ _ => h.bool levels false
    · exact hnumber _ _
    · exact hnumber _ _
    · exact .map fun s _ _ => h.text levels s
    · exact hcontainer _ _
    · exact .failNext _ _

/-- An object has the property one level further up than its members. -/
theorem gives_objectValue {levels : Nat} {member : Cursor → Step Json}
    (hmember : ∀ c, (member c).Gives (P levels)) (c : Cursor) :
    (objectValue read member c).Gives (P (levels + 1)) := by
  unfold objectValue
  refine Gives.enclosed (.andThen' fun key? c => ?_) _
  cases key? with
  | none =>
    exact .done (h.object levels [] (fun m hm => absurd hm List.not_mem_nil) List.Pairwise.nil) c
  | some key =>
    refine .ite (.andThen' fun _ c => .andThen' fun s c => ?_)
      (.andThen' fun _ c => (hmember c).andThen fun v c hv => .map fun ms next hms => ?_)
    · split
      · next v hread => exact .done (h.embedded (levels + 1) s v hread) _
      · exact .failed _ _
    · have hall : ∀ m ∈ (key, v) :: ms, P levels m.2 :=
        List.forall_mem_cons.2 ⟨hv, gives_membersFrom hmember _ _ _ ms next hms⟩
      obtain ⟨members, hobject, hkeys, hmem⟩ := exists_ofMembers ((key, v) :: ms)
      show P (levels + 1) (ofMembers ((key, v) :: ms))
      rw [hobject]
      exact h.object levels members (fun m hm => hall m (hmem m hm)) hkeys

/-- Every value that is read has the property. -/
theorem gives (levels : Nat) (c : Cursor) : (valueWith read levels c).Gives (P levels) := by
  induction levels generalizing c with
  | zero => exact h.gives_scalarOr (fun _ c => .failNext _ _) c
  | succ levels ih =>
    refine h.gives_scalarOr (fun ch c => .ite (.map fun items next hitems => ?_) ?_) c
    · exact h.array levels items ((gives_itemsFrom ih _ _ _).enclosed _ items next hitems)
    · exact h.gives_objectValue ih c

end KeptByReading

end Values

/-! ## Values that can be read back -/

/-- A value without doubles in which no object begins with the key of an embedded text; at most
`levels` containers lie inside each other. -/
inductive IsPlain : Nat → Json → Prop where
  | null {levels : Nat} : IsPlain levels .null
  | bool {levels : Nat} (b : Bool) : IsPlain levels (.bool b)
  | integer {levels : Nat} (n : Int) : IsPlain levels (.number (.integer n))
  | text {levels : Nat} (s : String) : IsPlain levels (.text s)
  | array {levels : Nat} {items : List Json} (h : ∀ v ∈ items, IsPlain levels v) :
    IsPlain (levels + 1) (.array items)
  | object {levels : Nat} {members : List (String × Json)} (h : ∀ m ∈ members, IsPlain levels m.2)
    (hplain : ∀ m ∈ members.head?, m.1 ≠ embeddingKey) : IsPlain (levels + 1) (.object members)

/-- What its text can hold is plain. -/
theorem IsReadable.isPlain {levels : Nat} {v : Json} (h : IsReadable levels v) :
    IsPlain levels v := by
  induction h with
  | null => exact .null
  | bool b => exact .bool b
  | integer _ => exact .integer _
  | text s => exact .text s
  | array _ ih => exact .array ih
  | object _ _ hplain ih => exact .object ih hplain

/-- What reading puts together is in order and in the ranges, so that it can be read back if it is
plain. -/
theorem keptByReading_readable {read : String → Except Error Json}
    (hread : ∀ s v, read s = .ok v → ∀ n, IsPlain n v → IsReadable n v) :
    KeptByReading (fun _ v => ∀ n, IsPlain n v → IsReadable n v) read where
  null _ _ _ := .null
  bool _ b _ _ := .bool b
  number _ number h n hplain := by
    cases hplain with
    | integer k => exact .integer h
  text _ s _ _ := .text s
  array _ items h n hplain := by
    cases hplain with
    | array hitems => exact .array fun v hv => h v hv _ (hitems v hv)
  object _ members h hkeys n hplain := by
    cases hplain with
    | object hmembers hfirst => exact .object (fun m hm => h m hm _ (hmembers m hm)) hkeys hfirst
  embedded _ s v h := hread s v h

/-- A plain value in an embedded text is one that its text can hold. -/
theorem readable_of_embeddedText {depth : Nat} {s : String} {v : Json}
    (h : embeddedText depth s = .ok v)
    (n : Nat) (hplain : IsPlain n v) : IsReadable n v := by
  induction depth generalizing s v n with
  | zero => exact of_wholeText ((keptByReading_readable (nofun : _)).gives maxLevels) h n hplain
  | succ depth ih =>
    exact of_wholeText
      ((keptByReading_readable fun s v hs n hn => ih hs n hn).gives maxLevels) h n hplain

/-- A plain value that is read is one that its text can hold. -/
theorem gives_json (levels : Nat) (c : Cursor) :
    (Decoder.json levels c).Gives fun v => ∀ n, IsPlain n v → IsReadable n v :=
  (keptByReading_readable fun _ _ h => readable_of_embeddedText h).gives levels c

/-- Reads any value as long as no embedded text is in it. -/
def Decoder.direct : Decoder Json := fun levels c =>
  valueWith (fun _ => .error ⟨.nestedTooDeep, none⟩) levels c

/-- Without embedded texts the containers nest as deep as they are read at most. -/
theorem gives_direct (levels : Nat) (c : Cursor) :
    (Decoder.direct levels c).Gives fun v => ∀ n, IsPlain n v → IsPlain levels v := by
  have hkept : KeptByReading (fun levels v => ∀ n, IsPlain n v → IsPlain levels v)
      fun _ => .error ⟨.nestedTooDeep, none⟩ :=
    { null := fun _ _ _ => .null
      bool := fun _ b _ _ => .bool b
      number := fun _ number _ n hplain => by
        cases hplain with
        | integer k => exact .integer k
      text := fun _ s _ _ => .text s
      array := fun _ items h n hplain => by
        cases hplain with
        | array hitems => exact .array fun v hv => h v hv _ (hitems v hv)
      object := fun _ members h _ n hplain => by
        cases hplain with
        | object hmembers hfirst => exact .object (fun m hm => h m hm _ (hmembers m hm)) hfirst
      embedded := nofun }
  exact hkept.gives levels c

end DispatchStore.Json
