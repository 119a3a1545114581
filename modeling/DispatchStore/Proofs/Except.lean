/-!
# Computations that can fail

A computation in two parts succeeds if both do (`bind_eq_ok_iff`), and one that goes through a list
if it succeeds with all its entries. What it gives then is told entry by entry, from what each
single one gives (`mapM_map_eq_ok`, `map_eq_of_mapM_eq_ok`).
-/

namespace DispatchStore

variable {ε α β γ : Type}

/-- What succeeded goes on with its result. -/
@[simp] theorem ok_bind (a : α) (f : α → Except ε β) : (Except.ok a >>= f) = f a := rfl

/-- What failed does not go on. -/
@[simp] theorem error_bind (e : ε) (f : α → Except ε β) : (Except.error e >>= f) = .error e := rfl

/-- Two steps succeed exactly if the first does and the second does with its result. -/
theorem bind_eq_ok_iff {x : Except ε α} {f : α → Except ε β} {b : β} :
    x >>= f = .ok b ↔ ∃ a, x = .ok a ∧ f a = .ok b := by
  constructor
  · intro h
    cases x with
    | error e => cases h
    | ok a => exact ⟨a, rfl, h⟩
  · rintro ⟨a, rfl, h⟩
    exact h

section Decode

variable {decode : β → Except ε γ} {code : α → β} {of : α → γ} {l : List α}
  (h : ∀ a ∈ l, decode (code a) = .ok (of a))
include h

/-- Decoding the first one of codes that decode. -/
theorem head?_mapM_map_eq_ok : (l.map code).head?.mapM decode = .ok (l.head?.map of) := by
  cases l with
  | nil => rfl
  | cons a rest =>
    change some <$> decode (code a) = .ok (some (of a))
    rw [h a List.mem_cons_self]
    rfl

/-- Decoding all of codes that decode. -/
theorem mapM_map_eq_ok : (l.map code).mapM decode = .ok (l.map of) := by
  induction l with
  | nil => rfl
  | cons a rest ih =>
    have hrest := ih fun b hb => h b (List.mem_cons_of_mem _ hb)
    rw [List.map_cons, List.mapM_cons, h a List.mem_cons_self, hrest]
    rfl

end Decode

/-- What is taken of all that was read depends on the single things. -/
theorem map_eq_of_mapM_eq_ok {f : α → Except ε β} {g : β → γ} {k : α → γ} {l : List α}
    {l' : List β} (hf : ∀ a ∈ l, ∀ b, f a = .ok b → g b = k a) (h : l.mapM f = .ok l') :
    l'.map g = l.map k := by
  induction l generalizing l' with
  | nil =>
    cases h
    rfl
  | cons a rest ih =>
    rw [List.mapM_cons] at h
    obtain ⟨b, hb, h⟩ := bind_eq_ok_iff.1 h
    obtain ⟨rest', hrest, h⟩ := bind_eq_ok_iff.1 h
    cases h
    rw [List.map_cons, List.map_cons, hf a List.mem_cons_self b hb,
      ih (fun x hx => hf x (List.mem_cons_of_mem _ hx)) hrest]

end DispatchStore
