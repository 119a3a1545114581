import DispatchStore.Proofs.Store.Contents

/-!
# Stores over any connection

What a connection remembers can hold up an operation, but it cannot make it do anything else: the
database stays as it was or becomes what a new connection would have made of it
(`Operation.run_eq_or`). So a store whose tables are healthy keeps them so, whatever its connection
is (`Store.IsUsable`). A connection that knows the schema holds up no operation that a new one
carries out (`Operation.run_current`).
-/

namespace DispatchStore

namespace Operation

section Open

variable {s : Store} (hopen : s.access = .opened .free)
include hopen

/-- An operation leaves the database alone or does what it does over a new connection. -/
theorem run_eq_or (op : Operation) :
    (op.run s).database = s.database ∨
      (op.run s).database = (op.run (.opened s.database)).database := by
  obtain ⟨-, hsame | ⟨st, n, hst, hexec⟩⟩ := op.run_database s
  · exact .inl hsame
  · right
    rw [hopen] at hexec
    have hfree : st.exec .free (Store.opened s.database).database =
        .ok ((op.run s).database, n) := hexec
    rw [run_of_statement hst (.opened s.database),
      (Store.write_eq rfl (Store.isAttuned_opened s.database) st).1]
    unfold Statement.outcome
    rw [hfree]

/-- A connection that knows the schema lets a writing operation through that a new one lets
through. -/
theorem run_current (hc : s.Current) {op : Operation} {m : Migration} {key : String}
    (htarget : op.target? = some (m, key)) {reply : Reply}
    (hanswer : op.answer (.opened s.database) = .ok reply) :
    (op.run s).database = (op.run (.opened s.database)).database ∧ op.answer s = .ok reply := by
  obtain ⟨st, hst⟩ := exists_statement htarget
  obtain ⟨hdatabase, hresult⟩ := Store.write_eq rfl (Store.isAttuned_opened s.database) st
  rw [answer_of_statement hst, hresult] at hanswer
  rw [run_of_statement hst, run_of_statement hst, answer_of_statement hst, hdatabase]
  unfold Statement.outcome
  have hsame : (Store.opened s.database).database = s.database := rfl
  rw [hsame] at hanswer ⊢
  cases hexec : st.exec .free s.database with
  | error e =>
    rw [hexec] at hanswer
    cases hanswer
  | ok r =>
    obtain ⟨db, n⟩ := r
    rw [hexec] at hanswer
    have hcheck : ∃ writes, st.check s.database.schema = .ok writes := by
      rw [Statement.check_schema]
      rcases Statement.exec_eq_ok hexec with ⟨hcheck, -⟩ | ⟨hcheck, -⟩
      · exact ⟨_, hcheck⟩
      · exact ⟨_, hcheck⟩
    obtain ⟨writes, hwrites⟩ := hcheck
    obtain ⟨hwritten, hanswered⟩ := Store.write_of_exec hopen hc hwrites hexec
    rw [hanswered]
    exact ⟨hwritten, hanswer⟩

end Open

end Operation

/-- A store of which the three tables are healthy and that nobody keeps from writing. -/
structure Store.IsUsable (s : Store) : Prop where
  access : s.access = .opened .free
  healthy : s.database.IsHealthy
  sound : s.database.IsSound

namespace Store.IsUsable

variable {s : Store} (h : s.IsUsable)
include h

/-- With a new connection the store is in service. -/
theorem isInService : (opened s.database).IsInService :=
  ⟨rfl, isAttuned_opened _, h.healthy, h.sound⟩

/-- No operation makes a store unusable. -/
theorem run (op : Operation) : (op.run s).IsUsable := by
  have haccess := (op.run_database s).1.trans h.access
  rcases op.run_eq_or h.access with hsame | hnew
  · refine ⟨haccess, ?_, ?_⟩
    · rw [hsame]
      exact h.healthy
    · rw [hsame]
      exact h.sound
  · have hrun := h.isInService.run op
    refine ⟨haccess, ?_, ?_⟩
    · rw [hnew]
      exact hrun.healthy
    · rw [hnew]
      exact hrun.sound

end Store.IsUsable

end DispatchStore
