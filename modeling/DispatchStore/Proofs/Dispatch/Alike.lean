import DispatchStore.Proofs.Dispatch.AtMostOnce
import DispatchStore.Proofs.Store.UpToDate

/-!
# Stores that act alike

Two open stores over one database match if the connection of each is attuned (`Store.Matches`). What
is done to matching stores has the same effect, and they match afterwards: operations and whatever a
dispatch does, as long as its handler looks at nothing but the event and the database
(`Store.Matches.act`). So a whole run has the same effects on both (`Store.Matches.effects_eq`). An
action over a database that is up to date leaves it so, with the same schema (`Action.settled_run`).
-/

namespace DispatchStore

/-! ## Effects -/

/-- The plan looks at nothing of the store but its database, and whether that can be used. -/
def Plan.LooksAtDatabase (plan : Plan) : Prop :=
  ∀ e s s', s'.database = s.database → s'.access = s.access →
    plan.operations e s' = plan.operations e s ∧ plan.verdict e s' = plan.verdict e s

/-- What comes of an action. -/
inductive Effect where
  | answered (answer : Except Fault Reply)
  | dispatched (calls : Nat) (outcome : Except StoreError Outcome)

namespace Action

/-- What comes of an action over a store. -/
def effect : Action → Store → Effect
  | dispatch now plan e, s =>
    let d := s.dispatch now plan.handler e
    .dispatched d.calls d.outcome
  | operation op, s => .answered (op.answer s)

/-- The action depends on nothing of the store but its database, and whether that can be used. -/
def LooksAtDatabase : Action → Prop
  | dispatch _ plan _ => plan.LooksAtDatabase
  | operation _ => True

end Action

/-- What comes of actions, one after the other. -/
def effects (s : Store) (actions : List Action) : List Effect :=
  (trail Action.run s actions).map fun x => x.1.effect x.2

/-- A dispatch looks for the event, carries out what the handler chose and marks the event. -/
theorem dispatch_eq (s : Store) (now : Timestamp) (plan : Plan) (e : Event) :
    s.dispatch now plan.handler e =
      let asked := (Operation.isProcessed e.id).run s
      match (s.isProcessed e.id).2 with
      | .error fault => ⟨asked, 0, .error (.database fault)⟩
      | .ok true => ⟨asked, 0, .ok .duplicate⟩
      | .ok false =>
        let handled := runs Operation.run (plan.operations e asked) asked
        match plan.verdict e asked with
        | .error reason => ⟨handled, 1, .error (.handler reason)⟩
        | .ok () =>
          let marked := (Operation.markEvent now e.id (some e.eventType)).run handled
          match (handled.markEvent now e.id (some e.eventType)).2 with
          | .error fault => ⟨marked, 1, .error (.database fault)⟩
          | .ok _ => ⟨marked, 1, .ok .processed⟩ := by
  have hasked : s.isProcessed e.id =
      ((Operation.isProcessed e.id).run s, (s.isProcessed e.id).2) := rfl
  unfold Store.dispatch
  rw [hasked]
  generalize (Operation.isProcessed e.id).run s = asked
  rcases (s.isProcessed e.id).2 with fault | found
  · rfl
  cases found with
  | true => rfl
  | false =>
    have hhandled : plan.handler e asked =
        (runs Operation.run (plan.operations e asked) asked, plan.verdict e asked) := rfl
    dsimp only
    rw [hhandled]
    generalize runs Operation.run (plan.operations e asked) asked = handled
    rcases plan.verdict e asked with reason | u
    · rfl
    have hmarked : handled.markEvent now e.id (some e.eventType) =
        ((Operation.markEvent now e.id (some e.eventType)).run handled,
          (handled.markEvent now e.id (some e.eventType)).2) := rfl
    dsimp only
    rw [hmarked]
    rcases (handled.markEvent now e.id (some e.eventType)).2 with fault | b
    · rfl
    · rfl

/-- What an action does to a store, operations can do. -/
theorem Action.exists_operations (a : Action) (s : Store) :
    ∃ ops, a.run s = runs Operation.run ops s := by
  cases a with
  | operation op => exact ⟨[op], rfl⟩
  | dispatch now plan e =>
    let asked := (Operation.isProcessed e.id).run s
    let ask := Operation.isProcessed e.id
    let mark := Operation.markEvent now e.id (some e.eventType)
    have hstore : (Action.dispatch now plan e).run s = (s.dispatch now plan.handler e).store := rfl
    rw [hstore, dispatch_eq]
    dsimp only
    split
    · exact ⟨[ask], rfl⟩
    · exact ⟨[ask], rfl⟩
    · split
      · exact ⟨ask :: plan.operations e asked, rfl⟩
      · have hall : runs Operation.run (ask :: plan.operations e asked ++ [mark]) s =
            mark.run (runs Operation.run (plan.operations e asked) asked) :=
          runs_append _ (ask :: plan.operations e asked) [mark] s
        split
        · exact ⟨_, hall.symm⟩
        · exact ⟨_, hall.symm⟩

namespace Store

/-! ## Matching stores -/

/-- Open stores over one database whose connections remember nothing that makes a difference. -/
structure Matches (s s' : Store) : Prop where
  database : s'.database = s.database
  opened : s.access = .opened .free ∧ s'.access = .opened .free
  attuned : s.IsAttuned ∧ s'.IsAttuned

/-- An open store whose connection is attuned matches the one that is opened on its database. -/
theorem matches_opened {s : Store} (hopen : s.access = .opened .free) (ha : s.IsAttuned) :
    s.Matches (opened s.database) := ⟨rfl, ⟨hopen, rfl⟩, ⟨ha, isAttuned_opened _⟩⟩

namespace Matches

variable {s s' : Store} (h : s.Matches s')
include h

/-- Matching stores are read alike. -/
theorem readAs_eq {α : Type} (q : Query) (f : List Record → Except Fault α) :
    (s'.readAs q f).2 = (s.readAs q f).2 := by
  rw [Store.readAs_eq h.opened.1 h.attuned.1, Store.readAs_eq h.opened.2 h.attuned.2, h.database]

/-- Matching stores answer a write alike. -/
theorem write_eq (st : Statement) : (s'.write st).2 = (s.write st).2 := by
  rw [(Store.write_eq h.opened.1 h.attuned.1 st).2, (Store.write_eq h.opened.2 h.attuned.2 st).2,
    h.database]

/-- Matching stores answer alike whether an event is recorded. -/
theorem isProcessed_eq (id : String) : (s'.isProcessed id).2 = (s.isProcessed id).2 :=
  h.readAs_eq _ _

/-- Matching stores answer alike to a marking. -/
theorem markEvent_eq (now : Timestamp) (id : String) (eventType : Option String) :
    (s'.markEvent now id eventType).2 = (s.markEvent now id eventType).2 :=
  congrArg (Except.map _) (h.write_eq _)

/-- Matching stores answer every operation alike. -/
theorem answer_eq (op : Operation) : op.answer s' = op.answer s := by
  rw [Operation.answer_opened h.opened.1 h.attuned.1,
    Operation.answer_opened h.opened.2 h.attuned.2, h.database]

/-- Stores that match still do after an operation. -/
theorem run (op : Operation) : (op.run s).Matches (op.run s') := by
  refine ⟨?_, ⟨?_, ?_⟩, ?_, ?_⟩
  · rw [Operation.run_opened h.opened.1 h.attuned.1, Operation.run_opened h.opened.2 h.attuned.2,
      h.database]
  · exact (op.run_database s).1.trans h.opened.1
  · exact (op.run_database s').1.trans h.opened.2
  · exact Operation.attuned_run h.opened.1 h.attuned.1 op
  · exact Operation.attuned_run h.opened.2 h.attuned.2 op

/-- Stores that match still do after a run of operations. -/
theorem runs (ops : List Operation) :
    (runs Operation.run ops s).Matches (runs Operation.run ops s') := by
  induction ops generalizing s s' with
  | nil => exact h
  | cons op rest ih => exact ih (h.run op)

/-- An action has the same effect on matching stores, and they match afterwards. -/
theorem act {a : Action} (ha : a.LooksAtDatabase) :
    a.effect s' = a.effect s ∧ (a.run s).Matches (a.run s') := by
  cases a with
  | operation op => exact ⟨congrArg Effect.answered (h.answer_eq op), h.run op⟩
  | dispatch now plan e =>
    have hasked := h.run (.isProcessed e.id)
    obtain ⟨hoperations, hverdict⟩ := ha e _ _ hasked.database
      (hasked.opened.2.trans hasked.opened.1.symm)
    have hhandled := hasked.runs (plan.operations e ((Operation.isProcessed e.id).run s))
    have hmarked := hhandled.run (.markEvent now e.id (some e.eventType))
    have hfound := h.isProcessed_eq e.id
    have hmark := hhandled.markEvent_eq now e.id (some e.eventType)
    unfold Action.effect Action.run
    dsimp only
    rw [dispatch_eq, dispatch_eq]
    dsimp only
    rw [hfound, hoperations, hverdict, hmark]
    split
    · exact ⟨rfl, hasked⟩
    · exact ⟨rfl, hasked⟩
    · split
      · exact ⟨rfl, hhandled⟩
      · split
        · exact ⟨rfl, hmarked⟩
        · exact ⟨rfl, hmarked⟩

/-- Actions have the same effects on matching stores. -/
theorem effects_eq {actions : List Action} (ha : ∀ a ∈ actions, a.LooksAtDatabase) :
    effects s' actions = effects s actions := by
  induction actions generalizing s s' with
  | nil => rfl
  | cons a rest ih =>
    obtain ⟨heffect, hrun⟩ := h.act (ha a List.mem_cons_self)
    exact congrArg₂ List.cons heffect (ih hrun fun b hb => ha b (List.mem_cons_of_mem _ hb))

end Matches

end Store

/-! ## Actions over databases that are up to date -/

/-- An open store over a database with the given schema that is up to date; its connection is
attuned. -/
structure Store.IsSettled (schema : Database) (s : Store) : Prop where
  opened : s.access = .opened .free
  attuned : s.IsAttuned
  upToDate : s.database.IsUpToDate
  schema : s.database.schema = schema

/-- A settled store stays settled under operations. -/
theorem Operation.settled_run {schema : Database} {s : Store} (h : s.IsSettled schema)
    (op : Operation) : (op.run s).IsSettled schema :=
  ⟨(op.run_database s).1.trans h.opened, attuned_run h.opened h.attuned op,
    upToDate_run h.opened h.attuned h.upToDate op,
    (schema_run h.opened h.attuned h.upToDate op).trans h.schema⟩

/-- A settled store stays settled under actions, whatever their handlers do. -/
theorem Action.settled_run {schema : Database} {s : Store} (h : s.IsSettled schema) (a : Action) :
    (a.run s).IsSettled schema := by
  obtain ⟨ops, hops⟩ := a.exists_operations s
  have hend : (runs Operation.run ops s).IsSettled schema :=
    (trail_invariant Operation.run (I := Store.IsSettled schema) (P := fun _ => True)
      (fun op _ _ h => Operation.settled_run h op) (fun _ _ => trivial) h).1
  rw [hops]
  exact hend

end DispatchStore
