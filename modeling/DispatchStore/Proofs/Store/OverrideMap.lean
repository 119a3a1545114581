import DispatchStore.Proofs.Store.Contents
import DispatchStore.Proofs.Text.ByteOrder

/-!
# The overrides as a map

The table of overrides is a map from keys to overrides (`Database.override?`). Every operation does
to the table what it is to do to the map (`override?_run`), and answers what the map says
(`OverrideMap.Answers`), the listing included, which is in the order of the bytes of the keys. So
over a store in service any run of operations ends with the map that the operations make, and that
is the one that the next operation answers from (`Store.overrides_as_map`).
-/

namespace DispatchStore

/-- The overrides by their keys. -/
abbrev OverrideMap := String → Option Override

/-- The override with the given key. -/
def Database.override? (db : Database) : OverrideMap := db.view .overrides .ofRow

namespace Operation

/-- What an operation is to do to the overrides. -/
def onOverrides (m : OverrideMap) : Operation → OverrideMap
  | setOverride now key value => Function.update m key (some ⟨key, value, some now.iso⟩)
  | clearOverride key => Function.update m key none
  | _ => m

end Operation

namespace OverrideMap

/-- The listing of a map: each override once, ascending by the bytes of the keys. -/
abbrev Lists (m : OverrideMap) (l : List Override) : Prop :=
  Enumerates (fun o => m o.key = some o) (fun a b => Text.utf8 a.key < Text.utf8 b.key) l

/-- What the operations on overrides are to answer. -/
inductive Answers (m : OverrideMap) : Operation → Except Fault Reply → Prop where
  | set (now : Timestamp) (key : String) (value : Option String) :
    Answers m (.setOverride now key value) (.ok .done)
  | get (key : String) : Answers m (.getOverride key) (.ok (.override (m key)))
  | list {l : List Override} (h : m.Lists l) : Answers m .listOverrides (.ok (.overrides l))
  | clear (key : String) : Answers m (.clearOverride key) (.ok (.flag (m key).isSome))

end OverrideMap

/-- The operation is one on overrides. -/
def Operation.IsOnOverrides : Operation → Prop
  | .setOverride _ _ _ => True
  | .getOverride _ => True
  | .listOverrides => True
  | .clearOverride _ => True
  | _ => False

/-! ## The table as a map -/

namespace Store.IsInService

variable {s : Store} (h : s.IsInService)
include h

/-- An operation does to the table of overrides what it is to do to the map. -/
theorem override?_run (op : Operation) :
    (op.run s).database.override? = op.onOverrides s.database.override? := by
  unfold Database.override?
  cases op with
  | setOverride now key value =>
    rw [h.view_run Override.ofRow rfl]
    cases value <;> rfl
  | clearOverride key => exact h.view_run Override.ofRow rfl
  | getOverride _ | listOverrides | isProcessed _ | recentEvents _ | getDecision _
  | decisionsWithStatus _ _ | markEvent _ _ _ | insertDecision _ | updateStatus _ _ =>
    apply h.view_run_of_ne Override.ofRow (by decide)
    intro key htarget
    cases htarget

/-- A run of operations does to the overrides what it is to do to the map. -/
theorem override?_runs (ops : List Operation) :
    (DispatchStore.runs Operation.run ops s).database.override? =
      ops.foldl Operation.onOverrides s.database.override? := by
  induction ops generalizing s with
  | nil => rfl
  | cons op rest ih =>
    rw [List.foldl_cons, ← h.override?_run op]
    exact ih (h.run op)

/-! ## Looks -/

/-- Asking for an override gives what the map has. -/
theorem getOverride_answer (key : String) :
    (s.getOverride key).2 = .ok (s.database.override? key) := by
  obtain ⟨t, ht, hl, hk⟩ := h.exists_table (m := .overrides) (by decide)
  have hkeyed := hl.isTextKeyed (builtIn_textKeyed .overrides (by decide))
  have hcolumn : t.columnIndex? "key" = some 0 := (hl.columnIndex? _).trans (by decide +kernel)
  have hhead : ((Query.override key).rows t).head? = t.row? key := by
    apply Query.head?_rows_of_key hk
    · simp [Query.override]
    · intro row
      exact Table.satisfies_text hkeyed hcolumn key row
  rw [getOverride_eq h.access h.attuned ht hl hk.textual, hhead]
  exact congrArg Except.ok (Database.view_eq ht (fun _ => rfl) key).symm

/-- The listing shows each override once, in the order of the bytes of the keys. -/
theorem listOverrides_answer :
    ∃ l, s.listOverrides.2 = .ok l ∧ s.database.override?.Lists l := by
  obtain ⟨t, ht, hl, hk⟩ := h.exists_table (m := .overrides) (by decide)
  refine ⟨_, listOverrides_eq h.access h.attuned ht hl hk.textual, ?_⟩
  have hplaces : t.places ["key"] = [0] := (hl.places _).trans (by decide +kernel)
  have horder : Query.overrides.order = ["key"].map fun name => (name, .ascending) := rfl
  rw [Query.rows_eq_selected rfl]
  apply Query.enumerates_selected hk.textual horder hk
  · rw [hplaces]
    exact List.mem_singleton_self 0
  · intro o
    refine (Database.view_eq_some_iff ht (fun _ => rfl) hk fun _ => rfl).trans ?_
    refine exists_congr fun row => and_congr_right fun _ => ?_
    rw [show t.satisfies Query.overrides.criteria row = true from rfl, eq_self, true_and]
  · intro a ha b hb hseparates
    obtain ⟨key, hkeyA⟩ := hk.keyed a ha
    obtain ⟨key', hkeyB⟩ := hk.keyed b hb
    rw [hplaces] at hseparates
    have hranks : [(key : WithBot String)] < [(key' : WithBot String)] := by
      simpa [Direction.Separates, Row.ranks, hkeyA, hkeyB, Value.rank] using hseparates
    have hlt : key < key' := by simpa [List.cons_lt_cons_iff] using hranks
    show Text.utf8 (a.text 0) < Text.utf8 (b.text 0)
    rw [Text.utf8_lt_utf8_iff]
    simpa [Row.text, hkeyA, hkeyB, Value.text?] using hlt

/-- The operations on overrides answer what the map says. -/
theorem answer_overrides {op : Operation} (hop : op.IsOnOverrides) :
    s.database.override?.Answers op (op.answer s) := by
  cases op with
  | setOverride now key value =>
    have hanswer := h.answer_write (.setOverride now key value) (m := .overrides)
      (by rintro ⟨d, hd, -⟩; cases hd) rfl
    rw [hanswer]
    exact .set now key value
  | getOverride key =>
    have hanswer : (Operation.getOverride key).answer s =
        .ok (.override (s.database.override? key)) :=
      congrArg (Except.map Reply.override) (h.getOverride_answer key)
    rw [hanswer]
    exact .get key
  | listOverrides =>
    obtain ⟨l, hlist, hlists⟩ := h.listOverrides_answer
    have hanswer : Operation.listOverrides.answer s = .ok (.overrides l) :=
      congrArg (Except.map Reply.overrides) hlist
    rw [hanswer]
    exact .list hlists
  | clearOverride key =>
    have hanswer := h.answer_write (.clearOverride key) (m := .overrides)
      (by rintro ⟨d, hd, -⟩; cases hd) rfl
    have hflag : ∀ old, (Operation.clearOverride key).tell
        ((Operation.clearOverride key).written old) = .flag old.isSome := by
      intro old
      cases old <;> rfl
    rw [hanswer, hflag, ← Database.isSome_view _ _ Override.ofRow]
    exact .clear key
  | isProcessed _ | recentEvents _ | getDecision _ | decisionsWithStatus _ _ | markEvent _ _ _
  | insertDecision _ | updateStatus _ _ => cases hop

end Store.IsInService

/-! ## Runs -/

namespace Store

/-- What an operation does to the overrides of a store that holds those of a map. -/
structure ServesOverrides (m : OverrideMap) (s : Store) (op : Operation) : Prop where
  answers : m.Answers op (op.answer s)
  becomes : (op.run s).database.override? = op.onOverrides m
  /-- No key has two rows. -/
  single : ∀ t, (op.run s).database.find? overridesTable = some t →
    ∀ key, t.rows.countP (Row.hasKey key) ≤ 1
  /-- The rows of all other keys stay as they are. -/
  only : ∀ u key, op.target? = some (u, key) →
    s.database.OnlyRow u.shape.table key (op.run s).database

/-- **The overrides are a map.** After any run of operations over a store in service, the next one
on overrides answers from the map that the run made of the overrides, and changes it. -/
theorem overrides_as_map {s : Store} (h : s.IsInService) (ops : List Operation) {op : Operation}
    (hop : op.IsOnOverrides) :
    ServesOverrides (ops.foldl Operation.onOverrides s.database.override?)
      (runs Operation.run ops s) op := by
  have hend := h.runs ops
  rw [← h.override?_runs ops]
  constructor
  · exact hend.answer_overrides hop
  · exact hend.override?_run op
  · intro t ht key
    obtain ⟨u, hu, -, hk⟩ := (hend.run op).exists_table (m := .overrides) (by decide)
    have htu : t = u := Option.some.inj (ht.symm.trans hu)
    rw [htu]
    exact Table.countP_hasKey_le_one hk.distinct key
  · exact (Operation.serves hend.access hend.attuned hend.healthy hend.sound op).writes

/-- An override is set again, without a value, another one is cleared, and all are listed. -/
theorem overrides_as_map_cleared :
    (opened ⟨Registry.builtIn.map fun m => m.shape.asTable⟩).IsInService ∧
      Operation.listOverrides.IsOnOverrides ∧
      ServesOverrides
        ([.setOverride (still 0) "b" (some "1"), .setOverride (still 0) "a" none,
          .setOverride (still 1) "b" none, .clearOverride "a"].foldl Operation.onOverrides
            (opened ⟨Registry.builtIn.map fun m => m.shape.asTable⟩).database.override?)
        (runs Operation.run
          [.setOverride (still 0) "b" (some "1"), .setOverride (still 0) "a" none,
            .setOverride (still 1) "b" none, .clearOverride "a"]
          (opened ⟨Registry.builtIn.map fun m => m.shape.asTable⟩))
        .listOverrides := by
  have hservice := isInService_builtIn
  exact ⟨hservice, trivial, overrides_as_map hservice _ trivial⟩

/-- The connection listed the overrides when their table had the key under another spelling. Over
the table that replaced it, which is healthy, it cannot list them. -/
theorem not_servesOverrides_replaced :
    let s := (Operation.setOverride (still 0) "a" none).run (replaced .overrides .listOverrides)
    s.access = .opened .free ∧ s.database.IsHealthy ∧ s.database.IsSound ∧
      ¬ ServesOverrides s.database.override? s .listOverrides := by
  intro s
  obtain ⟨hanswer, haccess, hhealthy, hsound⟩ :
      Operation.listOverrides.answer s = .error (.unreadable "key") ∧
        s.access = .opened .free ∧ s.database.IsHealthy ∧ s.database.IsSound := by decide +kernel
  refine ⟨haccess, hhealthy, hsound, fun hserves => ?_⟩
  have hanswers := hserves.answers
  rw [hanswer] at hanswers
  cases hanswers

end Store

end DispatchStore
