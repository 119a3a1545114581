import DispatchStore.Proofs.Schema.Difference
import DispatchStore.Proofs.Schema.Shape

/-!
# Tables that were compared with a shape

A shape does not fix how the types of columns are spelled. So a table that passed the comparison is
not the declared one, but it is like it (`TableShape.exists_alike`): what is to be known about the
table can be worked out on the shape itself.
-/

namespace DispatchStore

namespace TableShape

/-- A shape that is not refused has a table like the declared one. -/
theorem exists_alike {shape : TableShape} {db : Database}
    (hengine : EngineTable.named? shape.table = none) (h : shape.refusal? db = none) :
    ∃ t, db.find? shape.table = some t ∧ shape.asTable.Alike t := by
  have hdifference : shape.difference? (db.columns shape.table) = none := by
    unfold refusal? Database.describe at h
    dsimp only at h
    split at h
    · cases h
    · rename_i live hlive
      split at hlive
      · cases hlive
      · cases hlive
        exact Option.map_eq_none_iff.1 h
  unfold difference? at hdifference
  cases hfind : db.find? shape.table with
  | none =>
    have hempty : db.columns shape.table = [] := by
      unfold Database.columns
      rw [hfind, hengine]
      rfl
    rw [hempty] at hdifference
    cases hdifference
  | some t =>
    have hcolumns : db.columns shape.table = t.columns := by
      unfold Database.columns
      rw [hfind]
    rw [hcolumns] at hdifference
    split at hdifference
    · cases hdifference
    · exact ⟨t, rfl, differenceFrom?_eq_none_iff.1 hdifference⟩

end TableShape

/-- No table of the engine has the name of a built-in one. -/
theorem Registry.builtIn_notEngine :
    ∀ m ∈ Registry.builtIn, EngineTable.named? m.shape.table = none := by decide +kernel

end DispatchStore
