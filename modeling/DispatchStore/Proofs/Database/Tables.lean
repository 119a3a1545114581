import DispatchStore.Database.Basic
import Mathlib.Data.List.Basic

/-!
# Tables by name

What one name finds in a database does not depend on the tables of another name. `tablesNamed` is
the part of a database that a name stands for, and `recast` puts other tables of the name in its
place: `remove` puts none there (`remove_eq_recast`) and `modify` one for each (`modify_eq_recast`),
so that a law about `recast` is a law about both. The laws are those of a frame: looking up,
changing, removing and adding tables of another name commute with `recast`, and leave `tablesNamed`
as it is.
-/

namespace DispatchStore

/-! ## Names -/

/-- A table with one name does not go by a name with other letters. -/
theorem Table.isNamed_eq_false {t : Table} {name other : String} (h : t.isNamed name = true)
    (hne : Text.sameLetters other name = false) : t.isNamed other = false := by
  unfold Table.isNamed at *
  rw [Text.sameLetters_congr h, Text.sameLetters_comm]
  exact hne

namespace Database

/-- The tables of the given name. A database that the engine keeps has at most one. -/
def tablesNamed (db : Database) (name : String) : List Table :=
  db.tables.filter (Table.isNamed name)

/-- The database with other tables in the place of each one of the given name. -/
def recast (db : Database) (name : String) (g : Table → List Table) : Database :=
  ⟨db.tables.flatMap fun t => if t.isNamed name then g t else [t]⟩

/-- What `g` makes of the tables of a name goes by that name again. -/
def KeepsName (name : String) (g : Table → List Table) : Prop :=
  ∀ t : Table, t.isNamed name = true → ∀ u ∈ g t, u.isNamed name = true

/-- To take out the tables of a name is to recast each into none. -/
theorem remove_eq_recast (db : Database) (name : String) :
    db.remove name = db.recast name fun _ => [] := by
  unfold remove recast
  induction db.tables with
  | nil => rfl
  | cons t ts ih => cases h : t.isNamed name <;> simp_all

/-- To change the tables of a name is to recast each into the changed one. -/
theorem modify_eq_recast (db : Database) (name : String) (f : Table → Table) :
    db.modify name f = db.recast name fun t => [f t] := by
  unfold modify recast
  induction db.tables with
  | nil => rfl
  | cons t ts ih => cases h : t.isNamed name <;> simp_all

/-- The tables of a name are those of the database that go by it. -/
theorem mem_tablesNamed {db : Database} {name : String} {t : Table} :
    t ∈ db.tablesNamed name ↔ t ∈ db.tables ∧ t.isNamed name = true := List.mem_filter

/-- A name finds the first one of its tables. -/
theorem find?_eq_head? (db : Database) (name : String) :
    db.find? name = (db.tablesNamed name).head? := List.head?_filter.symm

/-- The table that a name finds is one of its tables. -/
theorem mem_tablesNamed_of_find? {db : Database} {name : String} {t : Table}
    (h : db.find? name = some t) : t ∈ db.tablesNamed name :=
  mem_tablesNamed.2 ⟨List.mem_of_find?_eq_some h, by simpa using List.find?_some h⟩

/-- The table that a name finds goes by the name. -/
theorem isNamed_of_find? {db : Database} {name : String} {t : Table} (h : db.find? name = some t) :
    t.isNamed name = true := (mem_tablesNamed.1 (mem_tablesNamed_of_find? h)).2

/-- Names with the same letters find the same table. -/
theorem find?_congr (db : Database) {name other : String} (h : Text.sameLetters name other = true) :
    db.find? name = db.find? other := by
  unfold find?
  refine congrArg (fun p => db.tables.find? p) (funext fun t => ?_)
  unfold Table.isNamed
  rw [Text.sameLetters_comm t.name name, Text.sameLetters_comm t.name other,
    Text.sameLetters_congr h]

/-! ## Another name -/

section Frame

variable {name other : String} {g : Table → List Table}

/-- Looking up another name. -/
theorem find?_recast (db : Database) (hg : KeepsName name g)
    (hne : Text.sameLetters other name = false) :
    (db.recast name g).find? other = db.find? other := by
  unfold find? recast
  induction db.tables with
  | nil => rfl
  | cons t ts ih =>
    rw [List.flatMap_cons, List.find?_append]
    cases h : t.isNamed name with
    | true =>
      have hnone : (g t).find? (Table.isNamed other) = none := by
        rw [List.find?_eq_none]
        intro u hu
        simp [Table.isNamed_eq_false (hg t h u hu) hne]
      simp [hnone, ih, Table.isNamed_eq_false h hne]
    | false => cases ho : t.isNamed other <;> simp [ih, ho]

/-- Changing the tables of another name, if the change does not give them the name. -/
theorem modify_recast (db : Database) (hg : KeepsName name g)
    (hne : Text.sameLetters other name = false) {f : Table → Table}
    (hf : ∀ t : Table, t.isNamed other = true → (f t).isNamed name = false) :
    (db.recast name g).modify other f = (db.modify other f).recast name g := by
  unfold modify recast
  rw [List.map_flatMap, List.flatMap_map]
  refine congrArg Database.mk (List.flatMap_congr fun t _ => ?_)
  cases h : t.isNamed name with
  | true =>
    have hsame : ∀ u ∈ g t, (if u.isNamed other then f u else u) = u := fun u hu => by
      simp [Table.isNamed_eq_false (hg t h u hu) hne]
    rw [if_pos rfl, List.map_congr_left hsame]
    simp [Table.isNamed_eq_false h hne, h]
  | false => cases ho : t.isNamed other <;> simp [h, ho, hf]

/-- Removing the tables of another name. -/
theorem remove_recast (db : Database) (hg : KeepsName name g)
    (hne : Text.sameLetters other name = false) :
    (db.recast name g).remove other = (db.remove other).recast name g := by
  rw [remove_eq_recast, remove_eq_recast]
  unfold recast
  rw [List.flatMap_assoc, List.flatMap_assoc]
  refine congrArg Database.mk (List.flatMap_congr fun t _ => ?_)
  cases h : t.isNamed name with
  | true =>
    have hkeep : ∀ u ∈ g t, (if u.isNamed other then [] else [u]) = [u] := fun u hu => by
      simp [Table.isNamed_eq_false (hg t h u hu) hne]
    rw [if_pos rfl, List.flatMap_congr hkeep]
    simp [Table.isNamed_eq_false h hne, h]
  | false => cases ho : t.isNamed other <;> simp [h, ho]

/-- Adding a table of another name. -/
theorem append_recast (db : Database) {t : Table} (ht : t.isNamed name = false) :
    (⟨db.tables ++ [t]⟩ : Database).recast name g = ⟨(db.recast name g).tables ++ [t]⟩ := by
  simp [recast, ht]

/-- Changing the tables of one name leaves those of another, unless they take that name. -/
theorem tablesNamed_modify (db : Database) (hne : Text.sameLetters other name = false)
    {f : Table → Table} (hf : ∀ t : Table, t.isNamed other = true → (f t).isNamed name = false) :
    (db.modify other f).tablesNamed name = db.tablesNamed name := by
  unfold modify tablesNamed
  induction db.tables with
  | nil => rfl
  | cons t ts ih =>
    cases ho : t.isNamed other with
    | true =>
      have hn := Table.isNamed_eq_false ho (by rwa [Text.sameLetters_comm])
      simp_all
    | false => cases h : t.isNamed name <;> simp_all

/-- Taking out the tables of one name leaves those of another. -/
theorem tablesNamed_remove (db : Database) (hne : Text.sameLetters other name = false) :
    (db.remove other).tablesNamed name = db.tablesNamed name := by
  unfold remove tablesNamed
  rw [List.filter_filter]
  refine List.filter_congr fun t _ => ?_
  cases h : t.isNamed name with
  | true => simp [Table.isNamed_eq_false h hne]
  | false => rfl

/-- A table that is added does not show under names that it does not go by. -/
theorem tablesNamed_append (db : Database) {t : Table} (ht : t.isNamed name = false) :
    (⟨db.tables ++ [t]⟩ : Database).tablesNamed name = db.tablesNamed name := by
  simp [tablesNamed, ht]

end Frame

/-! ## The name itself -/

section Name

variable {db : Database} {name : String}

/-- A name that finds nothing has no tables. -/
theorem tablesNamed_eq_nil (h : db.find? name = none) : db.tablesNamed name = [] := by
  rw [find?_eq_head?] at h
  exact List.head?_eq_none_iff.1 h

/-- The tables of a name, after a change, are the changed ones if they still go by it. -/
theorem mem_tablesNamed_modify {f : Table → Table} {u : Table}
    (h : u ∈ (db.modify name f).tablesNamed name) : ∃ t ∈ db.tablesNamed name, u = f t := by
  obtain ⟨hu, hn⟩ := mem_tablesNamed.1 h
  obtain ⟨t, ht, rfl⟩ := List.mem_map.1 hu
  cases hname : t.isNamed name with
  | true => exact ⟨t, mem_tablesNamed.2 ⟨ht, hname⟩, by simp⟩
  | false => simp [hname] at hn

/-- Changing the tables of a name shows in what the name finds. -/
theorem find?_modify {f : Table → Table}
    (hf : ∀ t : Table, t.isNamed name = true → (f t).isNamed name = true) :
    (db.modify name f).find? name = (db.find? name).map f := by
  unfold find? modify
  induction db.tables with
  | nil => rfl
  | cons t ts ih => cases h : t.isNamed name <;> simp [h, hf, ih]

/-- A table that is put in the place of those of its name leaves all others alone. -/
theorem find?_modify_of_ne {t : Table} (hn : t.isNamed name = true) {other : String}
    (hne : Text.sameLetters other name = false) :
    (db.modify name fun _ => t).find? other = db.find? other := by
  rw [modify_eq_recast]
  refine find?_recast db (fun u _ v hv => ?_) hne
  rwa [List.mem_singleton.1 hv]

/-- Changing the tables of a name does not show in the others. -/
theorem remove_modify {f : Table → Table}
    (hf : ∀ t : Table, t.isNamed name = true → (f t).isNamed name = true) :
    (db.modify name f).remove name = db.remove name := by
  unfold remove modify
  refine congrArg Database.mk ?_
  induction db.tables with
  | nil => rfl
  | cons t ts ih => cases h : t.isNamed name <;> simp [h, hf, ih]

/-- Changing the tables of a name twice. -/
theorem modify_modify {f g : Table → Table}
    (hf : ∀ t : Table, t.isNamed name = true → (f t).isNamed name = true) :
    (db.modify name f).modify name g = db.modify name fun t => g (f t) := by
  unfold modify
  rw [List.map_map]
  refine congrArg Database.mk (List.map_congr_left fun t _ => ?_)
  cases h : t.isNamed name with
  | true => simp [h, hf t h]
  | false => simp [h]

/-- What any name finds after a change that leaves all names as they are. -/
theorem find?_modify_of_name {f : Table → Table}
    (hf : ∀ t : Table, (f t).name = t.name) (other : String) :
    (db.modify name f).find? other =
      (db.find? other).map fun t => if t.isNamed name then f t else t := by
  unfold find? modify
  rw [List.find?_map]
  refine congrArg _ (congrArg (fun p => List.find? p db.tables) (funext fun t => ?_))
  have hname : (f t).isNamed other = t.isNamed other := by
    unfold Table.isNamed
    rw [hf]
  cases h : t.isNamed name with
  | true => simpa [h] using hname
  | false => simp [h]

/-- What is added under a name is gone when the tables of the name are taken out. -/
theorem remove_append {t : Table} (h : t.isNamed name = true) :
    (⟨db.tables ++ [t]⟩ : Database).remove name = db.remove name := by
  simp [remove, h]

end Name

end Database

end DispatchStore
