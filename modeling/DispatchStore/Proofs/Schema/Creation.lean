import DispatchStore.Proofs.Schema.Comparison
import DispatchStore.Proofs.Schema.Verified

/-!
# Tables created from shapes

A migration that only creates the table of its shape, unless one of its name is there, gets through
in every database (`Store.script_creation`). What several shapes add does not depend on how often
they come or in which order, as long as no two of them share a name (`Database.havingAll_perm`), and
what they add fits them (`Database.find?_havingAll`).
-/

namespace DispatchStore

open Ledger (tableName)

/-! ## Several shapes -/

/-- Shapes of which no two go by one name. -/
def AreDistinct (shapes : List TableShape) : Prop :=
  ∀ a ∈ shapes, ∀ b ∈ shapes, Text.sameLetters a.table b.table = true → a = b

instance (shapes : List TableShape) : Decidable (AreDistinct shapes) :=
  inferInstanceAs (Decidable (∀ a ∈ shapes, ∀ b ∈ shapes, _ → a = b))

/-- Fewer shapes are distinct if more are. -/
theorem AreDistinct.subset {shapes shapes' : List TableShape} (h : AreDistinct shapes')
    (hsub : ∀ a ∈ shapes, a ∈ shapes') : AreDistinct shapes :=
  fun a ha b hb => h a (hsub a ha) b (hsub b hb)

namespace Database

/-- The database with the tables of shapes, one after the other. -/
def havingAll (db : Database) (shapes : List TableShape) : Database := shapes.foldl having db

/-- Shapes can be added in two stages. -/
@[simp] theorem havingAll_append (db : Database) (shapes more : List TableShape) :
    db.havingAll (shapes ++ more) = (db.havingAll shapes).havingAll more := List.foldl_append

/-- Creating tables does not show beside a name that none of them goes by. -/
theorem remove_havingAll {name : String} {shapes : List TableShape}
    (h : ∀ a ∈ shapes, Text.sameLetters a.table name = false) (db : Database) :
    (db.havingAll shapes).remove name = (db.remove name).havingAll shapes := by
  induction shapes generalizing db with
  | nil => rfl
  | cons a rest ih =>
    have hrest := ih (fun b hb => h b (List.mem_cons_of_mem _ hb)) (db.having a)
    rw [remove_having (h a List.mem_cons_self)] at hrest
    exact hrest

/-- Behind the tables that were there stands the empty table of each shape whose name found none,
once. -/
theorem exists_tables_havingAll {shapes : List TableShape} (hdistinct : AreDistinct shapes)
    (db : Database) :
    ∃ new, (db.havingAll shapes).tables = db.tables ++ new ∧ new.Nodup ∧
      ∀ t, t ∈ new ↔ ∃ a ∈ shapes, t = a.asTable ∧ db.find? a.table = none := by
  induction shapes generalizing db with
  | nil => exact ⟨[], (List.append_nil _).symm, List.nodup_nil, by simp⟩
  | cons a rest ih =>
    have hrest : AreDistinct rest := hdistinct.subset fun b hb => List.mem_cons_of_mem _ hb
    obtain ⟨new, htables, hnodup, hmem⟩ := ih hrest (db.having a)
    cases hfind : db.find? a.table with
    | some t =>
      -- the name of the shape is taken, so that it adds nothing
      rw [having_of_isSome (by rw [hfind]; rfl)] at htables hmem
      refine ⟨new, ?_, hnodup, fun u => ?_⟩
      · rw [← htables]
        unfold havingAll
        rw [List.foldl_cons, having_of_isSome (by rw [hfind]; rfl)]
      · rw [hmem]
        simp [hfind]
    | none =>
      -- the other shapes find the new table, and add theirs unless it is the same
      refine ⟨a.asTable :: new, ?_, List.nodup_cons.2 ⟨fun hnew => ?_, hnodup⟩, fun u => ?_⟩
      · rw [List.append_cons, ← (show (db.having a).tables = db.tables ++ [a.asTable] by
          rw [having_of_eq_none hfind])]
        exact htables
      · obtain ⟨b, -, hb, hnone⟩ := (hmem _).1 hnew
        have hname : a.table = b.table := congrArg Table.name hb
        rw [find?_having_eq_none_iff, hname, Text.sameLetters_refl] at hnone
        cases hnone.2
      · rw [List.mem_cons, hmem]
        constructor
        · rintro (rfl | ⟨b, hb, rfl, hnone⟩)
          · exact ⟨a, List.mem_cons_self, rfl, hfind⟩
          · exact ⟨b, List.mem_cons_of_mem _ hb, rfl, ((find?_having_eq_none_iff _ _ _).1 hnone).1⟩
        · rintro ⟨b, hb, rfl, hnone⟩
          rcases List.mem_cons.1 hb with rfl | hb
          · exact .inl rfl
          · cases hsame : Text.sameLetters a.table b.table with
            | true =>
              have hab := hdistinct a List.mem_cons_self b (List.mem_cons_of_mem _ hb) hsame
              exact .inl (by rw [hab])
            | false => exact .inr ⟨b, hb, rfl, (find?_having_eq_none_iff _ _ _).2 ⟨hnone, hsame⟩⟩

/-- The same shapes add the same tables, in whatever order and how often they come. -/
theorem havingAll_perm {shapes shapes' : List TableShape} (hdistinct : AreDistinct shapes)
    (h : ∀ a, a ∈ shapes ↔ a ∈ shapes') (db : Database) :
    (db.havingAll shapes).tables.Perm (db.havingAll shapes').tables := by
  obtain ⟨new, htables, hnodup, hmem⟩ := exists_tables_havingAll hdistinct db
  obtain ⟨new', htables', hnodup', hmem'⟩ :=
    exists_tables_havingAll (hdistinct.subset fun a ha => (h a).2 ha) db
  have hnew : new.Perm new' := by
    rw [List.perm_ext_iff_of_nodup hnodup hnodup']
    intro t
    simp only [hmem, hmem', h]
  rw [htables, htables']
  exact hnew.append_left db.tables

/-- A shape whose name found no table finds its own one afterwards. -/
theorem find?_havingAll {db : Database} {shapes : List TableShape} (hdistinct : AreDistinct shapes)
    {shape : TableShape} (hshape : shape ∈ shapes) (hnone : db.find? shape.table = none) :
    (db.havingAll shapes).find? shape.table = some shape.asTable := by
  obtain ⟨new, htables, -, hmem⟩ := exists_tables_havingAll hdistinct db
  have hfind : (db.havingAll shapes).find? shape.table = new.find? (Table.isNamed shape.table) := by
    unfold find? at hnone ⊢
    rw [htables, List.find?_append, hnone, Option.none_or]
  have hnew : shape.asTable ∈ new := (hmem _).2 ⟨shape, hshape, rfl, hnone⟩
  rw [hfind]
  cases hresult : new.find? (Table.isNamed shape.table) with
  | none =>
    have hnot := List.find?_eq_none.1 hresult _ hnew
    exact absurd (Text.sameLetters_refl shape.table) hnot
  | some t =>
    obtain ⟨a, ha, rfl, -⟩ := (hmem t).1 (List.mem_of_find?_eq_some hresult)
    have hnamed := List.find?_some hresult
    rw [hdistinct a ha shape hshape hnamed]

/-- Names that no shape goes by find what they found. -/
theorem find?_havingAll_of_ne {shapes : List TableShape} {name : String}
    (h : ∀ a ∈ shapes, Text.sameLetters name a.table = false) (db : Database) :
    (db.havingAll shapes).find? name = db.find? name := by
  induction shapes generalizing db with
  | nil => rfl
  | cons a rest ih =>
    have hrest := ih (fun b hb => h b (List.mem_cons_of_mem _ hb)) (db.having a)
    refine hrest.trans ?_
    cases hfind : db.find? a.table with
    | some t => rw [having_of_isSome (by rw [hfind]; rfl)]
    | none =>
      have hname : a.asTable.isNamed name = false := by
        have hne := h a List.mem_cons_self
        rw [Text.sameLetters_comm] at hne
        exact hne
      rw [having_of_eq_none hfind]
      unfold find?
      rw [List.find?_append, List.find?_singleton, hname]
      simp

end Database

namespace TableShape

/-- Columns do not differ from themselves. -/
@[simp] theorem differenceFrom?_self (index : Nat) (columns : List Column) :
    differenceFrom? index columns columns = none := by
  rw [differenceFrom?_eq_none_iff, List.forall₂_same]
  intro c _
  exact Column.agrees_iff.2 ⟨rfl, Text.sameLetters_refl _, rfl, rfl⟩

/-- A shape fits the table that was created from it. -/
theorem fits_of_find? {db : Database} {shape : TableShape} (hcolumns : shape.columns ≠ [])
    (h : db.find? shape.table = some shape.asTable) : shape.Fits db := by
  have hlive : db.columns shape.table = shape.columns := by
    unfold Database.columns
    rw [h]
    rfl
  have hnonempty : shape.columns.isEmpty = false := by simpa using hcolumns
  unfold Fits difference?
  rw [hlive, hnonempty]
  exact differenceFrom?_self 0 _

end TableShape

/-! ## Migrations that only create their table -/

/-- The migration creates the table of its shape and does nothing else. -/
def Migration.IsCreation (m : Migration) : Prop :=
  m.statements = [m.shape.creation] ∧ m.shape.IsCreatable

instance (m : Migration) : Decidable m.IsCreation :=
  inferInstanceAs (Decidable (m.statements = [m.shape.creation] ∧ m.shape.IsCreatable))

/-- The script of a creation gets through and leaves the table of its shape. -/
theorem Migration.IsCreation.script {m : Migration} (h : m.IsCreation) (db : Database) :
    db.script .free m.statements = (db.having m.shape, .ok ()) := by
  obtain ⟨hstatements, hcreatable⟩ := h
  rw [hstatements, Database.script, TableShape.creation_exec hcreatable]
  rfl

namespace Registry

/-- The shapes of migrations. -/
def shapes (r : Registry) : List TableShape := r.map Migration.shape

/-- Migrations that only create their tables get through in every database. -/
theorem scripts_creations {r : Registry} (h : ∀ m ∈ r, m.IsCreation) (db : Database) :
    db.scripts .free (scripts r) = .ok (db.havingAll r.shapes) := by
  induction r generalizing db with
  | nil => rfl
  | cons m rest ih =>
    rw [scripts_run_cons, (h m List.mem_cons_self).script]
    exact ih (fun u hu => h u (List.mem_cons_of_mem _ hu)) _

end Registry

/-- Over a store that nobody else uses the creation gets through, whatever its connection
remembers. -/
theorem Store.script_creation {s : Store} (hopen : s.access = .opened .free) {m : Migration}
    (h : m.IsCreation) :
    (s.script m.statements).1.database = s.database.having m.shape ∧
      (s.script m.statements).1.access = .opened .free ∧
      (s.script m.statements).2 = .ok () := by
  obtain ⟨hstatements, hcreatable⟩ := h
  have hobstacle : s.connection.obstacle? (.opened .free) (.part 0 m.statements)
      m.shape.creation = none :=
    Connection.obstacle?_eq_none fun known _ => ⟨_, TableShape.creation_check hcreatable known⟩
  have hscript : s.connection.script (.opened .free) m.statements s.database =
      (s.database.having m.shape,
        (((s.connection.informed s.database).compiled (.part 0 m.statements) m.shape.creation
          s.database).knowing (s.database.having m.shape)), .ok ()) := by
    unfold Connection.script
    rw [hstatements] at hobstacle ⊢
    rw [Connection.scriptFrom, Connection.exec, hobstacle]
    simp only [Access.lock, TableShape.creation_exec hcreatable]
    rfl
  unfold script
  rw [hopen, hscript]
  exact ⟨rfl, rfl, rfl⟩

end DispatchStore
