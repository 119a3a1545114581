import DispatchStore.Proofs.Schema.Resumption
import DispatchStore.Proofs.Store.Run
import Mathlib.Data.List.Nodup

/-!
# Histories of passes

A history is any sequence of passes, operations and reads of the ledger. Its passes may each have a
registry of their own, and two registries may have different statements for one version. What makes
a version be applied once all the same is that a pass looks up every version in the ledger, not only
the highest one:

* **One step** (`Step.run_record`) puts the versions that it commits behind those on record, and
  none of them was there.
* **A whole history** (`record_eq_committed`): on record are the versions that its passes committed,
  in the order of their commitment, and no version twice.

`Consistent` gathers what follows for everybody who looks at the ledger.
-/

namespace DispatchStore

open Ledger (tableName IsKept IsPresent onRecord ensured sorted highestOnRecord)
open Registry (scripts pending versions commits passed closing Leaves)

/-- A step of a history. -/
inductive Step where
  | pass (clock : Clock) (verify : Bool) (r : Registry)
  | operation (op : Operation)
  | appliedVersions
  | currentVersion

namespace Step

/-- The store after a step. -/
def run : Step → Store → Store
  | pass clock verify r, s => (s.upgrade clock verify r).1
  | operation op, s => op.run s
  | appliedVersions, s => s.appliedVersions.1
  | currentVersion, s => s.currentVersion.1

/-- A pass has a registry without a fault whose statements avoid the ledger. -/
def Admissible : Step → Prop
  | pass _ _ r => r.fault? = none ∧ r.Avoids tableName
  | _ => True

instance (step : Step) : Decidable step.Admissible := by
  cases step <;> unfold Admissible <;> infer_instance

/-- The migrations that a step commits. -/
def committed : Step → Store → Registry
  | pass clock _ r, s => commits clock r s.database
  | _, _ => []

/-- The versions that a step reports as applied, if it succeeds. -/
def reported : Step → Store → List Int
  | pass clock verify r, s =>
    match (s.upgrade clock verify r).2 with
    | .ok report => report.applied
    | .error _ => []
  | _, _ => []

end Step

/-- The store is open, and its ledger is missing or holds positive versions, each of them once. -/
structure Intact (s : Store) : Prop where
  opened : s.access = .opened .free
  kept : IsKept s.database
  distinct : (onRecord s.database).Nodup
  positive : ∀ v ∈ onRecord s.database, 0 < v

/-- An open store without a ledger is intact. -/
theorem intact_of_find?_eq_none {s : Store} (hopen : s.access = .opened .free)
    (h : s.database.find? tableName = none) : Intact s := by
  have hempty : onRecord s.database = [] := by
    unfold onRecord
    rw [h]
    rfl
  refine ⟨hopen, Ledger.isKept_of_find?_eq_none h, ?_, ?_⟩
  · rw [hempty]
    exact List.nodup_nil
  · intro v hv
    rw [hempty] at hv
    cases hv

/-! ## One step -/

section Pass

variable {s : Store} {r : Registry}

/-- What a pass commits has versions that are different, positive and not on record. -/
theorem versions_commits (hr : r.fault? = none) (ha : r.Avoids tableName)
    (hk : IsKept s.database) (clock : Clock) :
    (versions (commits clock r s.database)).Nodup ∧
      ∀ v ∈ versions (commits clock r s.database), 0 < v ∧ v ∉ onRecord s.database := by
  obtain ⟨d, -, -, hverdict⟩ := Registry.passed_progress clock hr ha hk
  obtain ⟨hpositive, -⟩ := (Registry.fault?_eq_none_iff r).1 hr
  have hpending : (versions (pending (onRecord s.database) r)).Nodup :=
    (Registry.versions_nodup hr).sublist (List.filter_sublist.map _)
  refine ⟨hpending.sublist (hverdict.initial.sublist.map _), ?_⟩
  intro v hv
  obtain ⟨m, hm, rfl⟩ := List.mem_map.1 hv
  obtain ⟨hmem, hnew⟩ := Registry.mem_commits clock hm
  exact ⟨hpositive _ (Registry.mem_versions hmem), hnew⟩

end Pass

namespace Step

/-- Creating the ledger where it is missing puts nothing on record. -/
theorem ensured_record {s s' : Store} (h : Intact s) (haccess : s'.access = .opened .free)
    (hdatabase : s'.database = ensured s.database) :
    Intact s' ∧ onRecord s'.database = onRecord s.database ++ versions [] := by
  have hrecord : onRecord s'.database = onRecord s.database := by
    rw [hdatabase, Ledger.onRecord_ensured]
  refine ⟨⟨haccess, ?_, ?_, ?_⟩, hrecord.trans (List.append_nil _).symm⟩
  · rw [hdatabase]
    exact (Ledger.isPresent_ensured h.kept).kept
  · rw [hrecord]
    exact h.distinct
  · rw [hrecord]
    exact h.positive

/-- A step keeps the store intact, and puts what it commits behind what is on record. -/
theorem run_record {s : Store} {step : Step} (h : Intact s) (ha : step.Admissible) :
    Intact (step.run s) ∧
      onRecord (step.run s).database = onRecord s.database ++ versions (step.committed s) := by
  cases step with
  | pass clock verify r =>
    obtain ⟨hr, havoids⟩ := ha
    obtain ⟨haccess, hdatabase, -⟩ := Store.upgrade_parts h.opened hr havoids h.kept clock verify
    obtain ⟨hpresent, hrecord⟩ := Registry.passed_ledger clock hr havoids h.kept
    obtain ⟨hnodup, hnew⟩ := versions_commits hr havoids h.kept clock
    rw [← hdatabase] at hpresent hrecord
    refine ⟨⟨haccess, hpresent.kept, ?_, ?_⟩, hrecord⟩
    · change (onRecord (s.upgrade clock verify r).1.database).Nodup
      rw [hrecord, List.nodup_append]
      exact ⟨h.distinct, hnodup, fun v hv w hw heq => (hnew w hw).2 (heq ▸ hv)⟩
    · intro v hv
      change v ∈ onRecord (s.upgrade clock verify r).1.database at hv
      rw [hrecord] at hv
      rcases List.mem_append.1 hv with hv | hv
      · exact h.positive v hv
      · exact (hnew v hv).1
  | operation op =>
    obtain ⟨haccess, hdatabase⟩ := op.run_database s
    have htables : (op.run s).database.tablesNamed tableName =
        s.database.tablesNamed tableName := by
      rcases hdatabase with hsame | ⟨st, n, hst, hexec⟩
      · rw [hsame]
      · exact Statement.tablesNamed_exec
          (Operation.avoids_of_statement hst (by decide) (by decide) (by decide)) hexec
    have hrecord : onRecord (op.run s).database = onRecord s.database :=
      Ledger.onRecord_congr htables
    refine ⟨⟨haccess.trans h.opened, h.kept.congr htables, ?_, ?_⟩, ?_⟩
    · change (onRecord (op.run s).database).Nodup
      rw [hrecord]
      exact h.distinct
    · intro v hv
      exact h.positive v (hrecord ▸ hv)
    · exact hrecord.trans (List.append_nil _).symm
  | appliedVersions =>
    obtain ⟨hdatabase, haccess, -⟩ := Store.appliedVersions_opened h.opened h.kept
    exact ensured_record h haccess hdatabase
  | currentVersion =>
    obtain ⟨hdatabase, haccess, -⟩ := Store.currentVersion_opened h.opened h.kept
    exact ensured_record h haccess hdatabase

end Step

/-! ## Whole histories -/

/-- The versions that the steps of a history commit, in the order of their commitment. -/
def committedVersions (s : Store) (steps : List Step) : List Int :=
  (trail Step.run s steps).flatMap fun p => versions (p.1.committed p.2)

/-- On record is what was there before and what the steps committed. -/
theorem record_eq_committed {s : Store} {steps : List Step} (h : Intact s)
    (ha : ∀ step ∈ steps, step.Admissible) :
    onRecord (runs Step.run steps s).database =
      onRecord s.database ++ committedVersions s steps := by
  induction steps generalizing s with
  | nil => exact (List.append_nil _).symm
  | cons step rest ih =>
    obtain ⟨hintact, hrecord⟩ := Step.run_record h (ha step List.mem_cons_self)
    have hrest := ih hintact fun u hu => ha u (List.mem_cons_of_mem _ hu)
    rw [hrecord, List.append_assoc] at hrest
    exact hrest

/-- All along a history of admissible steps the store is intact. -/
theorem intact_trail {s : Store} {steps : List Step} (h : Intact s)
    (ha : ∀ step ∈ steps, step.Admissible) :
    Intact (runs Step.run steps s) ∧
      ∀ p ∈ trail Step.run s steps, p.1.Admissible ∧ Intact p.2 :=
  trail_invariant Step.run (I := Intact) (P := Step.Admissible)
    (fun _ _ ha h => (Step.run_record h ha).1) ha h

/-- A step reports nothing but what it commits. -/
theorem mem_committed_of_mem_reported {s : Store} {step : Step} (h : Intact s)
    (ha : step.Admissible) {v : Int} (hv : v ∈ step.reported s) :
    v ∈ versions (step.committed s) := by
  cases step with
  | pass clock verify r =>
    obtain ⟨hr, havoids⟩ := ha
    rw [Step.reported] at hv
    cases hresult : (s.upgrade clock verify r).2 with
    | error e =>
      rw [hresult] at hv
      cases hv
    | ok report =>
      rw [hresult] at hv
      obtain ⟨-, happlied, -⟩ := Store.upgrade_reported h.opened hr havoids h.kept hresult
      exact happlied ▸ hv
  | operation _ | appliedVersions | currentVersion => cases hv

/-- Among lists without a common element one at most has a given element. -/
theorem countP_of_nodup_flatMap {α : Type} {f : α → List Int} {l : List α}
    (h : (l.flatMap f).Nodup) (v : Int) :
    l.countP (fun a => (f a).contains v) = if v ∈ l.flatMap f then 1 else 0 := by
  induction l with
  | nil => rfl
  | cons a l ih =>
    rw [List.flatMap_cons, List.nodup_append] at h
    obtain ⟨-, hrest, hdisjoint⟩ := h
    rw [List.countP_cons, ih hrest, List.flatMap_cons]
    by_cases hv : v ∈ f a
    · have hnot : v ∉ l.flatMap f := fun hmem => hdisjoint v hv v hmem rfl
      simp [hv, hnot]
    · simp [hv]

/-- What everybody who looks at the ledger finds in the course of a history. -/
structure Consistent (s : Store) (steps : List Step) : Prop where
  /-- No version on record is lost. -/
  lasting : ∀ before after, steps = before ++ after →
    ∀ v ∈ onRecord (runs Step.run before s).database, v ∈ onRecord (runs Step.run steps s).database
  /-- The statements of a version are committed by one step if the version is on record, and by none
  if not. -/
  once : ∀ v, (trail Step.run s steps).countP (fun p => (versions (p.1.committed p.2)).contains v) =
    if v ∈ onRecord (runs Step.run steps s).database then 1 else 0
  /-- What a pass does to the tables is what the statements that it commits do. -/
  effect : ∀ p ∈ trail Step.run s steps, ∀ clock verify r, p.1 = .pass clock verify r →
    ∃ d, p.2.database.scripts .free (scripts (p.1.committed p.2)) = .ok d ∧
      Leaves p.2.database (p.1.committed p.2) d (p.1.run p.2).database
  /-- No version is reported as applied by two passes. -/
  disjoint : ((trail Step.run s steps).map fun p => p.1.reported p.2).Pairwise List.Disjoint
  /-- At every point the versions on record are read as positive numbers in ascending order, the
  last of which is the current version, and all that was reported is among them. -/
  reads : ∀ before after, steps = before ++ after → ∃ l,
    (runs Step.run before s).appliedVersions.2 = .ok l ∧
      (runs Step.run before s).currentVersion.2 = .ok (l.getLast?.getD 0) ∧
      l.Pairwise (· < ·) ∧ (∀ v ∈ l, 0 < v) ∧
      (∀ v, v ∈ l ↔ v ∈ onRecord (runs Step.run before s).database) ∧
      ∀ p ∈ trail Step.run s before, ∀ v ∈ p.1.reported p.2, v ∈ l
  /-- A pass that succeeded changes nothing when it is made again. -/
  repeatable : ∀ p ∈ trail Step.run s steps, ∀ clock verify r report, p.1 = .pass clock verify r →
    (p.2.upgrade clock verify r).2 = .ok report →
    ∀ clock' verify', (verify' = true → verify = true) →
      ((p.1.run p.2).upgrade clock' verify' r).2 = .ok ⟨[], report.currentVersion⟩ ∧
        ((p.1.run p.2).upgrade clock' verify' r).1.database = (p.1.run p.2).database

section History

variable {s : Store} {steps : List Step}

/-- The ledger of an intact store reads as an ascending list. -/
theorem reads_of_intact (h : Intact s) : ∃ l,
    s.appliedVersions.2 = .ok l ∧ s.currentVersion.2 = .ok (l.getLast?.getD 0) ∧
      l.Pairwise (· < ·) ∧ (∀ v ∈ l, 0 < v) ∧ ∀ v, v ∈ l ↔ v ∈ onRecord s.database := by
  obtain ⟨-, -, happlied⟩ := Store.appliedVersions_opened h.opened h.kept
  obtain ⟨-, -, hcurrent⟩ := Store.currentVersion_opened h.opened h.kept
  have hsorted := Ledger.pairwise_sorted (onRecord s.database)
  have hnodup : (sorted (onRecord s.database)).Nodup :=
    (Ledger.sorted_perm _).nodup_iff.2 h.distinct
  refine ⟨sorted (onRecord s.database), happlied, ?_, ?_, ?_, fun v => Ledger.mem_sorted⟩
  · rw [hcurrent, ← Ledger.highestOnRecord_of_pairwise hsorted]
    exact congrArg Except.ok (Ledger.highestOnRecord_congr fun v => Ledger.mem_sorted.symm)
  · exact (hsorted.and hnodup).imp fun hab => by omega
  · intro v hv
    exact h.positive v (Ledger.mem_sorted.1 hv)

/-- No version is committed twice. -/
theorem nodup_committed (h : Intact s) (ha : ∀ step ∈ steps, step.Admissible) :
    (committedVersions s steps).Nodup := by
  have hdistinct := (intact_trail h ha).1.distinct
  rw [record_eq_committed h ha, List.nodup_append] at hdistinct
  exact hdistinct.2.1

/-- What was reported in the course of a history is on record after it. -/
theorem onRecord_of_reported (h : Intact s) (ha : ∀ step ∈ steps, step.Admissible)
    {p : Step × Store} (hp : p ∈ trail Step.run s steps) {v : Int} (hv : v ∈ p.1.reported p.2) :
    v ∈ onRecord (runs Step.run steps s).database := by
  obtain ⟨hadmissible, hintact⟩ := (intact_trail h ha).2 p hp
  rw [record_eq_committed h ha]
  refine List.mem_append_right _ (List.mem_flatMap.2 ⟨p, hp, ?_⟩)
  exact mem_committed_of_mem_reported hintact hadmissible hv

/-- **Exactly once.** Whatever passes, operations and reads follow one another on a database that
began without a ledger, they leave every version committed at most once and the ledger
consistent. -/
theorem history_consistent (hopen : s.access = .opened .free)
    (hnew : s.database.find? tableName = none) (ha : ∀ step ∈ steps, step.Admissible) :
    Consistent s steps := by
  have hs : Intact s := intact_of_find?_eq_none hopen hnew
  have hempty : onRecord s.database = [] := by
    unfold onRecord
    rw [hnew]
    rfl
  obtain ⟨hend, htrail⟩ := intact_trail hs ha
  have hrecord := record_eq_committed hs ha
  rw [hempty, List.nil_append] at hrecord
  have hbefore : ∀ {before after}, steps = before ++ after →
      ∀ step ∈ before, step.Admissible := by
    rintro before after rfl step hstep
    exact ha step (List.mem_append_left _ hstep)
  refine ⟨?_, ?_, ?_, ?_, ?_, ?_⟩
  · -- lasting
    rintro before after rfl v hv
    have hintact := (intact_trail hs (hbefore rfl)).1
    rw [runs_append, record_eq_committed hintact fun step hstep =>
      ha step (List.mem_append_right _ hstep)]
    exact List.mem_append_left _ hv
  · -- once
    intro v
    rw [hrecord]
    exact countP_of_nodup_flatMap (nodup_committed hs ha) v
  · -- effect
    intro p hp clock verify r hpass
    obtain ⟨hadmissible, hintact⟩ := htrail p hp
    rw [hpass] at hadmissible ⊢
    obtain ⟨hr, havoids⟩ := hadmissible
    obtain ⟨-, hdatabase, -⟩ :=
      Store.upgrade_parts hintact.opened hr havoids hintact.kept clock verify
    obtain ⟨d, hran, hleaves, -⟩ := Registry.passed_leaves clock hr havoids hintact.kept
    rw [← hdatabase] at hleaves
    exact ⟨d, hran, hleaves⟩
  · -- disjoint
    obtain ⟨-, hdisjoint⟩ := List.nodup_flatMap.1 (nodup_committed hs ha)
    rw [List.pairwise_map]
    refine hdisjoint.imp_of_mem fun {p q} hp hq hpq v hv hv' => ?_
    exact hpq (mem_committed_of_mem_reported (htrail p hp).2 (htrail p hp).1 hv)
      (mem_committed_of_mem_reported (htrail q hq).2 (htrail q hq).1 hv')
  · -- reads
    intro before after hsteps
    obtain ⟨l, happlied, hcurrent, hpairwise, hpositive, hmem⟩ :=
      reads_of_intact (intact_trail hs (hbefore hsteps)).1
    refine ⟨l, happlied, hcurrent, hpairwise, hpositive, hmem, fun p hp v hv => ?_⟩
    exact (hmem v).2 (onRecord_of_reported hs (hbefore hsteps) hp hv)
  · -- repeatable
    intro p hp clock verify r report hpass hreport clock' verify' hverify
    obtain ⟨hadmissible, hintact⟩ := htrail p hp
    rw [hpass] at hadmissible ⊢
    obtain ⟨hr, havoids⟩ := hadmissible
    exact Store.upgrade_again hintact.opened hr havoids hintact.kept hreport clock' hverify

/-- Passes over a new database with different registries, an operation between them, and a pass
behind them that fails. -/
theorem history_consistent_new :
    Consistent (.opened .empty)
      [.pass Store.still false (Store.filling.take 1),
        .operation (.markEvent (Store.still 1) "event-1" none), .appliedVersions,
        .pass Store.still true Registry.builtIn, .pass Store.still false Store.slipping] :=
  history_consistent rfl (by decide) (by decide)

end History

end DispatchStore
