import DispatchStore.Proofs.Schema.History

/-!
# Lists that are no registry

A pass looks for a fault of its list before anything else.

* **One pass** (`Store.upgrade_of_fault`) over a list with a fault leaves the store as it is, down
  to what its connection remembers. Of a list without one no fault is reported
  (`Store.fault?_of_upgrade`).
* **A whole history** (`Step.runs_refused`) goes on as if such a pass had not been made. So nothing
  is lost in looking at the histories alone whose passes all have a registry.
-/

namespace DispatchStore

open Registry (versions)

/-! ## One pass -/

namespace Store

/-- What begins with the creation of the ledger leaves the access as it is. -/
theorem access_withLedger {ε α : Type} (s : Store) (ofFault : Fault → ε)
    (f : WriteLock → Database → Database × Except ε α)
    (compilations : WriteLock → Database → List Compilation) :
    (s.withLedger ofFault f compilations).1.access = s.access := by
  unfold withLedger
  dsimp only
  split <;> rfl

variable {s : Store} {r : Registry} {fault : RegistryFault}

/-- A pass through an open connection reports the fault of its list before anything else. -/
theorem upgrade_of_fault (hopen : s.access ≠ .closed) (h : r.fault? = some fault) (clock : Clock)
    (verify : Bool) : s.upgrade clock verify r = (s, .error (.invalidRegistry fault)) := by
  unfold upgrade
  cases haccess : s.access with
  | closed => exact absurd haccess hopen
  | opened _ | blocked _ => rw [h]

/-- A pass that reports a fault of its list found it there. -/
theorem fault?_of_upgrade {clock : Clock} {verify : Bool}
    (h : (s.upgrade clock verify r).2 = .error (.invalidRegistry fault)) :
    r.fault? = some fault := by
  unfold upgrade at h
  split at h
  · cases h
  · next hfault _ =>
    cases h
    exact hfault
  · unfold withLedger at h
    dsimp only at h
    split at h
    · cases h
    · exact Registry.fault?_of_upgrade h

end Store

/-! ## Histories -/

namespace Step

/-- A step does not change how the store is opened. -/
@[simp] theorem access_run (step : Step) (s : Store) : (step.run s).access = s.access := by
  cases step with
  | pass clock verify r =>
    change (s.upgrade clock verify r).1.access = s.access
    unfold Store.upgrade
    split
    · rfl
    · rfl
    · exact Store.access_withLedger s _ _ _
  | operation op => exact (op.run_database s).1
  | appliedVersions => exact Store.access_withLedger s _ _ _
  | currentVersion => exact Store.access_withLedger s _ _ _

/-- No history changes how the store is opened. -/
@[simp]
theorem access_runs (steps : List Step) (s : Store) : (runs run steps s).access = s.access := by
  induction steps generalizing s with
  | nil => rfl
  | cons step rest ih => exact (ih (step.run s)).trans (step.access_run s)

/-- A pass over a list with a fault makes no difference to a history. -/
theorem runs_refused {s : Store} (hopen : s.access ≠ .closed) {r : Registry} (h : r.fault? ≠ none)
    (clock : Clock) (verify : Bool) (before after : List Step) :
    runs run (before ++ .pass clock verify r :: after) s = runs run (before ++ after) s := by
  obtain ⟨fault, hfault⟩ := Option.ne_none_iff_exists'.1 h
  have hopen' : (runs run before s).access ≠ .closed := by rwa [access_runs]
  have hpass : run (.pass clock verify r) (runs run before s) = runs run before s :=
    congrArg Prod.fst (Store.upgrade_of_fault hopen' hfault clock verify)
  calc runs run (before ++ .pass clock verify r :: after) s
      = runs run after (run (.pass clock verify r) (runs run before s)) := runs_append run _ _ s
    _ = runs run after (runs run before s) := by rw [hpass]
    _ = runs run (before ++ after) s := (runs_append run _ _ s).symm

end Step

namespace Registry

/-- **Validation.** A list of migrations is accepted exactly if its versions are positive and each
is below all that follow it. Otherwise the fault is the first one, and a pass over the list, whether
it compares the shapes or not and whoever holds the database, reports that fault and leaves the
store as it was, as if it had not been made. No pass reports a fault that is not there. -/
theorem upgrade_guarded (r : Registry) :
    (r.fault? = none ↔ (∀ v ∈ versions r, 0 < v) ∧ (versions r).Pairwise (· < ·)) ∧
    (∀ fault, r.fault? = some fault ↔ r.FirstFault fault) ∧
    ∀ (s : Store) (clock : Clock) (verify : Bool), s.access ≠ .closed →
      (∀ fault, r.fault? = some fault →
        s.upgrade clock verify r = (s, .error (.invalidRegistry fault))) ∧
      (∀ fault, (s.upgrade clock verify r).2 = .error (.invalidRegistry fault) →
        r.fault? = some fault) ∧
      (r.fault? ≠ none → ∀ before after : List Step,
        runs Step.run (before ++ .pass clock verify r :: after) s =
          runs Step.run (before ++ after) s) := by
  refine ⟨r.fault?_eq_none_iff, fun fault => fault?_eq_some_iff, ?_⟩
  intro s clock verify hopen
  refine ⟨?_, ?_, ?_⟩
  · intro fault hfault
    exact Store.upgrade_of_fault hopen hfault clock verify
  · intro fault hreported
    exact Store.fault?_of_upgrade hreported
  · intro hfault before after
    exact Step.runs_refused hopen hfault clock verify before after

/-- A list in which a wrong order comes before a version that is not positive. The latter is
reported, although another connection holds the database. -/
theorem upgrade_guarded_unordered :
    let r : Registry := [.decisions, .overrides, Store.numbered 0 "nothing" []]
    let s : Store := ⟨Store.gapped.database, .opened .heldElsewhere, .new⟩
    r.FirstFault (.notPositive 0 "nothing") ∧
      s.upgrade Store.still true r = (s, .error (.invalidRegistry (.notPositive 0 "nothing"))) ∧
      runs Step.run [.currentVersion, .pass Store.still true r, .appliedVersions] s =
        runs Step.run [.currentVersion, .appliedVersions] s := by
  intro r s
  have hfault : r.fault? = some (.notPositive 0 "nothing") := by decide
  obtain ⟨-, hfirst, hpass⟩ := upgrade_guarded r
  obtain ⟨hreported, -, hhistory⟩ := hpass s Store.still true (by decide)
  exact ⟨(hfirst _).1 hfault, hreported _ hfault,
    hhistory (by rw [hfault]; nofun) [.currentVersion] [.appliedVersions]⟩

end Registry

end DispatchStore
