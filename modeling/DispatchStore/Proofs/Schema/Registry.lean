import DispatchStore.Proofs.Database.Frame
import DispatchStore.Schema.Registry

/-!
# Registries and what is pending of them

A list of migrations is a registry exactly if its versions are positive and strictly ascending
(`Registry.fault?_eq_none_iff`), although only neighbours are compared. The fault of any other list
is the first version that is not positive, wherever it stands, and if there is none the first pair
of neighbours that does not ascend (`Registry.fault?_eq_some_iff`). Of a registry, `pending` are the
migrations whose version is not among the recorded ones.
-/

namespace DispatchStore

/-- No statement of the migration writes the name down, in any letter case. -/
def Migration.Avoids (name : String) (m : Migration) : Prop := ∀ s ∈ m.statements, s.Avoids name

instance (name : String) (m : Migration) : Decidable (m.Avoids name) :=
  inferInstanceAs (Decidable (∀ s ∈ m.statements, s.Avoids name))

namespace Registry

/-- No statement of any migration writes the name down, in any letter case. -/
def Avoids (name : String) (r : Registry) : Prop := ∀ m ∈ r, m.Avoids name

instance (name : String) (r : Registry) : Decidable (r.Avoids name) :=
  inferInstanceAs (Decidable (∀ m ∈ r, m.Avoids name))

/-- The versions of migrations, in their order. -/
def versions (r : Registry) : List Int := r.map Migration.version

/-- The migrations whose version is not recorded, in the order of the registry. -/
def pending (recorded : List Int) (r : Registry) : Registry :=
  r.filter fun m => !recorded.contains m.version

/-- The versions of two registries are those of the one and then those of the other. -/
@[simp]
theorem versions_append (r r' : Registry) : versions (r ++ r') = versions r ++ versions r' :=
  List.map_append

/-- The version of a migration is among those of its registry. -/
theorem mem_versions {r : Registry} {m : Migration} (h : m ∈ r) : m.version ∈ versions r :=
  List.mem_map_of_mem h

/-! ## Registries without a fault -/

/-- A list has no disorder between neighbours if it is strictly ascending as a whole. -/
theorem disorder?_eq_none_iff (r : Registry) :
    disorder? r = none ↔ (versions r).Pairwise (· < ·) := by
  induction r with
  | nil => simp [disorder?, versions]
  | cons a rest ih =>
    cases rest with
    | nil => simp [disorder?, versions]
    | cons b rest =>
      have hstep : disorder? (a :: b :: rest) = none ↔
          a.version < b.version ∧ disorder? (b :: rest) = none := by
        rw [disorder?]
        by_cases hab : b.version ≤ a.version
        · have hlt : ¬ a.version < b.version := by omega
          simp [hab, hlt]
        · have hlt : a.version < b.version := by omega
          simp [hab, hlt]
      have hcons : versions (a :: b :: rest) = a.version :: versions (b :: rest) := rfl
      rw [hstep, ih, hcons, List.pairwise_cons]
      refine and_congr_left fun htail => ?_
      constructor
      · intro hab v hv
        rcases List.mem_cons.1 hv with rfl | hv
        · exact hab
        · exact Int.lt_trans hab ((List.pairwise_cons.1 htail).1 v hv)
      · intro hall
        exact hall b.version (mem_versions List.mem_cons_self)

/-- The first check finds nothing exactly if all versions are positive. -/
theorem find?_eq_none_iff_positive (r : Registry) :
    (r.find? fun m => m.version ≤ 0) = none ↔ ∀ v ∈ versions r, 0 < v := by
  simp [versions]

/-- A registry has no fault exactly if its versions are positive and ascend. -/
theorem fault?_eq_none_iff (r : Registry) :
    r.fault? = none ↔ (∀ v ∈ versions r, 0 < v) ∧ (versions r).Pairwise (· < ·) := by
  unfold fault?
  rw [← disorder?_eq_none_iff, ← find?_eq_none_iff_positive]
  cases r.find? (fun m => decide (m.version ≤ 0)) <;> simp

/-- The versions of a registry without a fault ascend. -/
theorem versions_pairwise {r : Registry} (h : r.fault? = none) :
    (versions r).Pairwise (· < ·) := ((fault?_eq_none_iff r).1 h).2

/-- The versions of a registry without a fault are different. -/
theorem versions_nodup {r : Registry} (h : r.fault? = none) : (versions r).Nodup :=
  (versions_pairwise h).imp fun hab => by omega

/-! ## The first fault -/

/-- The fault that is found first in a list of migrations. -/
inductive FirstFault (r : Registry) : RegistryFault → Prop
  /-- The versions before it are positive; those behind it may be anything. -/
  | notPositive {before : Registry} {m : Migration} {after : Registry}
      (split : r = before ++ m :: after) (positive : ∀ v ∈ versions before, 0 < v)
      (fault : m.version ≤ 0) : FirstFault r (.notPositive m.version m.name)
  /-- All versions are positive, and up to the first of the two they ascend. -/
  | notAscending {before : Registry} {a b : Migration} {after : Registry}
      (positive : ∀ v ∈ versions r, 0 < v) (split : r = before ++ a :: b :: after)
      (ascending : (versions (before ++ [a])).Pairwise (· < ·)) (fault : b.version ≤ a.version) :
      FirstFault r (.notAscending b.version b.name a.version a.name)

/-- Where two lists meet in one migration, the first disorder is that of the front list, or else
that of the other one. -/
theorem disorder?_append (before : Registry) (a : Migration) (after : Registry) :
    disorder? (before ++ a :: after) = (disorder? (before ++ [a])).or (disorder? (a :: after)) := by
  induction before with
  | nil => rfl
  | cons x before ih =>
    -- the neighbour of `x` is the same one on both sides
    obtain ⟨y, tail, tail', hnext, hnext'⟩ : ∃ y tail tail',
        before ++ a :: after = y :: tail ∧ before ++ [a] = y :: tail' := by
      cases before with
      | nil => exact ⟨_, _, _, rfl, rfl⟩
      | cons y before => exact ⟨_, _, _, rfl, rfl⟩
    rw [List.cons_append, List.cons_append, hnext, hnext', disorder?, disorder?]
    split
    · rfl
    · rw [← hnext, ← hnext', ih]

/-- A disorder is that of two neighbours, behind migrations without one. -/
theorem exists_of_disorder? {r : Registry} {fault : RegistryFault} (h : disorder? r = some fault) :
    ∃ before a b after, r = before ++ a :: b :: after ∧ disorder? (before ++ [a]) = none ∧
      b.version ≤ a.version ∧ fault = .notAscending b.version b.name a.version a.name := by
  induction r with
  | nil => cases h
  | cons a rest ih =>
    cases rest with
    | nil => cases h
    | cons b rest =>
      rw [disorder?] at h
      split at h
      · next hba => exact ⟨[], a, b, rest, rfl, rfl, hba, (Option.some.inj h).symm⟩
      · next hab =>
        obtain ⟨before, c, d, after, hsplit, hbefore, hdc, hfault⟩ := ih h
        refine ⟨a :: before, c, d, after, congrArg (a :: ·) hsplit, ?_, hdc, hfault⟩
        obtain ⟨tail, htail⟩ : ∃ tail, before ++ [c] = b :: tail := by
          cases before <;> cases hsplit <;> exact ⟨_, rfl⟩
        rw [List.cons_append, htail, disorder?, if_neg hab, ← htail]
        exact hbefore

/-- The fault that is reported is the one that is found first. -/
theorem fault?_eq_some_iff {r : Registry} {fault : RegistryFault} :
    r.fault? = some fault ↔ r.FirstFault fault := by
  unfold fault?
  constructor
  · intro h
    cases hfind : r.find? fun m => m.version ≤ 0 with
    | some m =>
      rw [hfind] at h
      cases h
      obtain ⟨hm, before, after, hsplit, hbefore⟩ := List.find?_eq_some_iff_append.1 hfind
      exact .notPositive hsplit (by simpa [versions] using hbefore) (by simpa using hm)
    | none =>
      rw [hfind] at h
      obtain ⟨before, a, b, after, hsplit, hbefore, hba, rfl⟩ := exists_of_disorder? h
      exact .notAscending ((find?_eq_none_iff_positive r).1 hfind) hsplit
        ((disorder?_eq_none_iff _).1 hbefore) hba
  · rintro (@⟨before, m, after, hsplit, hpositive, hm⟩ |
      @⟨before, a, b, after, hpositive, hsplit, hascending, hba⟩)
    · have hfind : r.find? (fun m => m.version ≤ 0) = some m :=
        List.find?_eq_some_iff_append.2
          ⟨by simpa using hm, before, after, hsplit, by simpa [versions] using hpositive⟩
      rw [hfind]
    · rw [(find?_eq_none_iff_positive r).2 hpositive]
      dsimp only
      rw [hsplit, disorder?_append, (disorder?_eq_none_iff _).2 hascending, Option.none_or,
        disorder?, if_pos hba]

/-! ## What is pending -/

/-- A migration is pending if it is of the registry and its version is not on record. -/
@[simp] theorem mem_pending {recorded : List Int} {r : Registry} {m : Migration} :
    m ∈ pending recorded r ↔ m ∈ r ∧ m.version ∉ recorded := by
  unfold pending
  rw [List.mem_filter]
  simp

/-- The versions that are pending are those of the registry that are not on record. -/
theorem mem_versions_pending {recorded : List Int} {r : Registry} {v : Int} :
    v ∈ versions (pending recorded r) ↔ v ∈ versions r ∧ v ∉ recorded := by
  unfold versions
  simp only [List.mem_map, mem_pending]
  constructor
  · rintro ⟨m, ⟨hm, hv⟩, rfl⟩
    exact ⟨⟨m, hm, rfl⟩, hv⟩
  · rintro ⟨⟨m, hm, rfl⟩, hv⟩
    exact ⟨m, ⟨hm, hv⟩, rfl⟩

/-- A migration whose version is on record is left out. -/
theorem pending_cons_of_mem {recorded : List Int} {m : Migration} (h : m.version ∈ recorded)
    (r : Registry) : pending recorded (m :: r) = pending recorded r := by
  simp [pending, h]

/-- A migration whose version is not on record comes first, in front of the others that are
pending. -/
theorem pending_cons_of_not_mem {recorded : List Int} {m : Migration} (h : m.version ∉ recorded)
    (r : Registry) : pending recorded (m :: r) = m :: pending recorded r := by
  simp [pending, h]

/-- What is pending depends only on which versions of the registry are on record. -/
theorem pending_congr {recorded recorded' : List Int} {r : Registry}
    (h : ∀ m ∈ r, m.version ∈ recorded ↔ m.version ∈ recorded') :
    pending recorded r = pending recorded' r := by
  refine List.filter_congr fun m hm => ?_
  rw [Bool.eq_iff_iff]
  simp [h m hm]

/-- The pending versions of a registry ascend. -/
theorem pending_pairwise {r : Registry} (h : r.fault? = none) (recorded : List Int) :
    (versions (pending recorded r)).Pairwise (· < ·) :=
  (versions_pairwise h).sublist (List.filter_sublist.map _)

/-- What a registry avoids is avoided by what is pending of it. -/
theorem Avoids.pending {name : String} {r : Registry} (h : r.Avoids name) (recorded : List Int) :
    (pending recorded r).Avoids name :=
  fun m hm => h m (mem_pending.1 hm).1

end Registry

end DispatchStore
