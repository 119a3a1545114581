import DispatchStore.Proofs.Schema.Pass

/-!
# Interrupted passes

A pass that stopped half way and a later one together do what one pass would have done alone. The
reason is that what a pass commits is determined by what is pending and by the statements
(`Verdict.unique`), while what was recorded on the way makes no difference to them
(`passed_resumed`). Only the times of the recordings tell the two apart: `Ledger.untimed` leaves
them out.
-/

namespace DispatchStore

open Ledger (tableName IsKept IsPresent onRecord record ensured entry)

/-! ## Databases without the times of recordings -/

namespace Ledger

/-- A table without its second cells, which in the ledger are times. -/
def untimedTable (t : Table) : Table := { t with rows := t.rows.map fun row => row.set 1 .null }

/-- A database without the times at which versions were recorded. -/
def untimed (db : Database) : Database := db.modify tableName untimedTable

/-- Without the times a name finds what it found, and of the ledger all but the times. -/
theorem find?_untimed (db : Database) (name : String) :
    (untimed db).find? name =
      (db.find? name).map fun t => if t.isNamed tableName then untimedTable t else t :=
  Database.find?_modify_of_name (f := untimedTable) (fun _ => rfl) name

/-- Without the times the ledger is found as before, but for the times. -/
@[simp] theorem find?_tableName_untimed (db : Database) :
    (untimed db).find? tableName = (db.find? tableName).map untimedTable :=
  Database.find?_modify fun _ h => h

/-- The times do not matter for the versions on record. -/
@[simp] theorem onRecord_untimed (db : Database) : onRecord (untimed db) = onRecord db := by
  unfold onRecord
  rw [find?_tableName_untimed]
  cases db.find? tableName with
  | none => rfl
  | some t =>
    simp only [Option.map_some, Option.elim_some, untimedTable, List.map_map]
    rfl

/-- The description of a table does not tell times. -/
@[simp] theorem describe_untimed (db : Database) (name : String) :
    (untimed db).describe name = db.describe name := by
  have hcolumns : (untimed db).columns name = db.columns name := by
    unfold Database.columns
    rw [find?_untimed]
    cases db.find? name with
    | none => rfl
    | some t => cases h : t.isNamed tableName <;> simp [h, untimedTable]
  unfold Database.describe
  dsimp only
  rw [hcolumns, find?_untimed, Option.isSome_map]

/-- Without the times a recording is a row that holds the version alone. -/
theorem untimed_record_of_find? {db : Database} {t : Table} {version : Int} {appliedAt : String}
    (ht : db.find? tableName = some t) :
    untimed (record version appliedAt db) =
      (untimed db).modify tableName fun _ =>
        { untimedTable t with
          rows := (untimedTable t).rows ++ [(entry version "").set 1 .null] } := by
  have hn : ({ t with rows := t.rows ++ [entry version appliedAt] } : Table).isNamed tableName =
      true := Database.isNamed_replaced ht ⟨rfl, rfl⟩
  have hset : (entry version appliedAt).set 1 .null = (entry version "").set 1 .null := rfl
  unfold untimed
  rw [record_of_find? ht, Database.modify_modify fun _ _ => hn,
    Database.modify_modify (f := untimedTable) fun _ h => h]
  simp only [untimedTable, List.map_append, List.map_cons, List.map_nil, hset]

/-- Databases that differ in times only do so too after a version was recorded in both. -/
theorem untimed_record {db db' : Database} (h : untimed db = untimed db') (version : Int)
    (appliedAt appliedAt' : String) :
    untimed (record version appliedAt db) = untimed (record version appliedAt' db') := by
  have hfind : (db.find? tableName).map untimedTable = (db'.find? tableName).map untimedTable := by
    rw [← find?_tableName_untimed, ← find?_tableName_untimed, h]
  cases ht : db.find? tableName with
  | none =>
    rw [ht] at hfind
    have ht' : db'.find? tableName = none := Option.map_eq_none_iff.1 hfind.symm
    unfold record
    rw [ht, ht']
    exact h
  | some t =>
    rw [ht] at hfind
    obtain ⟨t', ht', htt'⟩ := Option.map_eq_some_iff.1 hfind.symm
    rw [untimed_record_of_find? ht, untimed_record_of_find? ht', h, htt']

end Ledger

open Ledger (untimed)

/-- The report with versions in front that were applied before. -/
def Report.behind (before : List Int) (report : Report) : Report :=
  { report with applied := before ++ report.applied }

namespace Registry

/-- Databases that differ in the times alone still do after the same recordings, whatever the clocks
say. -/
theorem untimed_recordAll {db db' : Database} (h : untimed db = untimed db') (clock clock' : Clock)
    (done : Registry) :
    untimed (recordAll clock done db) = untimed (recordAll clock' done db') := by
  induction done generalizing db db' with
  | nil => exact h
  | cons m rest ih => exact ih (Ledger.untimed_record h _ _ _)

/-- Versions can be recorded in two stages. -/
@[simp] theorem recordAll_append (clock : Clock) (done more : Registry) (db : Database) :
    recordAll clock (done ++ more) db = recordAll clock more (recordAll clock done db) :=
  List.foldl_append

/-- The comparison with the shapes does not tell times. -/
@[simp] theorem refusal?_untimed (r : Registry) (db : Database) :
    r.refusal? (untimed db) = r.refusal? db := by
  unfold refusal? TableShape.refusal?
  simp only [Ledger.describe_untimed]

/-! ## What is pending after a pass -/

/-- What is pending of two registries is what is pending of the one and then of the other. -/
@[simp] theorem pending_append (recorded : List Int) (r r' : Registry) :
    pending recorded (r ++ r') = pending recorded r ++ pending recorded r' :=
  List.filter_append r r'

/-- What remains pending when the first pending migrations have been recorded. -/
theorem pending_of_prefix {recorded : List Int} {r done rest : Registry}
    (hr : (versions r).Nodup) (h : pending recorded r = done ++ rest) :
    pending (recorded ++ versions done) r = rest := by
  have hnodup : (versions (done ++ rest)).Nodup := by
    rw [← h]
    exact hr.sublist (List.filter_sublist.map _)
  rw [versions_append, List.nodup_append] at hnodup
  obtain ⟨-, -, hdisjoint⟩ := hnodup
  have hboth : pending (recorded ++ versions done) r =
      (pending recorded r).filter fun m => !(versions done).contains m.version := by
    unfold pending
    rw [List.filter_filter]
    refine List.filter_congr fun m _ => ?_
    rw [Bool.eq_iff_iff]
    simp [and_comm]
  have hdone : done.filter (fun m => !(versions done).contains m.version) = [] := by
    rw [List.filter_eq_nil_iff]
    intro m hm
    simp [mem_versions hm]
  have hrest : rest.filter (fun m => !(versions done).contains m.version) = rest := by
    rw [List.filter_eq_self]
    intro m hm
    have hnot : m.version ∉ versions done := fun hmem =>
      hdisjoint _ hmem _ (mem_versions hm) rfl
    simpa using hnot
  rw [hboth, h, List.filter_append, hdone, hrest, List.nil_append]

/-! ## The end of a pass is determined -/

/-- A pass does not stop before a migration that can be run. -/
theorem Verdict.eq_nil {db d d' : Database} {pending done more : Registry}
    {result : Except MigrationError (List Int)} (h : Verdict d pending done result)
    (hran : db.scripts .free (scripts done) = .ok d)
    (hmore : db.scripts .free (scripts (done ++ more)) = .ok d')
    (hpending : done ++ more <+: pending) : more = [] := by
  cases more with
  | nil => rfl
  | cons m more =>
    obtain ⟨tail, htail⟩ := hpending
    cases h with
    | finished h =>
      rw [h, List.append_assoc] at htail
      have hnil := List.append_right_eq_self.1 htail
      cases hnil
    | @stopped u rest e h he =>
      rw [h, List.append_assoc] at htail
      have hhead := List.append_cancel_left htail
      rw [List.cons_append, List.cons.injEq] at hhead
      rw [scripts_append, Database.scripts_append, hran, hhead.1] at hmore
      have hran' : d.scripts .free (scripts (u :: more)) = .ok d' := hmore
      rw [scripts_run_cons, he] at hran'
      cases hran'

/-- How a pass ends is determined by what is pending and what the statements do. -/
theorem Verdict.unique {db d d' : Database} {pending done done' : Registry}
    {result result' : Except MigrationError (List Int)} (h : Verdict d pending done result)
    (h' : Verdict d' pending done' result') (hran : db.scripts .free (scripts done) = .ok d)
    (hran' : db.scripts .free (scripts done') = .ok d') :
    done = done' ∧ d = d' ∧ result = result' := by
  have hdone : done = done' := by
    rcases List.prefix_or_prefix_of_prefix h.initial h'.initial with ⟨more, hmore⟩ | ⟨more, hmore⟩
    · have hnil := h.eq_nil hran (by rw [hmore]; exact hran') (by rw [hmore]; exact h'.initial)
      rw [← hmore, hnil, List.append_nil]
    · have hnil := h'.eq_nil hran' (by rw [hmore]; exact hran) (by rw [hmore]; exact h.initial)
      rw [← hmore, hnil, List.append_nil]
  subst hdone
  have hd : d = d' := Except.ok.inj (hran.symm.trans hran')
  subst hd
  refine ⟨rfl, rfl, ?_⟩
  cases h with
  | finished h =>
    cases h' with
    | finished h' => rfl
    | stopped h' _ => exact absurd (h.symm.trans h') (by simp)
  | stopped h he =>
    cases h' with
    | finished h' => exact absurd (h'.symm.trans h) (by simp)
    | stopped h' he' =>
      have hhead := List.append_cancel_left (h.symm.trans h')
      rw [List.cons.injEq] at hhead
      obtain ⟨rfl, -⟩ := hhead
      rw [he] at he'
      cases he'
      rfl

/-! ## Two passes -/

section Behind

variable {r : Registry} {db d : Database} {clock : Clock} {done : Registry}

/-- A pass behind recordings does what it does before them, and they stay where they are. -/
theorem passed_recordAll (clock clock' : Clock) (done : Registry)
    (hr : r.fault? = none) (ha : r.Avoids tableName) (hd : IsPresent d) :
    ∃ d', d.scripts .free (scripts (commits clock' r (recordAll clock done d))) = .ok d' ∧
      (passed clock' r (recordAll clock done d)).1 =
        recordAll clock' (commits clock' r (recordAll clock done d)) (recordAll clock done d') ∧
      Verdict d' (pending (onRecord (recordAll clock done d)) r)
        (commits clock' r (recordAll clock done d))
        (passed clock' r (recordAll clock done d)).2 := by
  have hpresent : IsPresent (recordAll clock done d) := isPresent_recordAll hd
  obtain ⟨d₂, hran, hleft, hverdict⟩ := passed_progress clock' hr ha hpresent.kept
  rw [hpresent.ensured_eq, scripts_recordAll hd (ha.commits clock')] at hran
  cases hlater : d.scripts .free (scripts (commits clock' r (recordAll clock done d))) with
  | error e =>
    rw [hlater] at hran
    cases hran
  | ok d' =>
    rw [hlater] at hran
    have hd₂ : recordAll clock done d' = d₂ := Except.ok.inj hran
    subst hd₂
    have hd' : IsPresent d' := hd.congr (tablesNamed_scripts (ha.commits clock') hlater)
    refine ⟨d', rfl, hleft, hverdict.congr fun m hm => ?_⟩
    rw [script_recordAll hd' (ha.pending _ m hm)]

/-- What a pass committed counts for a later one as if that had committed it itself. -/
theorem passed_resumed {rest : Registry} (hr : r.fault? = none) (ha : r.Avoids tableName)
    (hk : IsKept db) (hpending : pending (onRecord db) r = done ++ rest)
    (hran : (ensured db).scripts .free (scripts done) = .ok d) (clock' clock'' : Clock) :
    commits clock'' r db = done ++ commits clock' r (recordAll clock done d) ∧
      untimed (passed clock'' r db).1 = untimed (passed clock' r (recordAll clock done d)).1 ∧
      (passed clock'' r db).2 =
        (passed clock' r (recordAll clock done d)).2.map (versions done ++ ·) := by
  have hdone : done.Avoids tableName := fun m hm =>
    ha.pending (onRecord db) m (by rw [hpending]; exact List.mem_append_left _ hm)
  have htables := tablesNamed_scripts hdone hran
  have hd : IsPresent d := (Ledger.isPresent_ensured hk).congr htables
  have hrest : pending (onRecord (recordAll clock done d)) r = rest := by
    rw [onRecord_recordAll hd, Ledger.onRecord_congr htables, Ledger.onRecord_ensured]
    exact pending_of_prefix (versions_nodup hr) hpending
  -- the later pass as it would have gone before the recordings of the earlier one
  obtain ⟨d', hlater, hleft, hverdict⟩ := passed_recordAll clock clock' done hr ha hd
  rw [hrest] at hverdict
  have hboth : (ensured db).scripts .free
      (scripts (done ++ commits clock' r (recordAll clock done d))) = .ok d' := by
    rw [scripts_append, Database.scripts_append, hran]
    exact hlater
  -- the pass that does everything alone
  obtain ⟨d'', hran'', hleft'', hverdict''⟩ := passed_progress clock'' hr ha hk
  rw [hpending] at hverdict''
  obtain ⟨hcommits, hsame, hresult⟩ := hverdict''.unique (hverdict.append done) hran'' hboth
  refine ⟨hcommits, ?_, hresult⟩
  rw [hleft'', hcommits, hsame, recordAll_append, hleft]
  exact untimed_recordAll (untimed_recordAll rfl _ _ _) _ _ _

end Behind

/-- A pass that commits nothing leaves a database with a ledger as it is. -/
theorem passed_of_commits_eq_nil {r : Registry} {db : Database} {clock : Clock}
    (hr : r.fault? = none) (ha : r.Avoids tableName) (hp : IsPresent db)
    (h : commits clock r db = []) : (passed clock r db).1 = db := by
  obtain ⟨d, hran, hleft, -⟩ := passed_progress clock hr ha hp.kept
  rw [h, hp.ensured_eq] at hran
  rw [hleft, h]
  exact (Except.ok.inj hran).symm

/-- A pass for which nothing is pending does nothing. -/
theorem passed_of_pending_eq_nil {r : Registry} {db : Database} (clock : Clock)
    (hr : r.fault? = none) (ha : r.Avoids tableName) (hp : IsPresent db)
    (h : pending (onRecord db) r = []) : passed clock r db = (db, .ok []) := by
  have hnone : commits clock r db = [] := by
    rw [List.eq_nil_iff_forall_not_mem]
    intro m hm
    have hmem := mem_pending.2 (mem_commits clock hm)
    rw [h] at hmem
    cases hmem
  obtain ⟨d, -, -, hverdict⟩ := passed_progress clock hr ha hp.kept
  rw [h, hnone] at hverdict
  refine Prod.ext (passed_of_commits_eq_nil hr ha hp hnone) ?_
  generalize (passed clock r db).2 = result at hverdict
  cases hverdict with
  | finished _ => rfl
  | stopped hstop _ => cases hstop

/-- Passes that end with the same versions on record and the same shapes close alike. -/
theorem closing_behind {db db' : Database} (h : untimed db = untimed db') (verify : Bool)
    (r : Registry) (before : List Int) (result : Except MigrationError (List Int)) :
    closing verify r db (result.map (before ++ ·)) =
      (closing verify r db' result).map (Report.behind before) := by
  have hrefusal : r.refusal? db = r.refusal? db' := by
    rw [← refusal?_untimed, h, refusal?_untimed]
  have hrecord : onRecord db = onRecord db' := by
    rw [← Ledger.onRecord_untimed, h, Ledger.onRecord_untimed]
  cases result with
  | error e => rfl
  | ok applied =>
    simp only [closing, Except.map, hrefusal, hrecord]
    cases (if verify then r.refusal? db' else none) <;> rfl

/-! ## The migration at which a pass stops -/

/-- The first part of a registry without a fault has none. -/
theorem fault?_eq_none_of_append {p q : Registry} (h : fault? (p ++ q) = none) :
    fault? p = none := by
  rw [fault?_eq_none_iff] at h ⊢
  rw [versions_append] at h
  obtain ⟨hpositive, hpairwise⟩ := h
  exact ⟨fun v hv => hpositive v (List.mem_append_left _ hv), (List.pairwise_append.1 hpairwise).1⟩

/-- In a registry a version separates the migrations before it from those that follow. -/
theorem filter_before {before after : Registry} {m : Migration}
    (h : (versions (before ++ m :: after)).Pairwise (· < ·)) :
    (before ++ m :: after).filter (fun u => decide (u.version < m.version)) = before := by
  rw [versions_append, List.pairwise_append] at h
  obtain ⟨-, hafter, hbetween⟩ := h
  have hbefore : before.filter (fun u => decide (u.version < m.version)) = before := by
    rw [List.filter_eq_self]
    intro u hu
    simpa using hbetween _ (mem_versions hu) _ (mem_versions List.mem_cons_self)
  have hrest : (m :: after).filter (fun u => decide (u.version < m.version)) = [] := by
    rw [List.filter_eq_nil_iff]
    intro u hu
    rcases List.mem_cons.1 hu with rfl | hu
    · simp
    · have hlt := (List.pairwise_cons.1 hafter).1 _ (mem_versions hu)
      simp only [decide_eq_true_eq]
      omega
  rw [List.filter_append, hbefore, hrest, List.append_nil]

/-- What is pending before a version is what is pending of the migrations before it. -/
theorem pending_before {recorded : List Int} {before after done rest : Registry} {m u : Migration}
    (hr : (versions (before ++ m :: after)).Pairwise (· < ·)) (hu : u.version = m.version)
    (h : pending recorded (before ++ m :: after) = done ++ u :: rest) :
    done = pending recorded before := by
  have hdone : (versions (done ++ u :: rest)).Pairwise (· < ·) := by
    rw [← h]
    exact hr.sublist (List.filter_sublist.map _)
  calc done = (done ++ u :: rest).filter fun w => decide (w.version < u.version) :=
        (filter_before hdone).symm
    _ = (pending recorded (before ++ m :: after)).filter fun w =>
          decide (w.version < m.version) := by
        rw [h, hu]
    _ = pending recorded
          ((before ++ m :: after).filter fun w => decide (w.version < m.version)) :=
        List.filter_comm _ _ _
    _ = pending recorded before := by rw [filter_before hr]

/-- A pass fails at a migration because that could not be applied. -/
theorem closing_eq_failed {verify : Bool} {r : Registry} {db : Database}
    {result : Except MigrationError (List Int)} {version : Int} {name : String} {fault : Fault}
    (h : closing verify r db result = .error (.failed version name fault)) :
    result = .error (.failed version name fault) := by
  cases result with
  | error e =>
    cases h
    rfl
  | ok applied =>
    cases hrefusal : (if verify then r.refusal? db else none) with
    | none =>
      rw [closing, hrefusal] at h
      cases h
    | some e =>
      rw [closing, hrefusal] at h
      cases h
      cases verify with
      | false => cases hrefusal
      | true => rcases refusal?_cases hrefusal with ⟨_, _, he⟩ | ⟨_, he⟩ <;> cases he

end Registry

namespace Store

open Ledger (highestOnRecord)
open Registry (scripts pending versions commits passed recordAll closing)

/-! ## Passes over a store -/

/-- A pass over `r` goes from the store `s'` as it goes from `s`, apart from the versions `before`
that were applied on the way from `s` to `s'`, and from the times of the recordings. -/
def Resumes (r : Registry) (before : List Int) (s s' : Store) : Prop :=
  ∀ (clock clock' : Clock) (verify : Bool),
    untimed (s'.upgrade clock' verify r).1.database =
        untimed (s.upgrade clock verify r).1.database ∧
      (s.upgrade clock verify r).2 = (s'.upgrade clock' verify r).2.map (Report.behind before)

section Opened

variable {s : Store} {r : Registry}

/-- A pass over a store, told by its parts. -/
theorem upgrade_parts (hopen : s.access = .opened .free) (hr : r.fault? = none)
    (ha : r.Avoids tableName) (hk : IsKept s.database) (clock : Clock) (verify : Bool) :
    (s.upgrade clock verify r).1.access = .opened .free ∧
      (s.upgrade clock verify r).1.database = (passed clock r s.database).1 ∧
      (s.upgrade clock verify r).2 =
        closing verify r (passed clock r s.database).1 (passed clock r s.database).2 := by
  obtain ⟨hdatabase, haccess, hresult⟩ := upgrade_opened hopen hr clock verify
  rw [Registry.upgrade_eq clock hr ha hk] at hdatabase hresult
  exact ⟨haccess, hdatabase, hresult⟩

/-- What a successful pass reports is what it committed. -/
theorem upgrade_reported (hopen : s.access = .opened .free) (hr : r.fault? = none)
    (ha : r.Avoids tableName) (hk : IsKept s.database) {clock : Clock} {verify : Bool}
    {report : Report} (h : (s.upgrade clock verify r).2 = .ok report) :
    pending (onRecord s.database) r = commits clock r s.database ∧
      report.applied = versions (commits clock r s.database) ∧
      (if verify then r.refusal? (s.upgrade clock verify r).1.database else none) = none ∧
      report.currentVersion = highestOnRecord (onRecord (s.upgrade clock verify r).1.database) := by
  obtain ⟨-, hdatabase, hresult⟩ := upgrade_parts hopen hr ha hk clock verify
  obtain ⟨d, -, -, hverdict⟩ := Registry.passed_progress clock hr ha hk
  rw [h] at hresult
  rw [hdatabase]
  generalize (passed clock r s.database).2 = result at hverdict hresult
  cases hverdict with
  | stopped _ _ => cases hresult
  | finished hall =>
    rw [closing] at hresult
    cases hrefusal : (if verify then r.refusal? (passed clock r s.database).1 else none) with
    | some e =>
      rw [hrefusal] at hresult
      cases hresult
    | none =>
      rw [hrefusal] at hresult
      cases hresult
      exact ⟨hall, rfl, rfl, rfl⟩

/-- A store that a pass left after it committed the first pending migrations of `r`. -/
theorem resumes_of_prefix {s' : Store} {done rest : Registry} {d : Database} {clock : Clock}
    (hopen : s.access = .opened .free) (hopen' : s'.access = .opened .free) (hr : r.fault? = none)
    (ha : r.Avoids tableName) (hk : IsKept s.database)
    (hpending : pending (onRecord s.database) r = done ++ rest)
    (hran : (ensured s.database).scripts .free (scripts done) = .ok d)
    (hleft : s'.database = recordAll clock done d) : Resumes r (versions done) s s' := by
  intro clock' clock'' verify
  have hk' : IsKept s'.database := by
    have hdone : done.Avoids tableName := fun m hm =>
      ha.pending (onRecord s.database) m (by rw [hpending]; exact List.mem_append_left _ hm)
    rw [hleft]
    exact (Registry.isPresent_recordAll ((Ledger.isPresent_ensured hk).congr
      (Registry.tablesNamed_scripts hdone hran))).kept
  obtain ⟨-, hdatabase, hresult⟩ := upgrade_parts hopen hr ha hk clock' verify
  obtain ⟨-, hdatabase', hresult'⟩ := upgrade_parts hopen' hr ha hk' clock'' verify
  obtain ⟨-, huntimed, hpassed⟩ :=
    Registry.passed_resumed hr ha hk hpending hran clock'' clock'
  rw [← hleft] at huntimed hpassed
  rw [hdatabase, hdatabase', hresult, hresult', hpassed]
  exact ⟨huntimed.symm, Registry.closing_behind huntimed verify r (versions done) _⟩

/-- A pass over the beginning of `r` is resumed by one over all of `r`. -/
theorem upgrade_initial {p q : Registry} (hopen : s.access = .opened .free)
    (hr : (p ++ q).fault? = none) (ha : (p ++ q).Avoids tableName) (hk : IsKept s.database)
    (clock : Clock) (verify : Bool) :
    onRecord (s.upgrade clock verify p).1.database =
        onRecord s.database ++ versions (commits clock p s.database) ∧
      (∀ report, (s.upgrade clock verify p).2 = .ok report →
        report.applied = versions (commits clock p s.database)) ∧
      Resumes (p ++ q) (versions (commits clock p s.database)) s (s.upgrade clock verify p).1 := by
  have hp : p.fault? = none := Registry.fault?_eq_none_of_append hr
  have hpa : p.Avoids tableName := fun m hm => ha m (List.mem_append_left _ hm)
  obtain ⟨haccess, hdatabase, -⟩ := upgrade_parts hopen hp hpa hk clock verify
  obtain ⟨d, hran, hleft, hverdict⟩ := Registry.passed_progress clock hp hpa hk
  obtain ⟨rest, hrest⟩ := hverdict.initial
  refine ⟨?_, ?_, ?_⟩
  · rw [hdatabase]
    exact (Registry.passed_ledger clock hp hpa hk).2
  · intro report hreport
    exact (upgrade_reported hopen hp hpa hk hreport).2.1
  · have hpending : pending (onRecord s.database) (p ++ q) =
        commits clock p s.database ++ (rest ++ pending (onRecord s.database) q) := by
      rw [Registry.pending_append, ← hrest, List.append_assoc]
    exact resumes_of_prefix hopen haccess hr ha hk hpending hran (hdatabase.trans hleft)

/-- What a pass that failed at a migration has committed. -/
theorem upgrade_failed (hopen : s.access = .opened .free) (hr : r.fault? = none)
    (ha : r.Avoids tableName) (hk : IsKept s.database) {clock : Clock} {verify : Bool}
    {version : Int} {name : String} {fault : Fault}
    (h : (s.upgrade clock verify r).2 = .error (.failed version name fault)) :
    (passed clock r s.database).2 = .error (.failed version name fault) ∧
      ∃ d m rest, pending (onRecord s.database) r = commits clock r s.database ++ m :: rest ∧
        m.version = version ∧
        (ensured s.database).scripts .free (scripts (commits clock r s.database)) = .ok d ∧
        (passed clock r s.database).1 = recordAll clock (commits clock r s.database) d := by
  obtain ⟨-, -, hresult⟩ := upgrade_parts hopen hr ha hk clock verify
  rw [h] at hresult
  have hpassed := Registry.closing_eq_failed hresult.symm
  obtain ⟨d, hran, hleft, hverdict⟩ := Registry.passed_progress clock hr ha hk
  refine ⟨hpassed, d, ?_⟩
  rw [hpassed] at hverdict
  cases hverdict with
  | @stopped m rest e hstop he => exact ⟨m, rest, hstop, rfl, hran, hleft⟩

/-- A pass that failed at a migration fails there again, and then changes nothing. -/
theorem upgrade_failed_again (hopen : s.access = .opened .free) (hr : r.fault? = none)
    (ha : r.Avoids tableName) (hk : IsKept s.database) {clock : Clock} {verify : Bool}
    {version : Int} {name : String} {fault : Fault}
    (h : (s.upgrade clock verify r).2 = .error (.failed version name fault)) (clock' : Clock)
    (verify' : Bool) :
    ((s.upgrade clock verify r).1.upgrade clock' verify' r).2 =
        .error (.failed version name fault) ∧
      ((s.upgrade clock verify r).1.upgrade clock' verify' r).1.database =
        (s.upgrade clock verify r).1.database := by
  obtain ⟨haccess, hdatabase, -⟩ := upgrade_parts hopen hr ha hk clock verify
  obtain ⟨hpassed, d, m, rest, hpending, -, hran, hleft⟩ := upgrade_failed hopen hr ha hk h
  have hpresent : IsPresent (s.upgrade clock verify r).1.database := by
    rw [hdatabase]
    exact (Registry.passed_ledger clock hr ha hk).1
  obtain ⟨-, hdatabase', hresult'⟩ := upgrade_parts haccess hr ha hpresent.kept clock' verify'
  obtain ⟨hcommits, -, hsame⟩ := Registry.passed_resumed hr ha hk hpending hran clock' clock
  rw [← hleft, ← hdatabase] at hcommits hsame
  rw [hpassed] at hsame
  -- nothing is left to commit before the migration that fails
  have hnone : commits clock' r (s.upgrade clock verify r).1.database = [] :=
    List.append_right_eq_self.1 hcommits.symm
  refine ⟨?_, hdatabase'.trans (Registry.passed_of_commits_eq_nil hr ha hpresent hnone)⟩
  cases hp : (passed clock' r (s.upgrade clock verify r).1.database).2 with
  | ok applied =>
    rw [hp] at hsame
    cases hsame
  | error e =>
    rw [hp] at hsame
    cases hsame
    rw [hresult', hp]
    rfl

/-- A pass that succeeded finds nothing to do when it is made again, unless the shapes are compared
only then. -/
theorem upgrade_again (hopen : s.access = .opened .free) (hr : r.fault? = none)
    (ha : r.Avoids tableName) (hk : IsKept s.database) {clock : Clock} {verify : Bool}
    {report : Report} (h : (s.upgrade clock verify r).2 = .ok report) (clock' : Clock)
    {verify' : Bool} (hverify : verify' = true → verify = true) :
    ((s.upgrade clock verify r).1.upgrade clock' verify' r).2 = .ok ⟨[], report.currentVersion⟩ ∧
      ((s.upgrade clock verify r).1.upgrade clock' verify' r).1.database =
        (s.upgrade clock verify r).1.database := by
  obtain ⟨haccess, hdatabase, -⟩ := upgrade_parts hopen hr ha hk clock verify
  obtain ⟨hall, -, hrefusal, hcurrent⟩ := upgrade_reported hopen hr ha hk h
  obtain ⟨hpresent, hrecord⟩ := Registry.passed_ledger clock hr ha hk
  rw [← hdatabase] at hpresent hrecord
  obtain ⟨-, hdatabase', hresult'⟩ := upgrade_parts haccess hr ha hpresent.kept clock' verify'
  -- every version is on record, so that nothing is pending for the second pass
  have hpending : pending (onRecord (s.upgrade clock verify r).1.database) r = [] := by
    rw [hrecord]
    exact Registry.pending_of_prefix (Registry.versions_nodup hr) (by rw [hall, List.append_nil])
  have hnothing := Registry.passed_of_pending_eq_nil clock' hr ha hpresent hpending
  have hrefusal' : (if verify' then r.refusal? (s.upgrade clock verify r).1.database else none) =
      none := by
    cases verify' with
    | false => rfl
    | true => simpa [hverify rfl] using hrefusal
  rw [hresult', hdatabase', hnothing]
  refine ⟨?_, rfl⟩
  rw [closing, hrefusal', hcurrent]

/-- A pass that failed at a migration is resumed by one over any registry that begins with the
migrations before it. -/
theorem resumes_of_failed {before after after' : Registry} {m : Migration}
    (hopen : s.access = .opened .free) (hr : (before ++ m :: after).fault? = none)
    (ha : (before ++ m :: after).Avoids tableName) (hk : IsKept s.database) {clock : Clock}
    {verify : Bool} {name : String} {fault : Fault}
    (h : (s.upgrade clock verify (before ++ m :: after)).2 = .error (.failed m.version name fault))
    (hr' : (before ++ after').fault? = none) (ha' : (before ++ after').Avoids tableName) :
    Resumes (before ++ after') (versions (pending (onRecord s.database) before)) s
      (s.upgrade clock verify (before ++ m :: after)).1 := by
  obtain ⟨haccess, hdatabase, -⟩ := upgrade_parts hopen hr ha hk clock verify
  obtain ⟨-, d, u, rest, hpending, hu, hran, hleft⟩ := upgrade_failed hopen hr ha hk h
  have hcommits := Registry.pending_before (Registry.versions_pairwise hr) hu hpending
  rw [hcommits] at hran hleft
  exact resumes_of_prefix hopen haccess hr' ha' hk
    (Registry.pending_append (onRecord s.database) before after') hran (hdatabase.trans hleft)

end Opened

/-- **Interrupted passes.** A pass over the beginning of a registry, whatever comes of it, is
resumed by a pass over all of it. A pass that failed at a migration fails there again with the same
error and changes nothing, and it is resumed by a pass over any registry that begins with the
migrations before the one that failed. -/
theorem upgrade_resumed {s : Store} {r : Registry} (hopen : s.access = .opened .free)
    (hr : r.fault? = none) (ha : r.Avoids tableName) (hk : IsKept s.database) :
    (∀ p : Registry, p <+: r → ∀ (clock : Clock) (verify : Bool), ∃ applied : List Int,
      onRecord (s.upgrade clock verify p).1.database = onRecord s.database ++ applied ∧
        (∀ report, (s.upgrade clock verify p).2 = .ok report → report.applied = applied) ∧
        Resumes r applied s (s.upgrade clock verify p).1) ∧
    ∀ (clock : Clock) (verify : Bool) (before after : Registry) (m : Migration) (name : String)
      (fault : Fault), r = before ++ m :: after →
      (s.upgrade clock verify r).2 = .error (.failed m.version name fault) →
      (∀ (clock' : Clock) (verify' : Bool),
        ((s.upgrade clock verify r).1.upgrade clock' verify' r).2 =
            .error (.failed m.version name fault) ∧
          ((s.upgrade clock verify r).1.upgrade clock' verify' r).1.database =
            (s.upgrade clock verify r).1.database) ∧
      ∀ after' : Registry, (before ++ after').fault? = none →
        (before ++ after').Avoids tableName →
        Resumes (before ++ after') (versions (pending (onRecord s.database) before)) s
          (s.upgrade clock verify r).1 := by
  refine ⟨?_, ?_⟩
  · rintro p ⟨q, rfl⟩ clock verify
    exact ⟨_, upgrade_initial hopen hr ha hk clock verify⟩
  · rintro clock verify before after m name fault rfl hfailed
    exact ⟨fun clock' verify' => upgrade_failed_again hopen hr ha hk hfailed clock' verify',
      fun after' hr' ha' => resumes_of_failed hopen hr ha hk hfailed hr' ha'⟩

/-- The steps of `filling` with a slip in the last one, behind a table that it creates. -/
def slipping : Registry :=
  filling.take 2 ++ [numbered 5 "prices"
    [.create "prices" [⟨"id", "TEXT", false, true⟩] false .bare, .drop "price"]]

/-- After the slip is mended only the last step is left to do. -/
theorem upgrade_resumed_slipping :
    (gapped.upgrade still false slipping).2 =
        .error (.failed 5 "prices" (.engine (.noSuchTable "price"))) ∧
      Resumes filling [1] gapped (gapped.upgrade still false slipping).1 := by
  have hfailed : (gapped.upgrade still false slipping).2 =
      .error (.failed 5 "prices" (.engine (.noSuchTable "price"))) := by decide +kernel
  obtain ⟨-, hresumed⟩ := upgrade_resumed (s := gapped) (r := slipping) rfl (by decide) (by decide)
    (by decide)
  exact ⟨hfailed, (hresumed still false (filling.take 2) [] _ "prices" _ rfl hfailed).2
    (filling.drop 2) (by decide) (by decide)⟩

end Store

end DispatchStore
