import DispatchStore.Proofs.Host.Session

/-!
# What becomes of a handle

A handle that was set up is as it was told to be (`Session.exists_tuned`), and work with the store
behind it changes nothing of that: only its connection, and what it knows of its database
(`Session.exists_worked`). A pass over the migrations that gets through leaves it open, with a
connection that knows the schema (`Session.exists_upgraded`). What one piece of work keeps of a
session and its handle, any number of them keeps (`Session.worked_induction`).
-/

namespace DispatchStore

/-- A pass that gets through is one over the database, and the connection knows what it leaves. -/
theorem Store.upgrade_parts_of_ok {s store : Store} {clock : Clock} {verify : Bool} {r : Registry}
    {report : Report} (h : s.upgrade clock verify r = (store, .ok report)) :
    s.access ≠ .closed ∧ store.access = s.access ∧
      r.upgrade s.access.lock clock verify s.database = (store.database, .ok report) ∧
      store.connection.known = some store.database.schema := by
  unfold upgrade at h
  split at h
  · cases h
  · cases h
  · next hopen =>
    unfold withLedger at h
    dsimp only at h
    split at h
    · cases h
    · generalize hpass : r.upgrade s.access.lock clock verify s.database = outcome at h ⊢
      obtain ⟨database, result⟩ := outcome
      obtain ⟨rfl, rfl⟩ := Prod.mk.inj h
      exact ⟨hopen, rfl, rfl, rfl⟩

namespace Session

variable {s q : Session}

/-- Looking at the database changes at most what a handle knows of its file. -/
theorem exists_looked (s : Session) (h : Handle) : ∃ source, s.looked h = { h with source } := by
  unfold looked
  split
  · exact ⟨_, rfl⟩
  · exact ⟨h.source, rfl⟩

/-- Work with the store behind a handle changes at most its connection and what it knows of its
database, and closes it if the store is closed. -/
theorem exists_worked (s : Session) (h : Handle) {α : Type} (f : Store → Store × α) :
    ∃ source, (s.work h f).1.2 =
      { h with
        source := source
        connection := (f (s.storeOf h)).1.connection
        closed := h.closed || (f (s.storeOf h)).1.access == Access.closed } := by
  have hdatabase : ∀ (h : Handle) (db : Database), ∃ source,
      (s.withDatabase h db).2 = { h with source } := by
    intro h db
    unfold withDatabase
    split
    · exact ⟨_, rfl⟩
    · exact ⟨h.source, rfl⟩
    · split
      · exact ⟨_, rfl⟩
      · exact ⟨h.source, rfl⟩
  unfold work withStore
  dsimp only
  obtain ⟨source, hchanged⟩ := hdatabase { h with connection := (f (s.storeOf h)).1.connection }
    (f (s.storeOf h)).1.database
  generalize s.withDatabase { h with connection := (f (s.storeOf h)).1.connection }
    (f (s.storeOf h)).1.database = changed at hchanged ⊢
  obtain ⟨source', hlooked⟩ := exists_looked changed.1 changed.2
  rw [hlooked, hchanged]
  exact ⟨source', rfl⟩

/-- A handle that was set up is as a plain one is tuned, but for what it saw of its database. -/
theorem exists_tuned {source : Source} {busyTimeout : Nat} {h : Handle}
    (htune : s.tune source busyTimeout = .ok (q, h)) :
    ∃ source' connection,
      h = { (Handle.plain source).tuned busyTimeout with source := source', connection } := by
  have hlooked : ∀ (t : Session) (c : Connection), ∃ source' connection,
      t.looked { (Handle.plain source).tuned busyTimeout with connection := c } =
        { (Handle.plain source).tuned busyTimeout with source := source', connection } := by
    intro t c
    obtain ⟨source', heq⟩ :=
      exists_looked t { (Handle.plain source).tuned busyTimeout with connection := c }
    exact ⟨source', c, heq⟩
  unfold tune at htune
  dsimp only at htune
  split at htune
  · next f =>
    cases hwal : s.useWal f with
    | error e =>
      rw [hwal] at htune
      cases htune
    | ok t =>
      rw [hwal] at htune
      cases htune
      exact hlooked _ _
  · cases htune
    exact hlooked _ _

/-- A pass that gets through leaves an open handle open. -/
theorem exists_upgraded {h h' : Handle} (hopen : h.closed = false) {clock : Clock} {verify : Bool}
    {report : Report}
    (hwork : s.work h (fun store => store.upgrade clock verify Registry.builtIn) =
      ((q, h'), .ok report)) :
    ∃ store source,
      (s.storeOf h).upgrade clock verify Registry.builtIn = (store, .ok report) ∧
        h' = { h with source := source, connection := store.connection } := by
  obtain ⟨source, hworked⟩ :=
    exists_worked s h fun store => store.upgrade clock verify Registry.builtIn
  have hreport : ((s.storeOf h).upgrade clock verify Registry.builtIn).2 = .ok report :=
    congrArg Prod.snd hwork
  have hpass : (s.storeOf h).upgrade clock verify Registry.builtIn =
      (((s.storeOf h).upgrade clock verify Registry.builtIn).1, .ok report) := Prod.ext rfl hreport
  obtain ⟨hnotClosed, haccess, -⟩ := Store.upgrade_parts_of_ok hpass
  refine ⟨_, source, hpass, ?_⟩
  rw [hwork] at hworked
  dsimp only at hworked
  rw [hworked, haccess, hopen, beq_false_of_ne hnotClosed]
  rfl

/-! ## Work, piece by piece -/

/-- The session after work with the store of a name, one piece after the other. -/
def worked (s : Session) (name : String) (fs : List (Store → Store)) : Session :=
  fs.foldl (fun u f => (u.use name fun store => (f store, ())).elim u Prod.fst) s

/-- What each piece of work keeps of the session and of the handle that it comes to, all of it
keeps. -/
theorem worked_induction {name : String} {P : Session → Handle → Prop}
    (hstep : ∀ (u : Session) (h : Handle) (f : Store → Store × Unit),
      u.find? name = some h → P u h →
      P ((u.work h f).1.1.put name (u.work h f).1.2) (u.work h f).1.2)
    {h : Handle} (hfind : s.find? name = some h) (hP : P s h) (fs : List (Store → Store)) :
    ∃ h', (s.worked name fs).find? name = some h' ∧ P (s.worked name fs) h' := by
  induction fs generalizing s h with
  | nil => exact ⟨h, hfind, hP⟩
  | cons f rest ih =>
    have hworked : s.worked name (f :: rest) =
        worked ((s.work h fun store => (f store, ())).1.1.put name
          (s.work h fun store => (f store, ())).1.2) name rest := by
      show worked ((s.use name fun store => (f store, ())).elim s Prod.fst) name rest = _
      unfold use
      rw [hfind]
      rfl
    rw [hworked]
    exact ih (find?_put_self _ name _) (hstep s h _ hfind hP)

end Session

end DispatchStore
