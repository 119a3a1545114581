import DispatchStore.Proofs.Dispatch.Alike
import DispatchStore.Proofs.Host.Session

/-!
# Restarts

A program opens its database, closes it, opens it again, under one name or several, and in between
it carries out operations and dispatches events: a list of visits. Over one path that can be opened,
and as long as every action comes to a handle that is open:

* **The first opening** applies all built-in migrations, and every further one finds nothing to do,
  whether it compares the shapes or not.
* **Every action** has the effect that it has in the history without the openings behind the first
  one, in which all actions come to the first handle.

What carries this through a history is `Session.Attends`: the file holds a database that is up to
date, and the connection of every open handle is attuned to it.
-/

namespace DispatchStore

open Registry (builtIn)

/-! ## Histories -/

/-- What a program does with its database. -/
inductive Visit where
  | connect (name : String) (clock : Clock) (config : Config)
  | initDb (name : String) (clock : Clock) (path : String)
  | close (name : String)
  | act (name : String) (action : Action)

/-- What comes of a visit. -/
inductive Response where
  | opened (result : Except MigrationError Report)
  | closed
  /-- Nothing comes of an action if there is no handle of the name. -/
  | acted (effect : Option Effect)

namespace Visit

/-- A visit to a session. -/
def go : Visit → Session → Session × Response
  | connect name clock config, s =>
    let (s, result) := s.connect name clock config
    (s, .opened result)
  | initDb name clock path, s =>
    let (s, result) := s.connectDefault name clock path
    (s, .opened result)
  | close name, s => ((s.close name).getD s, .closed)
  | act name action, s =>
    match s.use name fun store => (action.run store, action.effect store) with
    | some (s, effect) => (s, .acted (some effect))
    | none => (s, .acted none)

/-- The handle that the visit is to. -/
def name : Visit → String
  | connect name _ _ => name
  | initDb name _ _ => name
  | close name => name
  | act name _ => name

/-- The visit opens the database. -/
def isOpening : Visit → Bool
  | connect _ _ _ => true
  | initDb _ _ _ => true
  | _ => false

/-- The action of the visit, if it is one. -/
def action? : Visit → Option Action
  | act _ action => some action
  | _ => none

/-- If the visit opens a database, then that at the given path. -/
def IsAt (path : String) : Visit → Prop
  | connect _ _ config => config.databasePath = path
  | initDb _ _ path' => path' = path
  | _ => True

/-- If the visit is an action, then one that looks at nothing of the store but its database. -/
def LooksAtDatabase : Visit → Prop
  | act _ action => action.LooksAtDatabase
  | _ => True

end Visit

/-- What comes of visits, one after the other. -/
def Session.history (s : Session) : List Visit → List Response
  | [] => []
  | v :: rest => (v.go s).2 :: (v.go s).1.history rest

/-- What the openings among the visits reported. -/
def openings (responses : List Response) : List (Except MigrationError Report) :=
  responses.filterMap fun
    | .opened result => some result
    | _ => none

/-- What came of the actions among the visits. -/
def acted (responses : List Response) : List (Option Effect) :=
  responses.filterMap fun
    | .acted effect => some effect
    | _ => none

/-- Every action comes to a handle that is open, if those of the given names are. -/
def Attended : List String → List Visit → Prop
  | _, [] => True
  | names, .connect name _ _ :: rest => Attended (name :: names) rest
  | names, .initDb name _ _ :: rest => Attended (name :: names) rest
  | names, .close name :: rest => Attended (names.filter (· ≠ name)) rest
  | names, .act name _ :: rest => name ∈ names ∧ Attended names rest

/-- The actions among visits. -/
def actions (visits : List Visit) : List Action := visits.filterMap Visit.action?

/-- The visits without those that close the database or open it once more. All actions come to the
handle that is opened first. -/
def withoutReopenings (visits : List Visit) : List Visit :=
  match visits.find? Visit.isOpening with
  | some v => v :: (actions visits).map (.act v.name)
  | none => []

/-! ## Sessions that attend to a database -/

/-- A handle that can be used like a new one. -/
structure Handle.IsReady (h : Handle) (p : Path) (db : Database) : Prop extends h.IsOn p where
  opened : h.closed = false
  attuned : h.connection.IsAttuned db

/-- The session has an open handle of the name. -/
def Session.HasOpen (s : Session) (name : String) : Prop :=
  ∃ h, s.find? name = some h ∧ h.closed = false

/-- The session goes on from `origin`: the file at the path holds a database that is up to date, all
handles are on that file, those of the given names are open, and every open one is attuned. -/
structure Session.Attends (origin : Session) (path : String) (p : Path) (names : List String)
    (db : Database) (s : Session) : Prop extends s.Hosts (origin.makeParents path) p db where
  workingDirectory : s.workingDirectory = origin.workingDirectory
  upToDate : db.IsUpToDate
  attuned : ∀ x ∈ s.handles, x.2.closed = false → x.2.connection.IsAttuned db
  opened : ∀ name ∈ names, s.HasOpen name

namespace Session

section Opening

variable {origin s : Session} {path : String} {p : Path} {db : Database}
  (horigin : origin.CanCreate path p) (hs : s.Hosts (origin.makeParents path) p db)
include horigin hs

/-- A pass behind a new handle that gets through leaves it ready for use. -/
theorem work_upgrade {h : Handle} (hnew : h.IsNew p db) {clock : Clock} {verify : Bool}
    {store : Store} {report : Report}
    (hpass : Store.upgrade ⟨db, .opened .free, h.connection⟩ clock verify builtIn =
      (store, .ok report)) :
    ∃ s' h', s.work h (fun store => store.upgrade clock verify builtIn) = ((s', h'), .ok report) ∧
      s'.Hosts (origin.makeParents path) p store.database ∧ s'.handles = s.handles ∧
      s'.workingDirectory = s.workingDirectory ∧ h'.IsReady p store.database := by
  have hvalid : builtIn.fault? = none := by decide
  have hquery : h.connection.HasNoQuery := by
    rw [hnew.connection]
    exact Connection.HasNoQuery.informed (fun x hx => by cases hx) db
  have hattuned := Store.attuned_upgrade (s := ⟨db, .opened .free, h.connection⟩) rfl hvalid hquery
    (congrArg Prod.snd hpass)
  obtain ⟨-, haccess, -⟩ :=
    Store.upgrade_opened (s := ⟨db, .opened .free, h.connection⟩) rfl hvalid clock verify
  rw [hpass] at hattuned haccess
  obtain ⟨s', hwork, hhosts, hhandles, hdirectory⟩ :=
    work_hosts horigin.room hs hnew.toIsOn hnew.opened
      (fun store => store.upgrade clock verify builtIn) hpass haccess
  exact ⟨s', _, hwork, hhosts, hhandles, hdirectory,
    ⟨⟨hnew.source, hnew.unlocked⟩, hnew.opened, hattuned⟩⟩

end Opening

/-- A start consists of opening the path and a pass. -/
theorem start_of_work {q s s' : Session} {h h' : Handle} {clock : Clock} {path : String}
    {busyTimeout : Nat} {verify : Bool} {report : Report}
    (hopened : q.openPath path busyTimeout = (s, .ok h))
    (hwork : s.work h (fun store => store.upgrade clock verify builtIn) = ((s', h'), .ok report)) :
    q.start clock path busyTimeout verify = (s', .ok (h', report)) := by
  unfold start
  rw [hopened]
  dsimp only
  rw [hwork]

/-- Which handles are open depends on the handles alone. -/
theorem hasOpen_congr {s s' : Session} (h : s'.handles = s.handles) {name : String}
    (hopen : s.HasOpen name) : s'.HasOpen name := by
  unfold HasOpen find? at hopen ⊢
  rw [h]
  exact hopen

namespace Attends

variable {origin s : Session} {path : String} {p : Path} {names : List String} {db : Database}

/-- A session with the same handles attends as well. -/
theorem congr (h : Attends origin path p names db s) {s' : Session}
    (hs' : s'.Hosts (origin.makeParents path) p db) (hhandles : s'.handles = s.handles)
    (hdirectory : s'.workingDirectory = s.workingDirectory) :
    Attends origin path p names db s' := by
  refine ⟨hs', hdirectory.trans h.workingDirectory, h.upToDate, ?_, ?_⟩
  · rw [hhandles]
    exact h.attuned
  · exact fun name hname => hasOpen_congr hhandles (h.opened name hname)

variable (horigin : origin.CanOpen path p)
include horigin

/-- A handle comes under a name, in place of the one that had it. -/
theorem put (h : Attends origin path p names db s) (name : String) {handle : Handle}
    (hready : handle.IsReady p db) :
    Attends origin path p (name :: names) db (s.put name handle) := by
  refine ⟨h.toHosts.put horigin.room name hready.toIsOn, ?_, h.upToDate, ?_, ?_⟩
  · simpa using h.workingDirectory
  · rw [handles_put]
    intro x hx hopen
    rcases List.mem_cons.1 hx with rfl | hx
    · exact hready.attuned
    · exact h.attuned x (List.mem_filter.1 hx).1 hopen
  · intro other hother
    by_cases heq : other = name
    · exact ⟨handle, by simp [heq], hready.opened⟩
    · obtain ⟨old, hold, hopen⟩ := h.opened other ((List.mem_cons.1 hother).resolve_left heq)
      exact ⟨old, by simp [heq, hold], hopen⟩

/-- Starting once more finds nothing to do. -/
theorem start (h : Attends origin path p names db s) (clock : Clock) (busyTimeout : Nat)
    (verify : Bool) :
    ∃ s' handle, s.start clock path busyTimeout verify = (s', .ok (handle, ⟨[], 16⟩)) ∧
      Attends origin path p names db s' ∧ handle.IsReady p db := by
  obtain ⟨new, hopened, hnew⟩ :=
    horigin.openPath_again h.workingDirectory h.toHosts busyTimeout
  obtain ⟨hreport, hdatabase⟩ := Store.upgrade_upToDate
    (s := ⟨db, .opened .free, new.connection⟩) rfl h.upToDate clock verify
  obtain ⟨s', handle, hwork, hhosts, hhandles, hdirectory, hready⟩ :=
    work_upgrade horigin.toCanCreate h.toHosts hnew (Prod.ext rfl hreport)
  rw [hdatabase] at hhosts hready
  exact ⟨s', handle, start_of_work hopened hwork, h.congr hhosts hhandles hdirectory, hready⟩

/-- Closing leaves the other handles open. -/
theorem close (h : Attends origin path p names db s) (name : String) :
    Attends origin path p (names.filter (· ≠ name)) db ((s.close name).getD s) := by
  have hnames : ∀ other ∈ names.filter (· ≠ name), other ∈ names ∧ other ≠ name := by
    intro other hother
    simpa using hother
  unfold Session.close
  cases hfind : s.find? name with
  | none =>
    exact ⟨h.toHosts, h.workingDirectory, h.upToDate, h.attuned,
      fun other hother => h.opened other (hnames other hother).1⟩
  | some old =>
    have hon := h.handles _ (mem_of_find? hfind)
    refine ⟨h.toHosts.put horigin.room name ⟨hon.source, rfl⟩, ?_, h.upToDate, ?_, ?_⟩
    · simpa using h.workingDirectory
    · intro x hx hopen
      rw [Option.map_some, Option.getD_some, handles_put] at hx
      rcases List.mem_cons.1 hx with rfl | hx
      · cases hopen
      · exact h.attuned x (List.mem_filter.1 hx).1 hopen
    · intro other hother
      obtain ⟨hmem, hne⟩ := hnames other hother
      obtain ⟨handle, hhandle, hopen⟩ := h.opened other hmem
      exact ⟨handle, by simp [hne, hhandle], hopen⟩

/-- An action that comes to an open handle has the effect that it has over the database alone. -/
theorem act (h : Attends origin path p names db s) {name : String} (hname : name ∈ names)
    {a : Action} (ha : a.LooksAtDatabase) :
    ∃ s', (Visit.act name a).go s = (s', .acted (some (a.effect (.opened db)))) ∧
      Attends origin path p names (a.run (.opened db)).database s' := by
  obtain ⟨handle, hfind, hopen⟩ := h.opened name hname
  have hon := h.handles _ (mem_of_find? hfind)
  have hattuned := h.attuned _ (mem_of_find? hfind) hopen
  let store : Store := ⟨db, .opened .free, handle.connection⟩
  have hsettled : (a.run store).IsSettled db.schema :=
    a.settled_run (s := store) ⟨rfl, hattuned, h.upToDate, rfl⟩
  obtain ⟨heffect, hmatches⟩ := (Store.matches_opened (s := store) rfl hattuned).act ha
  obtain ⟨s', hwork, hhosts, hhandles, hdirectory⟩ := work_hosts horigin.room h.toHosts hon hopen
    (fun store => (a.run store, a.effect store)) rfl hsettled.opened
  rw [show (a.run (.opened db)).database = (a.run store).database from hmatches.database,
    show a.effect (.opened db) = a.effect store from heffect]
  refine ⟨s'.put name { handle with connection := (a.run store).connection }, ?_, ?_⟩
  · simp only [Visit.go, use, hfind, Option.map_some, hwork]
    rfl
  · refine ⟨hhosts.put horigin.room name ⟨hon.source, hon.unlocked⟩, ?_, hsettled.upToDate, ?_, ?_⟩
    · simpa using hdirectory.trans h.workingDirectory
    · rw [handles_put, hhandles]
      intro x hx hopen
      rcases List.mem_cons.1 hx with rfl | hx
      · exact hsettled.attuned
      · -- the other connections know the same schema
        exact (h.attuned x (List.mem_filter.1 hx).1 hopen).of_schema hsettled.schema
    · intro other hother
      by_cases heq : other = name
      · rw [heq]
        exact ⟨_, find?_put_self s' name _, hopen⟩
      · obtain ⟨old, hold, hopen⟩ := hasOpen_congr hhandles (h.opened other hother)
        exact ⟨old, by simp [heq, hold], hopen⟩

end Attends

/-- The first start makes the database, and the session attends to it. -/
theorem start_first {origin : Session} {path : String} {p : Path}
    (horigin : origin.CanCreate path p) (hhandles : origin.handles = []) (clock : Clock)
    (busyTimeout : Nat) (verify : Bool) :
    ∃ s' handle, origin.start clock path busyTimeout verify =
        (s', .ok (handle, ⟨[10, 11, 16], 16⟩)) ∧
      Attends origin path p [] (Registry.passed clock builtIn .empty).1 s' ∧
      handle.IsReady p (Registry.passed clock builtIn .empty).1 := by
  obtain ⟨s, new, hopened, hnew, hs, hnone, hdirectory⟩ :=
    horigin.openPath_first hhandles busyTimeout
  obtain ⟨hreport, hdatabase, hupToDate⟩ := Store.upgrade_first
    (s := ⟨.empty, .opened .free, new.connection⟩) rfl rfl clock verify
  obtain ⟨s', handle, hwork, hhosts, hhandles', hdirectory', hready⟩ :=
    work_upgrade horigin hs hnew (Prod.ext rfl hreport)
  rw [hdatabase] at hhosts hready hupToDate
  refine ⟨s', handle, start_of_work hopened hwork, ⟨hhosts, hdirectory'.trans hdirectory, hupToDate,
    ?_, ?_⟩, hready⟩
  · rw [hhandles', hnone]
    intro x hx
    cases hx
  · intro name hname
    cases hname

end Session

/-! ## Whole histories -/

/-- An opening of the path starts the database and takes over the handle. -/
theorem Visit.exists_start {v : Visit} {path : String} (hv : v.isOpening = true)
    (hpath : v.IsAt path) :
    ∃ clock busyTimeout verify, ∀ {s s' : Session} {h : Handle} {report : Report},
      s.start clock path busyTimeout verify = (s', .ok (h, report)) →
        v.go s = (s'.put v.name h, .opened (.ok report)) := by
  cases v with
  | connect name clock config =>
    refine ⟨clock, config.busyTimeout, config.strictSchema, fun hstart => ?_⟩
    have hpath : config.databasePath = path := hpath
    simp only [go, Session.connect, Session.startAs, hpath, hstart]
    rfl
  | initDb name clock path' =>
    refine ⟨clock, Config.defaultBusyTimeout, false, fun hstart => ?_⟩
    have hpath : path' = path := hpath
    simp only [go, Session.connectDefault, Session.startAs, hpath, hstart]
    rfl
  | close name => cases hv
  | act name a => cases hv

/-- After an opening its handle is open. -/
theorem Attended.of_opening {v : Visit} (hv : v.isOpening = true) {names : List String}
    {rest : List Visit} (h : Attended names (v :: rest)) : Attended (v.name :: names) rest := by
  cases v with
  | connect _ _ _ | initDb _ _ _ => exact h
  | close _ | act _ _ => cases hv

/-- Actions that all come to one open handle are attended to. -/
theorem attended_acts (name : String) (l : List Action) : Attended [name] (l.map (.act name)) := by
  induction l with
  | nil => trivial
  | cons a rest ih => exact ⟨List.mem_cons_self, ih⟩

/-- The actions among visits that are all actions are these. -/
@[simp]
theorem actions_acts (name : String) (l : List Action) : actions (l.map (.act name)) = l := by
  unfold actions
  rw [List.filterMap_map]
  exact List.filterMap_some

/-- The actions among visits look at nothing of a store but its database if the visits do not. -/
theorem looksAtDatabase_of_mem_actions {visits : List Visit}
    (h : ∀ v ∈ visits, v.LooksAtDatabase) : ∀ a ∈ actions visits, a.LooksAtDatabase := by
  intro a ha
  obtain ⟨v, hv, hva⟩ := List.mem_filterMap.1 ha
  cases v with
  | act name b =>
    cases hva
    exact h _ hv
  | connect _ _ _ | initDb _ _ _ | close _ => cases hva

namespace Session

section History

variable {origin : Session} {path : String} {p : Path} (horigin : origin.CanOpen path p)
include horigin

/-- In a session that attends to the database, every opening finds nothing to do, and every action
has the effect that it has over the database alone. -/
theorem Attends.history {visits : List Visit} {names : List String} {db : Database} {s : Session}
    (h : Attends origin path p names db s) (hattended : Attended names visits)
    (hpath : ∀ v ∈ visits, v.IsAt path) (hlooks : ∀ v ∈ visits, v.LooksAtDatabase) :
    (∀ r ∈ openings (s.history visits), r = .ok ⟨[], 16⟩) ∧
      acted (s.history visits) = (effects (.opened db) (actions visits)).map some := by
  induction visits generalizing names db s with
  | nil =>
    refine ⟨fun r hr => ?_, rfl⟩
    cases hr
  | cons v rest ih =>
    have hpath' := fun u hu => hpath u (List.mem_cons_of_mem _ hu)
    have hlooks' := fun u hu => hlooks u (List.mem_cons_of_mem _ hu)
    have hv := hpath v List.mem_cons_self
    by_cases hopening : v.isOpening = true
    · -- the handle is taken over, and nothing else has changed
      obtain ⟨clock, busyTimeout, verify, hgo⟩ := v.exists_start hopening hv
      obtain ⟨s', handle, hstart, hattends, hready⟩ := h.start horigin clock busyTimeout verify
      obtain ⟨hreports, hacted⟩ := ih (hattends.put horigin v.name hready)
        (hattended.of_opening hopening) hpath' hlooks'
      have hnone : actions (v :: rest) = actions rest := by
        cases v with
        | connect _ _ _ | initDb _ _ _ => rfl
        | close _ | act _ _ => cases hopening
      have hgo := hgo hstart
      unfold Session.history
      rw [hgo, hnone]
      refine ⟨fun r hr => ?_, hacted⟩
      rcases List.mem_cons.1 hr with rfl | hr
      · rfl
      · exact hreports r hr
    · cases v with
      | connect _ _ _ | initDb _ _ _ => exact absurd rfl hopening
      | close name => exact ih (h.close horigin name) hattended hpath' hlooks'
      | act name a =>
        obtain ⟨hname, hrest⟩ := hattended
        have ha : a.LooksAtDatabase := hlooks (.act name a) List.mem_cons_self
        obtain ⟨s', hgo, hattends⟩ := h.act horigin hname ha
        obtain ⟨hreports, hacted⟩ := ih hattends hrest hpath' hlooks'
        -- what follows starts from the store that the action leaves
        have hsettled : (a.run (.opened db)).IsSettled db.schema := a.settled_run (s := .opened db)
          ⟨rfl, Store.isAttuned_opened db, h.upToDate, rfl⟩
        have hmatches := Store.matches_opened hsettled.opened hsettled.attuned
        have heffects := hmatches.effects_eq (looksAtDatabase_of_mem_actions hlooks')
        unfold Session.history
        rw [hgo]
        refine ⟨hreports, ?_⟩
        rw [heffects] at hacted
        exact congrArg (List.cons (some (a.effect (.opened db)))) hacted

end History

/-- Before the first opening nothing happens. -/
theorem history_before {s : Session} (hhandles : s.handles = []) {visits : List Visit}
    (hattended : Attended [] visits) :
    (visits.find? Visit.isOpening = none ∧ openings (s.history visits) = [] ∧
      acted (s.history visits) = []) ∨
    ∃ v rest, visits.find? Visit.isOpening = some v ∧ (∀ u ∈ v :: rest, u ∈ visits) ∧
      Attended [v.name] rest ∧ actions visits = actions rest ∧
      openings (s.history visits) = openings (s.history (v :: rest)) ∧
      acted (s.history visits) = acted (s.history (v :: rest)) := by
  induction visits with
  | nil => exact .inl ⟨rfl, rfl, rfl⟩
  | cons v rest ih =>
    cases v with
    | connect name clock config =>
      exact .inr ⟨_, rest, rfl, fun _ hu => hu, hattended, rfl, rfl, rfl⟩
    | initDb name clock path =>
      exact .inr ⟨_, rest, rfl, fun _ hu => hu, hattended, rfl, rfl, rfl⟩
    | act name a => cases hattended.1
    | close name =>
      have hclose : (s.close name).getD s = s := by
        unfold Session.close find?
        rw [hhandles]
        rfl
      have hhistory : s.history (.close name :: rest) = .closed :: s.history rest :=
        congrArg (fun s : Session => Response.closed :: s.history rest) hclose
      rw [hhistory]
      rcases ih hattended with hnone | ⟨v, rest', hfind, hmem, hattended', hactions, hsame⟩
      · exact .inl hnone
      · exact .inr ⟨v, rest', hfind, fun u hu => List.mem_cons_of_mem _ (hmem u hu), hattended',
          hactions, hsame⟩

/-- **Restarts are invisible.** Over a path that can be opened, in a history in which every action
comes to an open handle, the first opening applies all built-in migrations, and every further one
succeeds and finds nothing to do. Every action has the effect that it has in the history without the
closings and the openings behind the first one. -/
theorem reopenings_invisible {s : Session} {path : String} {p : Path} (hhandles : s.handles = [])
    (hopen : s.CanOpen path p) {visits : List Visit} (hpath : ∀ v ∈ visits, v.IsAt path)
    (hattended : Attended [] visits) (hlooks : ∀ v ∈ visits, v.LooksAtDatabase) :
    (∀ r ∈ (openings (s.history visits)).head?, r = .ok ⟨[10, 11, 16], 16⟩) ∧
      (∀ r ∈ (openings (s.history visits)).tail, r = .ok ⟨[], 16⟩) ∧
      none ∉ acted (s.history visits) ∧
      acted (s.history visits) = acted (s.history (withoutReopenings visits)) := by
  unfold withoutReopenings
  rcases history_before hhandles hattended with ⟨hfind, hopenings, hacted⟩ |
    ⟨v, rest, hfind, hmem, hattended', hactions, hopenings, hacted⟩
  · rw [hfind, hopenings, hacted]
    simp [Session.history, acted]
  · have hv : v.isOpening = true := List.find?_some hfind
    obtain ⟨clock, busyTimeout, verify, hgo⟩ :=
      v.exists_start hv (hpath v (hmem v List.mem_cons_self))
    obtain ⟨s', handle, hstart, hattends, hready⟩ :=
      start_first hopen.toCanCreate hhandles clock busyTimeout verify
    have hgo := hgo hstart
    have hopened := hattends.put hopen v.name hready
    have hrest : ∀ u ∈ rest, u ∈ visits := fun u hu => hmem u (List.mem_cons_of_mem _ hu)
    obtain ⟨hreports, heffects⟩ := hopened.history hopen hattended'
      (fun u hu => hpath u (hrest u hu)) (fun u hu => hlooks u (hrest u hu))
    -- the other history goes on from the same session
    have hacts := looksAtDatabase_of_mem_actions hlooks
    obtain ⟨-, heffects'⟩ := hopened.history hopen (attended_acts v.name (actions visits))
      (fun u hu => by obtain ⟨a, -, rfl⟩ := List.mem_map.1 hu; trivial)
      (fun u hu => by obtain ⟨a, ha, rfl⟩ := List.mem_map.1 hu; exact hacts a ha)
    rw [actions_acts, hactions] at heffects'
    rw [hopenings, hacted, hfind]
    unfold Session.history
    rw [hgo]
    refine ⟨fun r hr => ?_, hreports, ?_, ?_⟩
    · cases hr
      rfl
    · show none ∉ acted (Session.history _ rest)
      rw [heffects]
      simp
    · show acted (Session.history _ rest) = acted (Session.history _ _)
      rw [heffects, hactions]
      exact heffects'.symm

/-- A session that begins on an empty disk. -/
def blank : Session := ⟨⟨[]⟩, [], [], []⟩

/-- A history with two handles at a time, one of which is closed and opened again. -/
def restarted : List Visit :=
  [.connect "a" Store.still ⟨"data/store.db", 3, 100, true⟩,
    .act "a" (.operation (.setOverride (Store.still 0) "k" (some "v"))),
    .initDb "b" Store.still "data/store.db", .close "a",
    .act "b" (.dispatch (Store.still 0) ⟨fun _ _ => [.clearOverride "k"], fun _ _ => .ok ()⟩
      ⟨"event-1", "created", "shop", .null⟩),
    .connect "a" Store.still ⟨"data/store.db", 1, 0, true⟩, .act "a" (.operation .listOverrides)]

/-- A history with two handles on a blank disk, one of which is closed and opened again. -/
theorem reopenings_invisible_restarted :
    blank.CanOpen "data/store.db" ["data", "store.db"] ∧ Attended [] restarted ∧
      (∀ r ∈ (openings (blank.history restarted)).head?, r = .ok ⟨[10, 11, 16], 16⟩) ∧
      (∀ r ∈ (openings (blank.history restarted)).tail, r = .ok ⟨[], 16⟩) ∧
      none ∉ acted (blank.history restarted) ∧
      acted (blank.history restarted) = acted (blank.history (withoutReopenings restarted)) := by
  have hopen : blank.CanOpen "data/store.db" ["data", "store.db"] := by decide +kernel
  have hattended : Attended [] restarted := by simp [restarted, Attended]
  refine ⟨hopen, hattended, reopenings_invisible rfl hopen ?_ hattended ?_⟩
  · simp [restarted, Visit.IsAt]
  · simp [restarted, Visit.LooksAtDatabase, Action.LooksAtDatabase, Plan.LooksAtDatabase]

end Session

end DispatchStore
