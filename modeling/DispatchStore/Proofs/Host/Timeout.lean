import DispatchStore.Proofs.Config.Grammar
import DispatchStore.Proofs.Host.Openable

/-!
# The timeout that is kept

The timeout of a configuration has 64 bits, and it comes to the engine as text, which reads 32 bits
with a sign from it (`Handle.keptTimeout_eq`). Every connection that is set up for a configuration
waits as long as the engine has read, and says so when it is asked for its settings
(`Session.connect_busyTimeout`). That is the timeout of the configuration as long as it is not above
`Handle.maxBusyTimeout`. A longer one is none at all, although the configuration was accepted
(`Session.connect_forgetsTimeout`).
-/

namespace DispatchStore

/-- The engine reads the timeout from the text that writes it, as far as it can hold the number. -/
theorem Handle.keptTimeout_eq (n : Nat) :
    keptTimeout n = (Decimal.readBounded? maxBusyTimeout (toString n)).getD 0 := by
  unfold keptTimeout
  split
  · next hle =>
    rw [Decimal.readBounded?_eq_some_iff.2 ⟨Decimal.writes_toString n, hle⟩]
    rfl
  · next hgt =>
    have hnone : Decimal.readBounded? maxBusyTimeout (toString n) = none := by
      rw [Option.eq_none_iff_forall_ne_some]
      intro m hm
      obtain ⟨hwrites, hle⟩ := Decimal.readBounded?_eq_some_iff.1 hm
      exact hgt (hwrites.unique (Decimal.writes_toString n) ▸ hle)
    rw [hnone]
    rfl

/-- What the engine keeps is the timeout only as long as it is not too long. -/
theorem Handle.keptTimeout_eq_self_iff (n : Nat) : keptTimeout n = n ↔ n ≤ maxBusyTimeout := by
  unfold keptTimeout
  split
  · next hle => exact iff_of_true rfl hle
  · next hgt =>
    refine iff_of_false (fun hzero => hgt ?_) hgt
    rw [← hzero]
    exact Nat.zero_le _

namespace Session

variable {s t : Session} {name path : String} {clock : Clock} {busyTimeout : Nat}

/-- One more connection to the database of a path: what the location names is opened, and the
connection is set up for work. -/
def join (s : Session) (path : String) (busyTimeout : Nat) : Except Fault (Session × Handle) := do
  let (s, source) ← s.openSource path
  s.tune source busyTimeout

/-- Opening a path for work makes the directories and then the first connection. -/
theorem join_of_openPath {h : Handle} (hopened : s.openPath path busyTimeout = (t, .ok h)) :
    join { s with tree := s.makeParents path } path busyTimeout = .ok (t, h) := by
  obtain ⟨u, source, hsource, htune⟩ := openPath_parts hopened
  unfold join
  rw [hsource]
  exact htune

/-- Every connection waits as long as the engine keeps of the timeout. -/
theorem busyTimeout_join {h : Handle} (hjoin : s.join path busyTimeout = .ok (t, h)) :
    h.closed = false ∧ h.settings.busyTimeout = Handle.keptTimeout busyTimeout := by
  unfold join at hjoin
  obtain ⟨⟨u, source⟩, -, htune⟩ := bind_eq_ok_iff.1 hjoin
  obtain ⟨_, _, rfl⟩ := exists_tuned htune
  exact ⟨rfl, rfl⟩

/-- After a start the handle says which timeout the engine keeps. -/
theorem settings_of_startAs {verify : Bool} {report : Report}
    (h : s.startAs name clock path busyTimeout verify = (t, .ok report)) :
    ∃ handle, t.find? name = some handle ∧ t.settings name = some (t, .ok handle.settings) ∧
      handle.settings.busyTimeout = Handle.keptTimeout busyTimeout := by
  obtain ⟨q, handle, hstart, rfl⟩ := startAs_parts h
  obtain ⟨opened, new, hopened, hwork⟩ := start_parts hstart
  obtain ⟨hnew, htimeout⟩ := busyTimeout_join (join_of_openPath hopened)
  -- the pass behind the handle leaves it open, and its connection knows the schema
  obtain ⟨store, source, hpass, rfl⟩ := exists_upgraded hnew hwork
  obtain ⟨-, -, -, hknown⟩ := Store.upgrade_parts_of_ok hpass
  refine ⟨_, find?_put_self _ _ _, ?_, htimeout⟩
  unfold settings
  rw [find?_put_self, Option.map_some]
  dsimp only
  rw [hnew, hknown]
  rfl

/-- Whatever is done with a handle, its timeout stays. -/
theorem busyTimeout_worked {h : Handle} (hfind : s.find? name = some h)
    (fs : List (Store → Store)) :
    ∃ h', (s.worked name fs).find? name = some h' ∧
      h'.settings.busyTimeout = h.settings.busyTimeout := by
  refine worked_induction (P := fun _ x => x.settings.busyTimeout = h.settings.busyTimeout)
    (fun u x f _ hx => ?_) hfind rfl fs
  obtain ⟨source, hworked⟩ := exists_worked u x f
  rw [hworked]
  exact hx

/-- **The timeout that is kept.** When a configuration was read and its database opened, the handle
says the timeout that the engine reads from the text of the configured one, whatever is done with
it, and so does every further connection. That is the configured timeout if and only if this is not
too long, and otherwise none. -/
theorem connect_busyTimeout {env : Environment} {c : Config} (hread : Config.read env = .ok c)
    {report : Report} (hconnect : s.connect name clock c = (t, .ok report)) :
    (∀ raw ∈ env "DB_BUSY_TIMEOUT_MS", Decimal.Writes (Text.trim raw) c.busyTimeout) ∧
    ∃ kept, kept = (Decimal.readBounded? Handle.maxBusyTimeout (toString c.busyTimeout)).getD 0 ∧
      (∃ settings, t.settings name = some (t, .ok settings) ∧ settings.busyTimeout = kept) ∧
      (∀ fs, ∃ h, (t.worked name fs).find? name = some h ∧ h.settings.busyTimeout = kept) ∧
      (∀ u u' h, join u c.databasePath c.busyTimeout = .ok (u', h) →
        h.settings.busyTimeout = kept) ∧
      (kept = c.busyTimeout ↔ c.busyTimeout ≤ 2147483647) ∧
      (2147483647 < c.busyTimeout → kept = 0) := by
  obtain ⟨handle, hfind, hsettings, hkept⟩ := settings_of_startAs hconnect
  refine ⟨fun raw hraw => ?_, Handle.keptTimeout c.busyTimeout, Handle.keptTimeout_eq _,
    ⟨handle.settings, hsettings, hkept⟩, fun fs => ?_,
    fun u u' h hjoin => (busyTimeout_join hjoin).2,
    Handle.keptTimeout_eq_self_iff _, fun hlong => if_neg (Nat.not_le.2 hlong)⟩
  · refine (Config.says_of_read hread).timeout _ ?_
    unfold Config.setting
    rw [hraw]
    rfl
  · obtain ⟨h, hh, hsame⟩ := busyTimeout_worked hfind fs
    exact ⟨h, hh, hsame.trans hkept⟩

/-- A timeout that is written with a sign and zeros, for a session that begins on an empty disk. -/
theorem connect_busyTimeout_padded :
    let env : Environment := fun key =>
      [("TRETA_DB_PATH", "data/store.db"), ("DB_BUSY_TIMEOUT_MS", " +0002147483647")].lookup key
    let c : Config := ⟨"data/store.db", 5, 2147483647, false⟩
    Config.read env = .ok c ∧ Decimal.Writes "+0002147483647" 2147483647 ∧
    ∃ t settings, blank.connect "a" Store.still c = (t, .ok ⟨[10, 11, 16], 16⟩) ∧
      t.settings "a" = some (t, .ok settings) ∧ settings.busyTimeout = 2147483647 ∧
      ∃ u h, join { blank with tree := blank.makeParents c.databasePath } c.databasePath
          c.busyTimeout = .ok (u, h) ∧ h.settings.busyTimeout = 2147483647 := by
  intro env c
  have hread : Config.read env = .ok c := by decide +kernel
  have hcreate : blank.CanCreate c.databasePath ["data", "store.db"] := by decide +kernel
  obtain ⟨t, hconnect⟩ := connect_of_canCreate hcreate rfl "a" Store.still
  obtain ⟨u, h, hopened, -⟩ := hcreate.openPath_first rfl c.busyTimeout
  have hjoin := join_of_openPath hopened
  obtain ⟨hwrites, kept, -, ⟨settings, hsettings, hkept⟩, -, hothers, hsame, -⟩ :=
    connect_busyTimeout hread hconnect
  have hvalue : kept = 2147483647 := hsame.2 (Nat.le_refl _)
  have htrim : Text.trim " +0002147483647" = "+0002147483647" := by decide +kernel
  exact ⟨hread, htrim ▸ hwrites _ rfl, t, settings, hconnect, hsettings, hkept.trans hvalue, u, h,
    hjoin, (hothers _ u h hjoin).trans hvalue⟩

/-- The first timeout that is too long is accepted, and then nothing is waited for. -/
theorem connect_forgetsTimeout :
    let env : Environment := fun key =>
      [("TRETA_DB_PATH", "data/store.db"), ("DB_BUSY_TIMEOUT_MS", "2147483648")].lookup key
    let c : Config := ⟨"data/store.db", 5, 2147483648, false⟩
    Config.read env = .ok c ∧
    ∃ t settings, blank.connect "a" Store.still c = (t, .ok ⟨[10, 11, 16], 16⟩) ∧
      t.settings "a" = some (t, .ok settings) ∧ settings.busyTimeout = 0 ∧
      settings.busyTimeout ≠ c.busyTimeout := by
  intro env c
  have hcreate : blank.CanCreate c.databasePath ["data", "store.db"] := by decide +kernel
  obtain ⟨t, hconnect⟩ := connect_of_canCreate hcreate rfl "a" Store.still
  obtain ⟨handle, -, hsettings, hkept⟩ := settings_of_startAs hconnect
  have hzero : handle.settings.busyTimeout = 0 := hkept.trans rfl
  exact ⟨by decide +kernel, t, handle.settings, hconnect, hsettings, hzero, by rw [hzero]; decide⟩

end Session

end DispatchStore
