import DispatchStore.Host.FileTree
import Mathlib.Tactic.Common

/-!
# Trees with one more file

What lies at a path after an entry was put somewhere (`find?_put_self`, `find?_put_of_ne`), and what
a file that is new in a tree leaves as it was: making the directories that lead to it once more
makes none (`makeDirectories_put`), and names that lead somewhere in spite of a file also do so
without it (`resolve?_of_put`).

A file that is opened for writing, and created if it is missing, keeps the database that was there
(`openDatabase_parts`), and what a handle sees of a tree (`Entry.seen`) does not change when what
was written ahead comes into the file itself (`seen_checkpoint`).
-/

namespace DispatchStore

/-- A file beside another one is not that one. -/
theorem Path.beside_ne {p : Path} (h : p ≠ []) {ending : String} (hending : ending ≠ "") :
    p.beside ending ≠ p := by
  intro heq
  have hlast := congrArg List.getLast? heq
  rw [beside, List.getLast?_concat, List.getLast?_eq_some_getLast h, Option.some.injEq,
    List.getLastD_eq_getLast?, List.getLast?_eq_some_getLast h, Option.getD_some] at hlast
  have hlength := congrArg String.length hlast
  rw [String.length_append] at hlength
  refine hending (String.length_eq_zero_iff.1 ?_)
  omega

/-- The directory of a file is not the file. -/
theorem Path.dropLast_ne {p : Path} (h : p ≠ []) : p.dropLast ≠ p := by
  intro heq
  have hlength := congrArg List.length heq
  have hpos := List.length_pos_iff.2 h
  rw [List.length_dropLast] at hlength
  omega

/-! ## What is seen of an entry -/

/-- What a handle sees of an entry: it makes no difference how much of a database is in the file
itself. -/
def Entry.seen : Entry → Entry
  | .database db journal _ => .database db journal db
  | e => e

/-- Only a directory is seen as one. -/
theorem Entry.eq_directory_of_seen {e : Entry} (h : e.seen = .directory) : e = .directory := by
  cases e with
  | directory => rfl
  | file _ | database _ _ _ => cases h

/-- What is seen as a database is one, whatever of it is in the file itself. -/
theorem Entry.eq_database_of_seen {e : Entry} {db saved : Database} {journal : Journal}
    (h : e.seen = .database db journal saved) : ∃ saved', e = .database db journal saved' := by
  cases e with
  | directory | file _ => cases h
  | database db' journal' saved' =>
    cases h
    exact ⟨saved', rfl⟩

namespace FileTree

variable {t t' : FileTree} {p q : Path} {e e' : Entry}

/-! ## Entries -/

/-- A place where nothing lies is not the root, for that is a directory. -/
theorem ne_nil_of_find?_eq_none (h : t.find? p = none) : p ≠ [] := by
  rintro rfl
  cases h

/-- Apart from the root, what is found at a path is its entry. -/
theorem lookup_of_find? (h : p ≠ []) : t.entries.lookup p = t.find? p := (if_neg h).symm

/-- Looking up in entries of which those of one path were replaced. -/
theorem lookup_replaced (entries : List (Path × Entry)) (p q : Path) (e : Entry) :
    (entries.map fun x => if x.1 = p then (p, e) else x).lookup q =
      if q = p then (entries.lookup p).map fun _ => e else entries.lookup q := by
  induction entries with
  | nil => simp
  | cons x rest ih =>
    rw [List.map_cons, List.lookup_cons, ih, List.lookup_cons, List.lookup_cons]
    by_cases hx : x.1 = p
    · rw [if_pos hx]
      by_cases hq : q = p
      · simp [hq, hx]
      · have hqp : (q == p) = false := beq_false_of_ne hq
        have hqx : (q == x.1) = false := hx ▸ hqp
        rw [hqp, hqx, if_neg hq, if_neg hq]
    · have hpx : (p == x.1) = false := beq_false_of_ne (Ne.symm hx)
      rw [if_neg hx, hpx]
      by_cases hq : q = p
      · rw [hq, hpx, if_pos rfl]
      · rw [if_neg hq, if_neg hq]

/-- What was put at a path is found there. -/
@[simp] theorem find?_put_self (h : p ≠ []) : (t.put p e).find? p = some e := by
  unfold put
  split
  · next hsome =>
    rw [← lookup_of_find? h]
    dsimp only
    rw [lookup_replaced, if_pos rfl]
    obtain ⟨e', he'⟩ := Option.isSome_iff_exists.1 hsome
    rw [he']
    rfl
  · next hnone =>
    rw [← lookup_of_find? h]
    dsimp only
    rw [List.lookup_append, Option.not_isSome_iff_eq_none.1 hnone]
    simp

/-- What is put at a path does not show at another one. -/
@[simp] theorem find?_put_of_ne (h : q ≠ p) : (t.put p e).find? q = t.find? q := by
  unfold find? put
  split
  · rfl
  · split
    · dsimp only
      rw [lookup_replaced, if_neg h]
    · dsimp only
      have hqp : (q == p) = false := beq_false_of_ne h
      rw [List.lookup_append, List.lookup_cons, hqp, List.lookup_nil, Option.or_none]

/-- Of two entries put at one path the first one does not count. -/
@[simp]
theorem put_put (t : FileTree) (p : Path) (e e' : Entry) : (t.put p e).put p e' = t.put p e' := by
  have hreplaced : ∀ entries : List (Path × Entry),
      (entries.map fun x => if x.1 = p then (p, e) else x).map
        (fun x => if x.1 = p then (p, e') else x) =
          entries.map fun x => if x.1 = p then (p, e') else x := by
    intro entries
    rw [List.map_map]
    refine List.map_congr_left fun x _ => ?_
    rw [Function.comp_apply]
    by_cases hx : x.1 = p
    · rw [if_pos hx, if_pos rfl, if_pos hx]
    · rw [if_neg hx, if_neg hx]
  by_cases hsome : (t.entries.lookup p).isSome = true
  · unfold put
    simp only [hsome, if_true, lookup_replaced, Option.isSome_map, hreplaced]
  · have hnone : t.entries.lookup p = none := Option.not_isSome_iff_eq_none.1 hsome
    have hothers : t.entries.map (fun x => if x.1 = p then (p, e') else x) = t.entries := by
      refine (List.map_congr_left fun x hx => if_neg ?_).trans (List.map_id _)
      rintro rfl
      have hne := List.lookup_eq_none_iff.1 hnone x hx
      simp at hne
    unfold put
    simp [hnone, hothers, List.lookup_append]

/-! ## Files and directories -/

/-- A directory is at a path exactly if that is what is found. -/
theorem isDirectory_iff : t.isDirectory p = true ↔ t.find? p = some .directory :=
  decide_eq_true_iff

/-- A file is at a path exactly if something else than a directory is found. -/
theorem isFile_iff : t.isFile p = true ↔ ∃ e, t.find? p = some e ∧ e ≠ .directory := by
  unfold isFile
  cases t.find? p with
  | none => simp
  | some e => simp

/-- Where a file was put there is one, and elsewhere is what was there. -/
theorem isFile_put (h : p ≠ []) (he : e ≠ .directory) :
    (t.put p e).isFile q = true ↔ q = p ∨ t.isFile q = true := by
  by_cases hq : q = p
  · simp [isFile_iff, hq, h, he]
  · simp [isFile_iff, hq]

/-- Where there is neither a directory nor a file, nothing is found. -/
theorem find?_eq_none_of_not (hd : t.isDirectory p = false) (hf : t.isFile p = false) :
    t.find? p = none := by
  cases hfind : t.find? p with
  | none => rfl
  | some e =>
    have hdirectory : e ≠ .directory := by
      rintro rfl
      rw [isDirectory_iff.2 hfind] at hd
      cases hd
    rw [isFile_iff.2 ⟨e, hfind, hdirectory⟩] at hf
    cases hf

/-- A directory beside one path is no directory of another name that was put there. -/
theorem isTaken_put (h : p ≠ []) {ending : String} (hending : ending ≠ "") (e : Entry) :
    (t.put p e).isTaken p ending = t.isTaken p ending := by
  unfold isTaken isDirectory
  rw [find?_put_of_ne (Path.beside_ne h hending)]

/-- An empty file stands for a database without tables, and has no pages yet. -/
theorem of_emptyFile (h : t.find? p = some (.file "")) :
    t.journal p = .delete ∧ t.database p = .empty ∧ t.hasPages p = false := by
  unfold journal database hasPages isWritten isForeign
  rw [h]
  exact ⟨rfl, rfl, rfl⟩

/-! ## Directories that are made -/

/-- What lies at a path stays there when directories are made. -/
theorem find?_makeDirectories (h : t.find? q = some e) (here : Path) (names : List String) :
    (t.makeDirectories here names).find? q = some e := by
  fun_induction makeDirectories t here names with
  | case1 => exact h
  | case2 t here rest ih => exact ih h
  | case3 t here name rest hname next hd ih => exact ih h
  | case4 t here name rest hname next hd hstop => exact h
  | case5 t here name rest hname next hd hstop ih =>
    refine ih ?_
    rw [find?_put_of_ne]
    · exact h
    · rintro rfl
      rw [Bool.or_eq_true, not_or] at hstop
      have hnone := find?_eq_none_of_not (Bool.eq_false_iff.2 hd) (Bool.eq_false_iff.2 hstop.1)
      rw [h] at hnone
      cases hnone

/-- With a new file in the tree nothing is left to be made of the directories that were made. -/
theorem makeDirectories_put {here : Path} {names : List String}
    (hp : (t.makeDirectories here names).find? p = none) (he : e ≠ .directory) :
    ((t.makeDirectories here names).put p e).makeDirectories here names =
      (t.makeDirectories here names).put p e := by
  have hne := ne_nil_of_find?_eq_none hp
  -- where something lies in the old tree, the same lies in the new one
  have hkeeps : ∀ {u : FileTree} {q : Path} {x : Entry} {here : Path} {names : List String},
      (u.makeDirectories here names).find? p = none → u.find? q = some x →
      ((u.makeDirectories here names).put p e).find? q = some x := by
    intro u q x here names hnone hx
    have hmade := find?_makeDirectories hx here names
    rw [find?_put_of_ne]
    · exact hmade
    · rintro rfl
      rw [hmade] at hnone
      cases hnone
  fun_induction makeDirectories t here names with
  | case1 => rfl
  | case2 t here rest ih => rw [makeDirectories, if_pos rfl, ih hp]
  | case3 t here name rest hname next hd ih =>
    rw [makeDirectories, if_neg hname]
    dsimp only
    rw [if_pos (isDirectory_iff.2 (hkeeps hp (isDirectory_iff.1 hd))), ih hp]
  | case4 t here name rest hname next hd hstop =>
    -- a file, or a name that is too long, ends it again
    have hd' : ¬ (t.put p e).isDirectory next = true := by
      rw [isDirectory_iff]
      by_cases hnext : next = p
      · rw [hnext, find?_put_self hne]
        intro heq
        exact he (Option.some.inj heq)
      · rw [find?_put_of_ne hnext, ← isDirectory_iff]
        exact hd
    have hstop' : ((t.put p e).isFile next || Path.maxName < name.utf8ByteSize) = true := by
      rw [Bool.or_eq_true] at hstop ⊢
      refine hstop.imp_left fun hfile => ?_
      obtain ⟨x, hx, hxd⟩ := isFile_iff.1 hfile
      refine isFile_iff.2 ⟨x, ?_, hxd⟩
      rw [find?_put_of_ne]
      · exact hx
      · rintro rfl
        rw [hx] at hp
        cases hp
    rw [makeDirectories, if_neg hname]
    dsimp only
    rw [if_neg hd', if_pos hstop']
  | case5 t here name rest hname next hd hstop ih =>
    have hnext : next ≠ [] := List.append_ne_nil_of_right_ne_nil _ (List.cons_ne_nil _ _)
    rw [makeDirectories, if_neg hname]
    dsimp only
    rw [if_pos (isDirectory_iff.2 (hkeeps hp (find?_put_self hnext))), ih hp]

/-! ## Names that lead to a path -/

/-- Names that lead somewhere also lead there where fewer files are in the way. -/
theorem resolve?_mono (h : ∀ q, t.isFile q = true → t'.isFile q = true) {here : Path}
    {names : List String} (hresolve : t'.resolve? here names = some p) :
    t.resolve? here names = some p := by
  induction names generalizing here with
  | nil => exact hresolve
  | cons name rest ih =>
    unfold resolve? at hresolve ⊢
    split at hresolve
    · next hname =>
      rw [if_pos hname]
      exact ih hresolve
    · next hname =>
      rw [if_neg hname]
      split at hresolve
      · cases hresolve
      · next hfree =>
        rw [if_neg]
        · exact ih hresolve
        · intro hblocked
          rw [Bool.or_eq_true] at hblocked hfree
          exact hfree (hblocked.imp_left (h here))

/-- Names lead where they lead in spite of a file. -/
theorem resolve?_of_put (h : p ≠ []) (he : e ≠ .directory) {here : Path} {names : List String}
    (hresolve : (t.put p e).resolve? here names = some q) : t.resolve? here names = some q :=
  resolve?_mono (fun _ hfile => (isFile_put h he).2 (.inr hfile)) hresolve

/-- For where names lead it makes no difference which file is put at a path. -/
theorem resolve?_put_file (h : p ≠ []) (he : e ≠ .directory) (he' : e' ≠ .directory) {here : Path}
    {names : List String} (hresolve : (t.put p e).resolve? here names = some q) :
    (t.put p e').resolve? here names = some q := by
  refine resolve?_mono (fun r hr => ?_) hresolve
  rw [isFile_put h he'] at hr
  exact (isFile_put h he).2 hr

/-! ## Database files -/

/-- A missing file that was created lies in a directory and has a path that is not too long. -/
theorem openDatabase_created (hfree : t.find? p = none)
    (h : t.openDatabase p .create = .ok t') :
    t.isDirectory p.dropLast = true ∧ (Path.text p).utf8ByteSize ≤ Path.maxLength ∧
      t' = t.put p (.file "") := by
  unfold openDatabase at h
  rw [hfree] at h
  split at h
  · cases h
  · next hfits =>
    cases h
    simp only [Bool.or_eq_true, not_or, Bool.not_eq_true', Bool.not_eq_false, decide_eq_true_iff,
      Nat.not_lt] at hfits
    exact ⟨hfits.1, hfits.2, rfl⟩

/-- What is opened, and created if it is missing, is no directory and holds the database that was
there. Nothing else changes. -/
theorem openDatabase_parts (h : t.openDatabase p .create = .ok t') :
    t.find? p ≠ some .directory ∧ t'.database p = t.database p ∧
      ∀ q, q ≠ p → t'.find? q = t.find? q := by
  cases hfind : t.find? p with
  | none =>
    obtain ⟨-, -, rfl⟩ := openDatabase_created hfind h
    refine ⟨nofun, ?_, fun q hq => find?_put_of_ne hq⟩
    unfold database
    rw [find?_put_self (ne_nil_of_find?_eq_none hfind), hfind]
  | some e =>
    unfold openDatabase at h
    rw [hfind] at h
    split at h
    · cases h
    · cases e with
      | directory => cases h
      | file _ | database _ _ _ =>
        cases h
        exact ⟨by simp, rfl, fun _ _ => rfl⟩

/-- The database at a path is that of the entry that is found. -/
theorem database_of_find? {db saved : Database} {journal : Journal}
    (h : t.find? p = some (.database db journal saved)) : t.database p = db := by
  unfold database
  rw [h]

/-- A database in write-ahead mode is replaced in its place. -/
theorem find?_store {db saved : Database} (h : t.find? p = some (.database db .wal saved))
    (hp : p ≠ []) (db' : Database) :
    (t.store p db').find? p = some (.database db' .wal saved) := by
  have hwritten : t.isWritten p = true := by
    unfold isWritten
    rw [h]
  have hjournal : t.journal p = .wal := by
    unfold journal
    rw [h]
  have hsaved : t.saved p = saved := by
    unfold FileTree.saved
    rw [h]
  unfold store
  simp only [hwritten, hjournal, hsaved, Bool.true_or, if_true, find?_put_self hp]

/-- Storing a database at a path does not show at another one. -/
theorem find?_store_of_ne {q : Path} (hq : q ≠ p) (db : Database) :
    (t.store p db).find? q = t.find? q := by
  unfold store
  split
  · exact find?_put_of_ne hq
  · rfl

/-- Bringing what was written ahead into the file is not seen. -/
theorem seen_checkpoint (t : FileTree) (p q : Path) :
    ((t.checkpoint p).find? q).map Entry.seen = (t.find? q).map Entry.seen := by
  unfold checkpoint
  split
  · next db journal saved hfind =>
    by_cases hq : q = p
    · rw [hq]
      by_cases hp : p = []
      · rw [hp]
        rfl
      · rw [find?_put_self hp, hfind]
        rfl
    · rw [find?_put_of_ne hq]
  · rfl

/-- A directory is seen as such only where there is one. -/
theorem find?_directory_of_seen
    (hseen : (t'.find? p).map Entry.seen = (t.find? p).map Entry.seen)
    (h : t.find? p = some .directory) : t'.find? p = some .directory := by
  rw [h] at hseen
  obtain ⟨e, he, hdirectory⟩ := Option.map_eq_some_iff.1 hseen
  rw [he, Entry.eq_directory_of_seen hdirectory]

/-- A database that is seen is there. -/
theorem find?_database_of_seen {db saved : Database} {journal : Journal}
    (hseen : (t'.find? p).map Entry.seen = (t.find? p).map Entry.seen)
    (h : t.find? p = some (.database db journal saved)) :
    ∃ saved', t'.find? p = some (.database db journal saved') := by
  rw [h] at hseen
  obtain ⟨e, he, hdatabase⟩ := Option.map_eq_some_iff.1 hseen
  obtain ⟨saved', rfl⟩ := Entry.eq_database_of_seen hdatabase
  exact ⟨saved', he⟩

end FileTree

end DispatchStore
