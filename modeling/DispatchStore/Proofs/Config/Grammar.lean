import Mathlib.Data.Nat.Digits.Defs
import Mathlib.Tactic.SplitIfs
import DispatchStore.Config
import DispatchStore.Proofs.Text.Trim

/-!
# Environments that give a configuration

Four variables can be wrong, and a rule says of each what it may hold (`Config.rules`). What the
texts then mean is said by `Config.Says`. Reading an environment gives the configuration that it
says if all rules hold, and otherwise the fault of the first rule that does not
(`Config.read_grammar`). The blanks around a text never count, the directory counts only where no
path is given, and no other variable counts at all.
-/

namespace DispatchStore

/-! ## Numbers in decimal -/

namespace Decimal

/-- The text writes the number: digits, at least one of them, behind at most one plus sign. -/
def Writes (s : String) (n : Nat) : Prop :=
  ∃ sign digits, s.toList = sign ++ digits ∧ (sign = [] ∨ sign = ['+']) ∧ digits ≠ [] ∧
    (∀ d ∈ digits, '0' ≤ d ∧ d ≤ '9') ∧ n = Nat.ofDigits 10 (digits.reverse.map digitValue)

/-- What stands behind a plus sign, or all if there is none. -/
def unsigned : List Char → List Char
  | '+' :: ds => ds
  | ds => ds

/-- The digits are the characters from `0` to `9`. -/
theorem isDigit_iff {c : Char} : c.isDigit = true ↔ '0' ≤ c ∧ c ≤ '9' := by
  unfold Char.isDigit
  rw [Bool.and_eq_true, decide_eq_true_iff, decide_eq_true_iff]
  rfl

/-- Digits have the value that they have turned around, from the lowest place on. -/
theorem ofDigits_eq (ds : List Char) :
    ofDigits ds = Nat.ofDigits 10 (ds.reverse.map digitValue) := by
  unfold ofDigits
  rw [Nat.ofDigits_eq_foldr, List.foldr_map, List.foldr_reverse]
  exact List.foldl_ext _ _ _ fun n d _ => Nat.add_comm _ _

/-- A text is at most one plus sign and what stands behind it. -/
theorem exists_sign_unsigned (cs : List Char) :
    ∃ sign, cs = sign ++ unsigned cs ∧ (sign = [] ∨ sign = ['+']) := by
  unfold unsigned
  split
  · exact ⟨['+'], rfl, .inr rfl⟩
  · exact ⟨[], rfl, .inl rfl⟩

/-- Digits are all that is left of digits behind a sign: none of them is taken for the sign. -/
theorem unsigned_append {sign ds : List Char} (hsign : sign = [] ∨ sign = ['+'])
    (hdigits : ∀ d ∈ ds, '0' ≤ d ∧ d ≤ '9') : unsigned (sign ++ ds) = ds := by
  rcases hsign with rfl | rfl
  · rw [List.nil_append]
    unfold unsigned
    split
    · next rest =>
      have hplus := (hdigits '+' List.mem_cons_self).1
      exact absurd hplus (by decide)
    · rfl
  · rfl

/-- A text writes a number if what stands behind the sign is digits, at least one, and they make the
number. -/
theorem writes_iff {s : String} {n : Nat} :
    Writes s n ↔ (unsigned s.toList ≠ [] ∧ ∀ d ∈ unsigned s.toList, '0' ≤ d ∧ d ≤ '9') ∧
      n = ofDigits (unsigned s.toList) := by
  constructor
  · rintro ⟨sign, ds, hs, hsign, hne, hdigits, rfl⟩
    rw [hs, unsigned_append hsign hdigits, ofDigits_eq]
    exact ⟨⟨hne, hdigits⟩, rfl⟩
  · rintro ⟨⟨hne, hdigits⟩, rfl⟩
    obtain ⟨sign, hs, hsign⟩ := exists_sign_unsigned s.toList
    exact ⟨sign, _, hs, hsign, hne, hdigits, ofDigits_eq _⟩

/-- A text writes one number at most. -/
theorem Writes.unique {s : String} {n m : Nat} (h : Writes s n) (h' : Writes s m) : n = m :=
  (writes_iff.1 h).2.trans (writes_iff.1 h').2.symm

/-- A number up to a bound is read from just the texts that write it. -/
theorem readBounded?_eq_some_iff {bound n : Nat} {s : String} :
    readBounded? bound s = some n ↔ Writes s n ∧ n ≤ bound := by
  have hread : readBounded? bound s =
      if (unsigned s.toList ≠ [] ∧ ∀ d ∈ unsigned s.toList, '0' ≤ d ∧ d ≤ '9') ∧
        ofDigits (unsigned s.toList) ≤ bound
      then some (ofDigits (unsigned s.toList)) else none := by
    have hdigits : (!(unsigned s.toList).isEmpty && (unsigned s.toList).all Char.isDigit &&
        decide (ofDigits (unsigned s.toList) ≤ bound)) = true ↔
        (unsigned s.toList ≠ [] ∧ ∀ d ∈ unsigned s.toList, '0' ≤ d ∧ d ≤ '9') ∧
          ofDigits (unsigned s.toList) ≤ bound := by
      simp [isDigit_iff]
    exact if_congr hdigits rfl rfl
  rw [hread, writes_iff]
  split_ifs with h
  · obtain ⟨hdigits, hbound⟩ := h
    rw [Option.some.injEq]
    constructor
    · rintro rfl
      exact ⟨⟨hdigits, rfl⟩, hbound⟩
    · rintro ⟨⟨-, hn⟩, -⟩
      exact hn.symm
  · constructor
    · nofun
    · rintro ⟨⟨hdigits, rfl⟩, hbound⟩
      exact absurd ⟨hdigits, hbound⟩ h

/-- A number is written by its own digits. -/
theorem writes_toString (n : Nat) : Writes (toString n) n := by
  have hdigits : ∀ d ∈ Nat.toDigits 10 n, '0' ≤ d ∧ d ≤ '9' := fun d hd =>
    isDigit_iff.1 (Nat.isDigit_of_mem_toDigits (by decide) (by decide) hd)
  have hvalue : ofDigits (Nat.toDigits 10 n) = n := Nat.ofDigitChars_ten_toDigits
  refine ⟨[], Nat.toDigits 10 n, ?_, .inl rfl, Nat.toDigits_ne_nil, hdigits, ?_⟩
  · exact String.toList_ofList
  · rw [← ofDigits_eq, hvalue]

end Decimal

namespace Config

/-! ## What an environment may hold -/

/-- What a variable holds, without the blanks around it. -/
def setting (env : Environment) (key : String) : Option String := (env key).map Text.trim

/-- What a variable may hold, and the fault of an environment in which it holds another text. -/
structure Rule where
  key : String
  Admits : String → Prop
  fault : String → ConfigError

/-- A path is not empty. -/
def pathRule : Rule := ⟨"TRETA_DB_PATH", (· ≠ ""), fun _ => .blankPath⟩

/-- The number of connections is positive and has 32 bits. -/
def connectionsRule : Rule :=
  ⟨"DB_MAX_CONNECTIONS", fun s => ∃ n, Decimal.Writes s n ∧ 0 < n ∧ n ≤ 4294967295,
    fun _ => .badMaxConnections⟩

/-- The timeout has 64 bits. -/
def timeoutRule : Rule :=
  ⟨"DB_BUSY_TIMEOUT_MS", fun s => ∃ n, Decimal.Writes s n ∧ n ≤ 18446744073709551615,
    fun _ => .badBusyTimeout⟩

/-- The strictness is one of four words, in whichever letter case. -/
def strictRule : Rule :=
  ⟨"STRICT_SCHEMA", fun s => ∃ word ∈ ["true", "false", "1", "0"], Text.sameLetters s word = true,
    fun s => .badStrictSchema (Text.lower s)⟩

/-- The rules, in the order in which the variables are looked at. -/
def rules : List Rule := [pathRule, connectionsRule, timeoutRule, strictRule]

/-- The variable is not set, or holds what it may. -/
def Rule.Holds (r : Rule) (env : Environment) : Prop := ∀ s ∈ setting env r.key, r.Admits s

/-- The directory of the database if no path is given. A blank one counts as none. -/
def directory (env : Environment) : String :=
  ((setting env "TRETA_DATA_DIR").filter (· ≠ "")).getD "./.treta_data"

/-- The configuration has in each field what the environment says, or else what is the default. -/
structure Says (env : Environment) (c : Config) : Prop where
  path : ∀ s ∈ setting env "TRETA_DB_PATH", c.databasePath = s
  noPath : setting env "TRETA_DB_PATH" = none →
    c.databasePath = directory env ++ (if (directory env).endsWith "/" then "" else "/") ++
      "memory/treta.sqlite"
  connections : ∀ s ∈ setting env "DB_MAX_CONNECTIONS", Decimal.Writes s c.maxConnections
  noConnections : setting env "DB_MAX_CONNECTIONS" = none → c.maxConnections = 5
  timeout : ∀ s ∈ setting env "DB_BUSY_TIMEOUT_MS", Decimal.Writes s c.busyTimeout
  noTimeout : setting env "DB_BUSY_TIMEOUT_MS" = none → c.busyTimeout = 5000
  strict : ∀ s ∈ setting env "STRICT_SCHEMA",
    (c.strictSchema = true ↔ Text.sameLetters s "true" = true ∨ Text.sameLetters s "1" = true)
  noStrict : setting env "STRICT_SCHEMA" = none → c.strictSchema = false

/-! ## Reading one variable -/

variable {env env' : Environment}

/-- A text is put together from a setting if the reader does nothing but to read it from there. -/
theorem elim_setting {α : Type} (env : Environment) (key : String) (default : α) (f : String → α) :
    (setting env key).elim default f =
      match env key with
      | none => default
      | some raw => f (Text.trim raw) := by
  unfold setting
  cases env key <;> rfl

/-- The directory is the one that is set, trimmed, unless that is blank. -/
theorem directory_eq (env : Environment) :
    directory env =
      match env "TRETA_DATA_DIR" with
      | some d => if Text.isBlankText d then defaultDirectory else Text.trim d
      | none => defaultDirectory := by
  unfold directory setting
  cases env "TRETA_DATA_DIR" with
  | none => rfl
  | some d =>
    rw [Option.map_some, Option.filter_some]
    simp only [decide_not, Bool.not_eq_true', decide_eq_false_iff_not, Text.trim_eq_empty_iff]
    split_ifs <;> rfl

/-- The name of the file is put into the directory with one slash in between. -/
theorem joinPath_eq (directory : String) :
    joinPath (joinPath directory "memory") "treta.sqlite" =
      directory ++ (if directory.endsWith "/" then "" else "/") ++ "memory/treta.sqlite" := by
  have hmemory : ∀ before : String, (before ++ "memory").endsWith "/" = false := by
    intro before
    rw [Bool.eq_false_iff, ne_eq, String.endsWith_eq_endsWith_toSlice,
      String.Slice.endsWith_string_iff, String.copy_toSlice, String.toList_append]
    rintro ⟨start, heq⟩
    have hlast := congrArg List.getLast? heq
    simp at hlast
  have hjoined : joinPath directory "memory" =
      directory ++ (if directory.endsWith "/" then "" else "/") ++ "memory" := by
    unfold joinPath
    split_ifs <;> simp
  rw [hjoined]
  unfold joinPath
  rw [hmemory, if_neg Bool.false_ne_true]
  simp [String.append_assoc]

/-- The path is the one that is set, trimmed, or else lies below the directory. -/
theorem readDatabasePath_eq (env : Environment) :
    readDatabasePath env = (setting env pathRule.key).elim
      (.ok (directory env ++ (if (directory env).endsWith "/" then "" else "/") ++
        "memory/treta.sqlite"))
      fun s => if s = "" then .error .blankPath else .ok s := by
  rw [elim_setting, ← joinPath_eq, directory_eq]
  unfold readDatabasePath
  simp only [Text.trim_eq_empty_iff, pathRule]
  cases env "TRETA_DB_PATH" <;> rfl

/-- The number of connections is read from what is set, or else is five. -/
theorem readMaxConnections_eq (env : Environment) :
    readMaxConnections env = (setting env connectionsRule.key).elim (.ok 5) fun s =>
      match Decimal.readBounded? 4294967295 s with
      | some n => if 0 < n then .ok n else .error .badMaxConnections
      | none => .error .badMaxConnections := by
  rw [elim_setting]
  rfl

/-- The timeout is read from what is set, or else is five seconds. -/
theorem readBusyTimeout_eq (env : Environment) :
    readBusyTimeout env = (setting env timeoutRule.key).elim (.ok 5000) fun s =>
      match Decimal.readBounded? 18446744073709551615 s with
      | some n => .ok n
      | none => .error .badBusyTimeout := by
  rw [elim_setting]
  rfl

/-- The strictness is one of two words for yes or two for no, or else is no. -/
theorem readStrictSchema_eq (env : Environment) :
    readStrictSchema env = (setting env strictRule.key).elim (.ok false) fun s =>
      if Text.lower s = "true" || Text.lower s = "1" then .ok true
      else if Text.lower s = "false" || Text.lower s = "0" then .ok false
      else .error (.badStrictSchema (Text.lower s)) := by
  rw [elim_setting]
  rfl

/-! ## Rules and readers -/

/-- The reader follows the rule: what it reads has the property if the rule holds, and otherwise the
fault is that of the rule. -/
structure Rule.Governs {α : Type} (r : Rule) (env : Environment) (read : Except ConfigError α)
    (P : α → Prop) : Prop where
  ok : r.Holds env → ∃ a, read = .ok a ∧ P a
  error : ∀ s ∈ setting env r.key, ¬ r.Admits s → read = .error (r.fault s)

/-- A reader follows a rule if it reads what the rule admits and finds the fault of the rule in
anything else. -/
theorem Rule.governs_of {α : Type} {r : Rule} {read : Except ConfigError α} {default : α}
    {parse : String → Except ConfigError α} {Means : String → α → Prop}
    (hread : read = (setting env r.key).elim (.ok default) parse)
    (hadmits : ∀ s, r.Admits s → ∃ a, parse s = .ok a ∧ Means s a)
    (hrefuses : ∀ s, ¬ r.Admits s → parse s = .error (r.fault s)) :
    r.Governs env read fun a =>
      (∀ s ∈ setting env r.key, Means s a) ∧ (setting env r.key = none → a = default) := by
  subst hread
  cases hs : setting env r.key with
  | none =>
    refine ⟨fun _ => ⟨default, rfl, nofun, fun _ => rfl⟩, fun s hmem => ?_⟩
    rw [hs] at hmem
    cases hmem
  | some text =>
    have hmem : ∀ s ∈ some text, s = text := fun s h => (Option.some.inj h).symm
    refine ⟨fun hholds => ?_, fun s hsetting hnot => ?_⟩
    · obtain ⟨a, ha, hmeans⟩ := hadmits text (hholds text hs)
      refine ⟨a, ha, fun s h => ?_, nofun⟩
      rw [hmem s h]
      exact hmeans
    · rw [hs] at hsetting
      rw [hmem s hsetting] at hnot ⊢
      exact hrefuses text hnot

/-- The reader of the path follows its rule. -/
theorem pathRule_governs (env : Environment) :
    pathRule.Governs env (readDatabasePath env) fun path =>
      (∀ s ∈ setting env pathRule.key, path = s) ∧
        (setting env pathRule.key = none →
          path = directory env ++ (if (directory env).endsWith "/" then "" else "/") ++
            "memory/treta.sqlite") := by
  refine Rule.governs_of (readDatabasePath_eq env) (fun s hs => ?_) (fun s hs => ?_)
  · have hne : s ≠ "" := hs
    rw [if_neg hne]
    exact ⟨s, rfl, rfl⟩
  · have heq : s = "" := not_not.1 hs
    rw [if_pos heq]
    rfl

/-- The reader of the number of connections follows its rule. -/
theorem connectionsRule_governs (env : Environment) :
    connectionsRule.Governs env (readMaxConnections env) fun n =>
      (∀ s ∈ setting env connectionsRule.key, Decimal.Writes s n) ∧
        (setting env connectionsRule.key = none → n = 5) := by
  refine Rule.governs_of (readMaxConnections_eq env) (fun s hs => ?_) (fun s hs => ?_)
  · obtain ⟨n, hwrites, hpos, hle⟩ := hs
    rw [Decimal.readBounded?_eq_some_iff.2 ⟨hwrites, hle⟩]
    dsimp only
    rw [if_pos hpos]
    exact ⟨n, rfl, hwrites⟩
  · split
    · next n hn =>
      obtain ⟨hwrites, hle⟩ := Decimal.readBounded?_eq_some_iff.1 hn
      rw [if_neg fun hpos => hs ⟨n, hwrites, hpos, hle⟩]
      rfl
    · rfl

/-- The reader of the timeout follows its rule. -/
theorem timeoutRule_governs (env : Environment) :
    timeoutRule.Governs env (readBusyTimeout env) fun n =>
      (∀ s ∈ setting env timeoutRule.key, Decimal.Writes s n) ∧
        (setting env timeoutRule.key = none → n = 5000) := by
  refine Rule.governs_of (readBusyTimeout_eq env) (fun s hs => ?_) (fun s hs => ?_)
  · obtain ⟨n, hwrites, hle⟩ := hs
    rw [Decimal.readBounded?_eq_some_iff.2 ⟨hwrites, hle⟩]
    exact ⟨n, rfl, hwrites⟩
  · split
    · next n hn => exact absurd ⟨n, Decimal.readBounded?_eq_some_iff.1 hn⟩ hs
    · rfl

/-- The reader of the strictness follows its rule. -/
theorem strictRule_governs (env : Environment) :
    strictRule.Governs env (readStrictSchema env) fun b =>
      (∀ s ∈ setting env strictRule.key,
        (b = true ↔ Text.sameLetters s "true" = true ∨ Text.sameLetters s "1" = true)) ∧
        (setting env strictRule.key = none → b = false) := by
  have hword : ∀ word ∈ ["true", "false", "1", "0"], ∀ s,
      Text.sameLetters s word = true ↔ Text.lower s = word := by
    have hlower : ∀ word ∈ ["true", "false", "1", "0"], Text.lower word = word := by decide
    intro word hmem s
    rw [Text.sameLetters_iff, hlower word hmem]
  refine Rule.governs_of (readStrictSchema_eq env) (fun s hs => ?_) (fun s hs => ?_)
  · obtain ⟨word, hmem, hsame⟩ := hs
    rw [hword "true" (by decide), hword "1" (by decide), (hword word hmem s).1 hsame]
    simp only [List.mem_cons, List.not_mem_nil, or_false] at hmem
    rcases hmem with rfl | rfl | rfl | rfl <;> exact ⟨_, rfl, by decide⟩
  · have hother : ∀ word ∈ ["true", "false", "1", "0"], Text.lower s ≠ word :=
      fun word hmem heq => hs ⟨word, hmem, (hword word hmem s).2 heq⟩
    simp only [List.forall_mem_cons] at hother
    obtain ⟨htrue, hfalse, hone, hzero, -⟩ := hother
    simp only [htrue, hfalse, hone, hzero, decide_false, Bool.or_self, Bool.false_eq_true, if_false]
    rfl

/-! ## Reading an environment -/

/-- Either all rules hold, or one of them is the first that does not. -/
theorem exists_broken {rs : List Rule} (h : ¬ ∀ r ∈ rs, r.Holds env) :
    ∃ before r after, rs = before ++ r :: after ∧ (∀ q ∈ before, q.Holds env) ∧
      ∃ s ∈ setting env r.key, ¬ r.Admits s := by
  induction rs with
  | nil => exact absurd nofun h
  | cons r rest ih =>
    by_cases hr : r.Holds env
    · have hrest : ¬ ∀ q ∈ rest, q.Holds env := fun hall => h (List.forall_mem_cons.2 ⟨hr, hall⟩)
      obtain ⟨before, q, after, rfl, hbefore, hq⟩ := ih hrest
      exact ⟨r :: before, q, after, rfl, List.forall_mem_cons.2 ⟨hr, hbefore⟩, hq⟩
    · obtain ⟨s, hs, hnot⟩ : ∃ s ∈ setting env r.key, ¬ r.Admits s := by
        simpa [Rule.Holds] using hr
      exact ⟨[], r, rest, rfl, nofun, s, hs, hnot⟩

/-- If all rules hold, what is read is the configuration that the environment says. -/
theorem read_of_holds (h : ∀ r ∈ rules, r.Holds env) : ∃ c, read env = .ok c ∧ Says env c := by
  simp only [rules, List.forall_mem_cons] at h
  obtain ⟨hpath, hconnections, htimeout, hstrict, -⟩ := h
  obtain ⟨path, hread₁, hpath, hnoPath⟩ := (pathRule_governs env).ok hpath
  obtain ⟨connections, hread₂, hconnections, hnoConnections⟩ :=
    (connectionsRule_governs env).ok hconnections
  obtain ⟨timeout, hread₃, htimeout, hnoTimeout⟩ := (timeoutRule_governs env).ok htimeout
  obtain ⟨strict, hread₄, hstrict, hnoStrict⟩ := (strictRule_governs env).ok hstrict
  refine ⟨⟨path, connections, timeout, strict⟩, ?_, hpath, hnoPath, hconnections, hnoConnections,
    htimeout, hnoTimeout, hstrict, hnoStrict⟩
  unfold read
  rw [hread₁, hread₂, hread₃, hread₄]
  rfl

/-- The first rule that does not hold gives the fault. -/
theorem read_of_broken {before after : List Rule} {r : Rule} (hrules : rules = before ++ r :: after)
    (hbefore : ∀ q ∈ before, q.Holds env) {s : String} (hs : s ∈ setting env r.key)
    (hnot : ¬ r.Admits s) : read env = .error (r.fault s) := by
  unfold read
  unfold rules at hrules
  match before, hrules with
  | [], hrules =>
    cases hrules
    rw [(pathRule_governs env).error s hs hnot]
    rfl
  | [_], hrules =>
    cases hrules
    simp only [List.forall_mem_cons] at hbefore
    obtain ⟨_, hread₁, -⟩ := (pathRule_governs env).ok hbefore.1
    rw [hread₁, (connectionsRule_governs env).error s hs hnot]
    rfl
  | [_, _], hrules =>
    cases hrules
    simp only [List.forall_mem_cons] at hbefore
    obtain ⟨_, hread₁, -⟩ := (pathRule_governs env).ok hbefore.1
    obtain ⟨_, hread₂, -⟩ := (connectionsRule_governs env).ok hbefore.2.1
    rw [hread₁, hread₂, (timeoutRule_governs env).error s hs hnot]
    rfl
  | [_, _, _], hrules =>
    cases hrules
    simp only [List.forall_mem_cons] at hbefore
    obtain ⟨_, hread₁, -⟩ := (pathRule_governs env).ok hbefore.1
    obtain ⟨_, hread₂, -⟩ := (connectionsRule_governs env).ok hbefore.2.1
    obtain ⟨_, hread₃, -⟩ := (timeoutRule_governs env).ok hbefore.2.2.1
    rw [hread₁, hread₂, hread₃, (strictRule_governs env).error s hs hnot]
    rfl
  | _ :: _ :: _ :: _ :: _ :: _, hrules => cases hrules

/-- If a configuration is read, all rules hold. -/
theorem holds_of_read {c : Config} (h : read env = .ok c) : ∀ r ∈ rules, r.Holds env := by
  by_contra hbroken
  obtain ⟨before, r, after, hrules, hbefore, s, hs, hnot⟩ := exists_broken hbroken
  rw [read_of_broken hrules hbefore hs hnot] at h
  cases h

/-- What is read is what the environment says. -/
theorem says_of_read {c : Config} (h : read env = .ok c) : Says env c := by
  obtain ⟨c', hc', hsays⟩ := read_of_holds (holds_of_read h)
  cases h.symm.trans hc'
  exact hsays

/-- The path of a configuration is not empty. -/
theorem databasePath_ne_empty {c : Config} (h : read env = .ok c) : c.databasePath ≠ "" := by
  have hsays := says_of_read h
  cases hsetting : setting env pathRule.key with
  | none =>
    have hjoined := hsays.noPath hsetting
    rw [hjoined]
    simp
  | some s =>
    have hgiven := hsays.path s hsetting
    rw [hgiven]
    exact holds_of_read h pathRule (by simp [rules]) s hsetting

/-- Environments with the same settings give the same. -/
theorem read_congr (hsettings : ∀ r ∈ rules, setting env r.key = setting env' r.key)
    (hdirectory : setting env pathRule.key = none → directory env = directory env') :
    read env = read env' := by
  simp only [rules, List.forall_mem_cons] at hsettings
  obtain ⟨hpath, hconnections, htimeout, hstrict, -⟩ := hsettings
  have hread : readDatabasePath env = readDatabasePath env' := by
    rw [readDatabasePath_eq, readDatabasePath_eq, ← hpath]
    cases hs : setting env pathRule.key with
    | none => rw [hdirectory hs]
    | some s => rfl
  unfold read
  rw [hread, readMaxConnections_eq, readBusyTimeout_eq, readStrictSchema_eq, hconnections, htimeout,
    hstrict, ← readMaxConnections_eq, ← readBusyTimeout_eq, ← readStrictSchema_eq]

/-- **The grammar of environments.** An environment gives a configuration just if every variable
that is set holds what it may, and then the configuration is the one that it says. Otherwise the
fault is that of the first variable that holds something else, and names it. Nothing counts but the
four settings, and the directory where there is no path. -/
theorem read_grammar (env : Environment) :
    ((∃ c, read env = .ok c) ↔ ∀ r ∈ rules, r.Holds env) ∧
    (∀ c, read env = .ok c → Says env c) ∧
    (∀ e, read env = .error e ↔ ∃ before r after, rules = before ++ r :: after ∧
      (∀ q ∈ before, q.Holds env) ∧ ∃ s ∈ setting env r.key, ¬ r.Admits s ∧ e = r.fault s) ∧
    (∀ r ∈ rules, ∀ s, (r.fault s).key = r.key) ∧
    ∀ env', (∀ r ∈ rules, setting env r.key = setting env' r.key) →
      (setting env pathRule.key = none → directory env = directory env') →
      read env = read env' := by
  refine ⟨⟨?_, fun hholds => ?_⟩, fun c hc => ?_, fun e => ⟨fun he => ?_, ?_⟩, ?_,
    fun env' => read_congr⟩
  · rintro ⟨c, hc⟩
    exact holds_of_read hc
  · obtain ⟨c, hc, -⟩ := read_of_holds hholds
    exact ⟨c, hc⟩
  · exact says_of_read hc
  · by_cases hholds : ∀ r ∈ rules, r.Holds env
    · obtain ⟨c, hc, -⟩ := read_of_holds hholds
      cases he.symm.trans hc
    · obtain ⟨before, r, after, hrules, hbefore, s, hs, hnot⟩ := exists_broken hholds
      refine ⟨before, r, after, hrules, hbefore, s, hs, hnot, ?_⟩
      rw [read_of_broken hrules hbefore hs hnot] at he
      exact (Except.error.inj he).symm
  · rintro ⟨before, r, after, hrules, hbefore, s, hs, hnot, rfl⟩
    exact read_of_broken hrules hbefore hs hnot
  · simp only [rules, List.forall_mem_cons]
    exact ⟨fun _ => rfl, fun _ => rfl, fun _ => rfl, fun _ => rfl, nofun⟩

/-- An environment with the largest values and blanks around them, and one in which two are too
large. -/
theorem read_grammar_largest :
    let env : Environment := fun key => [("TRETA_DATA_DIR", "\t/data/ "),
      ("DB_MAX_CONNECTIONS", " +004294967295"), ("DB_BUSY_TIMEOUT_MS", "18446744073709551615\n"),
      ("STRICT_SCHEMA", "TrUe")].lookup key
    let env' : Environment := fun key => [("TRETA_DATA_DIR", "  "),
      ("DB_MAX_CONNECTIONS", "4294967296"),
      ("DB_BUSY_TIMEOUT_MS", "18446744073709551616")].lookup key
    let c : Config := ⟨"/data/memory/treta.sqlite", 4294967295, 18446744073709551615, true⟩
    read env = .ok c ∧ Says env c ∧ read env' = .error .badMaxConnections ∧
      ∃ before r after, rules = before ++ r :: after ∧ (∀ q ∈ before, q.Holds env') ∧
        ∃ s ∈ setting env' r.key, ¬ r.Admits s ∧ ConfigError.badMaxConnections = r.fault s := by
  intro env env' c
  have hread : read env = .ok c := by decide +kernel
  have hrefused : read env' = .error .badMaxConnections := by decide +kernel
  obtain ⟨-, hsays, -⟩ := read_grammar env
  obtain ⟨-, -, hfault, -⟩ := read_grammar env'
  exact ⟨hread, hsays c hread, hrefused, (hfault _).1 hrefused⟩

end Config

end DispatchStore
