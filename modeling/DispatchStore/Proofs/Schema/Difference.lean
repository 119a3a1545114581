import DispatchStore.Proofs.Table.Alike
import DispatchStore.Schema.Upgrade
import Mathlib.Order.Bounds.Basic

/-!
# The first difference

The comparison of a shape with live columns goes through both lists at once and stops at the first
place where they do not match. A report therefore tells more than it shows: in front of a mismatch
every column matches, and a missing or a surplus column comes behind lists that match as far as both
go.

* **One report is true** of two lists (`TableShape.Tells`), and the comparison makes it
  (`TableShape.differenceFrom?_eq_iff`).
* **A text gives away** what kind of report it is, and of a mismatch the place. So what is known of
  the reports is known of their texts (`TableShape.reports_first`).
-/

namespace DispatchStore

/-! ## Columns that match -/

namespace Column

/-- A live column is the declared one: names agree exactly, types up to case, flags exactly. -/
structure Matches (declared live : Column) : Prop where
  name : declared.name = live.name
  declaredType : Text.sameLetters declared.declaredType live.declaredType = true
  notNull : declared.notNull = live.notNull
  primaryKey : declared.primaryKey = live.primaryKey

/-- The check of two columns is that they match. -/
theorem agrees_iff_matches {declared live : Column} :
    declared.agrees live = true ↔ declared.Matches live := by
  rw [agrees_iff]
  constructor
  · rintro ⟨hname, htype, hnull, hkey⟩
    exact ⟨hname, htype, hnull, hkey⟩
  · rintro ⟨hname, htype, hnull, hkey⟩
    exact ⟨hname, htype, hnull, hkey⟩

/-- Both lists have a column at the place, and the live one is the declared one. -/
def MatchAt (declared live : List Column) (i : Nat) : Prop :=
  ∃ c ∈ declared[i]?, ∃ c' ∈ live[i]?, c.Matches c'

/-- The columns match at the first `n` places. -/
def MatchBelow (declared live : List Column) (n : Nat) : Prop :=
  ∀ i < n, MatchAt declared live i

/-- At a place that both lists have, the columns there match. -/
theorem matchAt_iff {declared live : List Column} {i : Nat} (hdeclared : i < declared.length)
    (hlive : i < live.length) : MatchAt declared live i ↔ declared[i].Matches live[i] := by
  simp [MatchAt, hdeclared, hlive]

/-- In front of the first place everything matches. -/
@[simp] theorem matchBelow_zero (declared live : List Column) : MatchBelow declared live 0 := nofun

/-- Lists match at one place more if their first columns do and the rest match as far as before. -/
@[simp] theorem matchBelow_succ {c c' : Column} {declared live : List Column} {n : Nat} :
    MatchBelow (c :: declared) (c' :: live) (n + 1) ↔
      c.Matches c' ∧ MatchBelow declared live n := by
  have hzero : MatchAt (c :: declared) (c' :: live) 0 ↔ c.Matches c' := by simp [MatchAt]
  have hsucc : ∀ i, MatchAt (c :: declared) (c' :: live) (i + 1) ↔ MatchAt declared live i := by
    simp [MatchAt]
  unfold MatchBelow
  rw [Nat.forall_lt_succ_left, hzero]
  simp only [hsucc]

end Column

/-! ## Texts of differences -/

/-- The digits of a number end where a space follows. -/
theorem Decimal.takeWhile_toString (n : Nat) (rest : List Char) :
    ((toString n).toList ++ ' ' :: rest).takeWhile Char.isDigit = Nat.toDigits 10 n := by
  have hdigits : (toString n).toList = Nat.toDigits 10 n := String.toList_ofList
  have hall : ∀ c ∈ Nat.toDigits 10 n, c.isDigit = true := fun c hc =>
    Nat.isDigit_of_mem_toDigits (by decide) (by decide) hc
  rw [hdigits, List.takeWhile_append_of_pos hall, List.takeWhile_cons_of_neg (by decide),
    List.append_nil]

namespace ShapeDifference

/-- The text of a mismatch names its place, what is there and what is declared. -/
theorem message_column (place : Nat) (live expected : Column) :
    (column place live expected).message = "column " ++ (toString place ++ (" is `" ++
      (live.describe ++ ("`, expected `" ++ (expected.describe ++ "`"))))) := by
  unfold message
  simp only [String.append_assoc]

/-- The text of a missing column names the declared one. -/
theorem message_missingColumn (expected : Column) :
    (missingColumn expected).message = "missing column `" ++ (expected.describe ++ "`") := by
  unfold message
  simp only [String.append_assoc]

/-- The text of surplus columns names all of them. -/
theorem message_extraColumns (names : List String) :
    (extraColumns names).message = "unexpected columns: " ++ ", ".intercalate names := rfl

/-- The letter with which the text of a difference begins. -/
def initial : ShapeDifference → Char
  | missingTable => 't'
  | column _ _ _ => 'c'
  | missingColumn _ => 'm'
  | extraColumns _ => 'u'

/-- The first letter of a text gives away the kind of the difference. -/
@[simp] theorem head?_message (d : ShapeDifference) : d.message.toList.head? = some d.initial := by
  cases d with
  | missingTable => rfl
  | column place live expected =>
    rw [message_column, String.toList_append]
    rfl
  | missingColumn expected =>
    rw [message_missingColumn, String.toList_append]
    rfl
  | extraColumns names =>
    rw [message_extraColumns, String.toList_append]
    rfl

variable {d d' : ShapeDifference}

/-- Differences with the same text are of one kind. -/
theorem initial_congr (h : d.message = d'.message) : d.initial = d'.initial := by
  have hheads := head?_message d
  rw [h, head?_message] at hheads
  exact (Option.some.inj hheads).symm

/-- Mismatches with the same text are at one place. -/
theorem place_congr {i j : Nat} {live live' expected expected' : Column}
    (h : (column i live expected).message = (column j live' expected').message) : i = j := by
  have hplace : ∀ (n : Nat) (a b : Column), ∃ rest,
      (column n a b).message.toList = "column ".toList ++ ((toString n).toList ++ ' ' :: rest) := by
    intro n a b
    rw [message_column, String.toList_append, String.toList_append, String.toList_append]
    exact ⟨_, rfl⟩
  obtain ⟨rest, hi⟩ := hplace i live expected
  obtain ⟨rest', hj⟩ := hplace j live' expected'
  rw [h, hj, List.append_cancel_left_eq] at hi
  have hdigits := congrArg (List.takeWhile Char.isDigit) hi
  rw [Decimal.takeWhile_toString, Decimal.takeWhile_toString] at hdigits
  calc
    i = Nat.ofDigitChars 10 (Nat.toDigits 10 i) 0 := Nat.ofDigitChars_ten_toDigits.symm
    _ = Nat.ofDigitChars 10 (Nat.toDigits 10 j) 0 := by rw [hdigits]
    _ = j := Nat.ofDigitChars_ten_toDigits

/-- Only a missing table has the text of one. -/
theorem message_eq_iff : d.message = "table does not exist" ↔ d = .missingTable := by
  refine ⟨fun h => ?_, fun h => congrArg message h⟩
  have hinitial : d.initial = missingTable.initial := initial_congr h
  cases d <;> simp [initial] at hinitial ⊢

end ShapeDifference

/-! ## The report that is true -/

namespace TableShape

open Column (MatchAt MatchBelow matchAt_iff matchBelow_zero matchBelow_succ)

/-- What a report says of two lists of columns whose places are counted from `index` on. -/
def Tells (index : Nat) (declared live : List Column) : Option ShapeDifference → Prop
  | none => declared.length = live.length ∧ MatchBelow declared live live.length
  | some .missingTable => False
  | some (.column place actual expected) => ∃ i, place = index + i ∧ declared[i]? = some expected ∧
      live[i]? = some actual ∧ ¬ expected.Matches actual ∧ MatchBelow declared live i
  | some (.missingColumn expected) =>
    declared[live.length]? = some expected ∧ MatchBelow declared live live.length
  | some (.extraColumns names) => declared.length < live.length ∧
      names = (live.drop declared.length).map Column.name ∧ MatchBelow declared live declared.length

section Lists

variable {index : Nat} {c c' : Column} {declared live : List Column}
  {report : Option ShapeDifference}

/-- Of two lists that are both at their end there is nothing to report. -/
theorem tells_nil_nil : Tells index [] [] report ↔ report = none := by
  obtain _ | _ | _ | _ | _ := report <;> simp [Tells]

/-- Behind the declared columns all that is left is surplus. -/
theorem tells_nil_cons : Tells index [] (c' :: live) report ↔
    report = some (.extraColumns ((c' :: live).map Column.name)) := by
  obtain _ | _ | _ | _ | _ := report <;> simp [Tells]

/-- Behind the live columns the next declared one is missing. -/
theorem tells_cons_nil :
    Tells index (c :: declared) [] report ↔ report = some (.missingColumn c) := by
  obtain _ | _ | _ | _ | _ := report <;> simp [Tells, eq_comm]

/-- Behind columns that match, a report tells of the columns after them. -/
theorem tells_cons_of_matches (h : c.Matches c') :
    Tells index (c :: declared) (c' :: live) report ↔ Tells (index + 1) declared live report := by
  obtain _ | _ | ⟨place, actual, expected⟩ | expected | names := report
  · simp [Tells, h]
  · rfl
  · constructor
    · rintro ⟨_ | i, hplace, hexpected, hactual, hnot, hbefore⟩
      · cases hexpected
        cases hactual
        exact absurd h hnot
      · exact ⟨i, by omega, hexpected, hactual, hnot, (matchBelow_succ.1 hbefore).2⟩
    · rintro ⟨i, hplace, hexpected, hactual, hnot, hbefore⟩
      exact ⟨i + 1, by omega, hexpected, hactual, hnot, matchBelow_succ.2 ⟨h, hbefore⟩⟩
  · simp [Tells, h]
  · simp [Tells, h]

/-- Columns that do not match are all that can be told. -/
theorem tells_cons_of_not_matches (h : ¬ c.Matches c') :
    Tells index (c :: declared) (c' :: live) report ↔ report = some (.column index c' c) := by
  obtain _ | _ | ⟨place, actual, expected⟩ | expected | names := report
  · simp [Tells, h]
  · simp [Tells]
  · constructor
    · rintro ⟨_ | i, hplace, hexpected, hactual, -, hbefore⟩
      · cases hexpected
        cases hactual
        rw [hplace, Nat.add_zero]
      · exact absurd (matchBelow_succ.1 hbefore).1 h
    · rintro ⟨⟩
      exact ⟨0, rfl, rfl, rfl, h, matchBelow_zero _ _⟩
  · simp [Tells, h]
  · simp [Tells, h]

/-- The comparison makes the report that is true. -/
theorem differenceFrom?_eq_iff :
    differenceFrom? index declared live = report ↔ Tells index declared live report := by
  induction declared generalizing index live with
  | nil =>
    cases live with
    | nil => rw [tells_nil_nil, differenceFrom?, eq_comm]
    | cons c' live => rw [tells_nil_cons, differenceFrom?, eq_comm]; simp
  | cons c declared ih =>
    cases live with
    | nil => rw [tells_cons_nil, differenceFrom?, eq_comm]
    | cons c' live =>
      rw [differenceFrom?]
      by_cases h : c.Matches c'
      · rw [if_pos (Column.agrees_iff_matches.2 h), ih, tells_cons_of_matches h]
      · rw [if_neg (mt Column.agrees_iff_matches.1 h), tells_cons_of_not_matches h, eq_comm]

/-- Nothing is reported of columns that agree one by one. -/
theorem differenceFrom?_eq_none_iff : differenceFrom? index declared live = none ↔
    List.Forall₂ (fun c c' => c.agrees c' = true) declared live := by
  rw [differenceFrom?_eq_iff, List.forall₂_iff_get]
  refine and_congr_right fun hlength => ⟨fun h i hdeclared hlive => ?_, fun h i hlive => ?_⟩
  · exact Column.agrees_iff_matches.2 ((matchAt_iff hdeclared hlive).1 (h i hlive))
  · have hdeclared : i < declared.length := by omega
    exact (matchAt_iff hdeclared hlive).2 (Column.agrees_iff_matches.1 (h i hdeclared hlive))

end Lists

section Shape

variable {shape : TableShape} {live : List Column}

/-- Of a table that is there, the report is the one that is true of its columns. -/
theorem difference?_eq_iff (h : live ≠ []) {report : Option ShapeDifference} :
    shape.difference? live = report ↔ Tells 0 shape.columns live report := by
  rw [← differenceFrom?_eq_iff]
  unfold difference?
  rw [if_neg (by simpa using h)]

/-- A table is reported missing exactly if it has no columns. -/
@[simp] theorem difference?_eq_missingTable_iff :
    shape.difference? live = some .missingTable ↔ live = [] := by
  by_cases h : live = []
  · rw [h]
    exact ⟨fun _ => rfl, fun _ => rfl⟩
  · rw [difference?_eq_iff h]
    exact ⟨False.elim, fun hempty => h hempty⟩

/-! ## The first mismatch -/

/-- The places that both lists have and at which they do not match. -/
def mismatches (shape : TableShape) (live : List Column) : Set Nat :=
  {i | i < shape.columns.length ∧ i < live.length ∧ ¬ MatchAt shape.columns live i}

/-- The least mismatch is the place where both lists have columns, these do not match, and all
before them do. -/
theorem isLeast_mismatches_iff {i : Nat} :
    IsLeast (shape.mismatches live) i ↔ ∃ expected actual, shape.columns[i]? = some expected ∧
      live[i]? = some actual ∧ ¬ expected.Matches actual ∧ MatchBelow shape.columns live i := by
  constructor
  · rintro ⟨⟨hdeclared, hlive, hnot⟩, hleast⟩
    rw [matchAt_iff hdeclared hlive] at hnot
    refine ⟨_, _, List.getElem?_eq_getElem hdeclared, List.getElem?_eq_getElem hlive, hnot, ?_⟩
    intro j hj
    by_contra hmismatch
    have hle : i ≤ j := hleast ⟨hj.trans hdeclared, hj.trans hlive, hmismatch⟩
    omega
  · rintro ⟨expected, actual, hexpected, hactual, hnot, hbefore⟩
    obtain ⟨hdeclared, rfl⟩ := List.getElem?_eq_some_iff.1 hexpected
    obtain ⟨hlive, rfl⟩ := List.getElem?_eq_some_iff.1 hactual
    rw [← matchAt_iff hdeclared hlive] at hnot
    refine ⟨⟨hdeclared, hlive, hnot⟩, ?_⟩
    rintro j ⟨-, -, hmismatch⟩
    by_contra hj
    exact hmismatch (hbefore j (Nat.not_le.1 hj))

/-! ## Reports as texts -/

/-- A text that is reported of a table that is there is that of a difference that there is. -/
theorem reported_iff {d : ShapeDifference} (h : d ≠ .missingTable) :
    (shape.difference? live).map ShapeDifference.message = some d.message ↔
      live ≠ [] ∧ ∃ d', Tells 0 shape.columns live (some d') ∧ d'.message = d.message := by
  by_cases hlive : live = []
  · subst hlive
    have hmissing : d.message ≠ ShapeDifference.missingTable.message :=
      mt ShapeDifference.message_eq_iff.1 h
    simpa [difference?] using hmissing.symm
  · rw [Option.map_eq_some_iff]
    simp only [difference?_eq_iff hlive, ne_eq, hlive, not_false_eq_true, true_and]

/-- A mismatch is reported at a place exactly if it is the least one. -/
theorem exists_column_iff {i : Nat} :
    (∃ expected actual, shape.columns[i]? = some expected ∧ live[i]? = some actual ∧
      (shape.difference? live).map ShapeDifference.message =
        some (ShapeDifference.column i actual expected).message) ↔
      IsLeast (shape.mismatches live) i := by
  rw [isLeast_mismatches_iff]
  constructor
  · rintro ⟨expected, actual, -, -, htext⟩
    obtain ⟨-, d, htells, hmessage⟩ := (reported_iff (by nofun)).1 htext
    have hinitial := ShapeDifference.initial_congr hmessage
    cases d with
    | column place actual' expected' =>
      obtain ⟨j, hplace, hfirst⟩ := htells
      have hij : j = i := by
        rw [← ShapeDifference.place_congr hmessage, hplace, Nat.zero_add]
      exact ⟨expected', actual', hij ▸ hfirst⟩
    | _ => simp [ShapeDifference.initial] at hinitial
  · rintro ⟨expected, actual, hexpected, hactual, hfirst⟩
    have hlive : live ≠ [] := by
      rintro rfl
      cases hactual
    have htells : Tells 0 shape.columns live (some (.column i actual expected)) :=
      ⟨i, (Nat.zero_add i).symm, hexpected, hactual, hfirst⟩
    refine ⟨expected, actual, hexpected, hactual, ?_⟩
    exact (reported_iff (by nofun)).2 ⟨hlive, _, htells, rfl⟩

/-- A missing column is reported exactly if the live ones end too early and match as far as they
go. -/
theorem exists_missingColumn_iff :
    (∃ expected, shape.columns[live.length]? = some expected ∧
      (shape.difference? live).map ShapeDifference.message =
        some (ShapeDifference.missingColumn expected).message) ↔
      live ≠ [] ∧ live.length < shape.columns.length ∧
        MatchBelow shape.columns live live.length := by
  constructor
  · rintro ⟨expected, hexpected, htext⟩
    obtain ⟨hlength, -⟩ := List.getElem?_eq_some_iff.1 hexpected
    obtain ⟨hlive, d, htells, hmessage⟩ := (reported_iff (by nofun)).1 htext
    have hinitial := ShapeDifference.initial_congr hmessage
    cases d with
    | missingColumn _ => exact ⟨hlive, hlength, htells.2⟩
    | _ => simp [ShapeDifference.initial] at hinitial
  · rintro ⟨hlive, hlength, hbefore⟩
    have htells : Tells 0 shape.columns live (some (.missingColumn shape.columns[live.length])) :=
      ⟨List.getElem?_eq_getElem hlength, hbefore⟩
    exact ⟨_, htells.1, (reported_iff (by nofun)).2 ⟨hlive, _, htells, rfl⟩⟩

/-- Surplus columns are reported exactly if the live ones go on too long and match all that are
declared. -/
theorem extraColumns_iff :
    (shape.difference? live).map ShapeDifference.message =
        some (ShapeDifference.extraColumns
          ((live.drop shape.columns.length).map Column.name)).message ↔
      shape.columns.length < live.length ∧
        MatchBelow shape.columns live shape.columns.length := by
  rw [reported_iff (by nofun)]
  constructor
  · rintro ⟨-, d, htells, hmessage⟩
    have hinitial := ShapeDifference.initial_congr hmessage
    cases d with
    | extraColumns _ => exact ⟨htells.1, htells.2.2⟩
    | _ => simp [ShapeDifference.initial] at hinitial
  · rintro ⟨hlength, hbefore⟩
    have htells : Tells 0 shape.columns live
        (some (.extraColumns ((live.drop shape.columns.length).map Column.name))) :=
      ⟨hlength, rfl, hbefore⟩
    exact ⟨List.ne_nil_of_length_pos (Nat.zero_lt_of_lt hlength), _, htells, rfl⟩

end Shape

/-- The text is that of the first difference between a shape and live columns, if there is one. -/
structure ReportsFirst (shape : TableShape) (live : List Column) (text : Option String) : Prop where
  /-- There is none exactly if there are columns, as many as were declared, and all of them
  match. -/
  fits : text = none ↔ live ≠ [] ∧ live.length = shape.columns.length ∧
    MatchBelow shape.columns live live.length
  missingTable : text = some "table does not exist" ↔ live = []
  /-- A mismatch is reported at the first place where there is one. -/
  column : ∀ i, (∃ expected actual, shape.columns[i]? = some expected ∧ live[i]? = some actual ∧
      text = some ("column " ++ toString i ++ " is `" ++ actual.describe ++ "`, expected `" ++
        expected.describe ++ "`")) ↔ IsLeast (shape.mismatches live) i
  /-- The first column behind the live ones is missing if all of these match. -/
  missingColumn : (∃ expected, shape.columns[live.length]? = some expected ∧
      text = some ("missing column `" ++ expected.describe ++ "`")) ↔
    live ≠ [] ∧ live.length < shape.columns.length ∧ MatchBelow shape.columns live live.length
  /-- All columns behind the declared ones are surplus if all of these match. -/
  extraColumns : text = some ("unexpected columns: " ++
      ", ".intercalate ((live.drop shape.columns.length).map Column.name)) ↔
    shape.columns.length < live.length ∧ MatchBelow shape.columns live shape.columns.length

/-- **The first difference.** Whatever was declared and whatever is there, the comparison is silent
exactly about columns that all match, one for one. Otherwise its text is that of the first mismatch,
or of the first column that is missing behind live ones that match, or of all columns that are left
behind the declared ones if these match; and each of them only then. -/
theorem reports_first (shape : TableShape) (live : List Column) :
    ReportsFirst shape live ((shape.difference? live).map ShapeDifference.message) := by
  refine ⟨?_, ?_, fun i => exists_column_iff, exists_missingColumn_iff, extraColumns_iff⟩
  · rw [Option.map_eq_none_iff]
    by_cases hlive : live = []
    · simp [hlive, difference?]
    · rw [difference?_eq_iff hlive]
      simp [Tells, hlive, eq_comm]
  · rw [← @difference?_eq_missingTable_iff shape live, Option.map_eq_some_iff]
    simp [ShapeDifference.message_eq_iff]

end TableShape

end DispatchStore
