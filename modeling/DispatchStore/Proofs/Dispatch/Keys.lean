import DispatchStore.Proofs.Dispatch.AtMostOnce
import DispatchStore.Proofs.Json.EventText
import DispatchStore.Proofs.Text.Trim

/-!
# Keys of events

The id of an event is of use as its key if it is not empty and has no blanks around it
(`Event.IsKey`). A generated id is one (`Event.IsGenerated.isKey`), and so is every id that an event
is given, for what counts is the last one that is not blank, trimmed (`Event.withIds_eq`,
`Event.isKey_withIds_iff`). Reading takes the id of an event as it is written
(`Event.run_render_of_readable`), so only an event that was read can lack a key, and it keeps
lacking one until it is given an id.

The dispatcher compares ids as they are. Behind an event that it processed, it passes over the
events with the very same id (`dispatch_again`): with keys these are the ones whose ids differ in
nothing but blanks around them, but of events that were read two such ids are two events, and two
blank ids may be one (`read_without_key`).
-/

namespace DispatchStore

namespace Event

/-! ## Ids that events begin with and are given -/

/-- The id can be used as a key: it says something, and without blanks around it. -/
def IsKey (id : String) : Prop := id ≠ "" ∧ Text.IsTrimmed id

instance (id : String) : Decidable (IsKey id) := inferInstanceAs (Decidable (_ ∧ _))

/-- The digits of generated ids. -/
def idDigits : List Char := "0123456789abcdef".toList

/-- The id has the form of one that is generated: hexadecimal digits in groups with hyphens in
between. -/
def IsGenerated (id : String) : Prop :=
  ∃ first second third fourth last : List Char,
    [first, second, third, fourth, last].map List.length = [8, 4, 4, 4, 12] ∧
    (∀ group ∈ [first, second, third, fourth, last], group.all (· ∈ idDigits) = true) ∧
    id.toList = ['-'].intercalate [first, second, third, fourth, last]

/-- The event that was given ids one after the other. -/
def withIds (e : Event) (ids : List String) : Event := ids.foldl (fun e id => e.withId id) e

/-- The key that is left of ids that an event was given: the last one that is not blank, trimmed. -/
def givenKey? (ids : List String) : Option String :=
  (ids.filter fun id => !Text.isBlankText id).getLast?.map Text.trim

/-! ## Keys -/

/-- Trimming makes a key of every id that is not blank. -/
theorem isKey_trim {id : String} (h : Text.isBlankText id = false) : IsKey (Text.trim id) := by
  refine ⟨fun hempty => ?_, Text.isTrimmed_trim id⟩
  rw [Text.trim_eq_empty_iff.1 hempty] at h
  cases h

/-- Of two keys that differ in nothing but blanks around them there is only one. -/
theorem IsKey.eq_of_trim {id id' : String} (h : IsKey id) (h' : IsKey id')
    (htrim : Text.trim id = Text.trim id') : id = id' := by
  rwa [Text.trim_eq_self_iff.2 h.2, Text.trim_eq_self_iff.2 h'.2] at htrim

/-- A generated id is a key, for its digits and hyphens are not blank. -/
theorem IsGenerated.isKey {id : String} (h : IsGenerated id) : IsKey id := by
  have hblank : ∀ c ∈ idDigits, Text.isBlank c = false := by
    have hall : idDigits.all (fun c => !Text.isBlank c) = true := by decide +kernel
    simpa using hall
  obtain ⟨first, second, third, fourth, last, hlengths, hdigits, hid⟩ := h
  simp only [List.all_eq_true, decide_eq_true_iff] at hdigits
  simp only [List.map_cons, List.cons.injEq] at hlengths
  obtain ⟨hfirst, -, -, -, hlast, -⟩ := hlengths
  obtain ⟨c, cs, rfl⟩ := List.exists_cons_of_length_eq_add_one hfirst
  have hlastNe : last ≠ [] := by
    rintro rfl
    cases hlast
  -- the first group begins the id and the last one ends it
  have hbegins : id.toList.head? = some c := by
    rw [hid]
    rfl
  have hends : id.toList.getLast? = some (last.getLast hlastNe) := by
    have hsplit : id.toList =
      (c :: cs ++ '-' :: second ++ '-' :: third ++ '-' :: fourth ++ ['-']) ++
        last := by
      rw [hid]
      simp [List.intercalate]
    rw [hsplit, List.getLast?_append_of_ne_nil _ hlastNe, List.getLast?_eq_some_getLast hlastNe]
  refine ⟨?_, ?_, ?_⟩
  · rintro rfl
    cases hbegins
  · rintro d hd
    rw [hbegins] at hd
    cases hd
    exact hblank c (hdigits _ List.mem_cons_self c List.mem_cons_self)
  · rintro d hd
    rw [hends] at hd
    cases hd
    exact hblank _ (hdigits last (by simp) _ (List.getLast_mem hlastNe))

/-- What is left of ids that an event was given is the last key among them. Nothing else changes. -/
theorem withIds_eq (e : Event) (ids : List String) :
    e.withIds ids = { e with id := (givenKey? ids).getD e.id } := by
  induction ids using List.reverseRecOn with
  | nil => rfl
  | append_singleton ids id ih =>
    unfold withIds at ih ⊢
    rw [List.foldl_append, ih]
    cases hblank : Text.isBlankText id with
    | true => simp [withId, givenKey?, hblank]
    | false => simp [withId, givenKey?, hblank]

/-- An event has a key once it was given an id that is not blank. -/
theorem isKey_withIds_iff (e : Event) (ids : List String) :
    IsKey (e.withIds ids).id ↔ IsKey e.id ∨ ∃ id ∈ ids, Text.isBlankText id = false := by
  rw [withIds_eq]
  dsimp only
  unfold givenKey?
  cases hlast : (ids.filter fun id => !Text.isBlankText id).getLast? with
  | none =>
    rw [List.getLast?_eq_none_iff, List.filter_eq_nil_iff] at hlast
    refine (or_iff_left ?_).symm
    rintro ⟨id, hid, hblank⟩
    exact hlast id hid (by rw [hblank]; rfl)
  | some id =>
    obtain ⟨hid, hblank⟩ := List.mem_filter.1 (List.mem_of_getLast? hlast)
    rw [Bool.not_eq_true'] at hblank
    exact iff_of_true (isKey_trim hblank) (.inr ⟨id, hid, hblank⟩)

end Event

/-! ## Dispatching one event after another -/

/-- Behind an event that was processed, just that event is passed over, and those that were recorded
before or that its handler marked. -/
theorem dispatch_again {s : Store} (h : Serving s) {now : Timestamp} {plan : Plan} {e : Event}
    (hprocessed : (s.dispatch now plan.handler e).outcome = .ok .processed) (now' : Timestamp)
    (plan' : Plan) (e' : Event) :
    let first := s.dispatch now plan.handler e
    let next := first.store.dispatch now' plan'.handler e'
    (e'.id = e.id ∨ Recorded s e'.id ∨ (Action.dispatch now plan e).Marks e'.id s →
      next.outcome = .ok .duplicate ∧ next.calls = 0 ∧ next.store.database = first.store.database) ∧
    (¬ (e'.id = e.id ∨ Recorded s e'.id ∨ (Action.dispatch now plan e).Marks e'.id s) →
      next.outcome ≠ .ok .duplicate ∧ next.calls = 1) := by
  have hid : ¬ Holds s.database e.id := by
    intro hholds
    rw [dispatch_recorded h hholds] at hprocessed
    cases hprocessed
  obtain ⟨hcalls, hserving, hends⟩ := dispatch_unrecorded h hid now plan
  have hholds : ∀ id, Holds (s.dispatch now plan.handler e).store.database id ↔
      id = e.id ∨ Recorded s id ∨ (Action.dispatch now plan e).Marks id s := by
    intro id
    rcases hends with ⟨-, hholds⟩ | ⟨⟨reason, hfailed⟩, -⟩
    · rw [hholds id, recorded_iff h, or_comm]
      simp [Action.Marks, hcalls]
    · rw [hprocessed] at hfailed
      cases hfailed
  refine ⟨fun hagain => ?_, fun hother => ?_⟩
  · rw [dispatch_recorded hserving ((hholds e'.id).2 hagain)]
    exact ⟨rfl, rfl, rfl⟩
  · obtain ⟨hcalls', -, hends'⟩ :=
      dispatch_unrecorded hserving (fun hnew => hother ((hholds e'.id).1 hnew)) now' plan'
    refine ⟨fun hduplicate => ?_, hcalls'⟩
    rcases hends' with ⟨hdone, -⟩ | ⟨⟨reason, hfailed⟩, -⟩
    · rw [hduplicate] at hdone
      cases hdone
    · rw [hduplicate] at hfailed
      cases hfailed

/-- **Keys.** Of the ids that an event is given the last one that is not blank counts, trimmed. So
an event has a key in the end if and only if it had one in the beginning or was given an id that is
not blank; a new event always has one. An event that is read begins with any id, as it is written.
Behind an event that was processed, the dispatcher passes over just the events with the same id and
those that were recorded otherwise; so of two events with keys it passes over the second one if the
ids differ in nothing but blanks around them. -/
theorem usable_keys (e : Event) (ids : List String) :
    e.withIds ids = { e with id := (Event.givenKey? ids).getD e.id } ∧
    (Event.IsKey (e.withIds ids).id ↔
      Event.IsKey e.id ∨ ∃ id ∈ ids, Text.isBlankText id = false) ∧
    (Event.IsGenerated e.id → Event.IsKey (e.withIds ids).id) ∧
    (Json.IsReadable 126 e.payload → Event.decoder.run e.toJson.render = .ok e) ∧
    ∀ s : Store, s.access = .opened .free → Migration.eventsShape.refusal? s.database = none →
      ∀ now (plan : Plan), (s.dispatch now plan.handler (e.withIds ids)).outcome = .ok .processed →
      ∀ now' (plan' : Plan) (e' : Event),
        let first := s.dispatch now plan.handler (e.withIds ids)
        let next := first.store.dispatch now' plan'.handler e'
        let known := e'.id = (e.withIds ids).id ∨ Recorded s e'.id ∨
          (Action.dispatch now plan (e.withIds ids)).Marks e'.id s
        (known → next.outcome = .ok .duplicate ∧ next.calls = 0 ∧
          next.store.database = first.store.database) ∧
        (¬ known → next.outcome ≠ .ok .duplicate ∧ next.calls = 1) ∧
        (Event.IsKey (e.withIds ids).id → Event.IsKey e'.id →
          Text.trim (e.withIds ids).id = Text.trim e'.id →
          next.outcome = .ok .duplicate ∧ next.calls = 0) := by
  refine ⟨e.withIds_eq ids, e.isKey_withIds_iff ids,
    fun hnew => (e.isKey_withIds_iff ids).2 (.inl hnew.isKey), Event.run_render_of_readable, ?_⟩
  intro s hopen hshape now plan hprocessed now' plan' e'
  have hserving : Serving s := ⟨hopen, hasEvents_of_refusal? hshape⟩
  obtain ⟨hknown, hother⟩ := dispatch_again hserving hprocessed now' plan' e'
  refine ⟨hknown, hother, fun hkey hkey' htrim => ?_⟩
  obtain ⟨houtcome, hcalls, -⟩ := hknown (.inl (hkey'.eq_of_trim hkey htrim.symm))
  exact ⟨houtcome, hcalls⟩

/-- A plan that does nothing. -/
def calm : Plan := ⟨fun _ _ => [], fun _ _ => .ok ()⟩

/-- A new event that is given a blank id and then one with blanks around it, and another delivery of
it that was read. -/
theorem usable_keys_padded :
    let new : Event := ⟨"9b2e4c1a-0f3d-4e5b-8a7c-112233445566", "created", "shop", .null⟩
    let e := new.withIds ["order-1", " \n", "\torder-2 "]
    let e' : Event := ⟨"order-2", "created", "shop", .null⟩
    let first := migrated.dispatch (Store.still 0) calm.handler e
    Event.IsGenerated new.id ∧ Event.IsKey e.id ∧ Event.IsKey e'.id ∧
      Text.trim e.id = Text.trim e'.id ∧ Event.decoder.run e'.toJson.render = .ok e' ∧
      first.outcome = .ok .processed ∧
      (first.store.dispatch (Store.still 0) calm.handler e').outcome = .ok .duplicate ∧
      (first.store.dispatch (Store.still 0) calm.handler e').calls = 0 := by
  intro new e e' first
  have hgenerated : Event.IsGenerated new.id :=
    ⟨"9b2e4c1a".toList, "0f3d".toList, "4e5b".toList, "8a7c".toList, "112233445566".toList,
      by decide +kernel, by decide +kernel, by decide +kernel⟩
  have hkey' : Event.IsKey e'.id := by decide +kernel
  have htrim : Text.trim e.id = Text.trim e'.id := by decide +kernel
  have hprocessed : first.outcome = .ok .processed := by decide +kernel
  have hread : Event.decoder.run e'.toJson.render = .ok e' := Event.run_render_of_readable .null
  obtain ⟨-, -, hnew, -, hdispatch⟩ := usable_keys new ["order-1", " \n", "\torder-2 "]
  have hkey : Event.IsKey e.id := hnew hgenerated
  obtain ⟨-, -, hpadded⟩ :=
    hdispatch migrated rfl (by decide +kernel) (Store.still 0) calm hprocessed
      (Store.still 0) calm e'
  exact ⟨hgenerated, hkey, hkey', htrim, hread, hprocessed, hpadded hkey hkey' htrim⟩

/-- Reading keeps the blanks of an id, and an id that is blank. So two deliveries of one event are
both processed, and of two events with blank ids the second one is passed over. -/
theorem read_without_key :
    let read : String → String → Except Json.Error Event := fun id eventType =>
      Event.decoder.run ("\x7b\"event_id\":\"" ++ id ++ "\",\"event_type\":\"" ++ eventType ++
        "\",\"source\":\"s\"\x7d")
    let dispatch : Store → Event → Dispatched :=
      fun s e => s.dispatch (Store.still 0) calm.handler e
    (∃ e e', read "a" "t" = .ok e ∧ read " a " "t" = .ok e' ∧ ¬ Event.IsKey e'.id ∧
      Text.trim e.id = Text.trim e'.id ∧
      (dispatch migrated e).outcome = .ok .processed ∧
      (dispatch (dispatch migrated e).store e').outcome = .ok .processed ∧
      (dispatch (dispatch migrated e).store e').calls = 1) ∧
    ∃ e e', read "" "t" = .ok e ∧ read "" "u" = .ok e' ∧ e.eventType ≠ e'.eventType ∧
      (dispatch migrated e).outcome = .ok .processed ∧
      (dispatch (dispatch migrated e).store e').outcome = .ok .duplicate ∧
      (dispatch (dispatch migrated e).store e').calls = 0 := by
  intro read dispatch
  exact ⟨⟨⟨"a", "t", "s", .null⟩, ⟨" a ", "t", "s", .null⟩, by decide +kernel⟩,
    ⟨⟨"", "t", "s", .null⟩, ⟨"", "u", "s", .null⟩, by decide +kernel⟩⟩

end DispatchStore
