import DispatchStore.Event
import DispatchStore.Proofs.Json.Accepted
import DispatchStore.Proofs.Json.Embedding
import DispatchStore.Proofs.Json.Equality

/-!
# Reading events back

An event is read back from its text if its payload can be (`Event.run_render_of_readable`). A
payload that was read is in order and has its numbers in the ranges, so of an event that was read
the text is read again unless the payload has doubles or an object that begins with the key of an
embedded text (`Event.rereads_of_plain`). Such an object is written like the others, and then taken
for something else (`Event.not_rereads_embedding`).
-/

namespace DispatchStore.Event

open Json (Decoder IsPlain IsReadable Reads Step)
open Json.Record (Fills)

/-! ## Events with a payload that can be read -/

/-- A field with a text is filled with it. -/
theorem reads_text {levels : Nat} {set : String → Draft → Draft} (s : String) :
    Reads (fun c => (Decoder.text levels c).map set) (Json.text s).chars (set s) :=
  (Json.reads_textAs "a string" s).map _

/-- The members of the JSON form other than the payload. -/
def membersBefore (e : Event) : List (String × Json) :=
  [("event_id", .text e.id), ("event_type", .text e.eventType), ("source", .text e.source)]

/-- The members in front of the payload fill all fields but the payload. -/
theorem fills_before (e : Event) (levels : Nat) :
    Fills fields levels e.membersBefore {} ⟨e.id, e.eventType, e.source, none⟩ := by
  refine .cons rfl rfl (reads_text e.id) ?_
  refine .cons rfl rfl (reads_text e.eventType) ?_
  exact .cons rfl rfl (reads_text e.source) .nil

/-- An event is read with the payload that the text of its own is read as. -/
theorem run_render_of_reads {e : Event} {v : Json}
    (h : Reads (Decoder.json 126) e.payload.chars v) :
    decoder.run e.toJson.render = .ok { e with payload := v } := by
  have hpayload : Fills fields 126 [("payload", e.payload)] ⟨e.id, e.eventType, e.source, none⟩
      ⟨e.id, e.eventType, e.source, v⟩ := .cons rfl rfl (h.map _) .nil
  have hfills := (e.fills_before 126).append hpayload
  have hreads : Reads (decoder Json.maxLevels) e.toJson.chars { e with payload := v } :=
    hfills.reads rfl
  exact hreads.run

/-- An event whose payload can be read at 126 levels is read as it was written. -/
theorem run_render_of_readable {e : Event} (h : IsReadable 126 e.payload) :
    decoder.run e.toJson.render = .ok e :=
  run_render_of_reads h.reads_json

/-- An event whose payload nests deeper than an event may is refused. -/
theorem run_render_nested {e : Event} {n : Nat} (hpayload : e.payload = Json.nestedArray n)
    (hn : 126 ≤ n) :
    ∃ place, decoder.run e.toJson.render = .error ⟨.nestedTooDeep, some place⟩ := by
  refine (e.fills_before 126).run_failed rfl rfl fun rest p => ?_
  obtain ⟨place, next, hvalue⟩ := Json.value_nestedArray hn rest p
  refine ⟨place, next, ?_⟩
  show (Decoder.json 126 ⟨e.payload.chars ++ rest, p⟩).map _ = _
  rw [hpayload, hvalue]
  rfl

/-- An event without a payload is read as one whose payload is null. -/
theorem run_render_without_payload {e : Event} (h : e.payload = .null) :
    decoder.run (Json.object e.membersBefore).render = .ok e := by
  have hcomplete : Draft.complete ⟨e.id, e.eventType, e.source, none⟩ = .ok e := by
    obtain ⟨id, eventType, source, payload⟩ := e
    cases h
    rfl
  have hreads : Reads (decoder Json.maxLevels) (Json.object e.membersBefore).chars e :=
    (e.fills_before 126).reads hcomplete
  exact hreads.run

/-! ## Events that were read -/

/-- Reads an event whose payload is read by `payload`. -/
def decoderWith (payload : Decoder Json) : Decoder Event :=
  Json.Record.decoder "Event"
    (fields.dropLast ++
      [.of "payload" (·.payload) (fun v d => { d with payload := some v }) payload true])
    {} Draft.complete

/-- The decoder of events is the one that reads its payload as any value. -/
@[simp] theorem decoderWith_json : decoderWith .json = decoder := rfl

/-- No embedded text has a part in what the text is read as: it is the same if they are refused. -/
def EmbedsNothing (s : String) : Prop := (decoderWith .direct).run s = decoder.run s

/-- The payload of an event that was read is null or was read as the payload. -/
theorem payload_of_run {payload : Decoder Json} {P : Json → Prop}
    (hread : ∀ c, (payload 126 c).Gives P) (hnull : P .null) {s : String} {e : Event}
    (h : (decoderWith payload).run s = .ok e) : P e.payload := by
  let I : Draft → Prop := fun draft => ∀ v ∈ draft.payload, P v
  have hfields : ∀ f ∈ fields.dropLast ++
      [.of "payload" Draft.payload (fun v d => { d with payload := some v }) payload true],
      f.Keeps 126 I := by
    simp only [fields, List.dropLast, List.cons_append, List.nil_append, List.forall_mem_cons]
    exact ⟨Json.Field.keeps_other fun _ _ => rfl, Json.Field.keeps_other fun _ _ => rfl,
      Json.Field.keeps_other fun _ _ => rfl, Json.Field.keeps_own hread fun _ _ => rfl, nofun⟩
  have hcomplete : ∀ (draft : Draft) (e : Event),
      I draft → draft.complete = .ok e → P e.payload := by
    intro draft e hdraft he
    obtain ⟨_, -, he⟩ := Json.Record.exists_of_need he
    obtain ⟨_, -, he⟩ := Json.Record.exists_of_need he
    obtain ⟨_, -, he⟩ := Json.Record.exists_of_need he
    cases he
    cases hsome : draft.payload with
    | none => exact hnull
    | some v => exact hdraft v hsome
  have hempty : I {} := nofun
  exact Json.of_wholeText (Json.Record.gives_decoder hfields hempty hcomplete) h

/-- An event that was read is read back if its payload is plain and either nests no deeper than an
event may or was read without embedded texts. -/
theorem run_render_of_run {s : String} {e : Event} (hread : decoder.run s = .ok e) {n : Nat}
    (hplain : IsPlain n e.payload) (hlevels : n ≤ 126 ∨ EmbedsNothing s) :
    decoder.run e.toJson.render = .ok e := by
  have hjson : (decoderWith .json).run s = .ok e := by
    rw [decoderWith_json]
    exact hread
  have hreadable : ∀ n, IsPlain n e.payload → IsReadable n e.payload :=
    payload_of_run (Json.gives_json 126) (fun _ _ => .null) hjson
  rcases hlevels with hle | hdirect
  · exact run_render_of_readable ((hreadable n hplain).mono hle)
  · have hbounded : ∀ n, IsPlain n e.payload → IsPlain 126 e.payload :=
      payload_of_run (Json.gives_direct 126) (fun _ _ => .null) (hdirect.trans hread)
    exact run_render_of_readable (hreadable 126 (hbounded n hplain))

/-- An event is read back from its text if its payload is in order, has whole numbers in the 64-bit
ranges and no object that begins with the key of an embedded text, and nests no deeper than an event
may. Of an event that was read the payload is in order and in the ranges, and it nests too deep only
by means of an embedded text. To leave out the payload is to have it null. -/
theorem rereads_of_plain (e : Event) :
    (IsReadable 126 e.payload → decoder.run e.toJson.render = .ok e) ∧
    (∀ s n, decoder.run s = .ok e → IsPlain n e.payload → n ≤ 126 ∨ EmbedsNothing s →
      decoder.run e.toJson.render = .ok e) ∧
    (e.payload = .null → decoder.run (Json.object e.membersBefore).render = .ok e ∧
      decoder.run e.toJson.render = .ok e) ∧
    ∀ draft : Draft, draft.payload = none →
      draft.complete = { draft with payload := some .null }.complete := by
  refine ⟨run_render_of_readable, fun s n hread => run_render_of_run hread,
    fun hnull => ⟨?_, ?_⟩, ?_⟩
  · exact run_render_without_payload hnull
  · refine run_render_of_readable ?_
    rw [hnull]
    exact .null
  · intro draft hnone
    unfold Draft.complete
    rw [hnone]
    rfl

/-- A text with the payload first, a key twice, a key that is escaped and a member that is no
field. -/
def unorderedText : String :=
  "\x7b\"payload\": \x7b\"b\":1,\"\\u0061\":-9223372036854775808,\"b\":[\"\\u0001\",null]\x7d," ++
    "\n\"more\":[2.5], \"source\":\"s\",\"event_type\":\"t\",\"event_id\":\"e\"\x7d"

/-- The event that is read from it. -/
def orderedEvent : Event :=
  ⟨"e", "t", "s",
    .object [("a", .ofInt (-9223372036854775808)), ("b", .array [.text "\x01", .null])]⟩

/-- A text in an unusual order gives an event that is read again as it is, and a payload may be
missing. -/
theorem rereads_of_plain_unordered :
    decoder.run unorderedText = .ok orderedEvent ∧ EmbedsNothing unorderedText ∧
      IsReadable 2 orderedEvent.payload ∧
      decoder.run orderedEvent.toJson.render = .ok orderedEvent ∧
      decoder.run (Json.object (membersBefore ⟨"", "t", "", .null⟩)).render =
        .ok ⟨"", "t", "", .null⟩ := by
  have hread : decoder.run unorderedText = .ok orderedEvent := by decide +kernel
  have hdirect : EmbedsNothing unorderedText := by
    have hread' : (decoderWith .direct).run unorderedText = .ok orderedEvent := by
      decide +kernel
    exact hread'.trans hread.symm
  have hitems : ∀ v ∈ [Json.text "\x01", Json.null], IsReadable 0 v :=
    List.forall_mem_cons.2 ⟨.text _, List.forall_mem_cons.2 ⟨.null, nofun⟩⟩
  have hmembers : ∀ m ∈ [("a", Json.ofInt (-9223372036854775808)),
      ("b", .array [.text "\x01", .null])], IsReadable 1 m.2 :=
    List.forall_mem_cons.2 ⟨.integer (by decide), List.forall_mem_cons.2 ⟨.array hitems, nofun⟩⟩
  have hreadable : IsReadable 2 orderedEvent.payload := by
    refine .object hmembers (by decide) fun m hm => ?_
    cases hm
    decide
  obtain ⟨-, hrereads, -⟩ := rereads_of_plain orderedEvent
  obtain ⟨-, -, hnull, -⟩ := rereads_of_plain ⟨"", "t", "", .null⟩
  exact ⟨hread, hdirect, hreadable,
    hrereads unorderedText 2 hread hreadable.isPlain (.inr hdirect), (hnull rfl).1⟩

/-- An object whose least key is that of an embedded text can be read when the key does not come
first. It is written with the key in the first place, and then refused for its other members. And an
embedded text can nest deeper than the payload that it becomes may. -/
theorem not_rereads_embedding :
    (∃ s e, decoder.run s = .ok e ∧
      e.payload = .object [(Json.embeddingKey, .text "2"), ("z", .ofInt 1)] ∧
      decoder.run e.toJson.render = .error ⟨.trailingComma, some ⟨1, 94⟩⟩) ∧
    ∃ s e, decoder.run s = .ok e ∧ IsPlain 127 e.payload ∧
      ∃ place, decoder.run e.toJson.render = .error ⟨.nestedTooDeep, some place⟩ := by
  constructor
  · let e : Event := ⟨"e", "t", "s", .object [(Json.embeddingKey, .text "2"), ("z", .ofInt 1)]⟩
    have hread : decoder.run
        ("\x7b\"event_id\":\"e\",\"event_type\":\"t\",\"source\":\"s\",\"payload\":" ++
          "\x7b\"z\":1,\"$serde_json::private::RawValue\":\"2\"\x7d\x7d") = .ok e := by
      decide +kernel
    exact ⟨_, e, hread, rfl, by decide +kernel⟩
  · have hreadable := Json.isReadable_nestedArray 126
    let e : Event := ⟨"e", "t", "s",
      .object [(Json.embeddingKey, .text (Json.nestedArray 126).render)]⟩
    exact ⟨e.toJson.render, ⟨"e", "t", "s", Json.nestedArray 126⟩,
      run_render_of_reads (Json.reads_json_embedded hreadable), hreadable.isPlain,
      run_render_nested rfl (Nat.le_refl 126)⟩

end DispatchStore.Event
