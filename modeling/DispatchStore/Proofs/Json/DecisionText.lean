import DispatchStore.Decision
import DispatchStore.Proofs.Json.Accepted
import DispatchStore.Proofs.Json.Decoding
import DispatchStore.Proofs.Text.Trim

/-!
# Reading decisions back

The table gives a status as it is stored, the JSON form takes one trimmed and refuses a blank one.
So a decision is read back from its text just if its status is trimmed and not empty
(`Decision.rereads_iff_isTrimmed`), and this holds of every decision that was made or read as JSON.
-/

namespace DispatchStore

/-! ## Statuses -/

namespace Status

/-- The status is not empty, and neither begins nor ends with a blank character. -/
def IsTrimmed (s : Status) : Prop := s.text ≠ "" ∧ Text.IsTrimmed s.text

instance (s : Status) : Decidable s.IsTrimmed :=
  inferInstanceAs (Decidable (s.text ≠ "" ∧ Text.IsTrimmed s.text))

/-- A status that is accepted is trimmed. -/
theorem isTrimmed_of_of? {s : String} {status : Status} (h : of? s = some status) :
    status.IsTrimmed := by
  unfold of? at h
  split_ifs at h with hblank
  cases h
  exact ⟨fun hempty => hblank (Text.trim_eq_empty_iff.1 hempty), Text.isTrimmed_trim s⟩

/-- The known statuses are trimmed. -/
theorem isTrimmed_of_mem_known : ∀ s ∈ known, s.IsTrimmed := by
  decide +kernel

/-- A trimmed status is not blank. -/
theorem IsTrimmed.isBlankText {s : Status} (h : s.IsTrimmed) : Text.isBlankText s.text = false := by
  rw [Bool.eq_false_iff]
  intro hblank
  rw [← Text.trim_eq_empty_iff, Text.trim_eq_self_iff.2 h.2] at hblank
  exact h.1 hblank

/-- A status that is read is trimmed. -/
theorem gives_decoder (levels : Nat) (c : Json.Cursor) : (decoder levels c).Gives IsTrimmed := by
  refine Json.gives_refined (fun s status hcheck => ?_) levels c
  split at hcheck
  · next hof =>
    cases hcheck
    exact isTrimmed_of_of? hof
  · cases hcheck

end Status

namespace Decision

open Json (Reads Refuses Step)
open Json.Record (Fills)

/-- The members of the JSON form before the status. -/
def membersBefore (d : Decision) : List (String × Json) :=
  [("decision_id", .text d.id), ("created_at", .text d.createdAt), ("kind", .text d.kind),
    ("payload_json", .text d.payload)]

/-- All fields but the status are read as they are written. -/
theorem fills_before (d : Decision) (levels : Nat) :
    Fills fields levels d.membersBefore {} ⟨d.id, d.createdAt, d.kind, d.payload, none⟩ := by
  have htext : ∀ {set : String → Draft → Draft} (s : String),
      Reads (fun c => (Json.Decoder.text levels c).map set) (Json.text s).chars (set s) :=
    fun s => (Json.reads_textAs "a string" s).map _
  refine .cons rfl rfl (htext d.id) ?_
  refine .cons rfl rfl (htext d.createdAt) ?_
  refine .cons rfl rfl (htext d.kind) ?_
  exact .cons rfl rfl (htext d.payload) .nil

/-- A decision whose status is not blank is read with the status trimmed. -/
theorem run_render_of_not_blank {d : Decision} (h : Text.isBlankText d.status.text = false) :
    decoder.run d.toJson.render = .ok { d with status := ⟨Text.trim d.status.text⟩ } := by
  have hstatus : Reads (Status.decoder 126)
      (Json.text d.status.text).chars ⟨Text.trim d.status.text⟩ := by
    refine (Json.reads_textAs "a string" d.status.text).refined ?_
    unfold Status.of?
    rw [h]
    rfl
  have hfills : Fills fields 126 (d.membersBefore ++ [("status", .text d.status.text)]) {} _ :=
    (d.fills_before 126).append (.cons rfl rfl (hstatus.map _) .nil)
  have hreads : Reads (decoder Json.maxLevels) d.toJson.chars
      { d with status := ⟨Text.trim d.status.text⟩ } := hfills.reads rfl
  exact hreads.run

/-- A decision whose status is blank is refused; the error lies behind its text. -/
theorem run_render_of_blank {d : Decision} (h : Text.isBlankText d.status.text = true) :
    decoder.run d.toJson.render =
      .error ⟨.refused Status.blankMessage, some (Json.Position.after ⟨1, 0⟩ d.toJson.chars)⟩ := by
  have hstatus : Refuses (Status.decoder 126) (Json.text d.status.text).chars
      (.refused Status.blankMessage) := by
    refine (Json.reads_textAs "a string" d.status.text).refuses ?_
    unfold Status.of?
    rw [h]
    rfl
  exact (d.fills_before 126).run_refused rfl rfl (hstatus.map _)

/-- A decision with a trimmed status is read as it was written. -/
theorem run_render_of_isTrimmed {d : Decision} (h : d.status.IsTrimmed) :
    decoder.run d.toJson.render = .ok d := by
  rw [run_render_of_not_blank h.isBlankText, Text.trim_eq_self_iff.2 h.2]

/-- A decision that is read as JSON has a trimmed status. -/
theorem isTrimmed_of_run {s : String} {d : Decision} (h : decoder.run s = .ok d) :
    d.status.IsTrimmed := by
  let I : Draft → Prop := fun draft => ∀ status ∈ draft.status, status.IsTrimmed
  have hfields : ∀ f ∈ fields, f.Keeps 126 I := by
    unfold fields
    simp only [List.forall_mem_cons]
    exact ⟨Json.Field.keeps_other fun _ _ => rfl, Json.Field.keeps_other fun _ _ => rfl,
      Json.Field.keeps_other fun _ _ => rfl, Json.Field.keeps_other fun _ _ => rfl,
      Json.Field.keeps_own (Status.gives_decoder 126) fun _ _ => rfl, nofun⟩
  have hcomplete : ∀ (draft : Draft) (a : Decision), I draft → draft.complete = .ok a →
      a.status.IsTrimmed := by
    intro draft a hdraft ha
    obtain ⟨_, -, ha⟩ := Json.Record.exists_of_need ha
    obtain ⟨_, -, ha⟩ := Json.Record.exists_of_need ha
    obtain ⟨_, -, ha⟩ := Json.Record.exists_of_need ha
    obtain ⟨_, -, ha⟩ := Json.Record.exists_of_need ha
    obtain ⟨status, hsome, ha⟩ := Json.Record.exists_of_need ha
    cases ha
    exact hdraft status hsome
  have hempty : I {} := nofun
  exact Json.of_wholeText (Json.Record.gives_decoder hfields hempty hcomplete) h

/-- A decision is read back from its JSON form just if its status is neither empty nor has blanks
around it. A blank status is refused, and of any other one the blanks around it are lost, but
nothing else. So every decision is read back that was made, that got its status from a text or that
was read as JSON. -/
theorem rereads_iff_isTrimmed (d : Decision) :
    (decoder.run d.toJson.render = .ok d ↔ d.status.IsTrimmed) ∧
    (Text.isBlankText d.status.text = true → decoder.run d.toJson.render =
      .error ⟨.refused Status.blankMessage, some (Json.Position.after ⟨1, 0⟩ d.toJson.chars)⟩) ∧
    (Text.isBlankText d.status.text = false → decoder.run d.toJson.render =
      .ok { d with status := ⟨Text.trim d.status.text⟩ }) ∧
    (∀ payload, d = create d.id d.createdAt d.kind payload → decoder.run d.toJson.render = .ok d) ∧
    (∀ s, Status.of? s = some d.status → decoder.run d.toJson.render = .ok d) ∧
    (∀ s, decoder.run s = .ok d → decoder.run d.toJson.render = .ok d) := by
  refine ⟨⟨isTrimmed_of_run, run_render_of_isTrimmed⟩, run_render_of_blank, run_render_of_not_blank,
    ?_, ?_, ?_⟩
  · intro payload hcreated
    refine run_render_of_isTrimmed (Status.isTrimmed_of_mem_known _ ?_)
    rw [hcreated]
    exact List.mem_cons_self
  · intro s hstatus
    exact run_render_of_isTrimmed (Status.isTrimmed_of_of? hstatus)
  · intro s hread
    exact run_render_of_isTrimmed (isTrimmed_of_run hread)

/-- A status that was stored with blanks around it, in a decision whose id has a quote and a control
character. -/
theorem rereads_iff_isTrimmed_padded :
    ∃ d : Decision, d.id = "a\"\x01" ∧ d.status = ⟨" done\t"⟩ ∧
      decoder.run d.toJson.render = .ok { d with status := ⟨"done"⟩ } ∧
      decoder.run d.toJson.render ≠ .ok d := by
  obtain ⟨hiff, -, htrimmed, -⟩ :=
    rereads_iff_isTrimmed ⟨"a\"\x01", "2024-05-01T00:00:00.000Z", "hold", "null", ⟨" done\t"⟩⟩
  exact ⟨_, rfl, rfl, htrimmed (by decide +kernel), fun h => absurd (hiff.1 h) (by decide +kernel)⟩

end Decision

end DispatchStore
