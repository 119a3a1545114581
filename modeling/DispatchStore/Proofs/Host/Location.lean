import DispatchStore.Host.Opening
import DispatchStore.Proofs.Text.Utf8

/-!
# Paths that mean themselves

The location of a path is read back into that path if nothing in it is taken for something else
(`Location.IsVerbatim`, `Location.read_ofPath`). If it also can be the name of a file, the engine
opens the file of that very name (`Location.IsLiteral`, `Opening.ofLocation_created`). A path
without the characters that a location knows is one of these (`Location.IsPlain`).
-/

namespace DispatchStore

open Text (utf8)

/-- A list is split at the separator, if there is none before it. -/
theorem splitFirst_append {α : Type} [DecidableEq α] {sep : α} {l : List α} (h : sep ∉ l)
    (rest : List α) : Text.splitFirst sep (l ++ sep :: rest) = (l, some rest) := by
  have hne : ∀ a ∈ l, decide (a ≠ sep) = true := by
    intro a ha
    exact decide_eq_true fun heq => h (heq ▸ ha)
  have hsep : decide (sep ≠ sep) = false := by simp
  unfold Text.splitFirst
  rw [List.dropWhile_append_of_pos hne, List.takeWhile_append_of_pos hne, List.dropWhile_cons,
    List.takeWhile_cons, hsep]
  simp

namespace Location

/-- No part of the path is read as anything else than a name: not by the reader of locations, which
takes beginnings away, decodes and looks for parameters, and not by the engine, which knows a scheme
and a name for what is in memory. -/
structure IsPlain (path : String) : Prop where
  nonempty : path ≠ ""
  onDisk : path ≠ memoryName
  characters : ∀ c ∈ path.toList, c ≠ '?' ∧ c ≠ '%' ∧ c ≠ '\x00'
  unprefixed : ∀ start ∈ ["sqlite:", "//", Opening.scheme], ¬ start.toList <+: path.toList

/-- The path is read back as it is written: it is not the name for what is in memory, it has no
parameters, nothing in it is decoded, and it does not begin with what is taken away or with the
scheme of the engine. -/
structure IsVerbatim (path : String) : Prop where
  onDisk : path ≠ memoryName
  noParameters : '?' ∉ path.toList
  undecoded : Text.percentDecode (utf8 path) = utf8 path
  unprefixed : ∀ start ∈ ["sqlite:", "//", Opening.scheme], ¬ start.toList <+: path.toList

/-- The path is read back as it is written, and the engine takes it for the name of a file. -/
structure IsLiteral (path : String) : Prop extends IsVerbatim path where
  nonempty : path ≠ ""
  noNull : '\x00' ∉ path.toList

instance (path : String) : Decidable (IsPlain path) :=
  -- with `List.all` the characters of the path are gone through, and not all characters there are
  decidable_of_iff (path ≠ "" ∧ path ≠ memoryName ∧
      path.toList.all (fun c => c ≠ '?' ∧ c ≠ '%' ∧ c ≠ '\x00') = true ∧
      ∀ start ∈ ["sqlite:", "//", Opening.scheme], ¬ start.toList <+: path.toList)
    ⟨fun h => ⟨h.1, h.2.1,
      fun c hc => of_decide_eq_true (List.all_eq_true.1 h.2.2.1 c hc), h.2.2.2⟩,
      fun h => ⟨h.nonempty, h.onDisk,
        List.all_eq_true.2 fun c hc => decide_eq_true (h.characters c hc), h.unprefixed⟩⟩

/-- A plain path is read back as it is written, and names a file. -/
theorem IsPlain.isLiteral {path : String} (h : IsPlain path) : IsLiteral path := by
  have hpercent : ∀ b ∈ utf8 path, b ≠ 0x25 := by
    rintro b hb rfl
    exact (h.characters _ (Text.mem_of_mem_utf8 (by decide) hb)).2.1 rfl
  exact
    { onDisk := h.onDisk
      noParameters := fun hmem => (h.characters _ hmem).1 rfl
      undecoded := Text.percentDecode_of_forall_ne hpercent
      unprefixed := h.unprefixed
      nonempty := h.nonempty
      noNull := fun hmem => (h.characters _ hmem).2.2 rfl }

/-- The location of a file that is created if it is missing. -/
def created (path : String) : Location := { ofName path with create := true }

/-- Nothing is taken away where the list does not begin so. -/
theorem dropRepeated_eq_self {start l : List Char} (h : ¬ start <+: l) :
    dropRepeated start l = l := by
  rw [dropRepeated, dif_neg]
  rintro ⟨-, hprefix⟩
  exact h (List.isPrefixOf_iff_prefix.1 hprefix)

/-- A beginning that does not come twice is taken away once. -/
theorem dropRepeated_append {start l : List Char} (hstart : start ≠ []) (h : ¬ start <+: l) :
    dropRepeated start (start ++ l) = l := by
  have hprefix : start.isPrefixOf (start ++ l) = true :=
    List.isPrefixOf_iff_prefix.2 (List.prefix_append start l)
  rw [dropRepeated, dif_pos ⟨hstart, hprefix⟩, List.drop_left]
  exact dropRepeated_eq_self h

/-- A list that does not have the item begins what stands before the item. -/
theorem prefix_of_not_mem {start l rest : List Char} {c : Char} (hc : c ∉ start)
    (h : start <+: l ++ c :: rest) : start <+: l := by
  have hmem : c ∈ l ++ [c] := List.mem_append_right _ List.mem_cons_self
  have hprefix : l ++ [c] <+: l ++ c :: rest := ⟨rest, by simp⟩
  rcases List.prefix_or_prefix_of_prefix h hprefix with hshort | hlong
  · rcases List.prefix_concat_iff.1 hshort with heq | hbegins
    · exact absurd (heq ▸ hmem) hc
    · exact hbegins
  · exact absurd (hlong.subset hmem) hc

section Verbatim

variable {path : String} (h : IsVerbatim path)
include h

/-- The reader takes away nothing but the beginning that every location has. -/
theorem read_start (rest : List Char) :
    dropRepeated "sqlite:".toList (dropRepeated "sqlite://".toList
      ("sqlite:".toList ++ (path.toList ++ '?' :: rest))) = path.toList ++ '?' :: rest := by
  have hslashes : ¬ "sqlite://".toList <+: "sqlite:".toList ++ (path.toList ++ '?' :: rest) := by
    rw [show "sqlite://".toList = "sqlite:".toList ++ "//".toList from rfl,
      List.prefix_append_right_inj]
    intro hprefix
    exact h.unprefixed "//" (by decide) (prefix_of_not_mem (by decide) hprefix)
  have hscheme : ¬ "sqlite:".toList <+: path.toList ++ '?' :: rest := by
    intro hprefix
    exact h.unprefixed "sqlite:" (by decide) (prefix_of_not_mem (by decide) hprefix)
  rw [dropRepeated_eq_self hslashes, dropRepeated_append (by decide) hscheme]

/-- A name in which nothing is encoded is not decoded. -/
theorem readName_verbatim : readName path = .ok path := by
  unfold readName
  rw [h.undecoded, Text.ofUtf8_utf8]

/-- The location of a path says the path, and that a missing file is created. -/
theorem read_ofPath : read (ofPath path) = .ok (created path) := by
  have htext : (ofPath path).toList =
      "sqlite:".toList ++ (path.toList ++ '?' :: "mode=rwc".toList) := by
    simp [ofPath, String.toList_append]
  unfold read
  rw [htext, read_start h]
  simp only [splitFirst_append h.noParameters, String.ofList_toList, readName_verbatim h]
  rfl

end Verbatim

end Location

namespace Opening

/-- How a file is opened that is created if it is missing. -/
def creating (path : String) : Opening := ⟨path, .create, false, false, "unix", []⟩

/-- The engine takes a literal path for the name of a file. -/
theorem ofLocation_created {path : String} (h : Location.IsLiteral path) :
    ofLocation (Location.created path) = .ok (creating path) := by
  have hname : (Location.created path).engineName = path := rfl
  have hnul : path.toList.contains '\x00' = false := by
    rw [List.contains_eq_mem]
    exact decide_eq_false h.noNull
  have hscheme : (utf8 scheme).isPrefixOf (utf8 path) = false := by
    rw [Bool.eq_false_iff]
    intro hprefix
    exact h.unprefixed scheme (by decide)
      (Text.prefix_of_encoded (List.isPrefixOf_iff_prefix.1 hprefix))
  unfold ofLocation
  simp only [hname, hnul, hscheme, Bool.false_eq_true, if_false]
  rfl

/-- A name with a null character is refused. -/
theorem noNull_of_ofLocation {path : String} {o : Opening}
    (h : ofLocation (Location.created path) = .ok o) : '\x00' ∉ path.toList := by
  intro hmem
  have hnul : path.toList.contains '\x00' = true := List.contains_iff_mem.2 hmem
  have hname : (Location.created path).engineName = path := rfl
  unfold ofLocation at h
  simp only [hname, hnul, if_true] at h
  cases h

/-- A literal path leads to the file of its name. -/
theorem place_creating {path : String} (h : Location.IsLiteral path) :
    (creating path).place ⟨false, true⟩ = .file path := by
  have hempty : path.isEmpty = false := by simpa using h.nonempty
  unfold place creating
  simp only [h.onDisk, hempty, Bool.false_or, Bool.false_eq_true, decide_false, if_false]

end Opening

end DispatchStore
