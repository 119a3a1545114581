import DispatchStore.Proofs.Host.FileTree

/-!
# Where names lead

Where names lead from a place (`Path.follow`) and which directories they lead through on the way
(`Path.Enters`) is told by the names alone; if none of them leads back, it is what lies between the
place and the end (`Path.enters_dropLast_iff`). The directories that are made are those that the
names lead through (`FileTree.of_find?_makeDirectories`, `FileTree.isDirectory_makeDirectories`),
and names that lead anywhere in a tree lead there (`FileTree.resolve?_spec`).
-/

namespace DispatchStore

namespace Path

/-- The names in a written path are made of its characters. -/
theorem mem_of_mem_names {path name : String} {c : Char} (hname : name ∈ names path)
    (hc : c ∈ name.toList) : c ∈ path.toList := by
  have hpart : ∀ {l part : List Char}, part ∈ Text.splitAll '/' l → c ∈ part → c ∈ l := by
    intro l part hpart hc
    induction l generalizing part with
    | nil =>
      rw [Text.splitAll, List.mem_singleton] at hpart
      exact hpart ▸ hc
    | cons a rest ih =>
      unfold Text.splitAll at hpart
      split at hpart
      · rw [List.mem_singleton] at hpart
        cases hpart ▸ hc
      · next first parts hrest =>
        rw [hrest] at ih
        split at hpart
        · rcases List.mem_cons.1 hpart with rfl | hpart
          · cases hc
          · exact List.mem_cons_of_mem _ (ih hpart hc)
        · rcases List.mem_cons.1 hpart with rfl | hpart
          · rcases List.mem_cons.1 hc with rfl | hc
            · exact List.mem_cons_self
            · exact List.mem_cons_of_mem _ (ih List.mem_cons_self hc)
          · exact List.mem_cons_of_mem _ (ih (List.mem_cons_of_mem _ hpart) hc)
  obtain ⟨part, hmem, rfl⟩ := List.mem_map.1 (List.mem_filter.1 hname).1
  rw [String.toList_ofList] at hc
  exact hpart hmem hc

/-- Where names lead from a place. The name `..` leads back, every other one further down. -/
def follow (here : Path) (names : List String) : Path :=
  names.foldl (fun here name => if name = ".." then here.dropLast else here ++ [name]) here

/-- The names lead through the directory: some of them lead there, the last of which is not `..`. -/
def Enters (here : Path) (names : List String) (q : Path) : Prop :=
  ∃ before name after, names = before ++ name :: after ∧ name ≠ ".." ∧
    q = follow here (before ++ [name])

/-- Names lead on from where the first one leads. -/
@[simp] theorem follow_cons (here : Path) (name : String) (rest : List String) :
    follow here (name :: rest) =
      follow (if name = ".." then here.dropLast else here ++ [name]) rest := rfl

/-- No names lead through no directory. -/
@[simp] theorem not_enters_nil {here q : Path} : ¬ Enters here [] q := by
  rintro ⟨before, name, after, hnames, -⟩
  exact List.append_ne_nil_of_right_ne_nil before (List.cons_ne_nil name after) hnames.symm

/-- Names lead through the place of the first one, unless that leads back, and through what the
others do from there. -/
theorem enters_cons {here q : Path} {name : String} {rest : List String} :
    Enters here (name :: rest) q ↔ (name ≠ ".." ∧ q = here ++ [name]) ∨
      Enters (if name = ".." then here.dropLast else here ++ [name]) rest q := by
  constructor
  · rintro ⟨before, other, after, hnames, hother, rfl⟩
    cases before with
    | nil =>
      cases hnames
      refine .inl ⟨hother, ?_⟩
      rw [List.nil_append, follow_cons, if_neg hother]
      rfl
    | cons first before =>
      cases hnames
      exact .inr ⟨before, other, after, rfl, hother, rfl⟩
  · rintro (⟨hname, rfl⟩ | ⟨before, other, after, rfl, hother, rfl⟩)
    · refine ⟨[], name, rest, rfl, hname, ?_⟩
      rw [List.nil_append, follow_cons, if_neg hname]
      rfl
    · exact ⟨name :: before, other, after, rfl, hother, rfl⟩

/-- A way that begins by going back leads through what the rest does from there. -/
theorem enters_up {here q : Path} {rest : List String} :
    Enters here (".." :: rest) q ↔ Enters here.dropLast rest q := by
  simp [enters_cons]

/-- A way that begins by going down leads through the directory of the first name and what the rest
does from there. -/
theorem enters_down {here q : Path} {name : String} (hname : name ≠ "..") {rest : List String} :
    Enters here (name :: rest) q ↔ q = here ++ [name] ∨ Enters (here ++ [name]) rest q := by
  simp [enters_cons, hname]

/-- Names that never lead back lead to what stands before them and themselves. -/
theorem follow_of_not_mem {names : List String} (h : ".." ∉ names) (here : Path) :
    follow here names = here ++ names := by
  induction names generalizing here with
  | nil => exact (List.append_nil here).symm
  | cons name rest ih =>
    rw [List.mem_cons, not_or] at h
    rw [follow_cons, if_neg (Ne.symm h.1), ih h.2, List.append_assoc]
    rfl

/-- Names that never lead back lead through what is between the place and the last of them. -/
theorem enters_dropLast_iff {names : List String} (h : ".." ∉ names) {here q : Path} :
    Enters here names.dropLast q ↔
      (here <+: q ∧ q ≠ here) ∧ q <+: follow here names ∧ q ≠ follow here names := by
  rw [follow_of_not_mem h]
  constructor
  · rintro ⟨before, name, after, hnames, -, rfl⟩
    have hne : names ≠ [] := by
      rintro rfl
      exact List.append_ne_nil_of_right_ne_nil before (List.cons_ne_nil name after) hnames.symm
    have hlast : names = (before ++ [name]) ++ (after ++ [names.getLast hne]) := by
      conv_lhs => rw [← List.dropLast_concat_getLast hne, hnames]
      simp
    have hbefore : ".." ∉ before ++ [name] := fun hmem => h (hlast ▸ List.mem_append_left _ hmem)
    rw [follow_of_not_mem hbefore, hlast]
    simp
  · rintro ⟨⟨⟨before, rfl⟩, hne⟩, hprefix, hbelow⟩
    rw [List.prefix_append_right_inj] at hprefix
    obtain ⟨after, rfl⟩ := hprefix
    have hafter : after ≠ [] := by
      rintro rfl
      simp at hbelow
    rcases List.eq_nil_or_concat before with rfl | ⟨start, name, rfl⟩
    · simp at hne
    · rw [List.concat_eq_append] at h ⊢
      have hstart : ".." ∉ start ++ [name] := fun hmem => h (List.mem_append_left _ hmem)
      refine ⟨start, name, after.dropLast, ?_, ?_, (follow_of_not_mem hstart here).symm⟩
      · rw [List.dropLast_append_of_ne_nil hafter, List.append_assoc]
        rfl
      · rintro rfl
        exact hstart (by simp)

end Path

namespace FileTree

variable {t : FileTree} {p q : Path} {e : Entry}

/-! ## Directories on the way -/

/-- What lies at a path once directories were made lay there before, or is one of the
directories. -/
theorem of_find?_makeDirectories {here : Path} {names : List String}
    (h : (t.makeDirectories here names).find? q = some e) :
    t.find? q = some e ∨ e = .directory ∧ Path.Enters here names q := by
  fun_induction makeDirectories t here names with
  | case1 => exact .inl h
  | case2 t here rest ih =>
    rw [Path.enters_up]
    exact ih h
  | case3 t here name rest hname next hd ih =>
    rw [Path.enters_down hname]
    exact (ih h).imp_right fun hq => ⟨hq.1, .inr hq.2⟩
  | case4 t here name rest hname next hd hstop => exact .inl h
  | case5 t here name rest hname next hd hstop ih =>
    rw [Path.enters_down hname]
    rcases ih h with hput | hq
    · by_cases hnext : q = next
      · rw [hnext,
          find?_put_self (List.append_ne_nil_of_right_ne_nil _ (List.cons_ne_nil _ _))] at hput
        exact .inr ⟨(Option.some.inj hput).symm, .inl hnext⟩
      · rw [find?_put_of_ne hnext] at hput
        exact .inl hput
    · exact .inr ⟨hq.1, .inr hq.2⟩

/-- All directories along names are made if no name is too long and there is no file in the way. -/
theorem isDirectory_makeDirectories {here : Path} {names : List String}
    (hshort : ∀ name ∈ names, name.utf8ByteSize ≤ Path.maxName)
    (hclear : ∀ q, Path.Enters here names q → t.isFile q = false) (hq : Path.Enters here names q) :
    (t.makeDirectories here names).isDirectory q = true := by
  fun_induction makeDirectories t here names with
  | case1 => exact absurd hq Path.not_enters_nil
  | case2 t here rest ih =>
    simp only [Path.enters_up] at hclear hq
    exact ih (fun name hname => hshort name (List.mem_cons_of_mem _ hname)) hclear hq
  | case3 t here name rest hname next hd ih =>
    simp only [Path.enters_down hname] at hclear hq
    rcases hq with rfl | hq
    · exact isDirectory_iff.2 (find?_makeDirectories (isDirectory_iff.1 hd) _ _)
    · exact ih (fun name hname => hshort name (List.mem_cons_of_mem _ hname))
        (fun r hr => hclear r (.inr hr)) hq
  | case4 t here name rest hname next hd hstop =>
    have hfile : t.isFile next = false := hclear next ((Path.enters_down hname).2 (.inl rfl))
    have hname' := hshort name List.mem_cons_self
    rw [hfile, Bool.false_or, decide_eq_true_iff] at hstop
    omega
  | case5 t here name rest hname next hd hstop ih =>
    have hnext : next ≠ [] := List.append_ne_nil_of_right_ne_nil _ (List.cons_ne_nil _ _)
    have hput := find?_put_self (t := t) (e := .directory) hnext
    simp only [Path.enters_down hname] at hclear hq
    rcases hq with rfl | hq
    · exact isDirectory_iff.2 (find?_makeDirectories hput _ _)
    · refine ih (fun name hname => hshort name (List.mem_cons_of_mem _ hname)) (fun r hr => ?_) hq
      by_cases hrn : r = next
      · unfold isFile
        rw [hrn, hput]
        rfl
      · have hold := hclear r (.inr hr)
        unfold isFile at hold ⊢
        rw [find?_put_of_ne hrn]
        exact hold

/-! ## Names that lead to a path -/

/-- Names that lead somewhere are not too long, and lead where they say. -/
theorem resolve?_spec {here : Path} {names : List String} (h : t.resolve? here names = some p) :
    p = Path.follow here names ∧ ∀ name ∈ names, name.utf8ByteSize ≤ Path.maxName := by
  induction names generalizing here with
  | nil =>
    cases h
    exact ⟨rfl, nofun⟩
  | cons name rest ih =>
    unfold resolve? at h
    rw [Path.follow_cons]
    by_cases hname : name = ".."
    · rw [if_pos hname] at h ⊢
      obtain ⟨hp, hshort⟩ := ih h
      refine ⟨hp, List.forall_mem_cons.2 ⟨?_, hshort⟩⟩
      rw [hname]
      decide
    · rw [if_neg hname] at h ⊢
      split at h
      · cases h
      · next hfree =>
        rw [Bool.or_eq_true, not_or, decide_eq_true_iff, Nat.not_lt] at hfree
        obtain ⟨hp, hshort⟩ := ih h
        exact ⟨hp, List.forall_mem_cons.2 ⟨hfree.2, hshort⟩⟩

/-- Names that lead somewhere and never lead back lead through no file. -/
theorem isFile_of_resolve? {here : Path} {names : List String} (h : t.resolve? here names = some p)
    (hdown : ".." ∉ names) (hq : Path.Enters here names.dropLast q) : t.isFile q = false := by
  induction names generalizing here with
  | nil => exact absurd hq Path.not_enters_nil
  | cons name rest ih =>
    rw [List.mem_cons, not_or] at hdown
    have hname : name ≠ ".." := Ne.symm hdown.1
    unfold resolve? at h
    rw [if_neg hname] at h
    split at h
    · cases h
    · cases rest with
      | nil => exact absurd hq Path.not_enters_nil
      | cons other rest =>
        rw [List.dropLast_cons_of_ne_nil (List.cons_ne_nil _ _), Path.enters_down hname] at hq
        rcases hq with rfl | hq
        · -- the next name leads on from here
          rw [List.mem_cons, not_or] at hdown
          unfold resolve? at h
          rw [if_neg (Ne.symm hdown.2.1)] at h
          split at h
          · cases h
          · next hfree =>
            rw [Bool.or_eq_true, not_or, Bool.not_eq_true] at hfree
            exact hfree.1
        · exact ih h hdown.2 hq

end FileTree

end DispatchStore
