import CallFlow.Proofs.Lookup

/-!
# A tree without one of its files

`Entry.without` takes away what stands at the end of a list of names, and leaves the directories on
the way. A file that is taken away makes a difference to a lookup at its own place and nowhere else:

* `Entry.at?_without` — other names lead to what they led to before;
* `Entry.alikeBut_without` — so the trees are the same to a lookup but for that place;
* `Workspace.find_without` — and a directory that holds the file is found as before, with all its
  files but that one.
-/

namespace CallFlow

namespace Entry

/-- Changes what a directory holds under a name; if nothing is left of it, the name goes too. -/
def changeChild (name : String) (change : Entry → Option Entry) :
    List (String × Entry) → List (String × Entry)
  | [] => []
  | (n, e) :: es =>
    if n == name then ((change e).map (n, ·)).toList ++ es else (n, e) :: changeChild name change es

/-- What is left of an entry when what stands at the end of the names is taken away. -/
def without : Entry → List String → Option Entry
  | _, [] => none
  | directory es, name :: rest => some (directory (changeChild name (·.without rest) es))
  | e, _ :: _ => some e

/-! ## One child of a directory -/

section ChangeChild

variable {es : List (String × Entry)} (name : String) (change : Entry → Option Entry)

theorem lookup_changeChild (h : (es.map (·.1)).Nodup) (n : String) :
    (changeChild name change es).lookup n =
      if n = name then (es.lookup n).bind change else es.lookup n := by
  induction es with
  | nil => simp [changeChild]
  | cons p es ih =>
    obtain ⟨k, e⟩ := p
    obtain ⟨hnew, hes⟩ := List.nodup_cons.1 h
    rw [changeChild]
    by_cases hk : k = name
    · subst hk
      rw [if_pos (beq_self_eq_true k)]
      by_cases hn : n = k
      · -- if nothing is left under the name, no second entry may take its place
        subst hn
        have hnone : es.lookup n = none := lookup_eq_none_iff_mem.2 hnew
        cases hchange : change e <;> simp [hchange, hnone]
      · cases change e <;> simp [List.lookup_cons, beq_false_of_ne hn, hn]
    · rw [if_neg (by simpa using hk)]
      by_cases hn : n = k
      · subst hn
        simp [hk]
      · simp [List.lookup_cons, beq_false_of_ne hn, ih hes]

theorem map_name_changeChild_sublist (es : List (String × Entry)) :
    ((changeChild name change es).map (·.1)).Sublist (es.map (·.1)) := by
  induction es with
  | nil => exact List.Sublist.refl _
  | cons p es ih =>
    rw [changeChild]
    split
    · cases change p.2 with
      | none => exact (List.Sublist.refl _).cons _
      | some e => exact List.Sublist.refl _
    · exact ih.cons_cons _

theorem mem_changeChild {p : String × Entry} (hp : p ∈ changeChild name change es) :
    p ∈ es ∨ ∃ e, (p.1, e) ∈ es ∧ change e = some p.2 := by
  induction es with
  | nil => exact absurd hp List.not_mem_nil
  | cons q es ih =>
    rw [changeChild] at hp
    split at hp
    · rcases List.mem_append.1 hp with hp | hp
      · obtain ⟨e, he, rfl⟩ := Option.map_eq_some_iff.1 (Option.mem_toList.1 hp)
        exact .inr ⟨q.2, List.mem_cons_self .., he⟩
      · exact .inl (List.mem_cons_of_mem _ hp)
    · rcases List.mem_cons.1 hp with rfl | hp
      · exact .inl (List.mem_cons_self ..)
      · refine (ih hp).imp (List.mem_cons_of_mem _) ?_
        rintro ⟨e, hmem, he⟩
        exact ⟨e, List.mem_cons_of_mem _ hmem, he⟩

end ChangeChild

/-! ## What is left -/

theorem WellFormed.without {e e' : Entry} (h : e.WellFormed) {names : List String}
    (hleft : e.without names = some e') : e'.WellFormed := by
  induction names generalizing e e' with
  | nil => cases e <;> cases hleft
  | cons name rest ih =>
    cases e with
    | file content =>
      cases hleft
      exact h
    | link target =>
      cases hleft
      exact h
    | directory es =>
      cases hleft
      obtain ⟨hnames, hes⟩ := wellFormed_directory_iff.1 h
      refine wellFormed_directory_iff.2
        ⟨hnames.sublist (map_name_changeChild_sublist name _ es), ?_⟩
      intro p hp
      rcases mem_changeChild name _ hp with hp | ⟨d, hd, hleft⟩
      · exact hes p hp
      · exact ⟨(hes _ hd).1, ih (hes _ hd).2 hleft⟩

/-- What is left when a file is taken away: nothing where the file was, and the same as before
everywhere else. -/
theorem at?_without {e : Entry} (h : e.WellFormed) {gone : List String} {content : List UInt8}
    (hfile : e.at? gone = some (file content)) (names : List String) :
    Option.Rel Alike (if names = gone then none else e.at? names)
      ((e.without gone).bind (·.at? names)) := by
  induction gone generalizing e names with
  | nil =>
    obtain rfl : e = file content := by simpa [at?] using hfile
    cases names with
    | nil => exact .none
    | cons n rest => exact .none
  | cons name gone ih =>
    cases e with
    | file content' => cases hfile
    | link target => cases hfile
    | directory es =>
      obtain ⟨hnames, hes⟩ := wellFormed_directory_iff.1 h
      rw [at?_directory_cons] at hfile
      obtain ⟨d, hlookup, hrest⟩ := Option.bind_eq_some_iff.1 hfile
      have hd := (hes _ ((lookup_eq_some_iff_mem hnames).1 hlookup)).2
      rw [Entry.without, Option.bind_some]
      cases names with
      | nil => exact .some (.directory _ _)
      | cons n rest =>
        rw [at?_directory_cons, at?_directory_cons, lookup_changeChild _ _ hnames]
        by_cases hn : n = name
        · subst hn
          rw [if_pos rfl, hlookup, Option.bind_some, Option.bind_some]
          simpa using ih hd hrest rest
        · rw [if_neg hn, if_neg (by simp [hn])]
          exact alike_refl _

theorem at?_without_self {e e' : Entry} (h : e.WellFormed) {gone : List String}
    {content : List UInt8} (hfile : e.at? gone = some (file content))
    (hleft : e.without gone = some e') : e'.at? gone = none := by
  have hat := at?_without h hfile gone
  rw [if_pos rfl, hleft, Option.bind_some] at hat
  generalize e'.at? gone = found at hat ⊢
  cases hat
  rfl

theorem exists_without (e : Entry) {gone : List String} (h : gone ≠ []) :
    ∃ e', e.without gone = some e' := by
  obtain ⟨name, rest, rfl⟩ := List.exists_cons_of_ne_nil h
  cases e <;> exact ⟨_, rfl⟩

theorem alikeBut_without {top top' : Entry} (h : top.WellFormed) {gone : List String}
    {content : List UInt8} (hfile : top.at? gone = some (file content))
    (hleft : top.without gone = some top') : AlikeBut gone top top' := by
  have hat := at?_without h hfile
  simp only [hleft, Option.bind_some] at hat
  refine ⟨fun names hne => by simpa [hne] using hat names, hfile ▸ atMostFile_file content, ?_⟩
  rw [at?_without_self h hfile hleft]
  exact atMostFile_none

end Entry

/-! ## Files below a directory -/

namespace Workspace

/-- The workspace without what a path leads to. -/
def without (w : Workspace) (p : Path) : Workspace :=
  match w.place p with
  | .ok names => { w with top := (w.top.without names.reverse).getD .empty }
  | .error _ => w

section Below

variable {w : Workspace} {root : Path} {es : List (String × Entry)} {names : List String}
  {content : List UInt8}

/-- When a file below a directory is taken away, the directory is found as before, and holds all its
files but that one. -/
theorem find_without (hw : w.top.WellFormed) (hroot : w.find root = .ok (.directory es))
    (hfile : (Entry.directory es).at? names = some (.file content)) :
    (w.without (root.below names)).top.WellFormed ∧
      ∃ es', (w.without (root.below names)).find root = .ok (.directory es') ∧
        ∀ ns content', (Entry.directory es').at? ns = some (.file content') ↔
          ns ≠ names ∧ (Entry.directory es).at? ns = some (.file content') := by
  obtain ⟨place, hplace, hdir⟩ := find_eq_ok_iff.1 hroot
  have hup := up_not_mem (hw.at? hdir).1 hfile
  have hne : names ≠ [] := by
    rintro rfl
    cases hfile
  have hgone : w.top.at? (place.reverse ++ names) = some (.file content) := by
    rw [Entry.at?_append, hdir]
    exact hfile
  obtain ⟨top', hleft⟩ :=
    w.top.exists_without (List.append_ne_nil_of_right_ne_nil place.reverse hne)
  have hwithout : w.without (root.below names) = { w with top := top' } := by
    rw [without, place_below hplace hdir hup hfile]
    simp only [List.reverse_append, List.reverse_reverse, hleft, Option.getD_some]
  have halike : w.AlikeBut (place.reverse ++ names) { w with top := top' } :=
    ⟨Entry.alikeBut_without hw hgone hleft, rfl⟩
  obtain ⟨es', hplace', hdir', hother⟩ := exists_directory_of_alikeBut hne halike hplace hdir
  rw [hwithout]
  refine ⟨hw.without hleft, es', find_eq_ok_iff.2 ⟨place, hplace', hdir'⟩, fun ns content' => ?_⟩
  by_cases hns : ns = names
  · have hnone := Entry.at?_without_self hw hgone hleft
    rw [Entry.at?_append, hdir', Option.bind_some] at hnone
    simp [hns, hnone]
  · simp [hns, hother ns hns]

end Below

end Workspace

end CallFlow
