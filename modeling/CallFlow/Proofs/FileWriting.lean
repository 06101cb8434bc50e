import CallFlow.Proofs.Lookup

/-!
# A tree with one more file

A file that is written into a directory stands there afterwards, and nothing else has changed:

* `Entry.at?_put_self`, `Entry.at?_put` — the names of the file lead to it, and to a lookup all
  other names lead to what they led to before;
* `Entry.put_put` — of two files written to one place the second one is left;
* `Workspace.exists_hasRoom_of_write` — a file is written only into a directory with room for it
  (`Workspace.HasRoom`);
* `Workspace.HasRoom.exists_putFile`, `Workspace.HasRoom.write_putFile` — that directory is found as
  before with the same other files, and the same file can be written again.
-/

namespace CallFlow

namespace Entry

/-! ## One child of a directory -/

section SetChild

variable (name : String) (e : Entry) (es : List (String × Entry))

theorem lookup_cons_eq_ite (n : String) :
    ((name, e) :: es).lookup n = if n = name then some e else es.lookup n := by
  by_cases hn : n = name
  · simp [hn]
  · rw [if_neg hn, List.lookup_cons, beq_false_of_ne hn]

theorem lookup_setChild (n : String) :
    (setChild name e es).lookup n = if n = name then some e else es.lookup n := by
  induction es with
  | nil => exact lookup_cons_eq_ite name e [] n
  | cons p es ih =>
    obtain ⟨k, old⟩ := p
    rw [setChild]
    by_cases hk : k = name
    · subst hk
      by_cases hn : n = k <;> simp [lookup_cons_eq_ite, hn]
    · rw [if_neg (by simpa using hk), lookup_cons_eq_ite, lookup_cons_eq_ite, ih]
      by_cases hn : n = k
      · simp [hn, hk]
      · simp [hn]

theorem lookup_setChild_self : (setChild name e es).lookup name = some e := by
  rw [lookup_setChild, if_pos rfl]

theorem setChild_setChild (e' : Entry) :
    setChild name e' (setChild name e es) = setChild name e' es := by
  induction es with
  | nil => simp [setChild]
  | cons p es ih =>
    by_cases hk : p.1 = name
    · simp [setChild, hk]
    · simp [setChild, hk, ih]

theorem mem_setChild {p : String × Entry} (hp : p ∈ setChild name e es) :
    p = (name, e) ∨ p ∈ es := by
  induction es with
  | nil => exact .inl (List.mem_singleton.1 hp)
  | cons q es ih =>
    rw [setChild] at hp
    split at hp
    case isTrue hq =>
      obtain rfl : q.1 = name := by simpa using hq
      exact (List.mem_cons.1 hp).imp_right (List.mem_cons_of_mem _)
    case isFalse =>
      rcases List.mem_cons.1 hp with rfl | hp
      · exact .inr (List.mem_cons_self ..)
      · exact (ih hp).imp_right (List.mem_cons_of_mem _)

theorem nodup_setChild (h : (es.map (·.1)).Nodup) : ((setChild name e es).map (·.1)).Nodup := by
  induction es with
  | nil => simp [setChild]
  | cons q es ih =>
    obtain ⟨hnew, hes⟩ := List.nodup_cons.1 h
    rw [setChild]
    split
    case isTrue => exact List.nodup_cons.2 ⟨hnew, hes⟩
    case isFalse hq =>
      refine List.nodup_cons.2 ⟨fun hmem => ?_, ih hes⟩
      obtain ⟨p, hp, hname⟩ := List.mem_map.1 hmem
      rcases mem_setChild name e es hp with rfl | hp
      · exact hq (by simpa using hname.symm)
      · exact hnew (hname ▸ List.mem_map_of_mem hp)

theorem wellFormed_setChild (hes : (directory es).WellFormed) (hname : IsFileName name)
    (he : e.WellFormed) : (directory (setChild name e es)).WellFormed := by
  obtain ⟨hnames, hentries⟩ := wellFormed_directory_iff.1 hes
  refine wellFormed_directory_iff.2 ⟨nodup_setChild name e es hnames, fun p hp => ?_⟩
  rcases mem_setChild name e es hp with rfl | hp
  · exact ⟨hname, he⟩
  · exact hentries p hp

end SetChild

/-! ## One place of a tree -/

theorem wellFormed_empty : empty.WellFormed :=
  wellFormed_directory_iff.2 ⟨List.nodup_nil, fun _ hp => absurd hp List.not_mem_nil⟩

theorem put_directory_cons (es : List (String × Entry)) (name : String) (rest : List String)
    (e : Entry) : (directory es).put (name :: rest) e =
      directory (setChild name (((es.lookup name).getD empty).put rest e) es) :=
  rfl

/-- Something else in the way is taken for an empty directory. -/
theorem exists_put_cons (d : Entry) : ∃ es, (d = directory es ∨ es = []) ∧
    ∀ name rest e, d.put (name :: rest) e = (directory es).put (name :: rest) e := by
  cases d with
  | directory es => exact ⟨es, .inl rfl, fun _ _ _ => rfl⟩
  | file content => exact ⟨[], .inr rfl, fun _ _ _ => rfl⟩
  | link target => exact ⟨[], .inr rfl, fun _ _ _ => rfl⟩

theorem WellFormed.put {d e : Entry} (hd : d.WellFormed) (he : e.WellFormed) {names : List String}
    (hnames : ∀ name ∈ names, IsFileName name) : (d.put names e).WellFormed := by
  induction names generalizing d with
  | nil => exact he
  | cons name rest ih =>
    obtain ⟨hname, hrest⟩ := List.forall_mem_cons.1 hnames
    obtain ⟨es, hcase, hput⟩ := exists_put_cons d
    have hes : (directory es).WellFormed := by
      rcases hcase with rfl | rfl
      · exact hd
      · exact wellFormed_empty
    rw [hput, put_directory_cons]
    refine wellFormed_setChild _ _ _ hes hname (ih ?_ hrest)
    cases hchild : es.lookup name with
    | none => exact wellFormed_empty
    | some c =>
      have hat : (directory es).at? [name] = some c := by
        rw [at?_directory_cons, hchild]
        rfl
      exact (hes.at? hat).1

/-- Of two entries that are put at one place the second one is left. -/
theorem put_put (d e e' : Entry) (names : List String) :
    (d.put names e).put names e' = d.put names e' := by
  induction names generalizing d with
  | nil => cases d <;> cases e <;> rfl
  | cons name rest ih =>
    obtain ⟨es, -, hput⟩ := exists_put_cons d
    rw [hput, hput, put_directory_cons, put_directory_cons, put_directory_cons,
      lookup_setChild_self, Option.getD_some, ih, setChild_setChild]

theorem at?_put_self (d e : Entry) (names : List String) : (d.put names e).at? names = some e := by
  induction names generalizing d with
  | nil => cases d <;> rfl
  | cons name rest ih =>
    obtain ⟨es, -, hput⟩ := exists_put_cons d
    rw [hput, put_directory_cons, at?_directory_cons, lookup_setChild_self, Option.bind_some, ih]

/-- When a file is put into a directory, in which no directory and no link is in its way, all other
names lead to what they led to before. -/
theorem at?_put {d : Entry} {dir : List String} {es : List (String × Entry)} {name : String}
    (hdir : d.at? dir = some (directory es)) (hfree : AtMostFile (es.lookup name))
    (content : List UInt8) (names : List String) (hne : names ≠ dir ++ [name]) :
    Option.Rel Alike (d.at? names) ((d.put (dir ++ [name]) (file content)).at? names) := by
  induction dir generalizing d names with
  | nil =>
    obtain rfl : d = directory es := by simpa [at?] using hdir
    rw [List.nil_append, put_directory_cons]
    cases names with
    | nil => exact .some (.directory _ _)
    | cons n rest =>
      rw [at?_directory_cons, at?_directory_cons, lookup_setChild]
      by_cases hn : n = name
      · -- the names go on below a file, where nothing is
        subst hn
        obtain ⟨k, rest, rfl⟩ := List.exists_cons_of_ne_nil (l := rest) (by simpa using hne)
        rw [if_pos rfl]
        cases hold : es.lookup n with
        | none => exact .none
        | some c =>
          obtain ⟨old, rfl⟩ := hfree c hold
          exact .none
      · rw [if_neg hn]
        exact alike_refl _
  | cons k dir ih =>
    obtain ⟨c, hchild, hrest⟩ := Option.bind_eq_some_iff.1 hdir
    cases d with
    | file content' => cases hchild
    | link target => cases hchild
    | directory es' =>
      have hlookup : es'.lookup k = some c := hchild
      rw [List.cons_append, put_directory_cons, hlookup, Option.getD_some]
      cases names with
      | nil => exact .some (.directory _ _)
      | cons n rest =>
        rw [at?_directory_cons, at?_directory_cons, lookup_setChild]
        by_cases hn : n = k
        · subst hn
          rw [if_pos rfl, hlookup, Option.bind_some, Option.bind_some]
          exact ih hrest rest fun heq => hne (by rw [heq, List.cons_append])
        · rw [if_neg hn]
          exact alike_refl _

theorem alikeBut_put {d : Entry} {dir : List String} {es : List (String × Entry)} {name : String}
    (hdir : d.at? dir = some (directory es)) (hfree : AtMostFile (es.lookup name))
    (content : List UInt8) : AlikeBut (dir ++ [name]) d (d.put (dir ++ [name]) (file content)) where
  elsewhere := at?_put hdir hfree content
  before := by
    rw [at?_append, hdir, Option.bind_some, at?_directory_cons]
    simpa [at?] using hfree
  after := by
    rw [at?_put_self]
    exact atMostFile_file content

end Entry

/-! ## Files in a directory -/

namespace Workspace

/-- The workspace with a file at the end of the names. -/
def putFile (w : Workspace) (names : List String) (content : List UInt8) : Workspace :=
  { w with top := w.top.put names (.file content) }

/-- A path leads to a directory that has room for a file of the given name: it can hold the name,
and holds no directory and no link under it. -/
structure HasRoom (w : Workspace) (root : Path) (name : String) (place : List String)
    (es : List (String × Entry)) : Prop where
  isFileName : IsFileName name
  leads : w.place root = .ok place
  directory : w.top.at? place.reverse = some (.directory es)
  free : Entry.AtMostFile (es.lookup name)

section Write

variable {w : Workspace} {root : Path} {name : String} {place : List String}
  {es : List (String × Entry)}

theorem HasRoom.find (h : w.HasRoom root name place es) : w.find root = .ok (.directory es) :=
  find_eq_ok_iff.2 ⟨place, h.leads, h.directory⟩

/-- Where a file in a directory is written. -/
theorem writePlace_child (hplace : w.place root = .ok place)
    (hdir : w.top.at? place.reverse = some (.directory es)) (name : String) (links : Nat) :
    w.top.writePlace (links + 1) (Entry.startOf w.here (root.child name)) (root.child name).parts =
      if name = ".." then .error .isDirectory
      else
        match es.lookup name with
        | some (.directory _) => .error .isDirectory
        | some (.link target) =>
          let p := Path.ofString target
          w.top.writePlace links (Entry.startOf place p) p.parts
        | _ => .ok (name :: place) := by
  have hplace' : w.top.resolve (Entry.linkLimit + 1) (Entry.startOf w.here (root.child name))
      (root.child name).parts.dropLast = .ok place := by
    rw [Path.child, List.dropLast_concat]
    exact hplace
  rw [Entry.writePlace]
  dsimp only
  rw [hplace']
  simp only [bind, Except.bind, hdir, Path.child, List.getLast?_concat]
  split
  case h_1 hnone => cases hnone
  case h_2 hup =>
    cases hup
    rfl
  case h_3 hup hname =>
    cases hname
    exact (if_neg hup).symm

theorem HasRoom.write_eq (h : w.HasRoom root name place es) (content : List UInt8) :
    w.write (root.child name) content = .ok (w.putFile (place.reverse ++ [name]) content) := by
  have hwrite : w.top.writePlace (Entry.linkLimit + 1) (Entry.startOf w.here (root.child name))
      (root.child name).parts = .ok (name :: place) := by
    rw [writePlace_child h.leads h.directory, if_neg h.isFileName.2]
    cases hold : es.lookup name with
    | none => rfl
    | some e =>
      obtain ⟨old, rfl⟩ := h.free e hold
      rfl
  rw [write, hwrite, putFile, ← List.reverse_cons]
  rfl

theorem exists_hasRoom (hname : IsFileName name) (hroot : w.find root = .ok (.directory es))
    (hlink : ∀ target, es.lookup name ≠ some (.link target))
    (hdirectory : ∀ es', es.lookup name ≠ some (.directory es')) :
    ∃ place, w.HasRoom root name place es := by
  obtain ⟨place, hplace, hdir⟩ := find_eq_ok_iff.1 hroot
  refine ⟨place, hname, hplace, hdir, fun e hold => ?_⟩
  cases e with
  | file old => exact ⟨old, rfl⟩
  | directory es' => exact absurd hold (hdirectory es')
  | link target => exact absurd hold (hlink target)

/-- If a file is written into a directory in which its name is no link, there was room for it. -/
theorem exists_hasRoom_of_write (hname : Path.IsPart name)
    (hroot : w.find root = .ok (.directory es))
    (hlink : ∀ target, es.lookup name ≠ some (.link target)) {content : List UInt8} {w' : Workspace}
    (hwrite : w.write (root.child name) content = .ok w') :
    ∃ place, w.HasRoom root name place es ∧
      w' = w.putFile (place.reverse ++ [name]) content := by
  obtain ⟨place, hplace, hdir⟩ := find_eq_ok_iff.1 hroot
  rw [write, writePlace_child hplace hdir] at hwrite
  have hup : name ≠ ".." := by
    intro hup
    rw [if_pos hup] at hwrite
    cases hwrite
  have hdirectory : ∀ es', es.lookup name ≠ some (.directory es') := by
    intro es' hold
    rw [if_neg hup, hold] at hwrite
    cases hwrite
  obtain ⟨place', hroom⟩ := exists_hasRoom ⟨hname, hup⟩ hroot hlink hdirectory
  rw [← writePlace_child hplace hdir, ← write, hroom.write_eq] at hwrite
  cases hwrite
  exact ⟨place', hroom, rfl⟩

theorem HasRoom.alikeBut (h : w.HasRoom root name place es) (content : List UInt8) :
    w.AlikeBut (place.reverse ++ [name]) (w.putFile (place.reverse ++ [name]) content) :=
  ⟨Entry.alikeBut_put h.directory h.free content, rfl⟩

theorem HasRoom.wellFormed (h : w.HasRoom root name place es) (hw : w.top.WellFormed)
    (content : List UInt8) : (w.putFile (place.reverse ++ [name]) content).top.WellFormed := by
  have hfile : (Entry.file content).WellFormed := True.intro
  refine hw.put hfile fun n hn => ?_
  rcases List.mem_append.1 hn with hn | hn
  · exact (hw.at? h.directory).2 n hn
  · rw [List.mem_singleton.1 hn]
    exact h.isFileName

/-- With the file in it, the directory still has room for it, and its other files are the same. -/
theorem HasRoom.exists_putFile (h : w.HasRoom root name place es) (content : List UInt8) :
    ∃ es', (w.putFile (place.reverse ++ [name]) content).HasRoom root name place es' ∧
      (Entry.directory es').at? [name] = some (.file content) ∧
      ∀ ns, ns ≠ [name] → ∀ old, (Entry.directory es').at? ns = some (.file old) ↔
        (Entry.directory es).at? ns = some (.file old) := by
  obtain ⟨es', hplace', hdir', hother⟩ := exists_directory_of_alikeBut (List.cons_ne_nil name [])
    (h.alikeBut content) h.leads h.directory
  have hself : (w.putFile (place.reverse ++ [name]) content).top.at? (place.reverse ++ [name]) =
      some (.file content) :=
    Entry.at?_put_self _ _ _
  rw [Entry.at?_append, hdir', Option.bind_some] at hself
  have hlookup : es'.lookup name = some (.file content) := by
    rw [Entry.at?_directory_cons] at hself
    simpa [Entry.at?] using hself
  have hfree : Entry.AtMostFile (es'.lookup name) := hlookup ▸ Entry.atMostFile_file content
  exact ⟨es', ⟨h.isFileName, hplace', hdir', hfree⟩, hself, hother⟩

/-- The path of the file leads to it. -/
theorem HasRoom.find_putFile (h : w.HasRoom root name place es) (hw : w.top.WellFormed)
    (content : List UInt8) :
    let w' := w.putFile (place.reverse ++ [name]) content
    w'.place (root.child name) = .ok (name :: place) ∧
      w'.find (root.child name) = .ok (.file content) := by
  intro w'
  obtain ⟨es', hroom, hself, -⟩ := h.exists_putFile content
  have hup : ".." ∉ [name] := by simpa using Ne.symm h.isFileName.2
  exact ⟨place_below hroom.leads hroom.directory hup hself,
    find_below (h.wellFormed hw content) hroom.find hself⟩

/-- Any other file is found as before. -/
theorem HasRoom.find_other (h : w.HasRoom root name place es) (content : List UInt8) {p : Path} :
    let w' := w.putFile (place.reverse ++ [name]) content
    w'.place p ≠ .ok (name :: place) → ∀ found, w'.find p = .ok (.file found) ↔
      w.find p = .ok (.file found) := by
  intro w' hother found
  have halike : w.AlikeBut (name :: place).reverse w' := by
    rw [List.reverse_cons]
    exact h.alikeBut content
  have hfile : w'.top.at? (name :: place).reverse = some (.file content) := by
    rw [List.reverse_cons]
    exact Entry.at?_put_self _ _ _
  have hother' : w.place p ≠ .ok (name :: place) := fun hplace =>
    hother (place_of_alikeBut halike hplace fun _ => ⟨content, hfile⟩)
  constructor
  · intro hfound
    refine find_file_of_alikeBut halike.symm hfound fun place' hplace heq => ?_
    exact hother (List.reverse_injective heq ▸ hplace)
  · intro hfound
    refine find_file_of_alikeBut halike hfound fun place' hplace heq => ?_
    exact hother' (List.reverse_injective heq ▸ hplace)

/-- The same file can be written again, and nothing changes. -/
theorem HasRoom.write_putFile (h : w.HasRoom root name place es) (content : List UInt8) :
    let w' := w.putFile (place.reverse ++ [name]) content
    w'.write (root.child name) content = .ok w' := by
  intro w'
  obtain ⟨es', hroom, -⟩ := h.exists_putFile content
  rw [hroom.write_eq content]
  simp only [w', putFile, Entry.put_put]

end Write

end Workspace

end CallFlow
