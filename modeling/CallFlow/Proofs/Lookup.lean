import CallFlow.Proofs.FileTree

/-!
# What a lookup sees of a tree

A lookup sees what kind of entry stands where, and not what a directory holds (`Entry.Alike`). If
two trees differ in this view at one place only, and neither holds more than a file there
(`Entry.AlikeBut`), then they are the same to every lookup that ends elsewhere:

* `Entry.AlikeBut.resolve` — paths lead where they led before, whatever links they go through, since
  a lookup can meet a file only at its very end;
* `Workspace.exists_directory_of_alikeBut` — so a directory above that place is found as before, and
  its files are the same but for the one place;
* `Workspace.find_file_of_alikeBut` — and so is a file that stands elsewhere.
-/

namespace CallFlow

namespace Entry

/-- Entries that are the same to a lookup: a file, a link, or any two directories. -/
inductive Alike : Entry → Entry → Prop
  | file (content : List UInt8) : Alike (file content) (file content)
  | link (target : String) : Alike (link target) (link target)
  | directory (es es' : List (String × Entry)) : Alike (directory es) (directory es')

theorem Alike.refl (e : Entry) : Alike e e := by
  cases e <;> constructor

theorem alike_refl (found : Option Entry) : Option.Rel Alike found found := by
  cases found with
  | none => exact .none
  | some e => exact .some (.refl e)

theorem exists_directory_of_alike {es : List (String × Entry)} {found : Option Entry}
    (h : Option.Rel Alike (some (directory es)) found) : ∃ es', found = some (directory es') := by
  cases h with
  | some hd =>
    cases hd with
    | directory _ es' => exact ⟨es', rfl⟩

theorem Alike.symm {e e' : Entry} (h : Alike e e') : Alike e' e := by
  cases h <;> constructor

theorem alike_symm {found found' : Option Entry} (h : Option.Rel Alike found found') :
    Option.Rel Alike found' found := by
  cases h with
  | none => exact .none
  | some hd => exact .some hd.symm

theorem eq_file_iff_of_alike {found found' : Option Entry} (h : Option.Rel Alike found found')
    (content : List UInt8) : found' = some (file content) ↔ found = some (file content) := by
  cases h with
  | none => simp
  | some hd => cases hd <;> simp

/-! ## A difference at one place -/

/-- Nothing, or a file. -/
def AtMostFile (found : Option Entry) : Prop :=
  ∀ e, found = some e → ∃ content, e = file content

theorem atMostFile_none : AtMostFile none := fun _ h => nomatch h

theorem atMostFile_file (content : List UInt8) : AtMostFile (some (file content)) := by
  rintro _ ⟨⟩
  exact ⟨content, rfl⟩

/-- Trees that are the same to a lookup but for one place, where neither holds more than a file. -/
structure AlikeBut (changed : List String) (top top' : Entry) : Prop where
  elsewhere : ∀ names, names ≠ changed → Option.Rel Alike (top.at? names) (top'.at? names)
  before : AtMostFile (top.at? changed)
  after : AtMostFile (top'.at? changed)

theorem AlikeBut.symm {changed : List String} {top top' : Entry} (h : AlikeBut changed top top') :
    AlikeBut changed top' top where
  elsewhere names hne := alike_symm (h.elsewhere names hne)
  before := h.after
  after := h.before

/-- A lookup ends where it ended before, if it ended elsewhere or there is still a file to end
at. -/
theorem AlikeBut.resolve {changed place : List String} {top top' : Entry}
    (h : AlikeBut changed top top')
    (hend : place.reverse = changed → ∃ content, top'.at? changed = some (file content))
    (links : Nat) : ∀ here parts, top.resolve links here parts = .ok place →
      top'.resolve links here parts = .ok place := by
  -- on the links that may be followed, and within it on the names
  induction links with
  | zero => intro here parts hresolve; cases hresolve
  | succ links follow =>
    intro here parts
    rw [Entry.resolve, Entry.resolve]
    induction parts generalizing here with
    | nil => exact id
    | cons name parts ih =>
      rw [resolveWith, resolveWith]
      split
      · exact ih _
      · by_cases hchanged : here.reverse ++ [name] = changed
        · rw [hchanged]
          have hbefore := h.before
          generalize top.at? changed = found at hbefore
          cases found with
          | none => intro hresolve; cases hresolve
          | some e =>
            obtain ⟨content, rfl⟩ := hbefore e rfl
            dsimp only
            split
            case isFalse => intro hresolve; cases hresolve
            case isTrue =>
              -- a file can only be the end of a lookup
              intro hresolve
              cases hresolve
              obtain ⟨content', hfile⟩ := hend (by rw [List.reverse_cons, hchanged])
              rw [hfile]
        · have hat := h.elsewhere _ hchanged
          generalize top.at? (here.reverse ++ [name]) = found at hat
          generalize top'.at? (here.reverse ++ [name]) = found' at hat
          cases hat with
          | none => exact id
          | some hd =>
            cases hd with
            | file content => exact id
            | link target => exact follow _ _
            | directory es es' => exact ih _

/-! ## Names of a file after a path -/

/-- Names that lead from a place to a file, with no link on the way, are followed to that file. -/
theorem resolveWith_names {top : Entry}
    (follow : List String → List String → Except FileError (List String)) {content : List UInt8}
    {names : List String} (hup : ".." ∉ names) : ∀ {here : List String} {e : Entry},
      top.at? here.reverse = some e → e.at? names = some (file content) →
        resolveWith top follow here names = .ok (names.reverse ++ here) := by
  induction names with
  | nil => intro here e _ _; rfl
  | cons name rest ih =>
    intro here e hhere hfile
    rw [List.mem_cons, not_or] at hup
    obtain ⟨d, hchild, hrest⟩ := Option.bind_eq_some_iff.1 hfile
    have hname : top.at? (here.reverse ++ [name]) = some d := by
      rw [at?_append, hhere, Option.bind_some, at?, hchild]
      rfl
    rw [resolveWith, if_neg (by simpa using Ne.symm hup.1), hname]
    cases d with
    | file content' =>
      cases rest with
      | nil => rfl
      | cons n rest => cases hrest
    | link target => cases rest <;> cases hrest
    | directory es =>
      dsimp only
      rw [ih hup.2 (by rwa [List.reverse_cons]) hrest, List.reverse_cons, List.append_assoc]
      rfl

/-- Where a path leads to a directory, the path followed by the names of a file in it leads to that
file. -/
theorem resolve_append {top : Entry} {place names : List String} {es : List (String × Entry)}
    {content : List UInt8} (hplace : top.at? place.reverse = some (directory es))
    (hup : ".." ∉ names) (hfile : (directory es).at? names = some (file content)) (links : Nat) :
    ∀ here parts, top.resolve links here parts = .ok place →
      top.resolve links here (parts ++ names) = .ok (names.reverse ++ place) := by
  -- on the links that may be followed, and within it on the names
  induction links with
  | zero => intro here parts h; cases h
  | succ links follow =>
    intro here parts
    rw [resolve]
    induction parts generalizing here with
    | nil =>
      intro h
      cases h
      exact resolveWith_names _ hup hplace hfile
    | cons name parts ih =>
      rw [List.cons_append, resolveWith, resolveWith]
      split
      · exact ih _
      · cases hat : top.at? (here.reverse ++ [name]) with
        | none => intro h; cases h
        | some d =>
          cases d with
          | directory es' => exact ih _
          | link target =>
            dsimp only
            rw [← List.append_assoc]
            exact follow _ _
          | file content' =>
            -- the path would lead to a file and not to a directory
            dsimp only
            split
            · intro h
              cases h
              rw [List.reverse_cons, hat] at hplace
              cases hplace
            · intro h
              cases h

end Entry

/-! ## Files below a directory -/

/-- The path of what the names lead to from a directory. -/
def Path.below (root : Path) (names : List String) : Path :=
  { root with parts := root.parts ++ names }

namespace Workspace

section Below

variable {w : Workspace} {root : Path} {es : List (String × Entry)} {names : List String}
  {content : List UInt8}

theorem up_not_mem (h : (Entry.directory es).WellFormed)
    (hfile : (Entry.directory es).at? names = some (.file content)) : ".." ∉ names :=
  fun hmem => ((h.at? hfile).2 _ hmem).2 rfl

theorem place_below {place : List String} (hplace : w.place root = .ok place)
    (hdir : w.top.at? place.reverse = some (.directory es)) (hup : ".." ∉ names)
    (hfile : (Entry.directory es).at? names = some (.file content)) :
    w.place (root.below names) = .ok (names.reverse ++ place) :=
  Entry.resolve_append hdir hup hfile _ _ _ hplace

/-- The path of a file below a directory leads to that file. -/
theorem find_below (hw : w.top.WellFormed) (hroot : w.find root = .ok (.directory es))
    (hfile : (Entry.directory es).at? names = some (.file content)) :
    w.find (root.below names) = .ok (.file content) := by
  obtain ⟨place, hplace, hdir⟩ := find_eq_ok_iff.1 hroot
  have hup := up_not_mem (hw.at? hdir).1 hfile
  refine find_eq_ok_iff.2 ⟨_, place_below hplace hdir hup hfile, ?_⟩
  rw [List.reverse_append, List.reverse_reverse, Entry.at?_append, hdir]
  exact hfile

end Below

/-! ## Workspaces with a difference at one place -/

/-- The same current directory, and files that are the same to a lookup but for one place. -/
def AlikeBut (changed : List String) (w w' : Workspace) : Prop :=
  Entry.AlikeBut changed w.top w'.top ∧ w.here = w'.here

section AlikeBut

variable {changed : List String} {w w' : Workspace} {p : Path} {place : List String}

theorem AlikeBut.symm (h : w.AlikeBut changed w') : w'.AlikeBut changed w :=
  ⟨h.1.symm, h.2.symm⟩

theorem place_of_alikeBut (h : w.AlikeBut changed w') (hplace : w.place p = .ok place)
    (hend : place.reverse = changed → ∃ content, w'.top.at? changed = some (.file content)) :
    w'.place p = .ok place := by
  rw [Workspace.place, ← h.2]
  exact h.1.resolve hend _ _ _ hplace

/-- A file that stands elsewhere is found as before. -/
theorem find_file_of_alikeBut (h : w.AlikeBut changed w') {content : List UInt8}
    (hfind : w.find p = .ok (.file content))
    (hother : ∀ place, w.place p = .ok place → place.reverse ≠ changed) :
    w'.find p = .ok (.file content) := by
  obtain ⟨place, hplace, hfile⟩ := find_eq_ok_iff.1 hfind
  have hne := hother place hplace
  refine find_eq_ok_iff.2 ⟨place, place_of_alikeBut h hplace fun heq => absurd heq hne, ?_⟩
  exact (Entry.eq_file_iff_of_alike (h.1.elsewhere _ hne) content).2 hfile

/-- A directory above the place is found as before, and its files are the same but for that
place. -/
theorem exists_directory_of_alikeBut {names : List String} (hne : names ≠ [])
    (h : w.AlikeBut (place.reverse ++ names) w') (hplace : w.place p = .ok place)
    {es : List (String × Entry)} (hdir : w.top.at? place.reverse = some (.directory es)) :
    ∃ es', w'.place p = .ok place ∧ w'.top.at? place.reverse = some (.directory es') ∧
      ∀ ns, ns ≠ names → ∀ content, (Entry.directory es').at? ns = some (.file content) ↔
        (Entry.directory es).at? ns = some (.file content) := by
  have hother : place.reverse ≠ place.reverse ++ names := by simpa using hne
  obtain ⟨es', hdir'⟩ := Entry.exists_directory_of_alike (hdir ▸ h.1.elsewhere _ hother)
  refine ⟨es', place_of_alikeBut h hplace fun heq => absurd heq hother, hdir', fun ns hns => ?_⟩
  have hat := h.1.elsewhere (place.reverse ++ ns) (by simpa using hns)
  simp only [Entry.at?_append, hdir, hdir', Option.bind_some] at hat
  exact Entry.eq_file_iff_of_alike hat

end AlikeBut

end Workspace

end CallFlow
