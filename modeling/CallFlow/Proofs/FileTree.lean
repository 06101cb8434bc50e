import Mathlib.Data.List.Perm.Basic
import CallFlow.Project.FileTree
import CallFlow.Proofs.FirstOfEach
import CallFlow.Proofs.PathText

/-!
# Trees of files and the order of their entries

A tree of files is well formed if the names in each directory are distinct and are names that a
directory can hold. In such a tree a list of names leads to one entry at most, and the order in
which a directory lists its entries does not matter:

* `Entry.Rearranged` — the same tree with the entries of its directories in any order;
* `Entry.Rearranged.at?` — the same names lead to the same entry, rearranged in itself;
* `Workspace.find_rearranged` — and so does the same path, whatever links it goes through.
-/

namespace CallFlow

/-- A name that a directory can hold. -/
def IsFileName (name : String) : Prop :=
  Path.IsPart name ∧ name ≠ ".."

instance : DecidablePred IsFileName := fun _ => inferInstanceAs (Decidable (_ ∧ _))

namespace Entry

/-- Induction on a tree of files, with the hypothesis for every entry of a directory. -/
theorem induction {P : Entry → Prop} (file : ∀ content, P (file content))
    (directory : ∀ es : List (String × Entry), (∀ p ∈ es, P p.2) → P (directory es))
    (link : ∀ target, P (link target)) (e : Entry) : P e :=
  @Entry.rec P (fun es => ∀ p ∈ es, P p.2) (fun p => P p.2) file directory link
    (fun _ hp => absurd hp List.not_mem_nil)
    (fun _ _ hp hes => List.forall_mem_cons.2 ⟨hp, hes⟩) (fun _ _ he => he) e

/-! ## Well-formed trees -/

mutual

/-- The names in each directory are distinct, and a directory can hold them. -/
def WellFormed : Entry → Prop
  | file _ => True
  | directory es => (es.map (·.1)).Nodup ∧ WellFormedAll es
  | link _ => True

/-- The entries of a directory are well formed, and so are their names. -/
def WellFormedAll : List (String × Entry) → Prop
  | [] => True
  | (name, e) :: es => IsFileName name ∧ e.WellFormed ∧ WellFormedAll es

end

theorem wellFormedAll_iff {es : List (String × Entry)} :
    WellFormedAll es ↔ ∀ p ∈ es, IsFileName p.1 ∧ p.2.WellFormed := by
  induction es with
  | nil => simp [WellFormedAll]
  | cons p es ih => rw [WellFormedAll, ih, List.forall_mem_cons, and_assoc]

theorem wellFormed_directory_iff {es : List (String × Entry)} :
    (directory es).WellFormed ↔
      (es.map (·.1)).Nodup ∧ ∀ p ∈ es, IsFileName p.1 ∧ p.2.WellFormed := by
  rw [WellFormed, wellFormedAll_iff]

theorem lookup_eq_none_iff_mem {es : List (String × Entry)} {name : String} :
    es.lookup name = none ↔ name ∉ es.map (·.1) := by
  rw [List.lookup_eq_none_iff]
  constructor
  · intro h hmem
    obtain ⟨p, hp, rfl⟩ := List.mem_map.1 hmem
    simpa using h p hp
  · intro h p hp
    rw [bne_iff_ne]
    exact fun hname => h (hname ▸ List.mem_map_of_mem hp)

theorem at?_directory_cons (es : List (String × Entry)) (name : String) (rest : List String) :
    (directory es).at? (name :: rest) = (es.lookup name).bind (·.at? rest) :=
  rfl

theorem at?_append (e : Entry) (names rest : List String) :
    e.at? (names ++ rest) = (e.at? names).bind (·.at? rest) := by
  induction names generalizing e with
  | nil => rfl
  | cons name names ih => simp only [List.cons_append, at?, Option.bind_assoc, ih]

/-- What stands in a well-formed tree is well formed, and so are the names that lead there. -/
theorem WellFormed.at? {e : Entry} (h : e.WellFormed) {names : List String} {e' : Entry}
    (hat : e.at? names = some e') : e'.WellFormed ∧ ∀ name ∈ names, IsFileName name := by
  induction names generalizing e with
  | nil =>
    obtain rfl : e = e' := by simpa [Entry.at?] using hat
    exact ⟨h, by simp⟩
  | cons name rest ih =>
    cases e with
    | file content => simp [Entry.at?, child?] at hat
    | link target => simp [Entry.at?, child?] at hat
    | directory es =>
      rw [at?_directory_cons] at hat
      obtain ⟨d, hlookup, hrest⟩ := Option.bind_eq_some_iff.1 hat
      obtain ⟨hnames, hes⟩ := wellFormed_directory_iff.1 h
      obtain ⟨hname, hd⟩ := hes _ ((lookup_eq_some_iff_mem hnames).1 hlookup)
      obtain ⟨he', hrest'⟩ := ih hd hrest
      exact ⟨he', List.forall_mem_cons.2 ⟨hname, hrest'⟩⟩

/-! ## Another order of the entries -/

mutual

/-- The same tree with the entries of its directories in any order. -/
inductive Rearranged : Entry → Entry → Prop
  | file (content : List UInt8) : Rearranged (.file content) (.file content)
  | link (target : String) : Rearranged (.link target) (.link target)
  | directory {es order es' : List (String × Entry)} (hperm : es.Perm order)
      (heach : RearrangedEach order es') : Rearranged (.directory es) (.directory es')

/-- The same entries in the same order, each of them rearranged. -/
inductive RearrangedEach : List (String × Entry) → List (String × Entry) → Prop
  | nil : RearrangedEach [] []
  | cons (name : String) {e e' : Entry} {es es' : List (String × Entry)} (he : Rearranged e e')
      (hes : RearrangedEach es es') : RearrangedEach ((name, e) :: es) ((name, e') :: es')

end

theorem RearrangedEach.map_name : ∀ {es es' : List (String × Entry)}, RearrangedEach es es' →
    es.map (·.1) = es'.map (·.1)
  | _, _, .nil => rfl
  | _, _, .cons name _ hes => congrArg (name :: ·) hes.map_name

theorem RearrangedEach.exists_left : ∀ {es es' : List (String × Entry)}, RearrangedEach es es' →
    ∀ {name : String} {e : Entry}, (name, e) ∈ es → ∃ e', (name, e') ∈ es' ∧ Rearranged e e'
  | _, _, .cons _ he hes, name, e, hmem => by
    rcases List.mem_cons.1 hmem with heq | hmem
    · cases heq
      exact ⟨_, List.mem_cons_self .., he⟩
    · obtain ⟨e', hmem', he'⟩ := hes.exists_left hmem
      exact ⟨e', List.mem_cons_of_mem _ hmem', he'⟩

theorem RearrangedEach.exists_right : ∀ {es es' : List (String × Entry)}, RearrangedEach es es' →
    ∀ {name : String} {e' : Entry}, (name, e') ∈ es' → ∃ e, (name, e) ∈ es ∧ Rearranged e e'
  | _, _, .cons _ he hes, name, e', hmem => by
    rcases List.mem_cons.1 hmem with heq | hmem
    · cases heq
      exact ⟨_, List.mem_cons_self .., he⟩
    · obtain ⟨e, hmem', he'⟩ := hes.exists_right hmem
      exact ⟨e, List.mem_cons_of_mem _ hmem', he'⟩

/-- What a rearranged directory is, without the order in between. -/
theorem Rearranged.directory_cases {es : List (String × Entry)} {d : Entry}
    (h : Rearranged (.directory es) d) : ∃ es', d = .directory es' ∧
      (es.map (·.1)).Perm (es'.map (·.1)) ∧
      (∀ name e, (name, e) ∈ es → ∃ e', (name, e') ∈ es' ∧ Rearranged e e') ∧
      ∀ name e', (name, e') ∈ es' → ∃ e, (name, e) ∈ es ∧ Rearranged e e' := by
  cases h with
  | @directory _ order es' hperm heach =>
    refine ⟨es', rfl, ?_, ?_, ?_⟩
    · rw [← heach.map_name]
      exact hperm.map _
    · intro name e hmem
      exact heach.exists_left (hperm.mem_iff.1 hmem)
    · intro name e' hmem
      obtain ⟨e, hmem', he⟩ := heach.exists_right hmem
      exact ⟨e, hperm.mem_iff.2 hmem', he⟩

theorem Rearranged.wellFormed (e : Entry) : e.WellFormed → ∀ e', Rearranged e e' →
    e'.WellFormed := by
  induction e using Entry.induction with
  | file content =>
    rintro - _ (_ | _ | _)
    exact True.intro
  | link target =>
    rintro - _ (_ | _ | _)
    exact True.intro
  | directory es ih =>
    intro h d hd
    obtain ⟨es', rfl, hnames, -, hright⟩ := hd.directory_cases
    obtain ⟨hnodup, hes⟩ := wellFormed_directory_iff.1 h
    refine wellFormed_directory_iff.2 ⟨hnames.nodup hnodup, ?_⟩
    rintro ⟨name, e'⟩ hmem
    obtain ⟨e, hmem', he⟩ := hright name e' hmem
    exact ⟨(hes _ hmem').1, ih _ hmem' (hes _ hmem').2 e' he⟩

/-- The same names lead to the same entry, rearranged in itself, or in both trees nowhere. -/
theorem Rearranged.at? {e e' : Entry} (h : e.WellFormed) (hr : Rearranged e e')
    (names : List String) : Option.Rel Rearranged (e.at? names) (e'.at? names) := by
  induction names generalizing e e' with
  | nil => exact Option.Rel.some hr
  | cons name rest ih =>
    cases e with
    | file content =>
      cases hr
      exact Option.Rel.none
    | link target =>
      cases hr
      exact Option.Rel.none
    | directory es =>
      have hwf := Rearranged.wellFormed _ h _ hr
      obtain ⟨es', rfl, hnames, hleft, -⟩ := hr.directory_cases
      obtain ⟨hnodup, hes⟩ := wellFormed_directory_iff.1 h
      obtain ⟨hnodup', -⟩ := wellFormed_directory_iff.1 hwf
      rw [at?_directory_cons, at?_directory_cons]
      cases hlookup : es.lookup name with
      | none =>
        have hnot : name ∉ es'.map (·.1) := by
          rw [← hnames.mem_iff]
          exact lookup_eq_none_iff_mem.1 hlookup
        rw [lookup_eq_none_iff_mem.2 hnot]
        exact Option.Rel.none
      | some d =>
        have hmem := (lookup_eq_some_iff_mem hnodup).1 hlookup
        obtain ⟨d', hmem', hd⟩ := hleft name d hmem
        rw [(lookup_eq_some_iff_mem hnodup').2 hmem']
        exact ih (hes _ hmem).2 hd

/-! ## Lookup of paths -/

/-- The lookup of a path sees of the tree only what kind of entry stands where. -/
theorem resolveWith_rearranged {top top' : Entry} (h : top.WellFormed)
    (hr : Rearranged top top')
    (follow : List String → List String → Except FileError (List String)) (names : List String) :
    ∀ here, resolveWith top' follow here names = resolveWith top follow here names := by
  induction names with
  | nil => intro here; rfl
  | cons name rest ih =>
    intro here
    rw [resolveWith, resolveWith]
    by_cases hup : (name == "..") = true
    · rw [if_pos hup, if_pos hup, ih]
    · rw [if_neg hup, if_neg hup]
      have hat := hr.at? h (here.reverse ++ [name])
      generalize top.at? (here.reverse ++ [name]) = found at hat
      generalize top'.at? (here.reverse ++ [name]) = found' at hat
      cases hat with
      | none => rfl
      | some hd =>
        cases hd with
        | file content => rfl
        | link target => rfl
        | directory hperm heach => exact ih _

theorem resolve_rearranged {top top' : Entry} (h : top.WellFormed) (hr : Rearranged top top')
    (links : Nat) : top'.resolve links = top.resolve links := by
  induction links with
  | zero => rfl
  | succ links ih =>
    funext here names
    rw [resolve, resolve, ih]
    exact resolveWith_rearranged h hr _ names here

end Entry

namespace Workspace

/-- The same files and directories, each directory in any order. -/
def Rearranged (w w' : Workspace) : Prop :=
  Entry.Rearranged w.top w'.top ∧ w.here = w'.here

/-- The names of the place that a path leads to, innermost first. -/
def place (w : Workspace) (p : Path) : Except FileError (List String) :=
  w.top.resolve (Entry.linkLimit + 1) (Entry.startOf w.here p) p.parts

theorem find_eq_ok_iff {w : Workspace} {p : Path} {e : Entry} :
    w.find p = .ok e ↔ ∃ names, w.place p = .ok names ∧ w.top.at? names.reverse = some e := by
  rw [find, place]
  cases w.top.resolve (Entry.linkLimit + 1) (Entry.startOf w.here p) p.parts with
  | error err => simp [bind, Except.bind]
  | ok names =>
    simp only [bind, Except.bind, Except.ok.injEq, exists_eq_left']
    cases w.top.at? names.reverse <;> simp

/-- What is found by a path stands somewhere in the tree. -/
theorem exists_at?_of_find {w : Workspace} {p : Path} {e : Entry} (h : w.find p = .ok e) :
    ∃ names, w.top.at? names = some e := by
  obtain ⟨names, -, hat⟩ := find_eq_ok_iff.1 h
  exact ⟨names.reverse, hat⟩

/-- A path leads to the same entry, rearranged in itself, or fails in the same way. -/
theorem find_rearranged {w w' : Workspace} (h : w.top.WellFormed) (hr : w.Rearranged w')
    (p : Path) :
    (∃ e e', w.find p = .ok e ∧ w'.find p = .ok e' ∧ Entry.Rearranged e e') ∨
      ∃ err, w.find p = .error err ∧ w'.find p = .error err := by
  rw [find, find, ← hr.2, Entry.resolve_rearranged h hr.1]
  cases w.top.resolve (Entry.linkLimit + 1) (Entry.startOf w.here p) p.parts with
  | error err => exact Or.inr ⟨err, rfl, rfl⟩
  | ok place =>
    have hat := hr.1.at? h place.reverse
    simp only [bind, Except.bind]
    generalize w.top.at? place.reverse = found at hat
    generalize w'.top.at? place.reverse = found' at hat
    cases hat with
    | none => exact Or.inr ⟨_, rfl, rfl⟩
    | some hd => exact Or.inl ⟨_, _, rfl, rfl, hd⟩

end Workspace

end CallFlow
