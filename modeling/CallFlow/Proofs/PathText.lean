import CallFlow.Path
import CallFlow.Proofs.Splitting

/-!
# Paths and their texts

A path that has been read is in normal form (`Path.ofString_normal`), and one in normal form is read
back from its text (`Path.ofString_toString`). So different paths have different texts, and a list
of names is told by the text that joins them with slashes (`Path.ofString_intercalate`).
-/

namespace CallFlow.Path

/-- Can the text stand between two slashes of a path that has been read? -/
def IsPart (part : String) : Prop :=
  isVoid part.toList = false ∧ '/' ∉ part.toList

instance : DecidablePred IsPart := fun _ => inferInstanceAs (Decidable (_ ∧ _))

/-- A path as it is after reading. -/
structure Normal (p : Path) : Prop where
  slashes : p.slashes ≤ 2
  parts : ∀ part ∈ p.parts, IsPart part

theorem IsPart.toList_ne_nil {part : String} (h : IsPart part) : part.toList ≠ [] := by
  intro hnil
  have hvoid := h.1
  rw [hnil] at hvoid
  exact absurd hvoid (by decide)

/-! ## Cutting at slashes -/

theorem splitSlash_eq_splitAt (cs : List Char) : splitSlash cs = Text.splitAt '/' cs := by
  induction cs with
  | nil => rfl
  | cons c cs ih =>
    cases h : Text.splitAt '/' cs <;> simp only [splitSlash, Text.splitAt, ih, h]

/-- The parts of a path with the given text. -/
def partsOf (cs : List Char) : List String :=
  ((splitSlash cs).filter (!isVoid ·)).map String.ofList

theorem isPart_of_mem_partsOf {cs : List Char} {part : String} (h : part ∈ partsOf cs) :
    IsPart part := by
  obtain ⟨p, hp, rfl⟩ := List.mem_map.1 h
  obtain ⟨hmem, hvoid⟩ := List.mem_filter.1 hp
  rw [IsPart, String.toList_ofList]
  rw [splitSlash_eq_splitAt] at hmem
  exact ⟨by simpa using hvoid, Text.not_mem_of_mem_splitAt hmem⟩

theorem ofString_normal (text : String) : (ofString text).Normal where
  slashes := by
    rw [ofString]
    dsimp only
    split <;> omega
  parts := fun _ hpart => isPart_of_mem_partsOf hpart

/-! ## Reading back -/

theorem partsOf_intercalate {parts : List String} (h : ∀ part ∈ parts, IsPart part) :
    partsOf ("/".intercalate parts).toList = parts := by
  by_cases hne : parts = []
  · subst hne
    rfl
  · have hslash : ∀ p ∈ parts.map String.toList, '/' ∉ p := by
      intro p hp
      obtain ⟨part, hpart, rfl⟩ := List.mem_map.1 hp
      exact (h part hpart).2
    have hvoid : (parts.map String.toList).filter (!isVoid ·) = parts.map String.toList := by
      rw [List.filter_eq_self]
      intro p hp
      obtain ⟨part, hpart, rfl⟩ := List.mem_map.1 hp
      rw [(h part hpart).1]
      rfl
    have hsplit : splitSlash ("/".intercalate parts).toList = parts.map String.toList := by
      rw [splitSlash_eq_splitAt, String.toList_intercalate]
      exact Text.splitAt_intercalate hslash (by simpa using hne)
    rw [partsOf, hsplit, hvoid, List.map_map, String.ofList_comp_toList, List.map_id]

/-- Slashes in front make no parts. -/
theorem partsOf_replicate_append (k : Nat) (cs : List Char) :
    partsOf (List.replicate k '/' ++ cs) = partsOf cs := by
  induction k with
  | zero => rfl
  | succ k ih => simpa [List.replicate_succ, partsOf, splitSlash, isVoid] using ih

/-- The text of some parts does not begin with a slash. -/
theorem takeWhile_intercalate {parts : List String} (h : ∀ part ∈ parts, IsPart part) :
    ("/".intercalate parts).toList.takeWhile (· == '/') = [] := by
  cases parts with
  | nil => rfl
  | cons part parts =>
    obtain ⟨c, cs, hcs⟩ := List.exists_cons_of_ne_nil (h part (List.mem_cons_self ..)).toList_ne_nil
    have hc : c ≠ '/' := by
      have hslash := (h part (List.mem_cons_self ..)).2
      rw [hcs] at hslash
      exact fun heq => hslash (by simp [heq])
    have hhead : ∃ rest, ("/".intercalate (part :: parts)).toList = c :: rest := by
      cases parts with
      | nil => exact ⟨cs, by rw [String.intercalate_singleton, hcs]⟩
      | cons q qs =>
        rw [String.intercalate_cons_cons, String.toList_append, String.toList_append, hcs]
        exact ⟨_, rfl⟩
    obtain ⟨rest, hrest⟩ := hhead
    rw [hrest, List.takeWhile_cons_of_neg (by simpa using hc)]

/-- Reading slashes followed by parts. -/
theorem ofString_replicate_append {k : Nat} (hk : k ≤ 2) {parts : List String}
    (h : ∀ part ∈ parts, IsPart part) :
    ofString (String.ofList (List.replicate k '/') ++ "/".intercalate parts) = ⟨k, parts⟩ := by
  have hchars : (String.ofList (List.replicate k '/') ++ "/".intercalate parts).toList =
      List.replicate k '/' ++ ("/".intercalate parts).toList := by
    rw [String.toList_append, String.toList_ofList]
  have hleading : ((List.replicate k '/' ++ ("/".intercalate parts).toList).takeWhile
      (· == '/')).length = k := by
    rw [List.takeWhile_append_of_pos (by simp), takeWhile_intercalate h]
    simp
  have hparts := partsOf_replicate_append k ("/".intercalate parts).toList
  rw [partsOf_intercalate h] at hparts
  rw [ofString, hchars, hleading]
  refine congrArg₂ Path.mk ?_ hparts
  split <;> omega

/-- A list of names is read back from the text that joins them. -/
theorem ofString_intercalate {parts : List String} (h : ∀ part ∈ parts, IsPart part) :
    ofString ("/".intercalate parts) = ⟨0, parts⟩ := by
  have hread := ofString_replicate_append (Nat.zero_le 2) h
  simpa using hread

/-- A path in normal form is read back from its text. -/
theorem ofString_toString {p : Path} (h : p.Normal) : ofString p.toString = p := by
  obtain ⟨slashes, parts⟩ := p
  have hread := ofString_replicate_append h.slashes h.parts
  rw [toString]
  dsimp only at hread ⊢
  by_cases hslashes : slashes = 0
  · subst hslashes
    rw [if_pos rfl]
    cases parts with
    | nil => decide +kernel
    | cons part parts => simpa using hread
  · rw [if_neg hslashes]
    exact hread

theorem toString_inj {p q : Path} (hp : p.Normal) (hq : q.Normal) :
    p.toString = q.toString ↔ p = q := by
  constructor
  · intro h
    rw [← ofString_toString hp, h, ofString_toString hq]
  · rintro rfl
    rfl

/-- The text of a path is never empty: that of the empty path is a point. -/
theorem toString_ne_empty {p : Path} (h : p.Normal) : p.toString ≠ "" := by
  intro hempty
  have hread := ofString_toString h
  rw [hempty] at hread
  subst hread
  exact absurd hempty (by decide +kernel)

/-! ## Paths below a path -/

/-- The path that leads from `p` along some names. -/
theorem Normal.append {p : Path} (h : p.Normal) {names : List String}
    (hnames : ∀ name ∈ names, IsPart name) :
    ({ p with parts := p.parts ++ names } : Path).Normal where
  slashes := h.slashes
  parts := by
    intro part hpart
    rcases List.mem_append.1 hpart with hpart | hpart
    · exact h.parts part hpart
    · exact hnames part hpart

end CallFlow.Path
