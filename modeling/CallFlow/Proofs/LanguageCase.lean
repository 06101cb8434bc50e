import CallFlow.Proofs.SyntaxErrors

/-!
# Names of languages in any letter case

The name of a language is looked at three times: when it is checked whether the language is known,
when its grammar is looked up, and when its extractor is looked up. The first and the last ignore
letter case, and so they agree on every spelling:

* `isKnownLanguage_iff` — a name is known just if it is the name of the language with each letter
  small or capital; no letter outside the Latin ones is taken for one of them;
* `extractorLanguage?_of_known` — and under each of these names there is an extractor.

The grammar is looked up by the very name. So of all spellings that are known, one alone can be
read, and the others fail for want of a grammar (`language_case_iff`).
-/

namespace CallFlow

open CallFlow.Tree (Source)

/-! ## Lower case of Latin letters -/

/-- A letter that stands in the name of the language. -/
def IsNameLetter (c : Char) : Prop :=
  c ∈ javascript.toList

instance : DecidablePred IsNameLetter := fun _ => inferInstanceAs (Decidable (_ ∈ _))

theorem IsNameLetter.toNat_mem {c : Char} (h : IsNameLetter c) :
    97 ≤ c.toNat ∧ c.toNat < 128 ∧ c.toNat ≠ 107 := by
  have hall : ∀ c ∈ javascript.toList, 97 ≤ c.toNat ∧ c.toNat < 128 ∧ c.toNat ≠ 107 := by
    simp [javascript]
  exact hall c h

namespace Text

/-- A run of capitals beyond the Latin ones has its small letters there too, but for the sign for
kelvin. -/
theorem capitalRuns_beyond : ∀ run ∈ capitalRuns,
    run.2.1 < 128 ∨ 128 ≤ run.2.2.2 ∨ run = (0x212A, 0x212A, 1, 0x6B) := by
  decide +kernel

theorem not_isNameLetter_ofNat {n : Nat} (h : 128 ≤ n ∨ n = 107) :
    ¬IsNameLetter (Char.ofNat n) := by
  intro hletter
  have hbounds := hletter.toNat_mem
  by_cases hvalid : n.isValidChar
  · have hn : (Char.ofNat n).toNat = n := by
      rw [Char.ofNat, dif_pos hvalid]
      rfl
    omega
  · have hzero : (Char.ofNat n).toNat = 0 := by
      rw [Char.ofNat, dif_neg hvalid]
      rfl
    omega

/-- Lower case makes no letter of the name out of a character beyond the Latin letters. -/
theorem exists_not_isNameLetter {c : Char} (h : 128 ≤ c.toNat) :
    ∃ d ∈ lowerChar c, ¬IsNameLetter d := by
  have hself : ¬IsNameLetter c := fun hc => absurd hc.toNat_mem (by omega)
  unfold lowerChar
  simp only [if_neg (show ¬c.toNat < 128 by omega)]
  split
  · exact ⟨Char.ofNat 0x307, by simp, not_isNameLetter_ofNat (Or.inl (by omega))⟩
  · split
    case h_2 => exact ⟨c, by simp, hself⟩
    case h_1 first last step small hrun =>
      refine ⟨_, List.mem_singleton_self _, not_isNameLetter_ofNat ?_⟩
      have hwithin := List.find?_some hrun
      simp only [Bool.and_eq_true, decide_eq_true_eq] at hwithin
      rcases capitalRuns_beyond _ (List.mem_of_find?_eq_some hrun) with hlatin | hbeyond | hkelvin
      · dsimp only at hlatin
        omega
      · dsimp only at hbeyond
        omega
      · simp only [Prod.mk.injEq] at hkelvin
        omega

theorem toNat_lt_of_toLower {c : Char} (h : IsNameLetter c.toLower) : c.toNat < 128 := by
  have hbounds := h.toNat_mem
  unfold Char.toLower at hbounds
  split at hbounds
  · next hcapital =>
    have hle : c.val.toNat ≤ 90 := hcapital.2
    exact Nat.lt_of_le_of_lt hle (by omega)
  · exact hbounds.2.1

/-- Where lower case gives nothing but letters of the name, it goes letter by letter. -/
theorem lowerAfter_eq_iff {name : List Char} (hname : ∀ c ∈ name, IsNameLetter c) (cased : Bool)
    (cs : List Char) : lowerAfter cased cs = name ↔ cs.map Char.toLower = name := by
  induction cs generalizing cased name with
  | nil => rfl
  | cons c cs ih =>
    rw [lowerAfter, List.map_cons]
    by_cases hc : c.toNat < 128
    · have hsigma : ¬(c.toNat == 0x3A3) = true := by
        rw [beq_iff_eq]
        omega
      rw [if_neg hsigma, lowerChar, if_pos hc, List.singleton_append]
      cases name with
      | nil => simp
      | cons d name =>
        rw [List.cons.injEq, List.cons.injEq, ih (fun e he => hname e (List.mem_cons_of_mem _ he))]
    · -- neither side holds: what comes of `c` has no place in the name
      have hsmall : ∃ d ∈ (if c.toNat == 0x3A3 then
          [Char.ofNat (if cased && !casedAhead cs then 0x3C2 else 0x3C3)] else lowerChar c),
          ¬IsNameLetter d := by
        split
        · refine ⟨_, List.mem_singleton_self _, not_isNameLetter_ofNat ?_⟩
          split <;> omega
        · exact exists_not_isNameLetter (by omega)
      obtain ⟨d, hd, hnot⟩ := hsmall
      constructor
      · rintro rfl
        exact absurd (hname d (List.mem_append_left _ hd)) hnot
      · rintro rfl
        exact absurd (toNat_lt_of_toLower (hname _ (List.mem_cons_self ..))) hc

end Text

/-! ## Known languages -/

/-- Does the name pass the check for known languages? -/
def IsKnownLanguage (language : String) : Prop :=
  Text.lower language ∈ supportedLanguages

instance : DecidablePred IsKnownLanguage := fun _ => inferInstanceAs (Decidable (_ ∈ _))

theorem isKnownLanguage_iff_lower {l : String} : IsKnownLanguage l ↔ Text.lower l = javascript := by
  simp [IsKnownLanguage, supportedLanguages]

/-- The names that are known, letter by letter. -/
theorem isKnownLanguage_iff {l : String} :
    IsKnownLanguage l ↔ l.toList.map Char.toLower = javascript.toList := by
  rw [isKnownLanguage_iff_lower, ← String.toList_inj, Text.lower, String.toList_ofList]
  exact Text.lowerAfter_eq_iff (fun _ hc => hc) false l.toList

theorem extractorLanguage?_of_known {l : String} (h : IsKnownLanguage l) :
    extractorLanguage? l = some javascript := by
  unfold extractorLanguage?
  rw [isKnownLanguage_iff_lower.1 h]
  decide

theorem IsKnownLanguage.chooseLanguage {l : String} (h : IsKnownLanguage l)
    (file : Option String) : chooseLanguage file (some l) = some l := by
  have hne : l ≠ "" := by
    rintro rfl
    exact absurd h (by decide)
  rw [CallFlow.chooseLanguage, Option.filter_some, if_pos (by simpa using hne)]

/-! ## Reading under another spelling -/

/-- Two outcomes with the same records and the same syntax errors, or with the same failure. -/
def SameOutcome : Except ParseFailure ParsedSource → Except ParseFailure ParsedSource → Prop
  | .ok r, .ok r' => r.unit = r'.unit ∧ r.errors = r'.errors
  | .error e, .error e' => e = e'
  | _, _ => False

theorem SameOutcome.refl (outcome : Except ParseFailure ParsedSource) :
    SameOutcome outcome outcome := by
  cases outcome <;> simp [SameOutcome]

theorem sameOutcome_error_iff {e : ParseFailure} {outcome : Except ParseFailure ParsedSource} :
    SameOutcome (.error e) outcome ↔ outcome = .error e := by
  cases outcome <;> simp [SameOutcome, eq_comm]

section Spelling

variable (opts : ParserOptions) (makeTree : String → Option ParsedTree) (text : String)
  (file : Option String) {l : String}

theorem parseSource_of_known (h : IsKnownLanguage l) :
    parseSource opts makeTree text file (some l) =
      (do
        let t ← treeOf makeTree text l
        ofParsedTree opts (Source.ofString text) (shownFile file) l t).mapError .parser := by
  rw [parseSource, h.chooseLanguage]
  dsimp only
  rw [extractorLanguage?_of_known h]
  rfl

/-- Under any other known spelling there is no grammar, whatever the text. -/
theorem parseSource_of_ne (h : IsKnownLanguage l) (hl : l ≠ javascript) :
    parseSource opts makeTree text file (some l) = .error (.parser { fault := .noParser l }) := by
  rw [parseSource_of_known opts makeTree text file h, treeOf, if_pos hl]
  rfl

/-- Under its own name the language has a grammar, whatever comes of the text. -/
theorem parseSource_ne_noParser (name : String) :
    parseSource opts makeTree text file (some javascript) ≠
      .error (.parser { fault := .noParser name }) := by
  have hknown : IsKnownLanguage javascript := by decide
  rw [parseSource_of_known opts makeTree text file hknown, treeOf, if_neg (by simp)]
  cases makeTree text with
  | none => simp [bind, Except.bind, Except.mapError]
  | some t =>
    by_cases hrefused : t.Refused opts.strict
    · obtain ⟨first, rest, -, herror⟩ :=
        ofParsedTree_refused opts (Source.ofString text) (shownFile file) javascript hrefused
      simp [bind, Except.bind, herror, Except.mapError, refusal]
    · have hok :=
        ofParsedTree_accepted opts (Source.ofString text) (shownFile file) javascript hrefused
      simp [bind, Except.bind, hok, Except.mapError]

/-- A known spelling has the same outcome as its lower case only if it is its lower case. -/
theorem sameOutcome_lower_iff (h : IsKnownLanguage l) :
    SameOutcome (parseSource opts makeTree text file (some l))
      (parseSource opts makeTree text file (some (Text.lower l))) ↔ l = javascript := by
  rw [isKnownLanguage_iff_lower.1 h]
  constructor
  · intro hsame
    by_contra hl
    rw [parseSource_of_ne opts makeTree text file h hl, sameOutcome_error_iff] at hsame
    exact parseSource_ne_noParser opts makeTree text file l hsame
  · rintro rfl
    exact SameOutcome.refl _

end Spelling

/-- **Letter case is ignored in two of three places.** The names that pass the check are the
spellings of the one language in small and capital Latin letters, and under each of them there is an
extractor. But there is a grammar under one spelling alone: any other fails for want of it, whatever
the text and its tree. So a spelling that passes the check has the outcome of its lower case just if
it is in lower case. -/
theorem language_case_iff (opts : ParserOptions) (makeTree : String → Option ParsedTree)
    (text : String) (file : Option String) (l : String) :
    let outcome name := parseSource opts makeTree text file (some name)
    (IsKnownLanguage l ↔ l.toList.map Char.toLower = javascript.toList) ∧
    (IsKnownLanguage l → extractorLanguage? l = some javascript) ∧
    (IsKnownLanguage l → l ≠ javascript →
      outcome l = .error (.parser { fault := .noParser l })) ∧
    (IsKnownLanguage l → (SameOutcome (outcome l) (outcome (Text.lower l)) ↔ l = javascript)) :=
  ⟨isKnownLanguage_iff, extractorLanguage?_of_known,
    parseSource_of_ne opts makeTree text file, sameOutcome_lower_iff opts makeTree text file⟩

/-- The language by the name that people write: it passes the check and has an extractor, and yet a
text that can be read by the name in small letters is refused. -/
theorem language_case_capitalized :
    let outcome name :=
      parseSource {} javascriptTree "function f() { g(); }" (some "a.js") (some name)
    IsKnownLanguage "JavaScript" ∧ extractorLanguage? "JavaScript" = some javascript ∧
      outcome "JavaScript" = .error (.parser { fault := .noParser "JavaScript" }) ∧
      ¬SameOutcome (outcome "JavaScript") (outcome (Text.lower "JavaScript")) := by
  have hknown : IsKnownLanguage "JavaScript" := by decide
  have hne : "JavaScript" ≠ javascript := by decide
  refine ⟨hknown, extractorLanguage?_of_known hknown, parseSource_of_ne _ _ _ _ hknown hne, ?_⟩
  rw [sameOutcome_lower_iff _ _ _ _ hknown]
  exact hne

end CallFlow
