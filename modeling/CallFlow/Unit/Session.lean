import CallFlow.Collect
import CallFlow.Unit.Parse

/-!
# Reading text after text

A session reads any number of texts under the same options. What is set up for a language is kept
for the later texts of that language; it is set up when the first of them has been accepted.
-/

namespace CallFlow

/-- What is kept for the texts of one language. -/
structure Extractor where
  /-- Names whose direct calls are not recorded. -/
  denied : List String
  deriving Repr, DecidableEq, Inhabited

/-- A text that is to be read. -/
structure ReadRequest where
  text : String
  file : Option String := none
  language : Option String := none
  deriving Repr, DecidableEq, Inhabited

/-- The options of a session and what it has kept so far. -/
structure ParseSession where
  options : ParserOptions := {}
  /-- One extractor for each language. -/
  extractors : List (String × Extractor) := []
  deriving Repr, DecidableEq, Inhabited

namespace ParseSession

/-- The extractor for a language: the one that was kept, or else a new one. -/
def extractor (s : ParseSession) (language : String) : Extractor :=
  (s.extractors.lookup language).getD ⟨s.options.denied⟩

/-- Keeps the extractor for a language. -/
def keep (s : ParseSession) (language : String) : ParseSession :=
  { s with extractors := insertNew (·.1) s.extractors (language, s.extractor language) }

/-- Reads one text. -/
def read (makeTree : String → Option ParsedTree) (s : ParseSession) (q : ReadRequest) :
    Except ParseFailure ParsedSource × ParseSession :=
  match chooseLanguage q.file q.language with
  | none => (.error .languageUnknown, s)
  | some l =>
    let opts := { s.options with denied := (s.extractor l).denied }
    match parseSource opts makeTree q.text q.file q.language with
    | .ok parsed => (.ok parsed, s.keep l)
    | .error e => (.error e, s)

/-- Reads one text after the other. -/
def readAll (makeTree : String → Option ParsedTree) :
    ParseSession → List ReadRequest → List (Except ParseFailure ParsedSource)
  | _, [] => []
  | s, q :: qs =>
    let (outcome, s) := s.read makeTree q
    outcome :: s.readAll makeTree qs

end ParseSession

end CallFlow
