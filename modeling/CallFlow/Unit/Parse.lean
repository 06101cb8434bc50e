import CallFlow.JavaScript.Program
import CallFlow.Text.Case
import CallFlow.Tree.Outline
import CallFlow.Unit.Extract

/-!
# From text to records

The way from a text to the records of a source file: the language is found, the text is parsed, and
its syntax errors decide whether the tree is usable. A tree is of no use if it has an error and is
either to be error-free (`strict`) or holds nothing but errors.
-/

namespace CallFlow

open CallFlow.Tree (Node Source Visit)

/-! ## Languages -/

/-- The only language there is. -/
def javascript : String := "javascript"

/-- The languages that can be analysed. -/
def supportedLanguages : List String := [javascript]

/-- File suffixes of the language. -/
def javascriptSuffixes : List String := [".js", ".mjs", ".cjs", ".jsx"]

/-- The language of a file by its suffix, in any letter case. -/
def detectLanguage (path : Path) : Option String :=
  if javascriptSuffixes.contains (Text.lower path.suffix) then some javascript else none

/-- The language under whose rules records are extracted, for a name in any letter case. -/
def extractorLanguage? (language : String) : Option String :=
  if supportedLanguages.contains (Text.lower language) then some (Text.lower language) else none

/-- Why there is no extraction for a language. -/
def noExtractorMessage (language : String) : String :=
  "No extractor registered for language: " ++ Text.lower language

/-! ## Failures -/

/-- Why a text or file cannot be analysed. -/
inductive ParserFault where
  | unsupportedLanguage (language : String)
  | noParser (language : String)
  | noTree (language : String)
  | unusableTree
  | notAFile
  | unknownLanguage (fileName : String)
  | undecodable (encoding : String)
  deriving Repr, DecidableEq

/-- The wording of a fault. -/
def ParserFault.message : ParserFault → String
  | unsupportedLanguage l => "Unsupported language: " ++ l
  | noParser l => "No parser available for language: " ++ l
  | noTree l => "tree-sitter failed to parse " ++ l ++ " source"
  | unusableTree => "Unrecoverable syntax error"
  | notAFile => "Path is not a file"
  | unknownLanguage n => "Cannot detect language for file: " ++ n
  | undecodable e => "Cannot decode file with " ++ e

/-- A text followed by the place it is about, as far as that is known. An empty file name counts as
unknown. -/
def describeAt (text : String) (file : Option String) (line column : Option Int) : String :=
  let parts :=
    ((file.filter (!·.isEmpty)).map ("file=" ++ ·)).toList ++
    (line.map ("line=" ++ toString ·)).toList ++
    (column.map ("column=" ++ toString ·)).toList
  if parts.isEmpty then text else text ++ " (" ++ ", ".intercalate parts ++ ")"

/-- A fault with its place. -/
structure ParserError where
  fault : ParserFault
  file : Option String := none
  line : Option Nat := none
  column : Option Nat := none
  deriving Repr, DecidableEq

/-- The wording of a fault with its place. -/
def ParserError.message (e : ParserError) : String :=
  describeAt e.fault.message e.file (e.line.map Int.ofNat) (e.column.map Int.ofNat)

/-- Why there are no records. -/
inductive ParseFailure where
  /-- No language is given and the file name shows none. -/
  | languageUnknown
  | fileMissing (path : String)
  | parser (e : ParserError)
  deriving Repr, DecidableEq

/-- The wording of a failure. -/
def ParseFailure.message : ParseFailure → String
  | languageUnknown => "Language must be specified or inferrable from file_path"
  | fileMissing p => "File not found: " ++ p
  | parser e => e.message

/-! ## Syntax errors -/

/-- Is the node an error or made up by error recovery? -/
def isErrorNode (n : Node) : Bool :=
  n.kind == "ERROR" || n.isMissing

/-- A tree and whether it is marked as holding errors. -/
structure ParsedTree where
  root : Node
  hasError : Bool

/-- The error nodes of a tree in pre-order. -/
def errorNodes (root : Node) : List Node :=
  ((Tree.walk root).map (·.node)).filter isErrorNode

/-- A tree marked by what it holds. -/
def ParsedTree.of (root : Node) : ParsedTree :=
  ⟨root, !(errorNodes root).isEmpty⟩

/-- Does the tree hold no statement that can be used? -/
def isUnusable (root : Node) : Bool :=
  root.kind == "ERROR" ||
    let statements := root.namedChildren.filter (·.kind != "comment")
    !statements.isEmpty && statements.all (·.kind == "ERROR")

/-- The report of one syntax error, with line and column from 1. -/
def syntaxErrorMessage (src : Source) (n : Node) : String :=
  "Syntax error at line " ++ toString (n.line src) ++ ", column " ++ toString (n.column src + 1)

/-- The error nodes that count: none in a tree that is not marked. -/
def countedErrors (t : ParsedTree) : List Node :=
  if t.hasError then errorNodes t.root else []

/-! ## Parsing -/

/-- How texts are analysed. -/
structure ParserOptions where
  /-- Refuse every text with a syntax error. -/
  strict : Bool := false
  /-- Names whose direct calls are not recorded. -/
  denied : List String := defaultDenied
  deriving Repr, DecidableEq, Inhabited

/-- The records of a text and how it was read. -/
structure ParsedSource where
  unit : SourceUnit
  file : String
  language : String
  errors : List String := []
  success : Bool := true
  deriving Repr, DecidableEq, Inhabited

/-- The records of a text with its tree, unless the tree is of no use. -/
def ofParsedTree (opts : ParserOptions) (src : Source) (file language : String) (t : ParsedTree) :
    Except ParserError ParsedSource :=
  let errors := countedErrors t
  match errors with
  | first :: _ =>
    if opts.strict || isUnusable t.root then
      .error { fault := .unusableTree, file := some file, line := some (first.line src)
               column := some (first.column src + 1) }
    else accept errors
  | [] => accept errors
where
  accept (errors : List Node) : Except ParserError ParsedSource :=
    let messages := errors.map (syntaxErrorMessage src)
    let unit := SourceUnit.ofTree src opts.denied file t.root
    .ok { unit := { unit with syntaxErrors := messages }, file := file, language := language
          errors := messages, success := messages.isEmpty }

/-- The tree of a text, by the grammar of the language. -/
def javascriptTree (text : String) : Option ParsedTree :=
  some (ParsedTree.of (JavaScript.parse text))

/-- Finds the tree of a text in a language. A language is known by its exact name here. -/
def treeOf (makeTree : String → Option ParsedTree) (text language : String) :
    Except ParserError ParsedTree :=
  if language ≠ javascript then .error { fault := .noParser language }
  else
    match makeTree text with
    | some t => .ok t
    | none => .error { fault := .noTree language }

/-- The language to read a text in: the given one, or that of the file. -/
def chooseLanguage (file language : Option String) : Option String :=
  match language.filter (!·.isEmpty) with
  | some l => some l
  | none => (file.filter (!·.isEmpty)).bind (detectLanguage <| Path.ofString ·)

/-- The records of a text, read as the given file in the given language. -/
def parseSource (opts : ParserOptions) (makeTree : String → Option ParsedTree) (text : String)
    (file language : Option String) : Except ParseFailure ParsedSource :=
  let shownFile := (file.filter (!·.isEmpty)).getD "<string>"
  match chooseLanguage file language with
  | none => .error .languageUnknown
  | some l =>
    if (extractorLanguage? l).isNone then
      .error (.parser { fault := .unsupportedLanguage l, file := some shownFile })
    else
      (do
        let t ← treeOf makeTree text l
        ofParsedTree opts (Source.ofString text) shownFile l t).mapError .parser

/-- The outline of a text's tree. -/
def outlineOf (makeTree : String → Option ParsedTree) (text language : String) (limit : Int) :
    Except ParserError String := do
  let t ← treeOf makeTree text language
  return Tree.outline (Source.ofString text) limit t.root

end CallFlow
