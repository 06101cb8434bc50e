import CallFlow.Project.FileTree
import CallFlow.Unit.Parse

/-!
# Parsing files

A file is read as text in some encoding, its line ends are made uniform, and the text is parsed.
-/

namespace CallFlow

/-- How the bytes of a file stand for text. -/
inductive Encoding where
  | utf8
  | latin1
  | ascii
  deriving Repr, DecidableEq, Inhabited

namespace Encoding

/-- The name of an encoding. -/
def name : Encoding → String
  | utf8 => "utf-8"
  | latin1 => "latin-1"
  | ascii => "ascii"

/-- The text that bytes stand for, if they stand for any. -/
def decode? : Encoding → List UInt8 → Option (List Char)
  | utf8, bytes => Text.Utf8.decode? bytes
  | latin1, bytes => some (bytes.map fun b => Char.ofNat b.toNat)
  | ascii, bytes =>
    if bytes.all (· < 128) then some (bytes.map fun b => Char.ofNat b.toNat) else none

end Encoding

/-- Ends every line with a line feed. -/
def uniformLines : List Char → List Char
  | [] => []
  | '\r' :: '\n' :: cs => '\n' :: uniformLines cs
  | c :: cs => (if c == '\r' then '\n' else c) :: uniformLines cs

/-- The records of a file. -/
def parseFile (opts : ParserOptions) (makeTree : String → Option ParsedTree) (encoding : Encoding)
    (w : Workspace) (p : Path) : Except ParseFailure ParsedSource :=
  let fail (fault : ParserFault) : Except ParseFailure ParsedSource :=
    .error (.parser { fault := fault, file := some p.toString })
  match w.find p with
  | .error _ => .error (.fileMissing p.toString)
  | .ok (.file content) =>
    match detectLanguage p with
    | none => fail (.unknownLanguage p.name)
    | some language =>
      match encoding.decode? content with
      | none => fail (.undecodable encoding.name)
      | some text =>
        parseSource opts makeTree (String.ofList (uniformLines text)) p.toString language
  | .ok _ => fail .notAFile

end CallFlow
