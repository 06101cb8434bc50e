import CallFlow.Path
import CallFlow.Text.Quoted
import CallFlow.Text.Utf8

/-!
# Trees of files

A file system as a finite tree of files, directories and symbolic links. A path is looked up name by
name, from the top if it is absolute and else from the current directory: two points lead one level
up, and a link is replaced by its target, which is taken from the directory that holds the link.
-/

namespace CallFlow

/-- What a directory holds under a name. -/
inductive Entry where
  | file (content : List UInt8)
  | directory (entries : List (String × Entry))
  | link (target : String)
  deriving Repr, Inhabited

/-- Why a path leads nowhere. -/
inductive FileError where
  | missing
  | notADirectory
  | isDirectory
  | tooManyLinks
  deriving Repr, DecidableEq, Inhabited

/-- The wording of a failure to reach a path. -/
def FileError.message (path : String) : FileError → String
  | missing => "[Errno 2] No such file or directory: " ++ Text.Quoted.encode path
  | notADirectory => "[Errno 20] Not a directory: " ++ Text.Quoted.encode path
  | isDirectory => "[Errno 21] Is a directory: " ++ Text.Quoted.encode path
  | tooManyLinks => "[Errno 40] Too many levels of symbolic links: " ++ Text.Quoted.encode path

namespace Entry

/-- An empty directory. -/
def empty : Entry := directory []

/-- What a directory holds under a name. -/
def child? (e : Entry) (name : String) : Option Entry :=
  match e with
  | directory es => es.lookup name
  | _ => none

/-- What stands at the end of a list of names; links are not followed. -/
def at? (e : Entry) : List String → Option Entry
  | [] => some e
  | name :: rest => (e.child? name).bind (at? · rest)

/-! ## Lookup -/

/-- The most links that one lookup may follow. -/
def linkLimit : Nat := 40

/-- Where a path is looked up from: the top, or the directory `here`. -/
def startOf (here : List String) (p : Path) : List String :=
  if p.slashes = 0 then here else []

/-- Follows names from the directory `here`, whose own names are listed innermost first. At a link,
`follow` goes on with the link's target in front of the remaining names. -/
def resolveWith (top : Entry) (follow : List String → List String → Except FileError (List String))
    (here : List String) : List String → Except FileError (List String)
  | [] => .ok here
  | name :: rest =>
    if name == ".." then resolveWith top follow here.tail rest
    else
      match top.at? (here.reverse ++ [name]) with
      | none => .error .missing
      | some (.directory _) => resolveWith top follow (name :: here) rest
      | some (.file _) => if rest.isEmpty then .ok (name :: here) else .error .notADirectory
      | some (.link target) =>
        let p := Path.ofString target
        follow (startOf here p) (p.parts ++ rest)

/-- Follows names and at most `links` links. The result lists the names of the place that is reached,
innermost first. -/
def resolve (top : Entry) : (links : Nat) → List String → List String →
    Except FileError (List String)
  | 0 => fun _ _ => .error .tooManyLinks
  | links + 1 => resolveWith top (resolve top links)

/-! ## Change -/

/-- Sets what a directory holds under a name: in place, or at the end if the name is new. -/
def setChild (name : String) (e : Entry) : List (String × Entry) → List (String × Entry)
  | [] => [(name, e)]
  | (n, old) :: rest => if n == name then (n, e) :: rest else (n, old) :: setChild name e rest

/-- Puts an entry at the end of a list of names; directories on the way are made. Something else in
the way is replaced. -/
def put : Entry → List String → Entry → Entry
  | _, [], e => e
  | d, name :: rest, e =>
    let entries :=
      match d with
      | directory es => es
      | _ => []
    directory (setChild name (put ((entries.lookup name).getD empty) rest e) entries)

/-- The names of the place where a file is written, innermost first, when it is named by `names` from
the directory `here`. -/
def writePlace (top : Entry) : (links : Nat) → List String → List String →
    Except FileError (List String)
  | 0 => fun _ _ => .error .tooManyLinks
  | links + 1 => fun here names => do
    let place ← resolve top (linkLimit + 1) here names.dropLast
    match top.at? place.reverse with
    | some (.directory es) =>
      match names.getLast? with
      | none => .error .isDirectory
      | some ".." => .error .isDirectory
      | some name =>
        match es.lookup name with
        | some (.directory _) => .error .isDirectory
        | some (.link target) =>
          let p := Path.ofString target
          writePlace top links (startOf place p) p.parts
        | _ => .ok (name :: place)
    | some _ => .error .notADirectory
    | none => .error .missing

/-! ## All files -/

mutual

/-- All files of a tree with their names from the top. -/
def files : Entry → List (List String × List UInt8)
  | file content => [([], content)]
  | directory es => filesAll es
  | link _ => []

/-- All files of the entries of a directory. -/
def filesAll : List (String × Entry) → List (List String × List UInt8)
  | [] => []
  | (name, e) :: es => (files e).map (fun f => (name :: f.1, f.2)) ++ filesAll es

end

/-- The files of a tree that another one does not hold with the same content. -/
def changes (before after : Entry) : List (List String × List UInt8) :=
  after.files.filter fun f =>
    match before.at? f.1 with
    | some (.file content) => content != f.2
    | _ => true

end Entry

/-! ## The current directory -/

/-- A file system and the directory that relative paths start from. -/
structure Workspace where
  /-- All there is. -/
  top : Entry
  /-- The names of the current directory, innermost first. -/
  here : List String := []
  deriving Repr, Inhabited

namespace Workspace

/-- What a path leads to, links followed. -/
def find (w : Workspace) (p : Path) : Except FileError Entry := do
  let place ← w.top.resolve (Entry.linkLimit + 1) (Entry.startOf w.here p) p.parts
  match w.top.at? place.reverse with
  | some e => .ok e
  | none => .error .missing

/-- Writes a file. Its directory has to exist. -/
def write (w : Workspace) (p : Path) (content : List UInt8) : Except FileError Workspace := do
  let place ← w.top.writePlace (Entry.linkLimit + 1) (Entry.startOf w.here p) p.parts
  return { w with top := w.top.put place.reverse (.file content) }

end Workspace

end CallFlow
