import CallFlow.Project.FileTree
import CallFlow.Unit.Parse

/-!
# Finding source files

The source files below a directory, in the order of their names level by level. Excluded names are
skipped together with all that is below them, and links are not followed.
-/

namespace CallFlow

/-- Which files are looked for. -/
structure DiscoveryConfig where
  /-- File suffixes, each with its point. -/
  extensions : List String := [".js", ".jsx"]
  /-- Names of files and directories to be skipped. -/
  excluded : List String := ["node_modules", "build", ".next"]
  /-- Skip names that start with a point. -/
  skipHidden : Bool := true
  deriving Repr, DecidableEq, Inhabited

/-- Is everything of this name skipped? -/
def DiscoveryConfig.isExcluded (c : DiscoveryConfig) (name : String) : Bool :=
  c.excluded.contains name || (c.skipHidden && name.toList.head? == some '.')

/-- A source file that was found. -/
structure FileInfo where
  path : String
  /-- The path from the directory in which the search began. -/
  relativePath : String
  language : Option String := none
  /-- Number of bytes. -/
  size : Nat := 0
  deriving Repr, DecidableEq, Inhabited

/-- A file found below a directory: the names that lead to it, and its size. -/
structure FoundFile where
  names : List String
  size : Nat
  deriving Repr, DecidableEq, Inhabited

/-- The same file seen from the directory above. -/
def FoundFile.under (name : String) (f : FoundFile) : FoundFile :=
  { f with names := name :: f.names }

/-- Has a file of this name one of the wanted suffixes? -/
def DiscoveryConfig.wants (c : DiscoveryConfig) (name : String) : Bool :=
  c.extensions.contains (Path.splitName name).2

/-- Puts what was found below each name into the order of the names. -/
def inNameOrder (found : List (String × List FoundFile)) : List FoundFile :=
  (found.mergeSort fun a b => decide (a.1 ≤ b.1)).flatMap (·.2)

mutual

/-- The wanted files at or below an entry of the given name. -/
def foundAt (c : DiscoveryConfig) (name : String) : Entry → List FoundFile
  | .file content => if c.wants name then [⟨[name], content.length⟩] else []
  | .directory es => (inNameOrder (foundIn c es)).map (·.under name)
  | .link _ => []

/-- The wanted files at or below each entry of a directory. -/
def foundIn (c : DiscoveryConfig) : List (String × Entry) → List (String × List FoundFile)
  | [] => []
  | (name, e) :: es =>
    (name, if c.isExcluded name then [] else foundAt c name e) :: foundIn c es

end

/-- What is known of a file found below `root`. -/
def FileInfo.of (root : Path) (f : FoundFile) : FileInfo :=
  let path : Path := { root with parts := root.parts ++ f.names }
  { path := path.toString, relativePath := "/".intercalate f.names
    language := detectLanguage path, size := f.size }

/-- The source files below the directory that `root` leads to; none if it leads to no directory. -/
def discover (c : DiscoveryConfig) (w : Workspace) (root : Path) : List FileInfo :=
  match w.find root with
  | .ok (.directory es) => (inNameOrder (foundIn c es)).map (FileInfo.of root)
  | _ => []

end CallFlow
