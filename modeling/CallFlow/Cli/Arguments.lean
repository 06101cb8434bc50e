/-!
# Command line arguments

Options have long names, written with two dashes, and some have short ones, which may be joined
behind one dash. The value of an option stands behind it or is attached to it: behind an equals sign
for a long name, directly for a short one. Two dashes alone end the options.
-/

namespace CallFlow.Cli

/-- The options that are on or off. -/
inductive Flag where
  | noSave
  | strict
  | verbose
  | quiet
  | version
  | help
  deriving Repr, DecidableEq, Inhabited

/-- The options that have a value. -/
inductive Setting where
  | output
  | json
  deriving Repr, DecidableEq, Inhabited

/-- An option. -/
inductive Opt where
  | flag (f : Flag)
  | setting (s : Setting)
  deriving Repr, DecidableEq, Inhabited

/-- Options by their long names. -/
def longOptions : List (String × Opt) :=
  [("--output", .setting .output), ("--json", .setting .json), ("--no-save", .flag .noSave),
    ("--strict", .flag .strict), ("--verbose", .flag .verbose), ("--quiet", .flag .quiet),
    ("--version", .flag .version), ("--help", .flag .help)]

/-- Options by their short names. -/
def shortOptions : List (Char × Opt) :=
  [('o', .setting .output), ('v', .flag .verbose), ('q', .flag .quiet)]

/-- The arguments that were given. -/
structure Arguments where
  /-- Flags in the order in which they were given. -/
  flags : List Flag := []
  /-- Values of options; the last one of an option counts. -/
  values : List (Setting × String) := []
  /-- What is not an option. -/
  positional : List String := []
  deriving Repr, DecidableEq, Inhabited

namespace Arguments

/-- Is the flag on? -/
def has (a : Arguments) (f : Flag) : Bool := a.flags.contains f

/-- The value of an option. -/
def value? (a : Arguments) (s : Setting) : Option String :=
  a.values.reverse.lookup s

def addFlag (a : Arguments) (f : Flag) : Arguments := { a with flags := a.flags ++ [f] }

def addValue (a : Arguments) (s : Setting) (v : String) : Arguments :=
  { a with values := a.values ++ [(s, v)] }

def addPositional (a : Arguments) (vs : List String) : Arguments :=
  { a with positional := a.positional ++ vs }

/-- Reads joined short options. The second part of the result is the option that still needs the next
argument as its value. -/
def readShort? (a : Arguments) : List Char → Option (Arguments × Option Setting)
  | [] => some (a, none)
  | c :: cs =>
    match shortOptions.lookup c with
    | none => none
    | some (.flag f) => (a.addFlag f).readShort? cs
    | some (.setting s) =>
      if cs.isEmpty then some (a, some s) else some (a.addValue s (String.ofList cs), none)

/-- Reads a long option with the value attached to it, if there is one. -/
def readLong? (a : Arguments) (name : String) (attached : Option String) :
    Option (Arguments × Option Setting) :=
  match longOptions.lookup name, attached with
  | some (.flag f), none => some (a.addFlag f, none)
  | some (.setting s), some v => some (a.addValue s v, none)
  | some (.setting s), none => some (a, some s)
  | _, _ => none

/-- Splits at the first equals sign. -/
def splitAssignment (cs : List Char) : String × Option String :=
  let name := cs.takeWhile (· != '=')
  (String.ofList name,
    match cs.drop name.length with
    | _ :: value => some (String.ofList value)
    | [] => none)

/-- Reads one argument that is not two dashes alone. -/
def readWord? (a : Arguments) (word : String) : Option (Arguments × Option Setting) :=
  match word.toList with
  | '-' :: '-' :: cs =>
    let (name, attached) := splitAssignment ('-' :: '-' :: cs)
    a.readLong? name attached
  | '-' :: c :: cs => a.readShort? (c :: cs)
  | _ => some (a.addPositional [word], none)

/-- Reads all arguments; none if an option is unknown, lacks its value, or has one too many. -/
def read? (a : Arguments) : List String → Option Arguments
  | [] => some a
  | word :: rest =>
    if word == "--" then some (a.addPositional rest)
    else
      match a.readWord? word with
      | none => none
      | some (a, none) => a.read? rest
      | some (a, some s) =>
        match rest with
        | v :: rest => (a.addValue s v).read? rest
        | [] => none

end Arguments

end CallFlow.Cli
