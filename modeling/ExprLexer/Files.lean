/-!
# Files

The failures of input and output that the tool can meet, each with the text the system gives for
it, and a directory tree held as a value: the files under a working directory with their bytes,
and the directories between them.

A path is a text of components separated by `/`, read from the root when it starts with `/` and
from the working directory otherwise. It is followed one component at a time, and every step
needs a directory to take it: an empty component and `.` stay where they are, `..` goes up, and
a name goes down to what stands there. So a path that goes on past a file (`notes.txt/`,
`notes.txt/..`) meets a file where a directory was expected, and one through something missing
(`missing/..`) finds nothing. The empty path names nothing. Writing creates or replaces a file
whose directory exists; creating directories makes every missing one along a path.
-/

namespace ExprLexer

/-- A failure of input or output. -/
inductive IoError where
  /-- Nothing exists at a path. -/
  | notFound
  /-- Something exists where a directory was to be made. -/
  | alreadyExists
  /-- A directory stands where a file was expected. -/
  | isADirectory
  /-- A file stands where a directory was expected. -/
  | notADirectory
  /-- The bytes read are not UTF-8. -/
  | invalidData
  /-- A sink has no more room. -/
  | sinkFull
  deriving DecidableEq, Repr

namespace IoError

/-- The kind of failure, by its usual name. -/
def kind : IoError → String
  | .notFound => "NotFound"
  | .alreadyExists => "AlreadyExists"
  | .isADirectory => "IsADirectory"
  | .notADirectory => "NotADirectory"
  | .invalidData => "InvalidData"
  | .sinkFull => "Other"

/-- The text the system gives for the failure. -/
def message : IoError → String
  | .notFound => "No such file or directory (os error 2)"
  | .alreadyExists => "File exists (os error 17)"
  | .isADirectory => "Is a directory (os error 21)"
  | .notADirectory => "Not a directory (os error 20)"
  | .invalidData => "stream did not contain valid UTF-8"
  | .sinkFull => "sink full"

end IoError

/-- Whether a path is absolute: it starts with `/`. -/
def isAbsolute (p : String) : Bool := p.startsWith "/"

/-- The named components of a path, the empty ones and `.` dropped. -/
def pathParts (p : String) : List String :=
  (p.splitOn "/").filter fun c => c != "" && c != "."

/-- What stands at a path of a tree. -/
inductive Entry where
  | file (bytes : List UInt8)
  | dir
  deriving DecidableEq, Repr

/-- A directory tree seen from a working directory: entries by the components of their absolute
paths, and the absolute components of the working directory. A directory also stands at every
proper prefix of an entry's path, at the working directory and every directory above it, and at
the root, the empty list of components. -/
structure Tree where
  cwd : List String
  entries : List (List String × Entry)
  deriving Repr

namespace Tree

/-- The tree with nothing in it but a working directory at `cwd`. -/
def within (cwd : List String) : Tree := ⟨cwd, []⟩

/-- The tree with nothing in it, working at the root. -/
def empty : Tree := Tree.within []

/-- What stands at the absolute components `ps`. -/
def lookup (t : Tree) (ps : List String) : Option Entry :=
  match t.entries.lookup ps with
  | some e => some e
  | none =>
    if ps.isPrefixOf t.cwd || t.entries.any (fun e => ps.isPrefixOf e.1) then some .dir else none

/-- Where the components `parts` lead from the place `pos`, which exists: each step needs a
directory to take it; an empty component and `.` stay, `..` goes up (the root is its own
parent), and a name goes down to what stands there. -/
def walk (t : Tree) : List String → List String → Except IoError (List String)
  | pos, [] => .ok pos
  | pos, part :: rest =>
    match t.lookup pos with
    | some (.file _) => .error .notADirectory
    | _ =>
      if part == "" || part == "." then t.walk pos rest
      else if part == ".." then t.walk pos.dropLast rest
      else
        let next := pos ++ [part]
        match t.lookup next with
        | some _ => t.walk next rest
        | none => .error .notFound

/-- The place a path starts from, and its components: the root for an absolute path, else the
working directory. -/
def start (t : Tree) (p : String) : List String × List String :=
  match p.splitOn "/" with
  | "" :: rest => if p.isEmpty then (t.cwd, []) else ([], rest)
  | parts => (t.cwd, parts)

/-- The absolute components of what path `p` names, if something stands there; the empty path
names nothing. -/
def resolve (t : Tree) (p : String) : Except IoError (List String) :=
  if p.isEmpty then .error .notFound
  else
    let (pos, parts) := t.start p
    t.walk pos parts

/-- The absolute components that path `p` spells, read without the tree: `..` takes off the
component before it. -/
def place (t : Tree) (p : String) : List String :=
  let (pos, parts) := t.start p
  parts.foldl (fun ps c =>
    if c == "" || c == "." then ps else if c == ".." then ps.dropLast else ps ++ [c]) pos

/-- The tree with `e` at the absolute components `ps`, in place of what stood there. -/
def put (t : Tree) (ps : List String) (e : Entry) : Tree :=
  { t with entries := (t.entries.filter (·.1 != ps)) ++ [(ps, e)] }

/-- The tree with a file holding `bytes` at path `p`, and directories on the way to it. -/
def addFile (t : Tree) (p : String) (bytes : List UInt8) : Tree := t.put (t.place p) (.file bytes)

/-- Whether something stands at path `p`. -/
def pathExists (t : Tree) (p : String) : Bool :=
  match t.resolve p with
  | .ok _ => true
  | .error _ => false

/-- The bytes of the file at path `p`. -/
def readFile (t : Tree) (p : String) : Except IoError (List UInt8) := do
  match t.lookup (← t.resolve p) with
  | some (.file bs) => .ok bs
  | _ => .error .isADirectory

/-- The tree with the file at path `p` holding `bytes`; its directory must exist. A path that
ends in `/`, `.` or `..` names a directory, if anything. -/
def writeFile (t : Tree) (p : String) (bytes : List UInt8) : Except IoError Tree :=
  if p.isEmpty then .error .notFound
  else
    let (pos, parts) := t.start p
    match parts.getLast? with
    | some name =>
      if name == "" || name == "." || name == ".." then do
        let _ ← t.walk pos parts
        .error .isADirectory
      else do
        let dir ← t.walk pos parts.dropLast
        match t.lookup dir, t.lookup (dir ++ [name]) with
        | some (.file _), _ => .error .notADirectory
        | _, some .dir => .error .isADirectory
        | _, _ => .ok (t.put (dir ++ [name]) (.file bytes))
    | none => .error .notFound

/-- The tree with every directory along path `p` made. -/
def createDirs (t : Tree) (p : String) : Except IoError Tree :=
  let (pos, parts) := t.start p
  let parts := parts.filter fun c => c != "" && c != "."
  let step (acc : Tree × List String) (i : Nat) : Except IoError (Tree × List String) :=
    let (t, pos) := acc
    match parts[i]? with
    | some ".." => .ok (t, pos.dropLast)
    | some c =>
      let next := pos ++ [c]
      match t.lookup next with
      | some .dir => .ok (t, next)
      | some (.file _) => .error (if i + 1 = parts.length then .alreadyExists else .notADirectory)
      | none => .ok (t.put next .dir, next)
    | none => .ok (t, pos)
  (List.foldlM step (t, pos) (List.range parts.length)).map (·.1)

end Tree

end ExprLexer
