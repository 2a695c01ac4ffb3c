import ExprLexer.Files

/-!
# The host of a run

What a run of the tool asks of the world around it: the value of an environment variable,
whether a path exists, the bytes of a file, and the bytes of standard input. A run is written
against this interface in any monad, so the same run can be carried out on a directory tree
held as a value or on the real system.
-/

namespace ExprLexer

/-- The services a run uses, in the monad `m`. -/
structure Host (m : Type → Type) where
  env : String → Option String
  pathExists : String → m Bool
  readFile : String → m (Except IoError (List UInt8))
  readStdin : m (Except IoError (List UInt8))

/-- A host that answers from a tree, with the given environment and standard input. -/
def Tree.host (t : Tree) (env : List (String × String)) (stdin : List UInt8) : Host Id where
  env k := env.lookup k
  pathExists p := t.pathExists p
  readFile p := t.readFile p
  readStdin := .ok stdin

end ExprLexer
