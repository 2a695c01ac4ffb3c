import ExprLexer.Cli.Program

/-!
# The command line on the real system

Carries out `Cli.run` with the process's arguments, environment, files and standard input, and
writes its report out. Log lines carry the milliseconds since the run began as their stamp.
-/

namespace ExprLexer.Main

/-- The failure of input or output that a system error stands for. -/
def ioErrorOf : IO.Error → IoError
  | .noFileOrDirectory .. => .notFound
  | .alreadyExists .. => .alreadyExists
  | .inappropriateType .. => .isADirectory
  | e => if (toString e).contains "directory" then .isADirectory else .notFound

/-- Reads a stream to its end. -/
partial def readAll (s : IO.FS.Stream) (acc : ByteArray) : IO ByteArray := do
  let chunk ← s.read 65536
  if chunk.isEmpty then return acc else readAll s (acc ++ chunk)

/-- The host of the real system, with the environment read beforehand. -/
def systemHost (env : List (String × String)) : Host IO where
  env k := env.lookup k
  pathExists p := do
    if p.isEmpty then return false
    try
      let _ ← IO.FS.Handle.mk p .read
      return true
    catch e =>
      match e with
      | .noFileOrDirectory .. => return false
      | _ => return true
  readFile p := do
    try
      return .ok (← IO.FS.readBinFile p).toList
    catch e =>
      return .error (ioErrorOf e)
  readStdin := do
    try
      return .ok (← readAll (← IO.getStdin) ByteArray.empty).toList
    catch e =>
      return .error (ioErrorOf e)

end ExprLexer.Main

open ExprLexer in
/-- Runs the command line and exits with its status. -/
def main (args : List String) : IO UInt32 := do
  let start ← IO.monoMsNow
  let mut env : List (String × String) := []
  for k in Cli.envNames do
    if let some v ← IO.getEnv k then env := env ++ [(k, v)]
  let report ← Cli.run (Main.systemHost env) args
  let elapsed := (← IO.monoMsNow) - start
  let out ← IO.getStdout
  out.putStr report.stdout
  out.flush
  let err ← IO.getStderr
  err.putStr (report.stderrText ("+" ++ toString elapsed ++ "ms"))
  err.flush
  return report.status.toUInt32
