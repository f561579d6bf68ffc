import ClusterReady.Program.Process

/-!
# The executable

Reads the arguments, the environment and the files that they name, runs the program and prints
what is left of it.  It has no network of its own: no request reaches a server.
-/

namespace ClusterReady.Main

/-- The variables that the program looks at. -/
def variableNames : List String :=
  ["CLUSTER_E2E_CONFIG", "KUBECONFIG", "HOME", "RUST_LOG", "RUST_LOG_FORMAT"]

/-- The values of the variables. -/
def readVariables : List String → IO (List (String × String))
  | [] => return []
  | name :: rest => do
    let others ← readVariables rest
    match ← IO.getEnv name with
    | some value => return (name, value) :: others
    | none => return others

/-- The reason why a file cannot be read. -/
def faultOf : IO.Error → FileFault
  | .noFileOrDirectory .. => .notFound
  | e => .other (toString e)

def readFile (path : String) : IO (Except FileFault (List UInt8)) := do
  try
    return .ok (← IO.FS.readBinFile path).toList
  catch e =>
    return .error (faultOf e)

/-- The contents of files, by their paths. -/
def readFiles : List String → IO (List (String × Except FileFault (List UInt8)))
  | [] => return []
  | path :: rest => do
    let content ← readFile path
    return (path, content) :: (← readFiles rest)

/-- The paths of the files that an invocation reads. -/
def pathsOf (env : Environment) (inv : Invocation) : List String :=
  inv.config :: match inv.kubeconfig with
    | some path => [path]
    | none =>
      match Kubeconfig.paths env with
      | .ok paths => paths
      | .error _ => []

/-- The environment of the process, with the files that its arguments name. -/
def environment (arguments : List String) : IO Environment := do
  let values ← readVariables variableNames
  let env : Environment :=
    { lookup := fun name => List.lookup name values, files := fun _ => .error .notFound }
  match CommandLine.parse env.lookup arguments with
  | .error _ => return env
  | .ok inv =>
    let files ← readFiles (pathsOf env inv)
    return { env with files := fun path => (List.lookup path files).getD (.error .notFound) }

/-- The moment of the start and a number for the process. -/
def readStamp : IO Stamp := do
  let millis ← IO.monoMsNow
  let process ← IO.rand 1 4194304
  return { process := process.toUInt32, moment := ⟨millis % 86400000, Nat.mod_lt _ (by decide)⟩ }

/-- A session that has not begun. -/
def idle : Session Unit := { world := { clock := {}, outside := () }, journal := {} }

end ClusterReady.Main

open ClusterReady in
def main (arguments : List String) : IO UInt32 := do
  let env ← Main.environment arguments
  let result :=
    Program.process env (fun _ => Server.unreachable) (← Main.readStamp) arguments Main.idle
  let log := LogOutput.ofVariables env.lookup
  for e in log.admitted result.events do IO.println (log.line e)
  match result.metrics with
  | some lines => do
    for line in lines do IO.println line
    IO.println ""
  | none => pure ()
  IO.print result.output
  IO.eprint result.errors
  return result.exit
