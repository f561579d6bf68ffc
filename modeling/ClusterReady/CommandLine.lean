import ClusterReady.Environment

/-!
# The command line

An `Invocation` is what the program is asked to do.  It is read from the arguments in their order
and then from the environment, which fills in the options that the arguments do not give.

An option that takes a value takes the next argument, unless that looks like an option itself, or
what is attached to it: `--config=path`, `-cpath`, `-c=path`.  Its value is looked at when the next
option is read, so a fault in the value comes after an unknown argument that follows it directly.
-/

namespace ClusterReady

/-- What the program is asked to do. -/
structure Invocation where
  config : String
  kubeconfig : Option String
  context : Option String
  printMetrics : Bool
deriving DecidableEq, Repr

namespace CommandLine

/-- Why the arguments do not ask for a run. -/
inductive Refusal where
  | help
  | version
  | unknownArgument (text : String)
  | missingValue (option : String)
  | emptyPath (option : String)
  | repeated (option : String)
  /-- A value is attached to an option that takes none. -/
  | unneededValue (option : String)
  | missingConfig
deriving DecidableEq, Repr

/-- The options that take a value. -/
inductive Valued where
  | config
  | kubeconfig
  | context
deriving DecidableEq, Repr

/-- The options that take none. -/
inductive Plain where
  | printMetrics
  | help
  | version
deriving DecidableEq, Repr

def Valued.name : Valued → String
  | config => "--config"
  | kubeconfig => "--kubeconfig"
  | context => "--context"

/-- The option of that name, without its dashes. -/
def longOption? : String → Option (Valued ⊕ Plain)
  | "config" => some (.inl .config)
  | "kubeconfig" => some (.inl .kubeconfig)
  | "context" => some (.inl .context)
  | "print-metrics" => some (.inr .printMetrics)
  | "help" => some (.inr .help)
  | "version" => some (.inr .version)
  | _ => none

/-- The option of that letter. -/
def shortOption? : Char → Option (Valued ⊕ Plain)
  | 'c' => some (.inl .config)
  | 'h' => some (.inr .help)
  | 'V' => some (.inr .version)
  | _ => none

/-- The options that were given. -/
structure Given where
  config : Option String := none
  kubeconfig : Option String := none
  context : Option String := none
  printMetrics : Bool := false
deriving DecidableEq, Repr

namespace Given

def value? (g : Given) : Valued → Option String
  | .config => g.config
  | .kubeconfig => g.kubeconfig
  | .context => g.context

def set (g : Given) (value : String) : Valued → Given
  | .config => { g with config := some value }
  | .kubeconfig => { g with kubeconfig := some value }
  | .context => { g with context := some value }

/-- Whether the value of an option may be empty; a path may not. -/
def mayBeEmpty : Valued → Bool
  | .context => true
  | _ => false

/-- Gives a value to an option. -/
def put (g : Given) (o : Valued) (value : String) : Except Refusal Given :=
  if (g.value? o).isSome then .error (.repeated o.name)
  else if value.isEmpty && !mayBeEmpty o then .error (.emptyPath o.name)
  else .ok (g.set value o)

end Given

/-- The arguments as far as they have been read. -/
structure Reading where
  given : Given := {}
  /-- The option that was read last, with its value if it has one; it is not among those given. -/
  pending : Option (Valued × Option String) := none
  /-- Whether the arguments that are left are no options. -/
  closed : Bool := false
deriving DecidableEq, Repr

namespace Reading

/-- Gives the pending option its value. -/
def settle (r : Reading) : Except Refusal Reading :=
  match r.pending with
  | none => .ok r
  | some (o, none) => .error (.missingValue o.name)
  | some (o, some value) => (r.given.put o value).map fun given => { r with given, pending := none }

/-- Reads an option that takes a value, which may be attached to it. -/
def valued (r : Reading) (o : Valued) (attached : Option String) : Except Refusal Reading := do
  let r ← r.settle
  match attached with
  | some value => return { r with given := ← r.given.put o value }
  | none => return { r with pending := some (o, none) }

/-- Reads an option that takes no value. -/
def plain (r : Reading) (o : Plain) : Except Refusal Reading := do
  let r ← r.settle
  match o with
  | .help => .error .help
  | .version => .error .version
  | .printMetrics =>
    if r.given.printMetrics then .error (.repeated "--print-metrics")
    else return { r with given := { r.given with printMetrics := true } }

/-- Reads an argument that starts with two dashes, without these. -/
def long (r : Reading) (cs : List Char) : Except Refusal Reading :=
  let name := String.ofList (cs.takeWhile (· != '='))
  let attached := match cs.dropWhile (· != '=') with
    | _ :: value => some (String.ofList value)
    | [] => none
  match longOption? name with
  | some (.inl o) => r.valued o attached
  | some (.inr o) =>
    match attached with
    | some _ => .error (.unneededValue ("--" ++ name))
    | none => r.plain o
  | none => .error (.unknownArgument ("--" ++ name))

/-- What is attached to a letter, without an equals sign in front. -/
def attachedTo : List Char → Option String
  | [] => none
  | '=' :: value => some (String.ofList value)
  | value => some (String.ofList value)

/-- Reads an argument that starts with one dash, without it: letters up to one that takes what is
left as its value. -/
def short (r : Reading) : List Char → Except Refusal Reading
  | [] => .ok r
  | c :: cs =>
    match shortOption? c with
    | some (.inl o) => r.valued o (attachedTo cs)
    | some (.inr o) => do short (← r.plain o) cs
    | none => .error (.unknownArgument ("-" ++ String.singleton c))

/-- Reads an argument that is no option: it is the value that the pending option waits for. -/
def other (r : Reading) (argument : String) : Except Refusal Reading :=
  match r.pending with
  | some (o, none) => .ok { r with pending := some (o, some argument) }
  | _ => .error (.unknownArgument argument)

/-- Reads one argument. -/
def next (r : Reading) (argument : String) : Except Refusal Reading :=
  if r.closed then .error (.unknownArgument argument)
  else match argument.toList with
    | ['-', '-'] => .ok { r with closed := true }
    | '-' :: '-' :: cs => r.long cs
    | '-' :: c :: cs => r.short (c :: cs)
    | _ => r.other argument

end Reading

/-- The environment variable of an option. -/
def Valued.envName? : Valued → Option String
  | config => some "CLUSTER_E2E_CONFIG"
  | kubeconfig => some "KUBECONFIG"
  | context => none

/-- Gives an option the value of its environment variable, unless it has a value. -/
def fill (lookup : Variables) (g : Given) (o : Valued) : Except Refusal Given :=
  if (g.value? o).isSome then .ok g
  else match o.envName? >>= lookup with
    | some value => g.put o value
    | none => .ok g

/-- What the arguments and the environment ask for. -/
def parse (lookup : Variables) (arguments : List String) :
    Except Refusal Invocation := do
  let r ← (← arguments.foldlM Reading.next {}).settle
  let g ← [Valued.config, .kubeconfig, .context].foldlM (fill lookup) r.given
  match g.config with
  | some config =>
    return { config, kubeconfig := g.kubeconfig, context := g.context
             printMetrics := g.printMetrics }
  | none => .error .missingConfig

/-- The name and the version of the program. -/
def versionText : String := "cluster-e2e 0.1.0"

end CommandLine

end ClusterReady
