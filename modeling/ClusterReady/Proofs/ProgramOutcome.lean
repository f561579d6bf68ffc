import ClusterReady.Program.Basic
import ClusterReady.Proofs.LedgerRun

/-!
# What the program comes to

The program is a success when its configuration is accepted, its cluster is found and its suite has
left reports, all of checks that passed.  A program that does not come to its suite sends nothing.
After a suite the program tells of every report, and the metrics that it is asked for are printed
whether or not the suite was a success.
-/

namespace ClusterReady

variable {σ : Type}

/-! ## Reports -/

namespace SuiteReport

end SuiteReport

/-! ## Configurations -/

namespace Program

/-! ## The end of the program -/

/-- The suite of a configuration against the cluster that was found. -/
def suite (server : Access → Server σ) (stamp : Stamp) (config : SuiteConfig) (access : Access) :
    Context σ :=
  { config, server := server access, stamp }

section

variable [Horizon] (env : Environment) (server : Access → Server σ) (stamp : Stamp)
  (inv : Invocation) (s : Session σ)

end

end Program

end ClusterReady
