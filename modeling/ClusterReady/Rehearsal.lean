import ClusterReady.Api.Client
import ClusterReady.Wait.Predicate

/-!
# Rehearsals

A rehearsal runs the suite without a cluster.  A `Scene` holds a server that answers from a script
and a record of the evaluations of predicates that do the same; each part of a script is used once
and its last part for good.
-/

namespace ClusterReady

/-- How a scripted server answers once. -/
structure Answer where
  /-- The nanoseconds before the reply. -/
  takes : Nat := 0
  /-- Whether the run is cancelled as the reply is sent. -/
  cancels : Bool := false
  exchange : Exchange

/-- The answers to the requests of one method and path. -/
structure Route where
  method : String
  path : String
  answers : List Answer

/-- A server that answers from a script. -/
structure ScriptedServer where
  routes : List Route := []
  /-- The answer to a request that has no route. -/
  fallback : Answer

/-- A scripted server and the evaluations of scripted predicates, latest first, each as the number
of the predicate and the instant at which it began. -/
structure Scene where
  server : ScriptedServer
  calls : List (Nat × Nat) := []

/-- Uses up the first part of a script, but never the last. -/
def useUp {α : Type} : List α → List α
  | _ :: b :: rest => b :: rest
  | script => script

namespace ScriptedServer

/-- The answer of the first route that fits, and the routes as they are after it. -/
def take (request : Request) : List Route → Option (Answer × List Route)
  | [] => none
  | route :: rest =>
    match route.answers with
    | answer :: _ =>
      if route.method = request.method.text ∧ route.path = request.path then
        some (answer, { route with answers := useUp route.answers } :: rest)
      else (take request rest).map fun (a, routes) => (a, route :: routes)
    | [] => (take request rest).map fun (a, routes) => (a, route :: routes)

/-- The answer to a request and the script that is left. -/
def respond (s : ScriptedServer) (request : Request) : Answer × ScriptedServer :=
  match take request s.routes with
  | some (answer, routes) => (answer, { s with routes })
  | none => (s.fallback, s)

end ScriptedServer

namespace Scene

/-- Changes what is outside of a run. -/
def change (f : Scene → Scene) : Run (World Scene) Unit :=
  Run.move (fun w => { w with outside := f w.outside }) fun w => Clock.later_refl w.clock

/-- Lets time pass outside of a run. -/
def elapse (nanos : Nat) : Run (World Scene) Unit :=
  Run.move (fun w => { w with clock := w.clock.elapse nanos }) fun w => w.clock.le_elapse nanos

/-- Cancels the run from outside. -/
def cancel : Run (World Scene) Unit :=
  Run.move (fun w => { w with clock := w.clock.cancel }) fun w => w.clock.le_cancel

/-- The scripted server of a scene. -/
def scripted : Server Scene where
  answer request := do
    let (answer, server) ← Run.read fun w => w.outside.server.respond request
    change fun scene => { scene with server }
    elapse answer.takes
    if answer.cancels then cancel
    return answer.exchange

/-- The instants at which a scripted predicate was evaluated. -/
def callsOf (scene : Scene) (slot : Nat) : List Nat :=
  (scene.calls.filter (·.1 == slot)).reverse.map Prod.snd

end Scene

/-- How a scripted predicate answers once. -/
structure Cue where
  /-- The nanoseconds that the evaluation takes. -/
  takes : Nat := 0
  /-- Whether the run is cancelled before the answer. -/
  cancels : Bool := false
  verdict : Verdict

namespace Cue

/-- The answer of an evaluation after `done` others; without a script it fails. -/
def pick (script : List Cue) (done : Nat) : Cue :=
  (script[done]? <|> script.getLast?).getD { verdict := .error (.unsatisfied "empty script") }

/-- The script of these outcomes; a failure is numbered by its place. -/
def ofOutcomes (outcomes : List Bool) : List Cue :=
  outcomes.zipIdx.map fun (held, i) =>
    { verdict := if held then .ok () else .error (.unsatisfied s!"scripted failure #{i + 1}") }

end Cue

/-- A predicate that answers from a script; `slot` is its number in the scene. -/
def Predicate.scripted (describe : String) (slot : Nat) (script : List Cue) : Predicate Scene where
  describe := describe
  check token := do
    let began ← Step.now
    let done ← Step.outside (Run.read fun w => (w.outside.calls.filter (·.1 == slot)).length)
    Step.outside (Scene.change fun scene => { scene with calls := (slot, began) :: scene.calls })
    let cue := Cue.pick script done
    Step.elapse cue.takes
    if cue.cancels then token.cancel
    return cue.verdict

end ClusterReady
