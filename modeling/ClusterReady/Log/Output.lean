import ClusterReady.Environment
import ClusterReady.Json.Printer
import ClusterReady.Log.Event
import ClusterReady.Text.Characters

/-!
# The output of a log

Which events are written, and the line of each: a JSON object for machines, or a text for people.

A filter says which events are written.  It is a list of directives between commas: a level, the
name of a target, or both with an equals sign between them.  The directive with the longest target
that an event's target starts with decides.
-/

namespace ClusterReady

/-- The finest level that a directive lets through; `none` lets nothing through. -/
structure Directive where
  /-- The start of the targets that the directive is for; empty for all of them. -/
  target : String
  level : Option Level
deriving DecidableEq, Repr

/-- Which events are logged. -/
abbrev LogFilter := List Directive

namespace LogFilter

/-- A level by its name in lower case, or by its number. -/
def level? : String → Option (Option Level)
  | "off" | "0" => some none
  | "error" | "1" => some (some .error)
  | "warn" | "2" => some (some .warn)
  | "info" | "3" => some (some .info)
  | "debug" | "4" => some (some .debug)
  | "trace" | "5" => some (some .trace)
  | _ => none

/-- A letter of the alphabet in lower case. -/
def lowered (s : String) : String := String.ofList (s.toList.map Char.toLower)

/-- A character of a target. -/
def isTargetChar (c : Char) : Bool := c.isAlphanum || c == '_' || c == ':' || c == '-'

def isTarget (s : String) : Bool := s.toList.all isTargetChar

/-- One directive, if the text is one. -/
def directive? (text : String) : Option Directive :=
  match level? (lowered text) with
  | some level => some ⟨"", level⟩
  | none =>
    let cs := text.toList
    let target := String.ofList (cs.takeWhile (· != '='))
    if !isTarget target then none
    else match cs.dropWhile (· != '=') with
      | [] => some ⟨target, some .trace⟩
      | _ :: level => (level? (lowered (String.ofList level))).map fun level => ⟨target, level⟩

/-- The filter that a text describes; an empty one lets errors through. -/
def parse? (text : String) : Option LogFilter := do
  let pieces := ((text.toList.splitOn ',').map String.ofList).filter (!·.isEmpty)
  let directives ← pieces.mapM directive?
  return if directives.isEmpty then [⟨"", some .error⟩] else directives

/-- What is logged where nothing is said about it. -/
def standard : LogFilter := [⟨"", some .info⟩]

/-- The directive with the longer target, of equal ones the second. -/
def closer (best : Option Directive) (d : Directive) : Option Directive :=
  match best with
  | some b => if d.target.length < b.target.length then some b else some d
  | none => some d

/-- Whether an event of this target and level is logged. -/
def admits (f : LogFilter) (target : String) (level : Level) : Bool :=
  match (f.filter fun d => d.target.toList.isPrefixOf target.toList).foldl closer none with
  | some ⟨_, some finest⟩ => finest.rank ≤ level.rank
  | _ => false

end LogFilter

/-- The form of the lines of a log. -/
inductive LogFormat where
  | json
  | text
deriving DecidableEq, Repr

/-- How a log is written. -/
structure LogOutput where
  filter : LogFilter
  format : LogFormat
deriving DecidableEq, Repr

namespace LogOutput

/-- The target of all events. -/
def target : String := "cluster_e2e"

/-- The output that the environment asks for. -/
def ofVariables (lookup : Variables) : LogOutput where
  filter := (lookup "RUST_LOG" >>= LogFilter.parse?).getD LogFilter.standard
  format :=
    if Text.lower ((lookup "RUST_LOG_FORMAT").getD "text") = "json" then .json else .text

/-- The events that are written. -/
def admitted (o : LogOutput) (events : List Event) : List Event :=
  events.filter fun e => o.filter.admits target e.level

def valueJson : FieldValue → Json
  | .number n => .int n
  | .text s => .str s

/-- The fields of an event, its message first. -/
def fieldsJson (e : Event) : Json :=
  .obj (("message", .str e.message) :: e.fields.map fun (name, value) => (name, valueJson value))

def valueText : FieldValue → String
  | .number n => toString n
  | .text s => s

/-- The line of an event. -/
def line (o : LogOutput) (e : Event) : String :=
  match o.format with
  | .json => (Json.obj [("level", .str e.level.text), ("fields", fieldsJson e)]).compact
  | .text =>
    e.level.text ++ " " ++ e.message ++
      String.join (e.fields.map fun (name, value) => " " ++ name ++ "=" ++ valueText value)

end LogOutput

end ClusterReady
