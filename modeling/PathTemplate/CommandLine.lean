/-
# The command line

The program fills in a template and writes the result on a line. The values come
from the context file, then from assignments, then from the clock if that is
asked for, and then from the rest of the arguments. The zone is the one that is
asked for, else that of the context file. What goes wrong first is reported, and
the program fails; it breaks off when a date is asked for that cannot be
written. With `--check` only the template is read.

What is outside the program, the time and the files, comes in as `World`.

Key definitions: `World`, `Outcome`, `Options.context`, `Options.answer`, `run`.
-/
import PathTemplate.CommandLine.Options
import PathTemplate.ContextFile
import PathTemplate.Render
import PathTemplate.Report
import PathTemplate.Value.Infer

namespace PathTemplate.CommandLine

open Time

/-- The time, and what reading a file gives. -/
structure World where
  now : Instant
  file : String → Except ReadFault ByteArray

/-- What the program leaves behind. -/
structure Outcome where
  exit : Nat
  stdout : String
  stderr : String
deriving DecidableEq, Repr

/-- What a report calls the template. -/
def templateName : String := "<template>"

/-- The message of a failure that has nothing to do with the template. -/
def failure (message : String) : String := "Error: " ++ message ++ "\n"

namespace Options

/-! ### The context -/

/-- The context file, without values and in UTC if there is none. -/
def contextFile (o : Options) (w : World) : Except String ContextFile :=
  match o.contextPath with
  | none => .ok ⟨Zone.utc, []⟩
  | some path =>
    (ContextFile.load (w.file path)).mapError fun fault =>
      "Error loading context '" ++ path ++ "': " ++ fault.message ++ "\n"

/-- The zone of the values outside the context file. -/
def zone (o : Options) (file : ContextFile) : Except String Zone :=
  match o.zoneName with
  | none => .ok file.zone
  | some name => (findZone name).mapError fun fault => failure fault.message

/-- Registers the assignments. -/
def addAssignments (o : Options) (zone : Zone) (b : Builder) : Builder :=
  o.assignments.foldl (fun b (name, text) => b.add name (Value.infer zone text)) b

/-- Registers the time if that is asked for. -/
def addNow (o : Options) (zone : Zone) (now : Instant) (b : Builder) : Builder :=
  if o.now then b.add "now" (.time ⟨now, zone⟩) else b

/-- Registers the values without names. -/
def pushValues (o : Options) (zone : Zone) (b : Builder) : Builder :=
  o.values.foldl (fun b text => b.push (Value.infer zone text)) b

/-- All values in order. -/
def builder (o : Options) (w : World) (zone : Zone) (file : ContextFile) : Builder :=
  o.pushValues zone (o.addNow zone w.now (o.addAssignments zone (file.apply {})))

/-- The context that the template is filled in from. -/
def context (o : Options) (w : World) : Except String Context := do
  let file ← o.contextFile w
  let zone ← o.zone file
  (o.builder w zone file).build.mapError fun e => failure e.message

/-! ### The answer -/

/-- The report of an error in the template. -/
def report (o : Options) (e : FormatError) : String := e.report o.template templateName

/-- What a template that can be read is told. -/
def checked (t : Template) : String :=
  toString t.placeholders.length ++ " placeholder(s), syntax ok\n"

/-- What the program writes if all goes well, or else what it reports; or it breaks off. -/
def answer (o : Options) (w : World) : Except (Halt String) String := do
  let t ← (Template.compile o.template).mapError fun e => .failed (o.report e)
  if o.check then return checked t
  else
    let c ← (o.context w).mapError .failed
    let text ← (t.render c).mapError (Halt.map o.report)
    return text ++ "\n"

/-! ### The log -/

/-- How much must be asked for to see an event. -/
def verbosityOf : Event → Nat
  | .shifted _ _ => 2
  | .resolved _ _ _ => 1
  | .failed _ => 0

/-- The lines about loading the context file. -/
def loadingLog (o : Options) (file : ContextFile) : List String :=
  if o.contextPath.isSome && 1 ≤ o.verbosity then
    ["DEBUG loaded context file count=" ++ toString file.values.length ++ " timezone=" ++
      file.zone.name]
  else []

/-- The lines about filling in the template. -/
def renderingLog (o : Options) (t : Template) (c : Context) : List String :=
  ((t.strictLog c).filter fun e => verbosityOf e ≤ o.verbosity).map Event.line

/-- The lines that are logged on the way to the answer. -/
def log (o : Options) (w : World) : List String :=
  match Template.compile o.template, o.check, o.contextFile w with
  | .ok t, false, .ok file =>
    o.loadingLog file ++
      match o.context w with
      | .ok c => o.renderingLog t c
      | .error _ => []
  | _, _, _ => []

end Options

/-! ### The program -/

/-- How the program is used. -/
def usage : String := "Usage: pathfmt [OPTIONS] <TEMPLATE> [VALUES]...\n"

/-- What the options are for. -/
def help : String := "Expand path templates with dates, counters and text

" ++ usage ++ "
Arguments:
  <TEMPLATE>   Template to expand, e.g. '$\x7bpath\x7d/app.$\x7bdate - 1 day | %Y%m%d\x7d.log'
  [VALUES]...  Positional values, appended after the named formatters

Options:
  -c, --context <CONTEXT>    TOML file with named formatters
  -s, --set <NAME=VALUE>     Add a named formatter (NAME=VALUE)
  -z, --timezone <TIMEZONE>  Time zone for --now and for values without an offset " ++
  "(default: UTC, or the context file's zone)
      --now                  Register `now` with the current time
      --check                Only check the template syntax
  -v, --verbose...           Increase log verbosity (-v debug, -vv trace)
  -h, --help                 Print help
"

/-- The outcome when the program does not start its work. -/
def refuse : Refusal → Outcome
  | .help => ⟨0, help, ""⟩
  | .usage => ⟨2, "", usage⟩

/-- The outcome of an answer. A program that breaks off writes nothing of its own. -/
def conclude : Except (Halt String) String → Outcome
  | .ok text => ⟨0, text, ""⟩
  | .error (.failed message) => ⟨1, "", message⟩
  | .error .brokenOff => ⟨101, "", ""⟩

/-- The outcome for some arguments, log apart. -/
def run (w : World) (args : List String) : Outcome :=
  match Options.read args with
  | .ok o => conclude (o.answer w)
  | .error r => refuse r

end PathTemplate.CommandLine
