/-
# Options of the command line

The arguments are options, the template and the values for it. An option is a
word after two hyphens or a letter after one; letters can share a hyphen. A
switch stands alone. A setting takes a value, which follows an equals sign,
directly follows the letter, or is the next argument if that does not begin
with a hyphen itself. After an argument of two hyphens there are no options.

Key definitions: `Options`, `Refusal`, `Options.read`.
-/

namespace PathTemplate.CommandLine

/-- Options that stand alone. -/
inductive Switch
  | help
  | now
  | check
  | verbose
deriving DecidableEq, Repr

/-- Options with a value. -/
inductive Setting
  | context
  | assignment
  | zone
deriving DecidableEq, Repr

/-- What an option is. -/
inductive Flag
  | switch (s : Switch)
  | setting (s : Setting)
deriving DecidableEq, Repr

/-- The option of a word. -/
def Flag.ofWord : String → Option Flag
  | "help" => some (.switch .help)
  | "now" => some (.switch .now)
  | "check" => some (.switch .check)
  | "verbose" => some (.switch .verbose)
  | "context" => some (.setting .context)
  | "set" => some (.setting .assignment)
  | "timezone" => some (.setting .zone)
  | _ => none

/-- The option of a letter. -/
def Flag.ofLetter : Char → Option Flag
  | 'h' => some (.switch .help)
  | 'v' => some (.switch .verbose)
  | 'c' => some (.setting .context)
  | 's' => some (.setting .assignment)
  | 'z' => some (.setting .zone)
  | _ => none

/-- Why the program does not start its work. -/
inductive Refusal
  /-- It is asked how it is used. -/
  | help
  /-- It is used in another way. -/
  | usage
deriving DecidableEq, Repr

/-- What the arguments say. -/
structure Options where
  template : String
  values : List String
  contextPath : Option String
  assignments : List (String × String)
  zoneName : Option String
  now : Bool
  check : Bool
  verbosity : Nat
deriving DecidableEq, Repr

/-- What the arguments up to some point say. -/
structure Reading where
  /-- The arguments that are no options. -/
  positionals : List String := []
  contextPath : Option String := none
  assignments : List (String × String) := []
  zoneName : Option String := none
  now : Bool := false
  check : Bool := false
  verbosity : Nat := 0
  /-- The setting whose value is the next argument. -/
  pending : Option Setting := none
  /-- Whether there are no more options. -/
  closed : Bool := false
deriving DecidableEq, Repr

/-- A text cut at its first equals sign, if it has one. -/
def splitAssignment (text : String) : Option (String × String) :=
  let cs := text.toList
  match cs.dropWhile (· != '=') with
  | [] => none
  | _ :: value => some (String.ofList (cs.takeWhile (· != '=')), String.ofList value)

namespace Reading

/-- Takes a switch. Only `verbose` can be repeated. -/
def takeSwitch (r : Reading) : Switch → Except Refusal Reading
  | .help => .error .help
  | .now => if r.now then .error .usage else .ok { r with now := true }
  | .check => if r.check then .error .usage else .ok { r with check := true }
  | .verbose => .ok { r with verbosity := r.verbosity + 1 }

/-- Takes the path of a context file. -/
def takeContext (r : Reading) (path : String) : Except Refusal Reading :=
  if r.contextPath.isSome || path.isEmpty then .error .usage
  else .ok { r with contextPath := some path }

/-- Takes the name of a zone. -/
def takeZone (r : Reading) (name : String) : Except Refusal Reading :=
  if r.zoneName.isSome then .error .usage else .ok { r with zoneName := some name }

/-- Takes a name and its value. -/
def takeAssignment (r : Reading) (text : String) : Except Refusal Reading :=
  match splitAssignment text with
  | none => .error .usage
  | some (name, value) =>
    if name.isEmpty then .error .usage
    else .ok { r with assignments := r.assignments ++ [(name, value)] }

/-- Takes a setting with its value. Only an assignment can be repeated. -/
def takeSetting (r : Reading) (s : Setting) (value : String) : Except Refusal Reading :=
  match s with
  | .context => r.takeContext value
  | .assignment => r.takeAssignment value
  | .zone => r.takeZone value

/-- Takes an argument that is no option. -/
def takePositional (r : Reading) (arg : String) : Reading :=
  { r with positionals := r.positionals ++ [arg] }

/-- Takes what follows two hyphens. -/
def takeWord (r : Reading) (cs : List Char) : Except Refusal Reading :=
  match Flag.ofWord (String.ofList (cs.takeWhile (· != '='))), cs.dropWhile (· != '=') with
  | some (.switch s), [] => r.takeSwitch s
  | some (.setting s), [] => .ok { r with pending := some s }
  | some (.setting s), _ :: value => r.takeSetting s (String.ofList value)
  | _, _ => .error .usage

/-- Takes the letters that follow one hyphen. -/
def takeLetters (r : Reading) : List Char → Except Refusal Reading
  | [] => .ok r
  | c :: cs =>
    match Flag.ofLetter c, cs with
    | none, _ => .error .usage
    | some (.switch s), cs => do (← r.takeSwitch s).takeLetters cs
    | some (.setting s), [] => .ok { r with pending := some s }
    | some (.setting s), '=' :: value => r.takeSetting s (String.ofList value)
    | some (.setting s), value => r.takeSetting s (String.ofList value)

/-- Takes an argument where options are possible. -/
def takeOpen (r : Reading) (arg : String) : Except Refusal Reading :=
  match arg.toList with
  | ['-', '-'] => .ok { r with closed := true }
  | '-' :: '-' :: word => r.takeWord word
  | '-' :: c :: letters => r.takeLetters (c :: letters)
  | _ => .ok (r.takePositional arg)

/-- Whether an argument begins with a hyphen and goes on. -/
def isDashed (arg : String) : Bool :=
  match arg.toList with
  | '-' :: _ :: _ => true
  | _ => false

/-- Takes an argument. -/
def step (r : Reading) (arg : String) : Except Refusal Reading :=
  if r.closed then .ok (r.takePositional arg)
  else
    match r.pending with
    | none => r.takeOpen arg
    | some s =>
      if isDashed arg then .error .usage else { r with pending := none }.takeSetting s arg

/-- The options, once all arguments are taken. -/
def finish (r : Reading) : Except Refusal Options :=
  match r.pending, r.positionals with
  | none, template :: values =>
    .ok ⟨template, values, r.contextPath, r.assignments, r.zoneName, r.now, r.check, r.verbosity⟩
  | _, _ => .error .usage

end Reading

/-- Reads the arguments of the program. -/
def Options.read (args : List String) : Except Refusal Options := do
  (← args.foldlM Reading.step {}).finish

end PathTemplate.CommandLine
