/-
# Context files

A context file is a TOML document. Its table `formatters` holds named values,
and `timezone` in its table `metadata` names the zone in which dates and times
without an offset are read and all times are carried; without it that is UTC.
Any other key is ignored. The shape of the document is checked first, and with
it that every table among the values that should be a date or time is one. Then
the zone is looked up, then the values are converted in their order, and the
first of these that fails is the fault of the file.

Key definitions: `ContextFile`, `LoadFault`, `ContextFile.ofText`, `ContextFile.load`,
`ContextFile.apply`.
-/
import PathTemplate.Context
import PathTemplate.Time.Reader
import PathTemplate.Time.ZoneTable
import PathTemplate.Toml.Document
import PathTemplate.Toml.StampTable

namespace PathTemplate

open Time Toml

/-- Why the bytes of a file cannot be had as text. -/
inductive ReadFault
  | missing
  | denied
  | directory
  | notText
  | other (description : String)
deriving DecidableEq, Repr

/-- The wording of a read fault. -/
def ReadFault.text : ReadFault → String
  | missing => "No such file or directory (os error 2)"
  | denied => "Permission denied (os error 13)"
  | directory => "Is a directory (os error 21)"
  | notText => "stream did not contain valid UTF-8"
  | other description => description

/-- The kinds of items that are no value for a template. -/
inductive ForeignKind
  | timeOnly
  | boolean
  | array
  | table
deriving DecidableEq, Repr

/-- A foreign kind as messages show it. -/
def ForeignKind.word : ForeignKind → String
  | timeOnly => "time-only"
  | boolean => "boolean"
  | array => "array"
  | table => "table"

/-- Why a context file cannot be loaded. -/
inductive LoadFault
  /-- The file cannot be read. -/
  | unreadable (fault : ReadFault)
  /-- The text is no TOML document of the right shape. -/
  | malformed
  /-- No zone has the name. -/
  | unknownZone (name : String)
  /-- The item of this name has a kind that is no value. -/
  | unsupported (name : String) (kind : ForeignKind)
  /-- The date or time of this name is not exactly one time in the zone. -/
  | invalidTime (name text : String)
deriving DecidableEq, Repr

/-- The wording of a load fault. -/
def LoadFault.message : LoadFault → String
  | unreadable fault => "Failed to read context file: " ++ fault.text
  | malformed => "Failed to parse context TOML: "
  | unknownZone name => "Unknown time zone '" ++ name ++ "'"
  | unsupported name kind => "Formatter '" ++ name ++ "' has unsupported " ++ kind.word ++ " value"
  | invalidTime name text => "Formatter '" ++ name ++ "' has invalid date-time '" ++ text ++ "'"

/-- A zone by its name. -/
def findZone (name : String) : Except LoadFault Zone :=
  match Zone.named name with
  | some zone => .ok zone
  | none => .error (.unknownZone name)

/-- Named values in order, and the zone they were read in. -/
structure ContextFile where
  zone : Zone
  values : List (String × Value)
deriving DecidableEq

namespace ContextFile

/-! ### The shape of the document -/

/-- The name of the zone in the metadata, if one is given; or nothing for metadata of another
shape. The fields of metadata can also stand in an array, which must then have the name. -/
def zoneNameOf : Item → Option (Option String)
  | .array (item :: _) => some <$> item.text?
  | item =>
    match item.entries? with
    | none => none
    | some entries =>
      match entries.lookup "timezone" with
      | none => some none
      | some name => some <$> name.text?

/-- The name of the zone of a document, if it gives one; or nothing for a document of another
shape. -/
def zoneName (document : Entries) : Option (Option String) :=
  match document.lookup "metadata" with
  | none => some none
  | some item => zoneNameOf item

/-- The named items of a document, with each table that stands for a date or time settled; or
nothing for a document of another shape. -/
def namedItems (document : Entries) : Option Entries :=
  match document.lookup "formatters" with
  | none => some []
  | some item => do settleEntries (← item.entries?)

/-! ### Conversion -/

/-- The value of a date or time in a zone. -/
def valueOfStamp (zone : Zone) (name : String) : Stamp → Except LoadFault Value
  | .time _ => .error (.unsupported name .timeOnly)
  | s =>
    match ZonedTime.read zone s.text with
    | some t => .ok (.time t)
    | none => .error (.invalidTime name (String.ofList s.text))

/-- The value of a stamp with a date is what its text is read as. -/
theorem valueOfStamp_eq {s : Stamp} (hdate : ∀ t, s ≠ .time t) (zone : Zone) (name : String) :
    valueOfStamp zone name s =
      (ZonedTime.read zone s.text).elim (.error (.invalidTime name (String.ofList s.text)))
        fun t => .ok (.time t) := by
  rw [valueOfStamp]
  · cases ZonedTime.read zone s.text with
    | none => rfl
    | some t => rfl
  · exact hdate

/-- The value of a named item in a zone. -/
def valueOfItem (zone : Zone) (name : String) : Item → Except LoadFault Value
  | .text s => .ok (.text s)
  | .integer n => .ok (.integer n)
  | .float x => .ok (.float x)
  | .stamp s => valueOfStamp zone name s
  | .boolean _ => .error (.unsupported name .boolean)
  | .array _ | .tables _ => .error (.unsupported name .array)
  | .table _ _ => .error (.unsupported name .table)

/-- The values of named items in a zone, or the fault of the first item that has one. -/
def valuesOf (zone : Zone) : Entries → Except LoadFault (List (String × Value))
  | [] => .ok []
  | (name, item) :: entries => do
    let v ← valueOfItem zone name item
    return (name, v) :: (← valuesOf zone entries)

/-- The zone of that name, or UTC without a name. -/
def zoneOf : Option String → Except LoadFault Zone
  | none => .ok Zone.utc
  | some name => findZone name

/-- The context file of a document. -/
def ofDocument (document : Entries) : Except LoadFault ContextFile :=
  match zoneName document, namedItems document with
  | some name, some items => do
    let zone ← zoneOf name
    return ⟨zone, ← valuesOf zone items⟩
  | _, _ => .error .malformed

/-! ### Loading and use -/

/-- The context file with this text. -/
def ofText (text : String) : Except LoadFault ContextFile :=
  match Document.read text.toList with
  | some document => ofDocument document
  | none => .error .malformed

/-- The context file for what reading it from the disk gave. -/
def load : Except ReadFault ByteArray → Except LoadFault ContextFile
  | .error fault => .error (.unreadable fault)
  | .ok bytes =>
    match String.fromUTF8? bytes with
    | some text => ofText text
    | none => .error (.unreadable .notText)

/-- Registers the values of a context file after those of a builder. -/
def apply (f : ContextFile) (b : Builder) : Builder :=
  f.values.foldl (fun b (name, v) => b.add name v) b

end ContextFile

end PathTemplate
