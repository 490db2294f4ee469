/-
# Filling in a template

A template is filled in segment by segment with one resolver. A placeholder is
resolved, shifted and rendered, and fails at the first of these that fails; the
resolver it leaves behind serves the segments after it all the same. Strict
rendering stops at the first failure; lossy rendering puts a sentinel in its
place and goes on. Where a shift breaks off, both break off with it and give
nothing. Rendering a segment also tells what happened.

Key definitions: `Event`, `Rendering`, `Segment.render`, `Template.render`,
`Template.renderLossy`, `Template.log`.
-/
import PathTemplate.Context
import PathTemplate.Template

namespace PathTemplate

open Time

/-- What can be told about rendering. -/
inductive Event
  /-- A shift was applied, with this result. -/
  | shifted (shift : Shift) (result : ZonedTime)
  /-- A placeholder was filled in. -/
  | resolved (reference : Reference) (kind : Kind) (rendered : String)
  /-- A placeholder failed and a sentinel stands for it. -/
  | failed (error : FormatError)

/-- An event as a line of a log. -/
def Event.line : Event → String
  | shifted shift result =>
    "TRACE applied time shift term=" ++ shift.shown ++ " result=" ++
      String.ofList (plainText result)
  | resolved reference kind rendered =>
    "DEBUG resolved placeholder reference=" ++ reference.shown ++ " kind=" ++ kind.word ++
      " rendered=" ++ rendered
  | failed error => "WARN placeholder could not be rendered error=" ++ error.message

/-- What comes of rendering a part of a template: the events on the way, the text or how it ends
without one, and the resolver that is left behind. -/
structure Rendering where
  events : List Event
  result : Except (Halt FormatError) String
  left : Resolver

namespace Rendering

/-- The text, or the sentinel of the error; nothing where rendering breaks off. -/
def lossy (x : Rendering) : Option String :=
  match x.result with
  | .ok text => some text
  | .error (.failed e) => some e.sentinel
  | .error .brokenOff => none

/-- The events of lossy rendering. -/
def log (x : Rendering) : List Event :=
  match x.result with
  | .ok _ => x.events
  | .error (.failed e) => x.events ++ [.failed e]
  | .error .brokenOff => x.events

end Rendering

/-- The place of some shifts, from the start of the first to the end of the last. -/
def shiftsSpan : List (Located Shift) → Option Span
  | [] => none
  | s :: ss => some (s.span.through ((s :: ss).getLast (List.cons_ne_nil s ss)).span)

namespace Placeholder

/-- A value as a placeholder shifts it, with the times passed through. -/
def shiftValue (p : Placeholder) (v : Value) :
    List (Shift × ZonedTime) × Except (Halt FormatError) Value :=
  match shiftsSpan p.shifts with
  | none => ([], .ok v)
  | some span =>
    let (steps, result) := v.shiftTrace (p.shifts.map Located.node)
    (steps, result.mapError (Halt.map (.value · span)))

/-- A value as a placeholder at `span` writes it. -/
def renderValue (p : Placeholder) (span : Span) (v : Value) : Except FormatError String :=
  (v.render (p.pattern.map Located.node)).mapError
    (.value · ((p.pattern.map Located.span).getD span))

/-- What comes of a placeholder at `span`. -/
def render (p : Placeholder) (span : Span) (r : Resolver) : Rendering :=
  match r.take p.reference with
  | (.error e, left) => ⟨[], .error (.failed e), left⟩
  | (.ok v, left) =>
    let (steps, shifted) := p.shiftValue v
    let trace := steps.map fun (s, t) => Event.shifted s t
    match shifted with
    | .error halt => ⟨trace, .error halt, left⟩
    | .ok w =>
      match p.renderValue span w with
      | .error e => ⟨trace, .error (.failed e), left⟩
      | .ok text => ⟨trace ++ [.resolved p.reference.node w.kind text], .ok text, left⟩

end Placeholder

/-- What comes of a segment. -/
def Segment.render (s : Segment) (r : Resolver) : Rendering :=
  match s with
  | literal text => ⟨[], .ok text, r⟩
  | placeholder p => p.node.render p.span r
  | malformed e => ⟨[], .error (.failed e), r⟩

/-- The text for some segments, or how the first of them ends that has none. -/
def renderAll (r : Resolver) : List Segment → Except (Halt FormatError) String
  | [] => .ok ""
  | s :: ss =>
    let done := s.render r
    match done.result with
    | .error halt => .error halt
    | .ok text => (text ++ ·) <$> renderAll done.left ss

/-- The events of rendering some segments up to the first without a text. -/
def strictLogAll (r : Resolver) : List Segment → List Event
  | [] => []
  | s :: ss =>
    let done := s.render r
    match done.result with
    | .error _ => done.events
    | .ok _ => done.events ++ strictLogAll done.left ss

/-- The text for some segments, with a sentinel for each that fails; nothing if one breaks off. -/
def renderAllLossy (r : Resolver) : List Segment → Option String
  | [] => some ""
  | s :: ss =>
    let done := s.render r
    match done.lossy with
    | none => none
    | some text => (text ++ ·) <$> renderAllLossy done.left ss

/-- The events of rendering some segments with sentinels, up to the first that breaks off. -/
def logAll (r : Resolver) : List Segment → List Event
  | [] => []
  | s :: ss =>
    let done := s.render r
    match done.lossy with
    | none => done.log
    | some _ => done.log ++ logAll done.left ss

namespace Template

/-- The text of a template in a context, or its first error; or it breaks off. -/
def render (t : Template) (c : Context) : Except (Halt FormatError) String :=
  renderAll ⟨c, 0⟩ t.segments

/-- The text of a template in a context, with a sentinel for each placeholder that fails; nothing if
it breaks off. -/
def renderLossy (t : Template) (c : Context) : Option String := renderAllLossy ⟨c, 0⟩ t.segments

/-- The events of rendering a template in a context up to its first placeholder without a text. -/
def strictLog (t : Template) (c : Context) : List Event := strictLogAll ⟨c, 0⟩ t.segments

/-- The events of rendering a template in a context with sentinels, in order. -/
def log (t : Template) (c : Context) : List Event := logAll ⟨c, 0⟩ t.segments

end Template

/-- Fills in a template from its text. -/
def format (source : String) (c : Context) : Except (Halt FormatError) String :=
  (Template.parse source).render c

/-- Fills in a template from its text and values without names, with sentinels. -/
def formatValues (source : String) (vs : List Value) : Option String :=
  (Template.parse source).renderLossy (Context.ofValues vs)

end PathTemplate
