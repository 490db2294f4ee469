/-
# The place that a report names

Below its headline a report names the line and the column of the error, unless
the label of the error leaves the source. An error knows its place in bytes, and
a report takes that for a number of characters. So the line and the column are
those of the character that has this number, and no others can be read there.
They are the line and the column of the character that starts at the byte if
all characters in front of it take one byte each, and only then.

Key definitions: `FormatError.headlineRow`, `FormatError.IsReportedAt`.
Key theorems: `locationRow_append_inj`, `FormatError.isReportedAt_iff`,
`FormatError.report_location_exact`.
-/
import PathTemplate.Proofs.Head.Lexing
import PathTemplate.Proofs.Render.Blame
import PathTemplate.Proofs.Text.Lines
import PathTemplate.Report

namespace PathTemplate

open Decimal Text

/-! ### Reading the location back -/

theorem Ink.toList_paint (ink : Ink) (s : String) : (ink.paint s).toList =
    '\x1b' :: '[' :: (ink.code.toList ++ 'm' :: (s.toList ++ "\x1b[0m".toList)) := by
  simp [paint]

theorem toList_repeated_space (n : Nat) : (repeated n " ").toList = List.replicate n ' ' := by
  induction n with
  | zero => rfl
  | succ n ih =>
    rw [repeated, List.replicate_succ, String.join_cons, String.toList_append]
    exact congrArg (' ' :: ·) ih

/-- What stands in a location in front of the file. -/
def locationCorner : List Char :=
  (marginInk.paint "╭" ++ marginInk.paint "─" ++ marginInk.paint "[").toList

theorem toList_locationRow_append (margin : Nat) (file : String) (line column : Nat)
    (rest : String) : ∃ more, (locationRow margin file line column ++ rest).toList =
      List.replicate (margin + 2) ' ' ++ (locationCorner ++ (file.toList ++
        (':' :: (decimal line ++ (':' :: (decimal column ++ '\x1b' :: more)))))) := by
  obtain ⟨more, hmore⟩ : ∃ more, (marginInk.paint "]").toList ++ rest.toList = '\x1b' :: more := by
    rw [Ink.toList_paint]
    exact ⟨_, rfl⟩
  refine ⟨more, ?_⟩
  rw [← hmore]
  simp [locationRow, locationCorner, toList_repeated_space, decimal]

/-- **The line and the column can be read back from a location.** -/
theorem locationRow_append_inj {margin margin' line line' column column' : Nat}
    {file rest rest' : String} (h : locationRow margin file line column ++ rest =
      locationRow margin' file line' column' ++ rest') : line = line' ∧ column = column' := by
  obtain ⟨more, htext⟩ := toList_locationRow_append margin file line column rest
  obtain ⟨more', htext'⟩ := toList_locationRow_append margin' file line' column' rest'
  rw [h, htext'] at htext
  -- a run of spaces, the corner, the file, and two runs of digits
  have hspace : ∀ n, ∀ c ∈ List.replicate n ' ', (c == ' ') = true :=
    fun n c hc => beq_iff_eq.mpr (List.eq_of_mem_replicate hc)
  have hcorner : ∀ cs, StopsAt (· == ' ') (locationCorner ++ cs) :=
    fun cs => stopsAt_cons.mpr rfl
  have hdigits : ∀ n, ∀ c ∈ decimal n, c.isDigit = true := fun n c => isDigit_of_mem_decimal
  have hcolon : ∀ cs, StopsAt Char.isDigit (':' :: cs) := fun cs => stopsAt_cons.mpr rfl
  have hescape : ∀ cs, StopsAt Char.isDigit ('\x1b' :: cs) := fun cs => stopsAt_cons.mpr rfl
  obtain ⟨-, h⟩ := append_inj_of_stop (hspace _) (hspace _) (hcorner _) (hcorner _) htext
  have h := List.append_cancel_left (List.append_cancel_left h)
  obtain ⟨hline, h⟩ := append_inj_of_stop (hdigits _) (hdigits _) (hcolon _) (hcolon _)
    (List.cons.inj h).2
  obtain ⟨hcolumn, -⟩ := append_inj_of_stop (hdigits _) (hdigits _) (hescape _) (hescape _)
    (List.cons.inj h).2
  exact ⟨(decimal_inj hline).symm, (decimal_inj hcolumn).symm⟩

/-! ### Which location is there -/

/-- **In the source the rows of a place begin with its location.** -/
theorem exists_placeRows_eq_cons {source : String} {span : Span} (file text : String)
    (hne : source.toList ≠ []) (hin : max span.start (span.stop - 1) ≤ source.toList.length) :
    ∃ margin rows, placeRows source file span text =
      locationRow margin file (lineNumber source.toList span.start)
        (columnNumber source.toList span.start) :: rows := by
  obtain ⟨first, hfirst, hline, hcolumn⟩ := lineAt_eq hne (Nat.le_trans (Nat.le_max_left _ _) hin)
  obtain ⟨final, hfinal, -, -⟩ := lineAt_eq hne hin
  rw [placeRows]
  simp only [hfirst, hfinal, hline, hcolumn, List.cons_append]
  exact ⟨_, _, rfl⟩

theorem placeRows_eq_nil {source : String} {span : Span} (file text : String)
    (hout : source.toList.length < max span.start (span.stop - 1)) :
    placeRows source file span text = [] := by
  rw [placeRows]
  simp only [lineAt_eq_none hout]
  cases lineAt source.toList span.start with
  | none => rfl
  | some first => rfl

namespace FormatError

/-- The first row of a report. -/
def headlineRow (e : FormatError) : String := Ink.red.paint "Error:" ++ " " ++ e.headline ++ "\n"

/-- Whether a report names a line and a column in the row below the headline. -/
def IsReportedAt (e : FormatError) (source file : String) (line column : Nat) : Prop :=
  ∃ margin rest,
    e.report source file = e.headlineRow ++ (locationRow margin file line column ++ rest)

variable {e : FormatError} {source : String} {span : Span}

theorem report_eq (file : String) (h : e.span = some span) :
    e.report source file = e.headlineRow ++ unlines (placeRows source file span e.label) := by
  rw [report, h]
  simp only [headlineRow, unlines, List.map_cons, String.join_cons, String.append_assoc]

/-- **A report names one place at most**: that of the character whose number is the byte at which
the error starts, if the label does not leave the source. -/
theorem isReportedAt_iff (h : e.span = some span) (hne : source.toList ≠ []) (file : String)
    (line column : Nat) : e.IsReportedAt source file line column ↔
      max span.start (span.stop - 1) ≤ source.toList.length ∧
        line = lineNumber source.toList span.start ∧
        column = columnNumber source.toList span.start := by
  simp only [IsReportedAt, report_eq file h, String.append_right_inj]
  rcases Nat.lt_or_ge source.toList.length (max span.start (span.stop - 1)) with hout | hin
  · rw [placeRows_eq_nil file e.label hout]
    constructor
    · rintro ⟨margin, rest, hrows⟩
      obtain ⟨more, htext⟩ := toList_locationRow_append margin file line column rest
      rw [← hrows] at htext
      exact absurd htext nofun
    · rintro ⟨hin, -⟩
      exact absurd hin (Nat.not_le_of_lt hout)
  · obtain ⟨margin, rows, hrows⟩ := exists_placeRows_eq_cons file e.label hne hin
    simp only [hrows, unlines, List.map_cons, String.join_cons, String.append_assoc]
    constructor
    · rintro ⟨margin', rest, hlocation⟩
      exact ⟨hin, (locationRow_append_inj hlocation).imp Eq.symm Eq.symm⟩
    · rintro ⟨-, rfl, rfl⟩
      exact ⟨margin, _, rfl⟩

end FormatError

/-! ### Bytes and characters -/

theorem length_le_utf8Width (cs : List Char) : cs.length ≤ utf8Width cs := by
  induction cs with
  | nil => exact Nat.le_refl 0
  | cons c cs ih =>
    have hc := c.utf8Size_pos
    rw [utf8Width_cons, List.length_cons]
    omega

/-- A text has as many bytes as characters if each character takes one, and only then. -/
theorem utf8Width_eq_length_iff (cs : List Char) :
    utf8Width cs = cs.length ↔ ∀ c ∈ cs, c.utf8Size = 1 := by
  induction cs with
  | nil => exact ⟨fun _ => nofun, fun _ => rfl⟩
  | cons c cs ih =>
    have hc := c.utf8Size_pos
    have hcs := length_le_utf8Width cs
    rw [utf8Width_cons, List.length_cons, List.forall_mem_cons, ← ih]
    omega

/-! ### The place of an error -/

/-- **An error of a template has a place, and a character starts there.** -/
theorem exists_char_of_format_eq_error {source : String} {c : Context} {e : FormatError}
    (h : format source c = .error (.failed e)) : ∃ span front d back, e.span = some span ∧
      source.toList = front ++ d :: back ∧ utf8Width front = span.start ∧
        span.stop ≤ utf8Width source.toList := by
  obtain ⟨before, s, after, hfirst⟩ := renderAll_eq_error_iff.mp h
  exact (pointsInto_of_failsWith hfirst.cut hfirst.halts).exists_char

namespace FormatError

/-- **The place that the report of an error names.** The error starts where a character of the
source does. The report names the line and the column of the character whose number is the byte at
which the error starts, and no others; if the label leaves the source, it names none. So it names
those of the character that starts there exactly if all characters in front take one byte and the
label does not leave the source. In a source of characters of one byte it always does. -/
theorem report_location_exact {source : String} {c : Context} {e : FormatError}
    (h : format source c = .error (.failed e)) : ∃ span front d back, e.span = some span ∧
      source.toList = front ++ d :: back ∧ utf8Width front = span.start ∧
      (∀ file line column, e.IsReportedAt source file line column ↔
        max span.start (span.stop - 1) ≤ source.toList.length ∧
          line = lineNumber source.toList span.start ∧
          column = columnNumber source.toList span.start) ∧
      (∀ file, e.IsReportedAt source file (lineNumber source.toList front.length)
          (columnNumber source.toList front.length) ↔
        (∀ x ∈ front, x.utf8Size = 1) ∧ span.stop ≤ source.toList.length + 1) ∧
      ((∀ x ∈ source.toList, x.utf8Size = 1) → ∀ file, e.IsReportedAt source file
        (lineNumber source.toList front.length) (columnNumber source.toList front.length)) := by
  obtain ⟨span, front, d, back, hspan, hcut, hstart, hstop⟩ := exists_char_of_format_eq_error h
  have hne : source.toList ≠ [] := by
    rw [hcut]
    exact List.append_ne_nil_of_right_ne_nil front (List.cons_ne_nil d back)
  have hlt : front.length < source.toList.length := by
    rw [hcut, List.length_append, List.length_cons]
    omega
  have hplace := fun file => isReportedAt_iff hspan hne file
  have hexact : ∀ file, e.IsReportedAt source file (lineNumber source.toList front.length)
      (columnNumber source.toList front.length) ↔
        (∀ x ∈ front, x.utf8Size = 1) ∧ span.stop ≤ source.toList.length + 1 := by
    intro file
    rw [hplace, ← utf8Width_eq_length_iff, hstart]
    constructor
    · rintro ⟨hin, hline, hcolumn⟩
      exact ⟨(eq_of_line_of_column hline hcolumn).symm, by omega⟩
    · rintro ⟨hlength, hin⟩
      rw [hlength]
      exact ⟨by omega, rfl, rfl⟩
  refine ⟨span, front, d, back, hspan, hcut, hstart, hplace, hexact, fun hbytes file => ?_⟩
  refine (hexact file).mpr ⟨fun x hx => hbytes x ?_, ?_⟩
  · rw [hcut]
    exact List.mem_append_left _ hx
  · rw [(utf8Width_eq_length_iff _).mpr hbytes] at hstop
    exact Nat.le_succ_of_le hstop

/-- A name on the second line that no value has. -/
theorem report_location_secondLine :
    format "a\n$\x7bx\x7d" (Context.ofValues []) = .error (.failed (.unknownName "x" ⟨4, 5⟩)) ∧
      ∀ file line column, (unknownName "x" ⟨4, 5⟩).IsReportedAt "a\n$\x7bx\x7d" file line column ↔
        line = 2 ∧ column = 3 := by
  have hformat : format "a\n$\x7bx\x7d" (Context.ofValues []) =
      .error (.failed (.unknownName "x" ⟨4, 5⟩)) := by decide +kernel
  obtain ⟨span, front, d, back, hspan, -, -, hplace, -⟩ := report_location_exact hformat
  obtain rfl : ⟨4, 5⟩ = span := Option.some.inj hspan
  have hline : lineNumber "a\n$\x7bx\x7d".toList 4 = 2 := by decide
  have hcolumn : columnNumber "a\n$\x7bx\x7d".toList 4 = 3 := by decide
  refine ⟨hformat, fun file line column => ?_⟩
  rw [hplace, hline, hcolumn]
  exact and_iff_right (by decide)

/-- A character of two bytes in front moves the column by one: the name is the fourth character of
the line, and the report says the fifth. -/
theorem report_location_umlaut : ¬ ∀ (source : String) (c : Context) (e : FormatError)
    (span : Span) (front : List Char) (d : Char) (back : List Char),
    format source c = .error (.failed e) → e.span = some span → source.toList = front ++ d :: back →
      utf8Width front = span.start → ∀ file, e.IsReportedAt source file
        (lineNumber source.toList front.length) (columnNumber source.toList front.length) := by
  intro h
  have hformat : format "é$\x7bx\x7d" (Context.ofValues []) =
      .error (.failed (.unknownName "x" ⟨4, 5⟩)) := by decide +kernel
  have hcut : "é$\x7bx\x7d".toList = ['é', '$', '{'] ++ 'x' :: ['}'] := by decide
  have hplace := h _ _ _ _ _ _ _ hformat rfl hcut (by decide) ""
  have hcolumn := ((isReportedAt_iff rfl (hcut ▸ List.cons_ne_nil _ _) "" _ _).mp hplace).2.2
  exact absurd hcolumn (by decide)

end FormatError

end PathTemplate
