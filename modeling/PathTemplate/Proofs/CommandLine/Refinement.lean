/-
# The command line fills in what the library does

Without `--help` and `--now` the program is a pipeline of the library's own
steps: it reads the template, loads the context file, chooses the zone,
registers the values and fills in the template. It succeeds exactly when all of
these do, whichever it tries first, and writes what the library gives. With
`--check` only the first step counts.

What the steps are about is said here without the pipeline: the file that is
loaded, the zone that is chosen, the entries that are registered, and the
context of these.

Key definitions: `Segment.isPlaceholder`, `Options.Loads`, `Options.Chooses`, `Options.entries`,
`Options.FillsFrom`, `Options.BreaksOff`.
Key theorems: `Template.length_placeholders`, `Options.context_eq_ok_iff`,
`Options.answer_eq_ok_iff`, `Options.answer_eq_brokenOff_iff`, `run_refines_format`.
-/
import PathTemplate.CommandLine
import PathTemplate.Proofs.Context.File
import PathTemplate.Proofs.Template.Compile

namespace PathTemplate

open Time Toml

/-- Whether a segment is a placeholder that can be read. -/
def Segment.isPlaceholder : Segment → Bool
  | placeholder _ => true
  | literal _ | malformed _ => false

theorem Template.length_placeholders (t : Template) :
    t.placeholders.length = t.segments.countP Segment.isPlaceholder := by
  rw [placeholders, List.length_filterMap_eq_countP]
  refine List.countP_congr fun s _ => ?_
  cases s with
  | literal | placeholder | malformed => simp [Segment.isPlaceholder]

namespace CommandLine

namespace Options

/-! ### What the template is filled in from -/

/-- Whether a context file is the one that the options name; it is empty, in UTC, if there is
none. -/
inductive Loads (o : Options) (w : World) : ContextFile → Prop
  | absent (hpath : o.contextPath = none) : Loads o w ⟨Zone.utc, []⟩
  | present {path : String} {f : ContextFile} (hpath : o.contextPath = some path)
    (hread : f.IsReadFrom (w.file path)) : Loads o w f

/-- Whether a zone is the one that the options name, or else that of the context file. -/
inductive Chooses (o : Options) (f : ContextFile) : Zone → Prop
  | ofFile (hname : o.zoneName = none) : Chooses o f f.zone
  | named {name : String} {zone : Zone} (hname : o.zoneName = some name)
    (hzone : Zone.named name = some zone) : Chooses o f zone

/-- The values of the context file, then the assignments, then the values without names. -/
def entries (o : Options) (f : ContextFile) (zone : Zone) : List Entry :=
  (f.values.map fun (name, v) => ⟨some name, v⟩) ++
    (o.assignments.map fun (name, text) => ⟨some name, Value.infer zone text⟩) ++
      o.values.map fun text => ⟨none, Value.infer zone text⟩

/-- Whether a context is the one that the template is to be filled in from: no name in it is
repeated. -/
inductive FillsFrom (o : Options) (w : World) : Context → Prop
  | intro {f : ContextFile} {zone : Zone} (hloads : o.Loads w f) (hchooses : o.Chooses f zone)
    (hnodup : (namesOf (o.entries f zone)).Nodup) :
    FillsFrom o w ⟨o.entries f zone, namedFrom 0 (o.entries f zone)⟩

/-- Whether filling in the template breaks off. -/
def BreaksOff (o : Options) (w : World) : Prop :=
  (∀ e, .malformed e ∉ (Template.parse o.template).segments) ∧
    ∃ c, o.FillsFrom w c ∧ format o.template c = .error .brokenOff

variable {o : Options} {w : World}

theorem contextFile_eq_ok_iff {f : ContextFile} : o.contextFile w = .ok f ↔ o.Loads w f := by
  rw [contextFile]
  cases hpath : o.contextPath with
  | none =>
    constructor
    · rintro ⟨⟩
      exact .absent hpath
    · rintro (hnone | ⟨hsome, -⟩)
      · rfl
      · cases hpath.symm.trans hsome
  | some path =>
    simp only [mapError_eq_ok_iff, ContextFile.load_eq_ok_iff]
    constructor
    · exact .present hpath
    · rintro (hnone | ⟨hsome, hread⟩)
      · cases hpath.symm.trans hnone
      · cases hpath.symm.trans hsome
        exact hread

theorem zone_eq_ok_iff {f : ContextFile} {zone : Zone} :
    o.zone f = .ok zone ↔ o.Chooses f zone := by
  rw [Options.zone]
  cases hname : o.zoneName with
  | none =>
    constructor
    · rintro ⟨⟩
      exact .ofFile hname
    · rintro (hnone | ⟨hsome, -⟩)
      · rfl
      · cases hname.symm.trans hsome
  | some name =>
    simp only [mapError_eq_ok_iff, findZone]
    constructor
    · intro h
      split at h
      · next found hfound =>
        cases h
        exact .named hname hfound
      · cases h
    · rintro (hnone | ⟨hsome, hfound⟩)
      · cases hname.symm.trans hnone
      · cases hname.symm.trans hsome
        rw [hfound]

theorem entries_builder (hnow : o.now = false) (f : ContextFile) (zone : Zone) :
    (o.builder w zone f).entries = o.entries f zone := by
  have hnothing : ∀ b, o.addNow zone w.now b = b := fun b => by rw [addNow, hnow]; rfl
  have hassigned : ∀ b, (o.addAssignments zone b).entries =
      b.entries ++ o.assignments.map fun (name, text) => ⟨some name, Value.infer zone text⟩ :=
    Builder.entries_foldl (fun _ _ => rfl) o.assignments
  have hpushed : ∀ b, (o.pushValues zone b).entries =
      b.entries ++ o.values.map fun text => ⟨none, Value.infer zone text⟩ :=
    Builder.entries_foldl (fun _ _ => rfl) o.values
  rw [builder, hpushed, hnothing, hassigned, f.entries_apply]
  rfl

/-- **The context is built exactly if it is the one to fill in from.** -/
theorem context_eq_ok_iff (hnow : o.now = false) {c : Context} :
    o.context w = .ok c ↔ o.FillsFrom w c := by
  rw [Options.context, bind_eq_ok]
  constructor
  · rintro ⟨f, hf, hrest⟩
    obtain ⟨zone, hzone, hbuild⟩ := bind_eq_ok.mp hrest
    obtain ⟨rfl, hnodup⟩ := Builder.build_eq_ok_iff.mp (mapError_eq_ok_iff.mp hbuild)
    rw [entries_builder hnow] at hnodup ⊢
    exact .intro (contextFile_eq_ok_iff.mp hf) (zone_eq_ok_iff.mp hzone) hnodup
  · rintro ⟨hloads, hchooses, hnodup⟩
    refine ⟨_, contextFile_eq_ok_iff.mpr hloads, ?_⟩
    refine bind_eq_ok.mpr ⟨_, zone_eq_ok_iff.mpr hchooses, ?_⟩
    rw [mapError_eq_ok_iff, Builder.build_eq_ok_iff, entries_builder hnow]
    exact ⟨rfl, hnodup⟩

/-! ### The answer -/

/-- With `--check` only reading the template counts. -/
theorem answer_of_check (hcheck : o.check = true) :
    o.answer w = checked <$> (Template.compile o.template).mapError fun e =>
      .failed (o.report e) := by
  rw [answer, hcheck]
  cases Template.compile o.template with
  | ok t => rfl
  | error e => rfl

/-- Without it a template that can be read is filled in from the context. -/
theorem answer_of_compile (hcheck : o.check = false) {t : Template}
    (ht : Template.compile o.template = .ok t) : o.answer w =
      (o.context w).mapError .failed >>= fun c =>
        (· ++ "\n") <$> (format o.template c).mapError (Halt.map o.report) := by
  obtain ⟨rfl, -⟩ := Template.compile_eq_ok_iff.mp ht
  rw [answer, hcheck, ht]
  rfl

theorem answer_of_fillsFrom (hcheck : o.check = false) (hnow : o.now = false) {t : Template}
    {c : Context} (ht : Template.compile o.template = .ok t) (hc : o.FillsFrom w c) :
    o.answer w = (· ++ "\n") <$> (format o.template c).mapError (Halt.map o.report) := by
  rw [answer_of_compile hcheck ht, (context_eq_ok_iff hnow).mpr hc]
  rfl

/-- **The program writes what the library gives**, on a line. -/
theorem answer_eq_ok_iff (hcheck : o.check = false) (hnow : o.now = false) (written : String) :
    o.answer w = .ok written ↔
      ∃ c text, o.FillsFrom w c ∧ format o.template c = .ok text ∧ written = text ++ "\n" := by
  constructor
  · intro h
    obtain ⟨t, ht, -⟩ := bind_eq_ok.mp h
    have ht := mapError_eq_ok_iff.mp ht
    rw [answer_of_compile hcheck ht] at h
    obtain ⟨c, hc, hrest⟩ := bind_eq_ok.mp h
    obtain ⟨text, htext, rfl⟩ := map_eq_ok_iff.mp hrest
    have hc := (context_eq_ok_iff hnow).mp (mapError_eq_ok_iff.mp hc)
    exact ⟨c, text, hc, mapError_eq_ok_iff.mp htext, rfl⟩
  · rintro ⟨c, text, hc, htext, rfl⟩
    -- reading the template first changes which error is reported, but not whether there is one
    rw [answer_of_fillsFrom hcheck hnow (Template.compile_of_format htext) hc, htext]
    rfl

/-- **The program breaks off exactly if filling in the template does.** -/
theorem answer_eq_brokenOff_iff (hcheck : o.check = false) (hnow : o.now = false) :
    o.answer w = .error .brokenOff ↔ o.BreaksOff w := by
  constructor
  · intro h
    cases ht : Template.compile o.template with
    | error e =>
      rw [answer, ht] at h
      cases h
    | ok t =>
      cases hc : o.context w with
      | error fault =>
        rw [answer_of_compile hcheck ht, hc] at h
        cases h
      | ok c =>
        have hc := (context_eq_ok_iff hnow).mp hc
        rw [answer_of_fillsFrom hcheck hnow ht hc, map_eq_error_iff] at h
        obtain ⟨halt, hhalt, hbroken⟩ := mapError_eq_error_iff.mp h
        rw [Halt.map_eq_brokenOff_iff.mp hbroken] at hhalt
        exact ⟨(Template.compile_eq_ok_iff.mp ht).2, c, hc, hhalt⟩
  · rintro ⟨hread, c, hc, hformat⟩
    have ht := Template.compile_eq_ok_iff.mpr ⟨rfl, hread⟩
    rw [answer_of_fillsFrom hcheck hnow ht hc, hformat]
    rfl

end Options

/-! ### The program -/

theorem conclude_eq_zero_iff {a : Except (Halt String) String} {written : String} :
    ((conclude a).exit = 0 ∧ (conclude a).stdout = written) ↔ a = .ok written := by
  cases a with
  | ok text => simp [conclude]
  | error halt =>
    cases halt with
    | failed | brokenOff => simp [conclude]

theorem conclude_eq_101_iff {a : Except (Halt String) String} :
    (conclude a).exit = 101 ↔ a = .error .brokenOff := by
  cases a with
  | ok text => simp [conclude]
  | error halt =>
    cases halt with
    | failed | brokenOff => simp [conclude]

/-- What neither succeeds nor breaks off is reported. -/
theorem conclude_failed {a : Except (Halt String) String} (hok : ∀ written, a ≠ .ok written)
    (hbroken : a ≠ .error .brokenOff) : (conclude a).exit = 1 ∧ (conclude a).stdout = "" := by
  cases a with
  | ok text => exact absurd rfl (hok text)
  | error halt =>
    cases halt with
    | failed message => exact ⟨rfl, rfl⟩
    | brokenOff => exact absurd rfl hbroken

/-- **The command line fills in what the library does.** With `--check` the program succeeds exactly
if every placeholder of the template can be read, and writes how many there are. Without it, it
succeeds exactly if there is a context to fill in from and the library fills in the template from
that, and writes the text on a line. Otherwise it fails and writes nothing, with the exit code 1
unless filling in breaks off. -/
theorem run_refines_format {args : List String} {o : Options} (w : World)
    (hread : Options.read args = .ok o) (hnow : o.now = false) :
    (o.check = true →
      ((run w args).exit = 0 ↔ ∀ e, .malformed e ∉ (Template.parse o.template).segments) ∧
        ((run w args).exit = 0 → (run w args).stdout =
          toString ((Template.parse o.template).segments.countP Segment.isPlaceholder) ++
            " placeholder(s), syntax ok\n") ∧
        ((run w args).exit ≠ 0 → (run w args).exit = 1 ∧ (run w args).stdout = "")) ∧
      (o.check = false →
        (∀ text, ((run w args).exit = 0 ∧ (run w args).stdout = text ++ "\n") ↔
          ∃ c, o.FillsFrom w c ∧ format o.template c = .ok text) ∧
        ((run w args).exit = 101 ↔ o.BreaksOff w) ∧
        ((∀ c text, o.FillsFrom w c → format o.template c ≠ .ok text) → ¬ o.BreaksOff w →
          (run w args).exit = 1 ∧ (run w args).stdout = "")) := by
  have hrun : run w args = conclude (o.answer w) := by rw [run, hread]
  rw [hrun]
  constructor
  · intro hcheck
    rw [Options.answer_of_check hcheck]
    cases ht : Template.compile o.template with
    | ok t =>
      obtain ⟨rfl, hnone⟩ := Template.compile_eq_ok_iff.mp ht
      rw [← Template.length_placeholders]
      exact ⟨⟨fun _ => hnone, fun _ => rfl⟩, fun _ => rfl, fun hne => absurd rfl hne⟩
    | error e =>
      refine ⟨⟨nofun, fun hnone => ?_⟩, nofun, fun _ => ⟨rfl, rfl⟩⟩
      rw [Template.compile_eq_ok_iff.mpr ⟨rfl, hnone⟩] at ht
      cases ht
  · intro hcheck
    have hok := Options.answer_eq_ok_iff (w := w) hcheck hnow
    have hbroken := Options.answer_eq_brokenOff_iff (w := w) hcheck hnow
    refine ⟨fun text => ?_, conclude_eq_101_iff.trans hbroken, fun hnone hnot => ?_⟩
    · rw [conclude_eq_zero_iff, hok]
      constructor
      · rintro ⟨c, written, hc, htext, heq⟩
        rw [(String.append_left_inj _).mp heq]
        exact ⟨c, hc, htext⟩
      · rintro ⟨c, hc, htext⟩
        exact ⟨c, text, hc, htext, rfl⟩
    · refine conclude_failed (fun written hwritten => ?_) fun h => hnot (hbroken.mp h)
      obtain ⟨c, text, hc, htext, -⟩ := (hok written).mp hwritten
      exact hnone c text hc htext

/-- Values without a name stand behind assignments, and these behind a context file, in whose zone
its times are written; with `--check` the placeholders are counted, or one of them cannot be
read. -/
theorem run_refines_format_instances :
    ∃ w : World,
      w.file "day.toml" =
        .ok "metadata.timezone = 'Etc/GMT-1'\nformatters.d = 2016-09-10T11:12:13Z\n".toUTF8 ∧
      ((run w ["-s", "n=7", "$\x7bn|03\x7d-$\x7b1\x7d", "x"]).exit = 0 ∧
        (run w ["-s", "n=7", "$\x7bn|03\x7d-$\x7b1\x7d", "x"]).stdout = "007-x" ++ "\n") ∧
      ((run w ["-c", "day.toml", "-s", "n=7", "$\x7bd|%H\x7d-$\x7b1\x7d$\x7b2\x7d", "x"]).exit = 0 ∧
        (run w ["-c", "day.toml", "-s", "n=7", "$\x7bd|%H\x7d-$\x7b1\x7d$\x7b2\x7d", "x"]).stdout =
          "12-7x" ++ "\n") ∧
      ((run w ["--check", "$\x7ba\x7d$\x7bb\x7d"]).exit = 0 ∧
        (run w ["--check", "$\x7ba\x7d$\x7bb\x7d"]).stdout = "2 placeholder(s), syntax ok\n") ∧
      (run w ["--check", "$\x7ba"]).exit = 1 ∧ (run w ["--check", "$\x7ba"]).stdout = "" := by
  obtain ⟨w, hw⟩ : ∃ w : World, w.file "day.toml" =
      .ok "metadata.timezone = 'Etc/GMT-1'\nformatters.d = 2016-09-10T11:12:13Z\n".toUTF8 :=
    ⟨⟨⟨0, 0⟩, fun _ => .ok _⟩, rfl⟩
  refine ⟨w, hw, ?_, ?_, ?_, ?_⟩
  · have hread : Options.read ["-s", "n=7", "$\x7bn|03\x7d-$\x7b1\x7d", "x"] =
        .ok ⟨"$\x7bn|03\x7d-$\x7b1\x7d", ["x"], none, [("n", "7")], none, false, false, 0⟩ := rfl
    refine (((run_refines_format w hread rfl).2 rfl).1 "007-x").mpr ?_
    exact ⟨_, .intro (.absent rfl) (.ofFile rfl) (by decide), by decide +kernel⟩
  · have hread : Options.read
        ["-c", "day.toml", "-s", "n=7", "$\x7bd|%H\x7d-$\x7b1\x7d$\x7b2\x7d", "x"] =
          .ok ⟨"$\x7bd|%H\x7d-$\x7b1\x7d$\x7b2\x7d", ["x"], some "day.toml", [("n", "7")], none,
            false, false, 0⟩ := rfl
    refine (((run_refines_format w hread rfl).2 rfl).1 "12-7x").mpr ?_
    have hparses : ContextFile.Parses
        "metadata.timezone = 'Etc/GMT-1'\nformatters.d = 2016-09-10T11:12:13Z\n"
        (some "Etc/GMT-1") [("d", .stamp (.universal ⟨2016, 9, 10⟩ ⟨11, 12, 13, 0⟩ .zulu))] := by
      decide +kernel
    have hloads : ContextFile.IsReadFrom ⟨⟨"Etc/GMT-1", ⟨3600, "+01"⟩, []⟩,
        [("d", .time ⟨⟨1473505933, 0⟩, ⟨"Etc/GMT-1", ⟨3600, "+01"⟩, []⟩⟩)]⟩
        (w.file "day.toml") := by
      rw [hw]
      exact .text (ContextFile.fromUTF8?_toUTF8 _) hparses (.named (by decide +kernel))
        (.cons ⟨rfl, .stamp (by simp) (by decide +kernel)⟩ .nil)
    exact ⟨_, .intro (.present rfl hloads) (.ofFile rfl) (by decide), by decide +kernel⟩
  · have hread : Options.read ["--check", "$\x7ba\x7d$\x7bb\x7d"] =
        .ok ⟨"$\x7ba\x7d$\x7bb\x7d", [], none, [], none, false, true, 0⟩ := rfl
    obtain ⟨hexit, hstdout, -⟩ := (run_refines_format w hread rfl).1 rfl
    have hnone : (Template.parse "$\x7ba\x7d$\x7bb\x7d").errors = [] := by decide +kernel
    have hzero := hexit.mpr fun e he => by
      have hmem := Template.mem_errors.mpr he
      rw [hnone] at hmem
      cases hmem
    have hcount : (Template.parse "$\x7ba\x7d$\x7bb\x7d").segments.countP
        Segment.isPlaceholder = 2 := by
      decide +kernel
    refine ⟨hzero, (hstdout hzero).trans ?_⟩
    rw [hcount]
    rfl
  · have hread : Options.read ["--check", "$\x7ba"] =
        .ok ⟨"$\x7ba", [], none, [], none, false, true, 0⟩ := rfl
    obtain ⟨hexit, -, hfailed⟩ := (run_refines_format w hread rfl).1 rfl
    have hmem : .malformed (.malformed ⟨.unterminatedPlaceholder, ⟨0, 3⟩⟩) ∈
        (Template.parse "$\x7ba").segments := by decide +kernel
    exact hfailed fun hzero => hexit.mp hzero _ hmem

end CommandLine

end PathTemplate
