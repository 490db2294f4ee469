/-
# What rendering reads

Rendering asks a context for the values that the placeholders refer to, each by
its name, its position or the position that the cursor has come to, and for
nothing else; only the error for a position without a value also tells how many
values there are. So two contexts that answer alike to these questions are
rendered to the same text, and to the same errors if they are of one size. The
proof compares the walks with both contexts segment by segment
(`renderAll_congr`, `renderAll_of_ok`).

In particular more values may be registered behind those that a template was
filled in with, and their order does not matter where all references are names.

Key definitions: `Resolver.answer`, `Segment.RefersTo`, `Template.references`,
`Template.AnsweredAlike`, `Context.IsExtendedBy`, `Builder.register`.
Key theorems: `Resolver.resolve_eq_ok_iff`, `renderAll_congr`, `renderAll_of_ok`,
`Context.IsExtendedBy.render_eq`, `Template.render_reads_references`.
-/
import PathTemplate.Proofs.Context.Registry
import PathTemplate.Proofs.Render.Failures

namespace PathTemplate

/-! ### One reference -/

/-- What the context of a resolver answers to a reference. -/
def Resolver.answer (r : Resolver) : Reference → Option Value
  | .named name => r.context.get name
  | .indexed index => r.context.getIndex index
  | .implicit => r.context.getIndex r.cursor

theorem Resolver.atIndex_eq_ok_iff {r : Resolver} {index : Nat} {span : Span} {v : Value} :
    r.atIndex index span = .ok v ↔ r.context.getIndex index = some v := by
  rw [atIndex]
  cases r.context.getIndex index <;> simp

/-- **A reference picks a value exactly if the context answers with it.** -/
theorem Resolver.resolve_eq_ok_iff {r : Resolver} {ref : Located Reference} {v : Value} :
    r.resolve ref = .ok v ↔ r.answer ref.node = some v := by
  obtain ⟨ref, span⟩ := ref
  cases ref with
  | named name =>
    simp only [resolve, answer]
    cases r.context.get name <;> simp
  | indexed index => exact atIndex_eq_ok_iff
  | implicit => exact atIndex_eq_ok_iff

/-- Resolvers whose contexts answer alike give the same error too, if these are of one size. -/
theorem Resolver.resolve_congr {r r' : Resolver} {ref : Located Reference}
    (h : r.answer ref.node = r'.answer ref.node) (hcursor : r.cursor = r'.cursor)
    (hsize : r.context.size = r'.context.size) : r.resolve ref = r'.resolve ref := by
  obtain ⟨ref, span⟩ := ref
  cases ref with
  | named name =>
    simp only [answer] at h
    simp only [resolve, h]
  | indexed index =>
    simp only [answer] at h
    simp only [resolve, atIndex, h, hsize]
  | implicit =>
    simp only [answer, ← hcursor] at h
    simp only [resolve, atIndex, ← hcursor, h, hsize]

/-! ### One segment -/

/-- Whether a segment is a placeholder that refers to its value in this way. -/
def Segment.RefersTo (s : Segment) (ref : Reference) : Prop :=
  ∃ p, s = .placeholder p ∧ p.node.reference.node = ref

variable {r r' : Resolver} {s : Segment} {ss : List Segment} {text : String}

theorem Segment.result_congr (h : ∀ ref, s.RefersTo ref → r.answer ref = r'.answer ref)
    (hcursor : r.cursor = r'.cursor) (hsize : r.context.size = r'.context.size) :
    (s.render r).result = (s.render r').result := by
  cases s with
  | literal => rfl
  | malformed => rfl
  | placeholder p =>
    have hresolve := Resolver.resolve_congr (h _ ⟨p, rfl, rfl⟩) hcursor hsize
    simp only [Segment.render, Placeholder.result_render, hresolve]

/-- A segment that is filled in stays so where its reference has the same answer. -/
theorem Segment.result_of_ok
    (h : ∀ ref, s.RefersTo ref → ∀ v, r.answer ref = some v → r'.answer ref = some v)
    (hok : (s.render r).result = .ok text) : (s.render r').result = .ok text := by
  cases s with
  | literal => exact hok
  | malformed => cases hok
  | placeholder p =>
    simp only [Segment.render, Placeholder.result_render] at hok ⊢
    cases hresolve : r.resolve p.node.reference with
    | error e =>
      rw [hresolve] at hok
      cases hok
    | ok v =>
      have hanswer := h _ ⟨p, rfl, rfl⟩ v (Resolver.resolve_eq_ok_iff.mp hresolve)
      rw [Resolver.resolve_eq_ok_iff.mpr hanswer, ← hresolve]
      exact hok

/-! ### Two walks -/

/-- **Walks that get the same from each segment** give the same text or error, and the same lossy
text. -/
theorem renderAll_congr (h : ∀ before s after, ss = before ++ s :: after →
      (s.render (r.behind before)).result = (s.render (r'.behind before)).result) :
    renderAll r ss = renderAll r' ss ∧ renderAllLossy r ss = renderAllLossy r' ss := by
  induction ss generalizing r r' with
  | nil => exact ⟨rfl, rfl⟩
  | cons s ss ih =>
    have hfirst : (s.render r).result = (s.render r').result := h [] s ss rfl
    have hrest : ∀ before u after, ss = before ++ u :: after →
        (u.render ((s.render r).left.behind before)).result =
          (u.render ((s.render r').left.behind before)).result :=
      fun before u after hcut => h (s :: before) u after (by rw [hcut, List.cons_append])
    obtain ⟨hstrict, hlossy⟩ := ih hrest
    constructor
    · rw [renderAll_cons, renderAll_cons, hfirst, hstrict]
    · rw [renderAllLossy_cons, renderAllLossy_cons, Rendering.lossy, Rendering.lossy, hfirst,
        hlossy]

/-- A walk that gets through is matched by one that gets the same wherever the first does. -/
theorem renderAll_of_ok (h : ∀ before s after, ss = before ++ s :: after → ∀ text,
      (s.render (r.behind before)).result = .ok text →
        (s.render (r'.behind before)).result = .ok text)
    (hok : renderAll r ss = .ok text) : renderAll r' ss = .ok text := by
  have hpass : Throughout Segment.HasText r ss := exists_renderAll_eq_ok_iff.mp ⟨text, hok⟩
  have hsame : renderAll r ss = renderAll r' ss := by
    refine (renderAll_congr fun before s after hcut => ?_).1
    obtain ⟨first, hs⟩ := hpass before s after hcut
    rw [hs, h before s after hcut first hs]
  rw [← hsame, hok]

/-! ### Contexts that answer alike -/

/-- The references of the placeholders of a template, in the order of the text. -/
def Template.references (t : Template) : List Reference :=
  t.placeholders.map (·.node.reference.node)

/-- Whether two contexts give the same answers to all that a template refers to: to its names, to
its positions, and to the positions that its implicit references come to. -/
structure Template.AnsweredAlike (t : Template) (c d : Context) : Prop where
  named : ∀ name, .named name ∈ t.references → c.get name = d.get name
  indexed : ∀ index, .indexed index ∈ t.references → c.getIndex index = d.getIndex index
  implicit : ∀ k < t.references.count .implicit, c.getIndex k = d.getIndex k

/-- Whether a context gives all the answers that another one gives. -/
structure Context.IsExtendedBy (c d : Context) : Prop where
  get : ∀ name v, c.get name = some v → d.get name = some v
  getIndex : ∀ index v, c.getIndex index = some v → d.getIndex index = some v

variable {t : Template} {c d : Context} {es fs : List Entry}

theorem Template.AnsweredAlike.symm (h : t.AnsweredAlike c d) : t.AnsweredAlike d c :=
  ⟨fun name href => (h.named name href).symm, fun index href => (h.indexed index href).symm,
    fun k hk => (h.implicit k hk).symm⟩

theorem Template.mem_references {ref : Reference} (hs : s ∈ t.segments) (href : s.RefersTo ref) :
    ref ∈ t.references := by
  obtain ⟨p, rfl, hp⟩ := href
  exact List.mem_map.mpr ⟨p, List.mem_filterMap.mpr ⟨_, hs, rfl⟩, hp⟩

/-- The cursor counts the implicit references of a template. -/
theorem Template.count_references (t : Template) :
    t.references.count .implicit = implicitCount t.segments := by
  rw [references, placeholders, List.count, List.countP_map, List.countP_filterMap]
  refine List.countP_congr fun s _ => ?_
  cases s with
  | literal | malformed => simp [Segment.isImplicit]
  | placeholder p => simp [Segment.isImplicit]

/-- On both walks each reference has the same answer. -/
theorem Template.AnsweredAlike.answer_eq (h : t.AnsweredAlike c d) {before after : List Segment}
    (hcut : t.segments = before ++ s :: after) {ref : Reference} (href : s.RefersTo ref) :
    ((Resolver.mk c 0).behind before).answer ref =
      ((Resolver.mk d 0).behind before).answer ref := by
  have hmem : ref ∈ t.references := mem_references (by simp [hcut]) href
  rw [Resolver.behind_eq, Resolver.behind_eq]
  cases ref with
  | named name => exact h.named name hmem
  | indexed index => exact h.indexed index hmem
  | implicit =>
    -- the cursor has passed the implicit placeholders in front of this one, and no more
    obtain ⟨p, rfl, hp⟩ := href
    have himplicit : (Segment.placeholder p).isImplicit = true := decide_eq_true hp
    refine h.implicit (0 + implicitCount before) ?_
    rw [t.count_references, hcut, implicitCount_append, implicitCount_cons, himplicit, if_pos rfl]
    omega

theorem Template.AnsweredAlike.render_eq_ok (h : t.AnsweredAlike c d)
    (hok : t.render c = .ok text) : t.render d = .ok text :=
  renderAll_of_ok (fun _ _ _ hcut _ =>
    Segment.result_of_ok fun _ href _ hv => (h.answer_eq hcut href).symm.trans hv) hok

theorem Template.AnsweredAlike.render_eq (h : t.AnsweredAlike c d) (hsize : c.size = d.size) :
    t.render c = t.render d ∧ t.renderLossy c = t.renderLossy d := by
  refine renderAll_congr fun before s after hcut => ?_
  refine Segment.result_congr (fun ref href => h.answer_eq hcut href) ?_ ?_
  · rw [Resolver.behind_eq, Resolver.behind_eq]
  · rw [Resolver.behind_eq, Resolver.behind_eq]
    exact hsize

/-- **More answers do not change a text.** -/
theorem Context.IsExtendedBy.render_eq (h : c.IsExtendedBy d) (hok : t.render c = .ok text) :
    t.render d = .ok text := by
  refine renderAll_of_ok
    (fun before s after hcut _ => Segment.result_of_ok fun ref _ v hv => ?_) hok
  rw [Resolver.behind_eq] at hv ⊢
  cases ref with
  | named name => exact h.get name v hv
  | indexed index => exact h.getIndex index v hv
  | implicit => exact h.getIndex _ v hv

/-! ### More entries, and entries in another order -/

/-- A name finds a value exactly if some entry has both. -/
theorem Context.ComesFrom.get_eq_some_iff (h : c.ComesFrom es) {name : String} {v : Value} :
    c.get name = some v ↔ ⟨some name, v⟩ ∈ es := by
  have hregistry := (h.eq.1 ▸ Context.isRegistryOf_of_nodup h.eq.2 : c.IsRegistryOf es)
  constructor
  · intro hv
    obtain ⟨i, hi, -⟩ := (hregistry.get_eq_some_iff name v).mp hv
    exact List.mem_of_getElem? hi
  · intro hmem
    obtain ⟨i, hi⟩ := List.mem_iff_getElem?.mp hmem
    rw [hregistry.get_eq_getIndex name i v hi, hregistry.getIndex_eq, hi]
    rfl

/-- A context with more entries behind its own gives all its answers. -/
theorem Context.ComesFrom.isExtendedBy (hc : c.ComesFrom es) (hd : d.ComesFrom (es ++ fs)) :
    c.IsExtendedBy d := by
  refine ⟨fun name v hv => ?_, fun index v hv => ?_⟩
  · exact hd.get_eq_some_iff.mpr (List.mem_append_left fs (hc.get_eq_some_iff.mp hv))
  · rw [Context.getIndex, hc.eq.1] at hv
    rw [Context.getIndex, hd.eq.1]
    obtain ⟨e, he, hvalue⟩ := Option.map_eq_some_iff.mp hv
    have hlt : index < es.length := (List.getElem?_eq_some_iff.mp he).1
    show ((es ++ fs)[index]?).map Entry.value = some v
    rw [List.getElem?_append_left hlt, he, Option.map_some, hvalue]

/-- A name finds the same whatever the order of the entries. -/
theorem Context.ComesFrom.get_perm (hc : c.ComesFrom es) (hd : d.ComesFrom fs) (h : es.Perm fs)
    (name : String) : c.get name = d.get name := by
  refine Option.ext fun v => ?_
  rw [hc.get_eq_some_iff, hd.get_eq_some_iff, h.mem_iff]

/-- Registers an entry, under its name if it has one. -/
def Builder.register (b : Builder) (e : Entry) : Builder :=
  match e.name with
  | some name => b.add name e.value
  | none => b.push e.value

theorem Builder.entries_register (b : Builder) (e : Entry) :
    (b.register e).entries = b.entries ++ [e] := by
  obtain ⟨name, v⟩ := e
  cases name <;> rfl

theorem Builder.ComesFrom.foldl_register {b : Builder} (h : b.ComesFrom es) (fs : List Entry) :
    (fs.foldl Builder.register b).ComesFrom (es ++ fs) := by
  induction fs generalizing b es with
  | nil =>
    rw [List.append_nil]
    exact h
  | cons e fs ih =>
    rw [List.foldl_cons, List.append_cons]
    obtain ⟨name, v⟩ := e
    cases name with
    | none => exact ih (h.push v)
    | some name => exact ih (h.add name v)

/-- Entries with fresh names can be registered behind those of a context. -/
theorem Context.ComesFrom.exists_build (h : c.ComesFrom es) (hnodup : (namesOf fs).Nodup)
    (hfresh : ∀ name ∈ namesOf fs, c.contains name = false) :
    ∃ d, (fs.foldl Builder.register c.toBuilder).build = .ok d ∧ d.ComesFrom (es ++ fs) := by
  have hregistry := (h.eq.1 ▸ Context.isRegistryOf_of_nodup h.eq.2 : c.IsRegistryOf es)
  have hentries : (fs.foldl Builder.register c.toBuilder).entries = es ++ fs := by
    rw [Builder.entries_foldl Builder.entries_register, List.map_id']
    exact congrArg (· ++ fs) (congrArg Context.entries h.eq.1)
  have hnames : (namesOf (es ++ fs)).Nodup := by
    rw [namesOf_append, List.nodup_append]
    refine ⟨h.eq.2, hnodup, fun m hm n hn hmn => ?_⟩
    have hnot := hfresh n hn
    rw [Bool.eq_false_iff, Ne, hregistry.contains_iff, hregistry.names_eq] at hnot
    exact hnot (hmn ▸ hm)
  have hbuild : (fs.foldl Builder.register c.toBuilder).build =
      .ok ⟨es ++ fs, namedFrom 0 (es ++ fs)⟩ := by
    rw [Builder.build_eq_ok_iff, hentries]
    exact ⟨rfl, hnames⟩
  exact ⟨_, hbuild, .build ((Builder.ComesFrom.toBuilder h).foldl_register fs) hbuild⟩

/-! ### Templates and their contexts -/

/-- **Rendering reads only what it refers to.** Two contexts that answer alike to the names, the
positions and the implicit references of a template give the same texts, and if they are of one size
the same errors and lossy texts as well. So entries with fresh names behind those of a context
change no text, and where all references are names the order of the entries does not matter. -/
theorem Template.render_reads_references (t : Template) :
    (∀ c d, t.AnsweredAlike c d →
      (∀ text, t.render c = .ok text ↔ t.render d = .ok text) ∧
        (c.size = d.size → t.render c = t.render d ∧ t.renderLossy c = t.renderLossy d)) ∧
      (∀ c es fs, c.ComesFrom es → (namesOf fs).Nodup →
        (∀ name ∈ namesOf fs, c.contains name = false) →
          ∃ d, (fs.foldl Builder.register c.toBuilder).build = .ok d ∧
            ∀ text, t.render c = .ok text → t.render d = .ok text) ∧
      ∀ c d es fs, c.ComesFrom es → d.ComesFrom fs → es.Perm fs →
        (∀ ref ∈ t.references, ∃ name, ref = .named name) →
          t.render c = t.render d ∧ t.renderLossy c = t.renderLossy d := by
  refine ⟨fun c d h => ?_, fun c es fs hc hnodup hfresh => ?_,
    fun c d es fs hc hd hperm hnames => ?_⟩
  · exact ⟨fun text => ⟨h.render_eq_ok, h.symm.render_eq_ok⟩, h.render_eq⟩
  · obtain ⟨d, hbuild, hd⟩ := hc.exists_build hnodup hfresh
    exact ⟨d, hbuild, fun text => (hc.isExtendedBy hd).render_eq⟩
  · have hsize : c.size = d.size := by
      rw [hc.eq.1, hd.eq.1]
      exact hperm.length_eq
    refine AnsweredAlike.render_eq ⟨fun name _ => hc.get_perm hd hperm name, ?_, ?_⟩ hsize
    · intro index hindex
      obtain ⟨name, hname⟩ := hnames _ hindex
      cases hname
    · intro k hk
      obtain ⟨name, hname⟩ := hnames _ (List.count_pos_iff.mp (Nat.zero_lt_of_lt hk))
      cases hname

/-- A label in front of two numbers. -/
def labelFirst : Context :=
  ⟨[⟨some "a", .text "x"⟩, ⟨none, .integer 1⟩, ⟨none, .integer 7⟩], [("a", 0)]⟩

/-- A label behind its own text, and a number. -/
def labelSecond : Context :=
  ⟨[⟨none, .text "x"⟩, ⟨some "a", .text "x"⟩, ⟨none, .integer 7⟩], [("a", 1)]⟩

/-- A template with each kind of reference, and one with names in two contexts. -/
theorem Template.render_reads_references_labels :
    ((parse "$a/$\x7b\x7d/$\x7b2|03\x7d").AnsweredAlike labelFirst labelSecond ∧
      labelFirst.getIndex 1 ≠ labelSecond.getIndex 1 ∧
      (parse "$a/$\x7b\x7d/$\x7b2|03\x7d").render labelFirst = .ok "x/x/007" ∧
      (parse "$a/$\x7b\x7d/$\x7b2|03\x7d").render labelSecond = .ok "x/x/007") ∧
      (∃ d, (labelFirst.toBuilder.add "b" (.integer 5)).build = .ok d ∧
        (parse "$a/$\x7b\x7d/$\x7b2|03\x7d").render d = .ok "x/x/007") ∧
      ∃ c d, c.ComesFrom [⟨some "b", .integer 5⟩, ⟨some "a", .text "x"⟩] ∧
        d.ComesFrom [⟨some "a", .text "x"⟩, ⟨some "b", .integer 5⟩] ∧
        (parse "$a-$b").renderLossy c = (parse "$a-$b").renderLossy d := by
  have hreferences : (parse "$a/$\x7b\x7d/$\x7b2|03\x7d").references =
      [.named "a", .implicit, .indexed 2] := by decide +kernel
  have hlabels : (parse "$a/$\x7b\x7d/$\x7b2|03\x7d").AnsweredAlike labelFirst labelSecond := by
    refine ⟨fun name href => ?_, fun index href => ?_, fun k hk => ?_⟩
    · obtain rfl : name = "a" := by simpa [hreferences] using href
      rfl
    · obtain rfl : index = 2 := by simpa [hreferences] using href
      rfl
    · have hone : (parse "$a/$\x7b\x7d/$\x7b2|03\x7d").references.count .implicit = 1 := by
        rw [hreferences]
        decide
      obtain rfl : k = 0 := by omega
      rfl
  have hfirst : (parse "$a/$\x7b\x7d/$\x7b2|03\x7d").render labelFirst = .ok "x/x/007" := by
    decide +kernel
  have hcomes : labelFirst.ComesFrom labelFirst.entries :=
    .build (((Builder.ComesFrom.new.add "a" (.text "x")).push (.integer 1)).push (.integer 7)) rfl
  refine ⟨⟨hlabels, by simp [labelFirst, labelSecond, Context.getIndex], hfirst, ?_⟩, ?_, ?_⟩
  · rw [← (((render_reads_references _).1 _ _ hlabels).2 rfl).1]
    exact hfirst
  · obtain ⟨d, hbuild, htext⟩ := (render_reads_references _).2.1 labelFirst _
      [⟨some "b", .integer 5⟩] hcomes (by decide) (by decide)
    exact ⟨d, hbuild, htext _ hfirst⟩
  · have hc := Context.ComesFrom.build
      ((Builder.ComesFrom.new.add "b" (.integer 5)).add "a" (.text "x")) rfl
    have hd := Context.ComesFrom.build
      ((Builder.ComesFrom.new.add "a" (.text "x")).add "b" (.integer 5)) rfl
    have hnames : ∀ ref ∈ (parse "$a-$b").references, ∃ name, ref = .named name := by
      have hboth : (parse "$a-$b").references = [.named "a", .named "b"] := by decide +kernel
      simp [hboth]
    exact ⟨_, _, hc, hd,
      ((render_reads_references _).2.2 _ _ _ _ hc hd (List.Perm.swap _ _ []) hnames).2⟩

end PathTemplate
