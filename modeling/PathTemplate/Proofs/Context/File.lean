/-
# What a context file registers, and what it is refused for

A context file has the entries of its table of values, each with the value that
its own item stands for in the zone of the file, and no name in it comes twice,
since no table of a document has a key twice. Registered after the entries of a
builder they keep their order, so the context has the names of the builder and
then those of the file, and a value of the file is found by its name and at its
position behind the builder's; building fails exactly if a name comes twice, and
with the first that does.

A document of the right shape is refused for a zone that is unknown, whatever
its values, and else for the first of its items that stands for no value.

What a document says is told by relations of its own: the name that its metadata
give the zone, the items in its table of values, and the value that each item
stands for.

Key definitions: `Item.StandsFor`, `Item.IsAtFault`, `Item.SaysZone`, `SaysZone`, `HasItems`,
`Parses`, `NamesZone`, `HasMeaningOf`, `IsReadFrom`, `IsRefused`, `Composes`.
Key theorems: `valueOfItem_eq_ok_iff`, `valueOfItem_eq_error_iff`, `zoneName_eq_some_iff`,
`load_eq_ok_iff`, `valuesOf_eq_error_iff`, `ofText_eq_ok_iff`, `ofText_eq_error_iff`,
`composes_of_nodup`, `ofText_exact`.
-/
import Mathlib.Data.List.Forall2
import PathTemplate.Proofs.Context.Registry
import PathTemplate.Proofs.Head.Grammar
import PathTemplate.Proofs.Toml.DistinctKeys

namespace PathTemplate

open Time Toml

/-! ### What items stand for -/

/-- Whether an item stands for a value in a zone. -/
inductive Toml.Item.StandsFor (zone : Zone) : Item → Value → Prop
  | text (s : String) : StandsFor zone (.text s) (.text s)
  | integer (n : Int) : StandsFor zone (.integer n) (.integer n)
  | float (x : Decimal.Binary64) : StandsFor zone (.float x) (.float x)
  | stamp {s : Stamp} (hdate : ∀ t, s ≠ .time t) {t : ZonedTime}
    (h : ZonedTime.read zone s.text = some t) : StandsFor zone (.stamp s) (.time t)

/-- Whether an item under a name is at fault in a zone: it is of a kind that is no value, or a date
and time that cannot be read. -/
inductive Toml.Item.IsAtFault (zone : Zone) (name : String) : Item → LoadFault → Prop
  | boolean (b : Bool) : IsAtFault zone name (.boolean b) (.unsupported name .boolean)
  | array (items : List Item) : IsAtFault zone name (.array items) (.unsupported name .array)
  | tables (items : List Item) : IsAtFault zone name (.tables items) (.unsupported name .array)
  | table (origin : Origin) (entries : List (String × Item)) :
    IsAtFault zone name (.table origin entries) (.unsupported name .table)
  | timeOnly (t : TimeOfDay) :
    IsAtFault zone name (.stamp (.time t)) (.unsupported name .timeOnly)
  | unreadable {s : Stamp} (hdate : ∀ t, s ≠ .time t) (h : ZonedTime.read zone s.text = none) :
    IsAtFault zone name (.stamp s) (.invalidTime name (String.ofList s.text))

/-- An item stands for a value or is at fault. -/
theorem Toml.Item.standsFor_or_isAtFault (zone : Zone) (name : String) (item : Item) :
    (∃ v, item.StandsFor zone v) ∨ ∃ e, item.IsAtFault zone name e := by
  cases item with
  | text s => exact .inl ⟨_, .text s⟩
  | integer n => exact .inl ⟨_, .integer n⟩
  | float x => exact .inl ⟨_, .float x⟩
  | boolean b => exact .inr ⟨_, .boolean b⟩
  | array items => exact .inr ⟨_, .array items⟩
  | table origin entries => exact .inr ⟨_, .table origin entries⟩
  | tables items => exact .inr ⟨_, .tables items⟩
  | stamp s =>
    by_cases hdate : ∀ t, s ≠ .time t
    · cases hread : ZonedTime.read zone s.text with
      | none => exact .inr ⟨_, .unreadable hdate hread⟩
      | some t => exact .inl ⟨_, .stamp hdate hread⟩
    · obtain ⟨t, rfl⟩ := Classical.not_forall_not.mp hdate
      exact .inr ⟨_, .timeOnly t⟩

/-- Whether an item counts as a table with these entries: it is one, or it is a date or time, whose
text stands under a key of its own. -/
inductive Toml.Item.HasEntries : Item → Entries → Prop
  | table (origin : Origin) (entries : Entries) : HasEntries (.table origin entries) entries
  | stamp (s : Stamp) : HasEntries (.stamp s) [(stampKey, .text (String.ofList s.text))]

/-- Whether metadata give the zone this name, or none. They are a table, where the name is the text
under its key, or an array, where it comes first. -/
inductive Toml.Item.SaysZone : Item → Option String → Prop
  | silent {item : Item} {entries : Entries} (hentries : item.HasEntries entries)
    (h : entries.lookup "timezone" = none) : SaysZone item none
  | named {item : Item} {entries : Entries} {name : String} (hentries : item.HasEntries entries)
    (h : entries.lookup "timezone" = some (.text name)) : SaysZone item (some name)
  | first (name : String) (items : List Item) : SaysZone (.array (.text name :: items)) (some name)

theorem Toml.Item.text?_eq_some_iff {item : Item} {s : String} :
    item.text? = some s ↔ item = .text s := by
  cases item <;> simp [text?]

theorem Toml.Item.entries?_eq_some_iff {item : Item} {entries : Entries} :
    item.entries? = some entries ↔ item.HasEntries entries := by
  constructor
  · intro h
    cases item with
    | text | integer | float | boolean | array | tables => cases h
    | stamp s =>
      cases h
      exact .stamp s
    | table origin entries =>
      cases h
      exact .table origin entries
  · rintro (⟨origin, entries⟩ | ⟨s⟩)
    · rfl
    · rfl

namespace ContextFile

variable {zone : Zone} {name : String} {item : Item} {v : Value} {e : LoadFault}

theorem valueOfItem_of_standsFor (h : item.StandsFor zone v) (name : String) :
    valueOfItem zone name item = .ok v := by
  cases h with
  | text | integer | float => rfl
  | stamp hdate hread =>
    rw [valueOfItem, valueOfStamp_eq hdate, hread]
    rfl

theorem valueOfItem_of_isAtFault (h : item.IsAtFault zone name e) :
    valueOfItem zone name item = .error e := by
  cases h with
  | boolean | array | tables | table | timeOnly => rfl
  | unreadable hdate hread =>
    rw [valueOfItem, valueOfStamp_eq hdate, hread]
    rfl

/-- **The value of an item is the one that it stands for.** -/
theorem valueOfItem_eq_ok_iff : valueOfItem zone name item = .ok v ↔ item.StandsFor zone v := by
  refine ⟨fun h => ?_, fun h => valueOfItem_of_standsFor h name⟩
  rcases item.standsFor_or_isAtFault zone name with ⟨w, hw⟩ | ⟨e, he⟩
  · cases h.symm.trans (valueOfItem_of_standsFor hw name)
    exact hw
  · cases h.symm.trans (valueOfItem_of_isAtFault he)

/-- **An item without a value is at fault.** -/
theorem valueOfItem_eq_error_iff :
    valueOfItem zone name item = .error e ↔ item.IsAtFault zone name e := by
  refine ⟨fun h => ?_, valueOfItem_of_isAtFault⟩
  rcases item.standsFor_or_isAtFault zone name with ⟨w, hw⟩ | ⟨e, he⟩
  · cases h.symm.trans (valueOfItem_of_standsFor hw name)
  · cases h.symm.trans (valueOfItem_of_isAtFault he)
    exact he

/-! ### What a document says -/

/-- Whether these are the items of the table of values in a document, each one settled; a document
without such a table has none. -/
inductive HasItems (document : Entries) : Entries → Prop
  | absent (h : document.lookup "formatters" = none) : HasItems document []
  | table {table : Item} {entries items : Entries}
    (h : document.lookup "formatters" = some table) (hentries : table.HasEntries entries)
    (hitems : List.Forall₂ (fun entry item => item.1 = entry.1 ∧ entry.2.settle = some item.2)
      entries items) : HasItems document items

/-- Whether a document gives its zone this name, or none; one without metadata gives none. -/
inductive SaysZone (document : Entries) : Option String → Prop
  | absent (h : document.lookup "metadata" = none) : SaysZone document none
  | metadata {item : Item} {tz : Option String} (h : document.lookup "metadata" = some item)
    (hitem : item.SaysZone tz) : SaysZone document tz

/-- Whether a text is a document of the shape of a context file that gives its zone this name, or
none, and has these items. -/
inductive Parses (text : String) (tz : Option String) (items : Entries) : Prop
  | intro {document : Entries} (hdocument : Document.read text.toList = some document)
    (hzone : SaysZone document tz) (hitems : HasItems document items) : Parses text tz items

/-- Whether a zone is the one of a name, or UTC without a name. -/
inductive NamesZone : Option String → Zone → Prop
  | utc : NamesZone none Zone.utc
  | named {name : String} {zone : Zone} (h : Zone.named name = some zone) :
    NamesZone (some name) zone

/-- Whether the named values of a context file are the ones that some items stand for in its zone,
in their order. -/
def HasMeaningOf (f : ContextFile) (items : Entries) : Prop :=
  List.Forall₂ (fun (item : String × Item) (value : String × Value) =>
    value.1 = item.1 ∧ item.2.StandsFor f.zone value.2) items f.values

/-- Whether a context file is what is read from the disk. -/
inductive IsReadFrom (f : ContextFile) : Except ReadFault ByteArray → Prop
  | text {bytes : ByteArray} {text : String} {tz : Option String} {items : Entries}
    (htext : String.fromUTF8? bytes = some text) (hparses : Parses text tz items)
    (hzone : NamesZone tz f.zone) (hvalues : f.HasMeaningOf items) : IsReadFrom f (.ok bytes)

/-- Whether a context file is refused with a fault: its zone is unknown, or an item is at fault in
its zone and none before it is. -/
inductive IsRefused : Option String → Entries → LoadFault → Prop
  | zone {name : String} (items : Entries) (h : Zone.named name = none) :
    IsRefused (some name) items (.unknownZone name)
  | item {tz : Option String} {zone : Zone} (hzone : NamesZone tz zone) {before after : Entries}
    {name : String} {item : Item} (hbefore : ∀ p ∈ before, ∀ e, ¬ p.2.IsAtFault zone p.1 e)
    {e : LoadFault} (h : item.IsAtFault zone name e) :
    IsRefused tz (before ++ (name, item) :: after) e

variable {tz : Option String} {items : Entries}

theorem settleEntries_eq_some_iff {entries : Entries} :
    settleEntries entries = some items ↔
      List.Forall₂ (fun entry item => item.1 = entry.1 ∧ entry.2.settle = some item.2)
        entries items := by
  induction entries generalizing items with
  | nil =>
    rw [List.forall₂_nil_left_iff, settleEntries, Option.some.injEq, eq_comm]
  | cons entry entries ih =>
    obtain ⟨key, item⟩ := entry
    simp only [settleEntries, Option.bind_eq_bind, Option.bind_eq_some_iff, Option.pure_def,
      Option.some.injEq]
    constructor
    · rintro ⟨settled, hsettled, rest, hrest, rfl⟩
      exact .cons ⟨rfl, hsettled⟩ (ih.mp hrest)
    · intro h
      cases h with
      | @cons _ own _ rest hown hrest =>
        obtain ⟨own, settled⟩ := own
        obtain ⟨rfl, hsettled⟩ := hown
        exact ⟨settled, hsettled, rest, ih.mpr hrest, rfl⟩

theorem namedItems_eq_some_iff {document : Entries} :
    namedItems document = some items ↔ HasItems document items := by
  rw [namedItems]
  cases hlookup : document.lookup "formatters" with
  | none =>
    constructor
    · rintro ⟨⟩
      exact .absent hlookup
    · intro h
      cases h with
      | absent => rfl
      | table h => cases hlookup.symm.trans h
  | some table =>
    rw [Option.bind_eq_bind, Option.bind_eq_some_iff]
    constructor
    · rintro ⟨entries, hentries, hsettle⟩
      have hentries := Item.entries?_eq_some_iff.mp hentries
      exact .table hlookup hentries (settleEntries_eq_some_iff.mp hsettle)
    · intro h
      cases h with
      | absent h => cases hlookup.symm.trans h
      | table h hentries hitems =>
        cases hlookup.symm.trans h
        have hentries := Item.entries?_eq_some_iff.mpr hentries
        exact ⟨_, hentries, settleEntries_eq_some_iff.mpr hitems⟩

/-- Metadata that are a table have the name under its key. -/
theorem zoneNameOf_of_hasEntries {entries : Entries} (h : item.HasEntries entries) :
    zoneNameOf item = match entries.lookup "timezone" with
      | none => some none
      | some name => some <$> name.text? := by
  cases h with
  | table => rfl
  | stamp => rfl

/-- **The zone of a document is the one that its metadata name.** -/
theorem zoneNameOf_eq_some_iff : zoneNameOf item = some tz ↔ item.SaysZone tz := by
  constructor
  · intro h
    unfold zoneNameOf at h
    split at h
    · next first rest =>
      obtain ⟨name, hname, rfl⟩ := Option.map_eq_some_iff.mp h
      rw [Item.text?_eq_some_iff.mp hname]
      exact .first name rest
    · split at h
      · cases h
      · next entries hentries =>
        have hentries := Item.entries?_eq_some_iff.mp hentries
        split at h
        · next hlookup =>
          cases h
          exact .silent hentries hlookup
        · next hlookup =>
          obtain ⟨name, hname, rfl⟩ := Option.map_eq_some_iff.mp h
          exact .named hentries (Item.text?_eq_some_iff.mp hname ▸ hlookup)
  · rintro (⟨hentries, hlookup⟩ | ⟨hentries, hlookup⟩ | ⟨name, rest⟩)
    · rw [zoneNameOf_of_hasEntries hentries, hlookup]
    · rw [zoneNameOf_of_hasEntries hentries, hlookup]
      rfl
    · rfl

theorem zoneName_eq_some_iff {document : Entries} :
    zoneName document = some tz ↔ SaysZone document tz := by
  rw [zoneName]
  cases hlookup : document.lookup "metadata" with
  | none =>
    constructor
    · rintro ⟨⟩
      exact .absent hlookup
    · intro h
      cases h with
      | absent => rfl
      | metadata h => cases hlookup.symm.trans h
  | some item =>
    rw [zoneNameOf_eq_some_iff]
    constructor
    · exact .metadata hlookup
    · intro h
      cases h with
      | absent h => cases hlookup.symm.trans h
      | metadata h hitem =>
        cases hlookup.symm.trans h
        exact hitem

/-- The entries of an item in a document have keys that differ. -/
theorem nodup_of_entries {table : Item} (h : table.KeysDiffer) {entries : Entries}
    (hentries : table.HasEntries entries) : (entries.map Prod.fst).Nodup := by
  cases hentries with
  | table => exact (Item.keysDiffer_table_iff.mp h).nodup
  | stamp => exact List.nodup_cons.mpr ⟨List.not_mem_nil, List.nodup_nil⟩

/-- **The names in a document differ.** -/
theorem HasItems.nodup {document : Entries} (hd : document.KeysDiffer)
    (h : HasItems document items) : (items.map Prod.fst).Nodup := by
  cases h with
  | absent => exact List.nodup_nil
  | @table table entries _ hlookup hentries hitems =>
    rw [settleEntries_keys (settleEntries_eq_some_iff.mpr hitems)]
    exact nodup_of_entries (hd.lookup hlookup) hentries

/-- What a document says can be computed. -/
theorem parses_iff {text : String} : Parses text tz items ↔
    ((Document.read text.toList).bind fun document =>
      return (← zoneName document, ← namedItems document)) = some (tz, items) := by
  simp only [Option.bind_eq_bind, Option.bind_eq_some_iff, Option.pure_def, Option.some.injEq,
    Prod.mk.injEq, zoneName_eq_some_iff, namedItems_eq_some_iff]
  constructor
  · rintro ⟨hdocument, hzone, hitems⟩
    exact ⟨_, hdocument, tz, hzone, items, hitems, rfl, rfl⟩
  · rintro ⟨_, hdocument, _, hzone, _, hitems, rfl, rfl⟩
    exact ⟨hdocument, hzone, hitems⟩

instance (text : String) : Decidable (Parses text tz items) := decidable_of_iff _ parses_iff.symm

theorem ofText_of_parses {text : String} (h : Parses text tz items) : ofText text = (do
      let zone ← zoneOf tz
      return ⟨zone, ← valuesOf zone items⟩) := by
  obtain ⟨hdocument, hzone, hitems⟩ := h
  simp only [ofText, hdocument, ofDocument, zoneName_eq_some_iff.mpr hzone,
    namedItems_eq_some_iff.mpr hitems]

/-! ### What a document is refused for -/

theorem zoneOf_eq_ok_iff : zoneOf tz = .ok zone ↔ NamesZone tz zone := by
  cases tz with
  | none =>
    constructor
    · rintro ⟨⟩
      exact .utc
    · rintro ⟨⟩
      rfl
  | some name =>
    rw [zoneOf, findZone]
    constructor
    · intro h
      split at h
      · next hnamed =>
        cases h
        exact .named hnamed
      · cases h
    · intro h
      cases h with
      | named h => rw [h]

theorem zoneOf_eq_error_iff : zoneOf tz = .error e ↔
    ∃ name, tz = some name ∧ Zone.named name = none ∧ e = .unknownZone name := by
  cases tz with
  | none => exact iff_of_false nofun nofun
  | some own =>
    rw [zoneOf, findZone]
    cases hnamed : Zone.named own with
    | none => simp [hnamed, eq_comm]
    | some zone => simp [hnamed]

/-- An item stands for a value exactly if it is not at fault. -/
theorem exists_standsFor_iff (name : String) :
    (∃ v, item.StandsFor zone v) ↔ ∀ e, ¬ item.IsAtFault zone name e := by
  constructor
  · rintro ⟨v, hv⟩ e he
    cases (valueOfItem_of_standsFor hv name).symm.trans (valueOfItem_of_isAtFault he)
  · intro h
    exact (item.standsFor_or_isAtFault zone name).resolve_right (not_exists.mpr h)

/-- The fault of some items is that of the first, or of the rest if the first has a value. -/
theorem valuesOf_cons_eq_error_iff : valuesOf zone ((name, item) :: items) = .error e ↔
    item.IsAtFault zone name e ∨ (∃ v, item.StandsFor zone v) ∧ valuesOf zone items = .error e := by
  rw [valuesOf, bind_eq_error, valueOfItem_eq_error_iff]
  simp only [valueOfItem_eq_ok_iff]
  refine or_congr_right ⟨?_, ?_⟩
  · rintro ⟨v, hv, hrest⟩
    rcases bind_eq_error.mp hrest with hrest | ⟨vs, -, hpure⟩
    · exact ⟨⟨v, hv⟩, hrest⟩
    · cases hpure
  · rintro ⟨⟨v, hv⟩, hrest⟩
    exact ⟨v, hv, bind_eq_error.mpr (.inl hrest)⟩

/-- **The fault of some items is that of the first of them that has one.** -/
theorem valuesOf_eq_error_iff :
    valuesOf zone items = .error e ↔ ∃ before name item after,
      items = before ++ (name, item) :: after ∧
        (∀ p ∈ before, ∀ e, ¬ p.2.IsAtFault zone p.1 e) ∧ item.IsAtFault zone name e := by
  induction items with
  | nil => simp [valuesOf]
  | cons p items ih =>
    obtain ⟨own, first⟩ := p
    rw [valuesOf_cons_eq_error_iff, ih, exists_standsFor_iff own]
    constructor
    · rintro (hfirst | ⟨hfirst, before, name, item, after, rfl, hbefore, hitem⟩)
      · exact ⟨[], own, first, items, rfl, nofun, hfirst⟩
      · exact ⟨(own, first) :: before, name, item, after, rfl,
          List.forall_mem_cons.mpr ⟨hfirst, hbefore⟩, hitem⟩
    · rintro ⟨before, name, item, after, hitems, hbefore, hitem⟩
      cases before with
      | nil =>
        cases hitems
        exact .inl hitem
      | cons q before =>
        cases hitems
        obtain ⟨hfirst, hbefore⟩ := List.forall_mem_cons.mp hbefore
        exact .inr ⟨hfirst, before, name, item, after, rfl, hbefore, hitem⟩

/-- Some items have a fault if one of them has. -/
theorem exists_valuesOf_eq_error_iff :
    (∃ e, valuesOf zone items = .error e) ↔ ∃ p ∈ items, ∃ e, p.2.IsAtFault zone p.1 e := by
  constructor
  · rintro ⟨e, he⟩
    obtain ⟨before, name, item, after, rfl, -, hitem⟩ := valuesOf_eq_error_iff.mp he
    exact ⟨(name, item), List.mem_append_right _ List.mem_cons_self, e, hitem⟩
  · rintro ⟨p, hp, hfault⟩
    induction items with
    | nil => cases hp
    | cons q items ih =>
      obtain ⟨own, first⟩ := q
      rcases first.standsFor_or_isAtFault zone own with hfirst | ⟨e, hfirst⟩
      · have hmem : p ∈ items := by
          refine (List.mem_cons.mp hp).resolve_left ?_
          rintro rfl
          obtain ⟨e, he⟩ := hfault
          exact (exists_standsFor_iff own).mp hfirst e he
        obtain ⟨e, hrest⟩ := ih hmem
        exact ⟨e, valuesOf_cons_eq_error_iff.mpr (.inr ⟨hfirst, hrest⟩)⟩
      · exact ⟨e, valuesOf_cons_eq_error_iff.mpr (.inl hfirst)⟩

/-- **A document of the right shape is refused for its zone, or else for the first item at
fault.** -/
theorem ofText_eq_error_iff {text : String} (h : Parses text tz items) :
    ofText text = .error e ↔ IsRefused tz items e := by
  rw [ofText_of_parses h, bind_eq_error, zoneOf_eq_error_iff]
  simp only [zoneOf_eq_ok_iff]
  constructor
  · rintro (⟨name, rfl, hname, rfl⟩ | ⟨zone, hzone, hrest⟩)
    · exact .zone items hname
    · rcases bind_eq_error.mp hrest with hrest | ⟨vs, -, hpure⟩
      · obtain ⟨before, name, item, after, rfl, hbefore, hitem⟩ := valuesOf_eq_error_iff.mp hrest
        exact .item hzone hbefore hitem
      · cases hpure
  · rintro (⟨_, hname⟩ | ⟨hzone, hbefore, hitem⟩)
    · exact .inl ⟨_, rfl, hname, rfl⟩
    · refine .inr ⟨_, hzone, bind_eq_error.mpr (.inl ?_)⟩
      exact valuesOf_eq_error_iff.mpr ⟨_, _, _, _, rfl, hbefore, hitem⟩

/-- A document of the right shape is refused if its zone is unknown or some item is at fault. -/
theorem exists_ofText_eq_error_iff {text : String} (h : Parses text tz items) :
    (∃ e, ofText text = .error e) ↔ (∃ name, tz = some name ∧ Zone.named name = none) ∨
      ∃ zone, NamesZone tz zone ∧ ∃ p ∈ items, ∃ e, p.2.IsAtFault zone p.1 e := by
  simp only [ofText_eq_error_iff h, ← exists_valuesOf_eq_error_iff]
  constructor
  · rintro ⟨e, ⟨_, hname⟩ | ⟨hzone, hbefore, hitem⟩⟩
    · exact .inl ⟨_, rfl, hname⟩
    · exact .inr ⟨_, hzone, e, valuesOf_eq_error_iff.mpr ⟨_, _, _, _, rfl, hbefore, hitem⟩⟩
  · rintro (⟨name, rfl, hname⟩ | ⟨zone, hzone, e, he⟩)
    · exact ⟨_, .zone items hname⟩
    · obtain ⟨before, name, item, after, rfl, hbefore, hitem⟩ := valuesOf_eq_error_iff.mp he
      exact ⟨e, .item hzone hbefore hitem⟩

/-! ### What a text is loaded as -/

theorem valuesOf_eq_ok_iff {values : List (String × Value)} :
    valuesOf zone items = .ok values ↔ HasMeaningOf ⟨zone, values⟩ items := by
  induction items generalizing values with
  | nil =>
    rw [HasMeaningOf, List.forall₂_nil_left_iff, valuesOf]
    constructor
    · rintro ⟨⟩
      rfl
    · rintro rfl
      rfl
  | cons item items ih =>
    obtain ⟨name, item⟩ := item
    rw [valuesOf, bind_eq_ok, HasMeaningOf]
    constructor
    · rintro ⟨v, hv, hrest⟩
      obtain ⟨vs, hvs, hvalues⟩ := bind_eq_ok.mp hrest
      cases hvalues
      exact .cons ⟨rfl, valueOfItem_eq_ok_iff.mp hv⟩ (ih.mp hvs)
    · intro h
      cases h with
      | @cons _ value _ vs hvalue hvalues =>
        obtain ⟨own, v⟩ := value
        obtain ⟨rfl, hv⟩ := hvalue
        exact ⟨v, valueOfItem_eq_ok_iff.mpr hv, bind_eq_ok.mpr ⟨vs, ih.mpr hvalues, rfl⟩⟩

/-- A text that is loaded is a document of the right shape. -/
theorem exists_parses {text : String} {f : ContextFile} (h : ofText text = .ok f) :
    ∃ tz items, Parses text tz items := by
  rw [ofText] at h
  split at h
  · next document hdocument =>
    rw [ofDocument] at h
    split at h
    · next tz items hzone hitems =>
      exact ⟨tz, items, .intro hdocument (zoneName_eq_some_iff.mp hzone)
        (namedItems_eq_some_iff.mp hitems)⟩
    · cases h
  · cases h

/-- A document of the right shape is loaded as what its items stand for in its zone. -/
theorem ofText_eq_ok_iff_of_parses {text : String} {f : ContextFile} (h : Parses text tz items) :
    ofText text = .ok f ↔ NamesZone tz f.zone ∧ f.HasMeaningOf items := by
  rw [ofText_of_parses h, bind_eq_ok]
  simp only [zoneOf_eq_ok_iff]
  constructor
  · rintro ⟨zone, hzone, hrest⟩
    obtain ⟨values, hvalues, hf⟩ := bind_eq_ok.mp hrest
    cases hf
    exact ⟨hzone, valuesOf_eq_ok_iff.mp hvalues⟩
  · rintro ⟨hzone, hvalues⟩
    exact ⟨f.zone, hzone, bind_eq_ok.mpr ⟨f.values, valuesOf_eq_ok_iff.mpr hvalues, rfl⟩⟩

/-- **A text is loaded as what its items stand for in its zone.** -/
theorem ofText_eq_ok_iff {text : String} {f : ContextFile} :
    ofText text = .ok f ↔ ∃ tz items, Parses text tz items ∧ NamesZone tz f.zone ∧
      f.HasMeaningOf items := by
  constructor
  · intro h
    obtain ⟨tz, items, hparses⟩ := exists_parses h
    exact ⟨tz, items, hparses, (ofText_eq_ok_iff_of_parses hparses).mp h⟩
  · rintro ⟨tz, items, hparses, h⟩
    exact (ofText_eq_ok_iff_of_parses hparses).mpr h

theorem fromUTF8?_toUTF8 (text : String) : String.fromUTF8? text.toUTF8 = some text :=
  dif_pos text.isValidUTF8

/-- **A context file is loaded exactly if it is what is read from the disk.** -/
theorem load_eq_ok_iff {contents : Except ReadFault ByteArray} {f : ContextFile} :
    load contents = .ok f ↔ f.IsReadFrom contents := by
  constructor
  · intro h
    cases contents with
    | error fault => cases h
    | ok bytes =>
      rw [load] at h
      split at h
      · next text htext =>
        obtain ⟨tz, items, hparses, hzone, hvalues⟩ := ofText_eq_ok_iff.mp h
        exact .text htext hparses hzone hvalues
      · cases h
  · rintro ⟨htext, hparses, hzone, hvalues⟩
    simp only [load, htext]
    exact (ofText_eq_ok_iff_of_parses hparses).mpr ⟨hzone, hvalues⟩

/-- The names of the values, in order. -/
def names (f : ContextFile) : List String := f.values.map Prod.fst

/-- The entries that a context file registers. -/
def entries (f : ContextFile) : List Entry := f.values.map fun (name, v) => ⟨some name, v⟩

variable {f : ContextFile} {b : Builder}

theorem HasMeaningOf.names_eq (h : f.HasMeaningOf items) : f.names = items.map Prod.fst := by
  rw [names]
  unfold HasMeaningOf at h
  generalize f.values = values at h
  induction h with
  | nil => rfl
  | cons hown _ ih => rw [List.map_cons, List.map_cons, ih, hown.1]

/-- **No name comes twice in a context file.** -/
theorem names_nodup {text : String} (h : ofText text = .ok f) : f.names.Nodup := by
  obtain ⟨tz, items, ⟨hdocument, -, hitems⟩, -, hvalues⟩ := ofText_eq_ok_iff.mp h
  rw [hvalues.names_eq]
  exact hitems.nodup (Document.keysDiffer_of_read hdocument)

/-! ### Registering behind other entries -/

/-- What comes of registering the values of a context file behind the entries of a builder. -/
structure Composes (f : ContextFile) (b : Builder) : Prop where
  /-- A context is built exactly if the builder has no name twice and none that the file has. -/
  builds_iff : (∃ c, (f.apply b).build = .ok c) ↔
    (namesOf b.entries).Nodup ∧ ∀ name ∈ namesOf b.entries, name ∉ f.names
  /-- It has the names of the builder, then those of the file. -/
  names_eq : ∀ c, (f.apply b).build = .ok c → c.names = namesOf b.entries ++ f.names
  /-- The entries of the builder stand in front. -/
  front : ∀ c, (f.apply b).build = .ok c → ∀ i < b.entries.length,
    c.entries[i]? = b.entries[i]? ∧ c.getIndex i = b.entries[i]?.map Entry.value
  /-- A value of the file is found by its name and at its position behind them. -/
  behind : ∀ c, (f.apply b).build = .ok c → ∀ (i : Nat) name v, f.values[i]? = some (name, v) →
    c.get name = some v ∧ c.getIndex (b.entries.length + i) = some v
  /-- Building fails with the first name that comes a second time. -/
  fails_iff : ∀ e, (f.apply b).build = .error e ↔
    ∃ name, e = .duplicateName name ∧ IsFirstRepeat name (b.entries ++ f.entries)

theorem namesOf_entries (f : ContextFile) : namesOf f.entries = f.names := by
  rw [namesOf, entries, List.filterMap_map, names, ← List.filterMap_eq_map]
  rfl

/-- A context is built behind a builder from the entries of both. -/
theorem build_apply_eq_ok_iff {c : Context} : (f.apply b).build = .ok c ↔
    c = ⟨b.entries ++ f.entries, namedFrom 0 (b.entries ++ f.entries)⟩ ∧
      (namesOf (b.entries ++ f.entries)).Nodup := by
  rw [Builder.build_eq_ok_iff, entries_apply]
  rfl

/-- Behind entries with other names the names differ. -/
theorem nodup_namesOf_append_iff (h : f.names.Nodup) (es : List Entry) :
    (namesOf (es ++ f.entries)).Nodup ↔
      (namesOf es).Nodup ∧ ∀ name ∈ namesOf es, name ∉ f.names := by
  rw [namesOf_append, namesOf_entries, List.nodup_append]
  constructor
  · rintro ⟨hes, -, hne⟩
    exact ⟨hes, fun name hname hf => hne name hname name hf rfl⟩
  · rintro ⟨hes, hnot⟩
    refine ⟨hes, h, fun name hname own hown heq => ?_⟩
    exact hnot name hname (heq ▸ hown)

/-- **A context file without repeated names composes with every builder.** -/
theorem composes_of_nodup (h : f.names.Nodup) (b : Builder) : f.Composes b := by
  constructor
  · rw [← nodup_namesOf_append_iff h]
    simp only [build_apply_eq_ok_iff, exists_eq_left]
  · intro c hc
    obtain ⟨rfl, hall⟩ := build_apply_eq_ok_iff.mp hc
    rw [(Context.isRegistryOf_of_nodup hall).names_eq, namesOf_append, namesOf_entries]
  · intro c hc i hi
    obtain ⟨rfl, -⟩ := build_apply_eq_ok_iff.mp hc
    have hfront : (b.entries ++ f.entries)[i]? = b.entries[i]? := List.getElem?_append_left hi
    exact ⟨hfront, congrArg (Option.map Entry.value) hfront⟩
  · intro c hc i name v hv
    obtain ⟨rfl, hall⟩ := build_apply_eq_ok_iff.mp hc
    have hregistry := Context.isRegistryOf_of_nodup hall
    have hentry : (b.entries ++ f.entries)[b.entries.length + i]? = some ⟨some name, v⟩ := by
      rw [List.getElem?_append_right (Nat.le_add_right _ _), Nat.add_sub_cancel_left, entries,
        List.getElem?_map, hv]
      rfl
    have hindex := hregistry.getIndex_eq (b.entries.length + i)
    rw [hentry] at hindex
    exact ⟨(hregistry.get_eq_getIndex name _ v hentry).trans hindex, hindex⟩
  · intro e
    rw [Builder.build_eq_error_iff, entries_apply]
    rfl

/-- **What a context file registers, and what it is refused for.** A text is loaded exactly if its
zone is known and each of its items stands for a value there. It then has these values under the
names of the items, which differ, and registered behind the entries of any builder they are found
by name and by position, unless a name comes twice. A document of the right shape is refused exactly
if its zone is unknown or an item is at fault, and for the zone or else the first such item. -/
theorem ofText_exact (text : String) :
    (∀ f, ofText text = .ok f ↔ ∃ tz items, Parses text tz items ∧ NamesZone tz f.zone ∧
      f.HasMeaningOf items) ∧
    (∀ f, ofText text = .ok f → f.names.Nodup ∧ ∀ b, f.Composes b) ∧
    ∀ tz items, Parses text tz items →
      ((∃ e, ofText text = .error e) ↔ (∃ name, tz = some name ∧ Zone.named name = none) ∨
        ∃ zone, NamesZone tz zone ∧ ∃ p ∈ items, ∃ e, p.2.IsAtFault zone p.1 e) ∧
      ∀ e, ofText text = .error e ↔ IsRefused tz items e := by
  refine ⟨fun f => ofText_eq_ok_iff, fun f h => ?_, fun tz items h => ?_⟩
  · exact ⟨names_nodup h, composes_of_nodup (names_nodup h)⟩
  · exact ⟨exists_ofText_eq_error_iff h, fun e => ofText_eq_error_iff h⟩

/-- Three values in the zone of their file, behind one of a builder with a name of its own and with
one of theirs; a file with a time that its zone skips, in front of another item at fault; and a file
with an unknown zone. -/
theorem ofText_exact_instances :
    ∃ f : ContextFile, f.zone = ⟨"Etc/GMT-1", ⟨3600, "+01"⟩, []⟩ ∧
      f.values = [("b", .integer 1), ("d", .time ⟨⟨1473502333, 0⟩, f.zone⟩), ("a", .text "x")] ∧
      ofText "metadata.timezone='Etc/GMT-1'\n[formatters]\nb=1\nd=2016-09-10 11:12:13\na='x'" =
        .ok f ∧
      (∃ c, (f.apply (({} : Builder).add "c" (.integer 2))).build = .ok c ∧
        c.names = ["c", "b", "d", "a"]) ∧
      (f.apply (({} : Builder).add "a" (.integer 2))).build = .error (.duplicateName "a") ∧
      ofText "metadata.timezone='Asia/Dubai'\n[formatters]\nb=1\nd=1920-01-01 00:10:00\nc=true" =
        .error (.invalidTime "d" "1920-01-01T00:10:00") ∧
      ofText "metadata.timezone='Mars'\n[formatters]\nc=true" = .error (.unknownZone "Mars") := by
  let east : Zone := ⟨"Etc/GMT-1", ⟨3600, "+01"⟩, []⟩
  have hloaded := ((ofText_exact
      "metadata.timezone='Etc/GMT-1'\n[formatters]\nb=1\nd=2016-09-10 11:12:13\na='x'").1
    ⟨east, [("b", .integer 1), ("d", .time ⟨⟨1473502333, 0⟩, east⟩), ("a", .text "x")]⟩).mpr
    ⟨some "Etc/GMT-1", [("b", .integer 1), ("d", .stamp (.wall ⟨2016, 9, 10⟩ ⟨11, 12, 13, 0⟩)),
      ("a", .text "x")], by decide +kernel, .named (by decide +kernel),
      .cons ⟨rfl, .integer 1⟩ (.cons ⟨rfl, .stamp (by simp) (by decide +kernel)⟩
        (.cons ⟨rfl, .text "x"⟩ .nil))⟩
  have hcomposes := ((ofText_exact _).2.1 _ hloaded).2
  have hnew := hcomposes (({} : Builder).add "c" (.integer 2))
  have hrepeated := hcomposes (({} : Builder).add "a" (.integer 2))
  refine ⟨_, rfl, rfl, hloaded, ?_, (hrepeated.fails_iff _).mpr ⟨"a", rfl, ?_⟩, ?_, ?_⟩
  · obtain ⟨c, hc⟩ := hnew.builds_iff.mpr ⟨by decide, by decide⟩
    exact ⟨c, hc, hnew.names_eq c hc⟩
  · -- the name comes again behind the first two values of the file
    exact ⟨_ :: _ :: _ :: [], _, [], rfl, (by decide : ["a", "b", "d"].Nodup),
      List.mem_cons_self⟩
  · have hzone : NamesZone (some "Asia/Dubai")
        ⟨"Asia/Dubai", ⟨13272, "LMT"⟩, [⟨-1577936472, ⟨14400, "+04"⟩⟩]⟩ :=
      .named (by decide +kernel)
    have hfine : ∀ e, ¬ (Item.integer 1).IsAtFault
        ⟨"Asia/Dubai", ⟨13272, "LMT"⟩, [⟨-1577936472, ⟨14400, "+04"⟩⟩]⟩ "b" e := by
      rintro e ⟨⟩
    refine (((ofText_exact _).2.2 (some "Asia/Dubai") ([("b", .integer 1)] ++
      ("d", .stamp (.wall ⟨1920, 1, 1⟩ ⟨0, 10, 0, 0⟩)) :: [("c", .boolean true)])
      (by decide +kernel)).2 _).mpr ?_
    exact .item hzone (List.forall_mem_singleton.mpr hfine)
      (.unreadable (by simp) (by decide +kernel))
  · exact (((ofText_exact _).2.2 (some "Mars") [("c", .boolean true)] (by decide +kernel)).2 _).mpr
      (.zone _ (by decide +kernel))

end ContextFile

end PathTemplate
