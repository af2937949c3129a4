import Codebook.Config.Load
import Codebook.Proofs.Expression.Matching
import Codebook.Proofs.Schema.Following

/-!
# The names in a configuration

The names of lists and the market codes of a configuration that is read with the built-in form are words
of the kinds that the form asks for, each perhaps with a line feed behind it (`isWellNamed_of_load`): the
expressions of the form end at the end of the last line. A text of the settings stands in the file or
among the defaults, since completing a document keeps its texts.
-/

namespace Codebook

open Expression Schema

/-! ## Texts of documents -/

namespace Document

/-- What fills references is a collection, and so no text. -/
def Hollow (whole : Nat → Document) : Prop :=
  ∀ depth s, whole depth ≠ .scalar s

theorem eq_scalar_of_filled {whole : Nat → Document} (hollow : Hollow whole) {depth : Nat} {d : Document}
    {s : Scalar} (same : d.filled whole depth = .scalar s) : d = .scalar s := by
  cases d with
  | scalar s => exact same
  | list items => cases same
  | mapping fields => cases same
  | pair first second => cases same
  | set items => cases same
  | enclosing levels shape =>
    rw [filled] at same
    split at same
    · exact absurd same (hollow _ _)
    · cases same

theorem get?_filledFields (whole : Nat → Document) (depth : Nat) (fields : List (Scalar × Document))
    (key : Scalar) :
    Keyed.get? (filledFields whole depth fields) key =
      (Keyed.get? fields key).map (filled whole depth) := by
  induction fields with
  | nil => rfl
  | cons f rest ih =>
    rw [filledFields, Keyed.get?_cons, Keyed.get?_cons, ih]
    split <;> rfl

theorem get?_map_zipIdx {key : Scalar} {x : Document} (value : (Scalar × Document) × Nat → Document)
    {fields : List (Scalar × Document)} {start : Nat}
    (found : Keyed.get? ((fields.zipIdx start).map fun p => (p.1.1, value p)) key = some x) :
    ∃ y index, Keyed.get? fields key = some y ∧ value ((key, y), index) = x := by
  induction fields generalizing start with
  | nil => cases found
  | cons f rest ih =>
    rw [List.zipIdx_cons, List.map_cons, Keyed.get?_cons] at found
    rw [Keyed.get?_cons]
    split at found
    · next same =>
      rw [if_pos same]
      exact ⟨f.2, start, rfl, by rw [← Option.some.inj found, ← same]⟩
    · next differs =>
      rw [if_neg differs]
      exact ih found

/-- What is taken out of a mapping is what stands there, with its references filled. -/
theorem exists_of_part? {d x : Document} {name : String} (part : d.part? name = some x) :
    ∃ y whole, Hollow whole ∧ d.field? name = some y ∧ x = y.filled whole 0 := by
  cases d with
  | mapping fields =>
    obtain ⟨y, index, found, rfl⟩ := get?_map_zipIdx _ part
    exact ⟨y, _, fun _ _ => Document.noConfusion, found, rfl⟩
  | scalar | list | pair | set | enclosing => cases part

theorem field?_of_part? {d : Document} {name : String} {s : Scalar}
    (part : d.part? name = some (.scalar s)) : d.field? name = some (.scalar s) := by
  obtain ⟨y, whole, hollow, found, taken⟩ := exists_of_part? part
  rwa [← eq_scalar_of_filled hollow taken.symm]

theorem field?_of_filled {whole : Nat → Document} (hollow : Hollow whole) {depth : Nat}
    {fields : List (String × Document)} {name s : String}
    (text : ((Document.ofFields fields).filled whole depth).part? name = some (.scalar (.text s))) :
    (Document.ofFields fields).field? name = some (.scalar (.text s)) := by
  have found := field?_of_part? text
  rw [ofFields, filled, field?, get?_filledFields, Option.map_eq_some_iff] at found
  obtain ⟨y, there, same⟩ := found
  rwa [← eq_scalar_of_filled hollow same]

theorem mem_fields_of_text {fields : List (Scalar × Document)} {key : Scalar} {s : String}
    (member : (key, .scalar (.text s)) ∈ fields) :
    (key, .scalar (.text s)) ∈ (Document.mapping fields).fields := by
  obtain ⟨index, there⟩ := List.mem_iff_getElem?.1 member
  exact List.mem_map.2 ⟨((key, .scalar (.text s)), index), List.mem_zipIdx_iff_getElem?.2 there, rfl⟩

theorem exists_of_mem_filledItems {whole : Nat → Document} {depth : Nat} {items : List Document}
    {x : Document} (member : x ∈ filledItems whole depth items) :
    ∃ y ∈ items, x = y.filled whole depth := by
  induction items with
  | nil => cases member
  | cons y rest ih =>
    rcases List.mem_cons.1 member with rfl | member
    · exact ⟨y, List.mem_cons_self, rfl⟩
    · obtain ⟨z, among, same⟩ := ih member
      exact ⟨z, .tail _ among, same⟩

theorem exists_of_mem_filledFields {whole : Nat → Document} {depth : Nat}
    {fields : List (Scalar × Document)} {f : Scalar × Document}
    (member : f ∈ filledFields whole depth fields) :
    ∃ y, (f.1, y) ∈ fields ∧ f.2 = y.filled whole depth := by
  induction fields with
  | nil => cases member
  | cons first rest ih =>
    rcases List.mem_cons.1 member with rfl | member
    · exact ⟨first.2, List.mem_cons_self, rfl⟩
    · obtain ⟨y, among, same⟩ := ih member
      exact ⟨y, .tail _ among, same⟩

end Document

/-- The names of settings are words of their kinds, each perhaps with a line feed behind it. -/
structure Settings.IsWellNamed (s : Settings) : Prop where
  lists : ∀ l ∈ s.catalogLists, IsLineOf IsName l.name
  taxonomy : IsLineOf IsName s.taxonomy.name
  countries : ∀ c ∈ s.countries, IsLineOf IsCode c.2

/-! ## The form -/

namespace Config

/-- The fields of the schema of a mapping. -/
def recordFields (required : List String) (fields : List (String × Document)) : List (String × Document) :=
  [("type", .ofText "object"), ("additionalProperties", .ofFlag false)]
    ++ (if required.isEmpty then [] else [("required", .list (required.map Document.ofText))])
    ++ [("properties", .ofFields fields)]

theorem plain_recordFields (required : List String) (fields : List (String × Document)) :
    Plain (recordFields required fields) := by
  unfold recordFields
  constructor <;> split <;> rfl

/-- What stands under a name of a record follows the schema for it. -/
theorem follows_of_record {required : List String} {fields sub : List (String × Document)} {d x : Document}
    (follows : Follows (record required fields) d) {name : String}
    (named : (name, .ofFields sub) ∈ fields) (inner : Plain sub) (part : d.part? name = some x) :
    Follows (.ofFields sub) x :=
  follows.part (plain_recordFields required fields) (by simp [recordFields]) named inner part

theorem plain_meeting (source : String) :
    Plain [("type", .ofText "string"), ("pattern", .ofText source)] :=
  ⟨rfl, rfl⟩

theorem isLineOf_of_follows_listName {s : String} (follows : Follows listName (.scalar (.text s))) :
    IsLineOf IsName s := by
  obtain ⟨e, read, meets⟩ := follows.meets (plain_meeting _) (.tail _ List.mem_cons_self)
  rw [ofText_name] at read
  obtain rfl := Except.ok.inj read
  exact isLineOf_name meets

theorem isLineOf_of_follows_marketCode {s : String} (follows : Follows marketCode (.scalar (.text s))) :
    IsLineOf IsCode s := by
  obtain ⟨e, read, meets⟩ := follows.meets (plain_meeting _) (.tail _ List.mem_cons_self)
  rw [ofText_code] at read
  obtain rfl := Except.ok.inj read
  exact isLineOf_code meets

/-- What a document that follows the form says of its names. -/
structure Names (d : Document) : Prop where
  lists : ∀ lists, d.part? "catalog_lists" = some lists → lists.isList = true ∧
    ∀ item ∈ lists.items, ∀ s, item.part? "name" = some (.scalar (.text s)) → IsLineOf IsName s
  taxonomy : ∀ taxonomy, d.part? "taxonomy" = some taxonomy →
    ∀ s, taxonomy.part? "name" = some (.scalar (.text s)) → IsLineOf IsName s
  countries : ∀ countries, d.part? "countries" = some countries → countries.isMapping = true ∧
    ∀ key s, (key, .scalar (.text s)) ∈ countries.fields → IsLineOf IsCode s

theorem names_of_follows {d : Document} (follows : Follows form d) : Names d := by
  refine ⟨fun lists there => ?_, fun taxonomy there s named => ?_, fun countries there => ?_⟩
  · have plain : Plain [("type", .ofText "array"), ("minItems", .ofInt 1), ("items", listForm)] :=
      ⟨rfl, rfl⟩
    have all : Follows listsForm lists :=
      follows_of_record follows (List.mem_of_getElem? (i := 3) rfl) plain there
    have isList : Dialect.draft7.admits .array lists = true := all.kind plain List.mem_cons_self rfl
    refine ⟨isList, fun item member s named => ?_⟩
    have each : Follows listForm item :=
      all.item plain (List.mem_of_getElem? (i := 2) rfl) (plain_recordFields _ _) isList member
    exact isLineOf_of_follows_listName
      (follows_of_record each List.mem_cons_self (plain_meeting _) named)
  · have whole : Follows taxonomyForm taxonomy :=
      follows_of_record follows (List.mem_of_getElem? (i := 4) rfl) (plain_recordFields _ _) there
    exact isLineOf_of_follows_listName
      (follows_of_record whole List.mem_cons_self (plain_meeting _) named)
  · have plain : Plain
        [
          ("type", .ofText "object"), ("minProperties", .ofInt 1), ("additionalProperties", marketCode)
        ] :=
      ⟨rfl, rfl⟩
    have all : Follows countriesForm countries :=
      follows_of_record follows (List.mem_of_getElem? (i := 6) rfl) plain there
    have isMapping : Dialect.draft7.admits .object countries = true :=
      all.kind plain List.mem_cons_self rfl
    refine ⟨isMapping, fun key s field => ?_⟩
    exact isLineOf_of_follows_marketCode
      (all.extra plain (List.mem_of_getElem? (i := 2) rfl) (plain_meeting _) rfl rfl field)

/-! ## Complete documents -/

theorem part?_of_need {d x : Document} {name : String} (there : need d name = .ok x) :
    d.part? name = some x := by
  rw [need.eq_def] at there
  split at there
  · split at there
    · next found => rw [found, Except.ok.inj there]
    · cases there
  · cases there

theorem eq_items_of_isList {d : Document} (isList : d.isList = true) {items : List Document}
    (ok : itemsOf d = .ok items) : items = d.items := by
  cases d with
  | list => exact (Except.ok.inj ok).symm
  | enclosing => cases ok
  | scalar | mapping | pair | set => cases isList

/-- A complete flat list has the name of the list. -/
theorem name_of_completeList {d made : Document} (ok : completeList d = .ok made) :
    ∃ fields, made = .ofFields fields ∧ ∀ s, made.field? "name" = some (.scalar (.text s)) →
      d.part? "name" = some (.scalar (.text s)) := by
  obtain ⟨fields, needed, last⟩ := Report.exists_of_bind_eq_ok ok
  obtain rfl := Except.ok.inj last
  refine ⟨_, rfl, fun s text => ?_⟩
  rw [List.mapM_cons] at needed
  obtain ⟨first, name, rest⟩ := Report.exists_of_bind_eq_ok needed
  obtain ⟨value, there, rfl⟩ := Report.exists_of_map_eq_ok name
  obtain ⟨others, -, all⟩ := Report.exists_of_bind_eq_ok rest
  obtain rfl := Except.ok.inj all
  obtain rfl : value = .scalar (.text s) := Option.some.inj text
  exact part?_of_need there

/-- A complete taxonomy has the name of the taxonomy, or else the one among the defaults. -/
theorem name_of_completeTaxonomy {d made : Document} (ok : completeTaxonomy d = .ok made) :
    ∃ fields, made = .ofFields fields ∧ ∀ s, made.field? "name" = some (.scalar (.text s)) →
      d.part? "name" = some (.scalar (.text s)) ∨ s = defaultTaxonomy.name := by
  obtain ⟨given, filled, ok⟩ := Report.exists_of_bind_eq_ok ok
  obtain ⟨fields, replaced, last⟩ := Report.exists_of_bind_eq_ok ok
  obtain rfl := Except.ok.inj last
  refine ⟨_, rfl, fun s text => ?_⟩
  rw [withDefaults.eq_def] at filled
  split at filled
  · obtain rfl := Except.ok.inj filled
    rw [taxonomyFields, List.map_cons, List.mapM_cons] at replaced
    obtain ⟨first, name, rest⟩ := Report.exists_of_bind_eq_ok replaced
    obtain rfl := Except.ok.inj name
    obtain ⟨others, -, all⟩ := Report.exists_of_bind_eq_ok rest
    obtain rfl := Except.ok.inj all
    have value : (Document.part? _ "name").getD (.ofText defaultTaxonomy.name) = .scalar (.text s) :=
      Option.some.inj text
    cases there : Document.part? _ "name" with
    | some x =>
      rw [there] at value
      exact .inl (congrArg some value)
    | none =>
      rw [there] at value
      cases value
      exact .inr rfl
  · cases filled

theorem isLineOf_of_mem_defaultCountries : ∀ c ∈ defaultCountries, IsLineOf IsCode c.2 := by
  have all : ∀ c ∈ defaultCountries, c.2.toList.length = 2 ∧ ∀ a ∈ c.2.toList, a.isUpper = true := by
    decide +kernel
  exact fun c member => ⟨_, ⟨(all c member).1, (all c member).2⟩, .inl rfl⟩

/-- The market codes of a complete document are those that the form lets through, or else the default
ones. -/
theorem fields_of_completeCountries {d made : Document} (names : Names d)
    (ok : completeCountries (filledOr d "countries" (countriesDocument defaultCountries)) = .ok made) :
    ∃ fields, made = .mapping fields ∧ ∀ key s, (key, .scalar (.text s)) ∈ fields → IsLineOf IsCode s := by
  have standard : ∃ fields, countriesDocument defaultCountries = .mapping fields ∧
      ∀ key s, (key, .scalar (.text s)) ∈ fields → IsLineOf IsCode s := by
    refine ⟨_, rfl, fun key s member => ?_⟩
    obtain ⟨c, among, same⟩ := List.mem_map.1 member
    cases same
    exact isLineOf_of_mem_defaultCountries c among
  rw [filledOr] at ok
  split at ok
  · next given there =>
    split at ok
    · obtain rfl := Except.ok.inj ok
      exact standard
    · obtain ⟨isMapping, named⟩ := names.countries given there
      cases given with
      | mapping fields =>
        obtain rfl := Except.ok.inj ok
        exact ⟨fields, rfl, fun key s member => named key s (Document.mem_fields_of_text member)⟩
      | enclosing => cases ok
      | scalar | list | pair | set => cases isMapping
  · obtain rfl := Except.ok.inj ok
    exact standard

/-! ## Reading settings -/

theorem part?_of_fieldAs {α : Type} {d : Document} {name : String} {read : Document → Except Error α}
    {a : α} (ok : fieldAs d name read = .ok a) : ∃ x, d.part? name = some x ∧ read x = .ok a := by
  obtain ⟨x, there, ok⟩ := Report.exists_of_bind_eq_ok ok
  exact ⟨x, part?_of_need (Report.eq_ok_of_mapError there), ok⟩

theorem eq_text_of_asText {d : Document} {s : String} (ok : asText d = .ok s) : d = .scalar (.text s) := by
  rw [asText.eq_def] at ok
  split at ok
  · rw [Except.ok.inj ok]
  · cases ok

theorem part?_of_asText {d : Document} {name s : String} (ok : fieldAs d name asText = .ok s) :
    d.part? name = some (.scalar (.text s)) := by
  obtain ⟨x, there, text⟩ := part?_of_fieldAs ok
  rwa [← eq_text_of_asText text]

theorem name_of_readList {d : Document} {l : ListSettings} (ok : readList d = .ok l) :
    d.part? "name" = some (.scalar (.text l.name)) := by
  obtain ⟨name, named, ok⟩ := Report.exists_of_bind_eq_ok ok
  obtain ⟨_, -, ok⟩ := Report.exists_of_bind_eq_ok ok
  obtain ⟨_, -, ok⟩ := Report.exists_of_bind_eq_ok ok
  obtain ⟨_, -, ok⟩ := Report.exists_of_bind_eq_ok ok
  obtain ⟨_, -, ok⟩ := Report.exists_of_bind_eq_ok ok
  rw [← Except.ok.inj ok]
  exact part?_of_asText named

theorem name_of_readTaxonomy {d : Document} {t : TaxonomySettings} (ok : readTaxonomy d = .ok t) :
    d.part? "name" = some (.scalar (.text t.name)) := by
  obtain ⟨name, named, ok⟩ := Report.exists_of_bind_eq_ok ok
  obtain ⟨_, -, ok⟩ := Report.exists_of_bind_eq_ok ok
  obtain ⟨_, -, ok⟩ := Report.exists_of_bind_eq_ok ok
  obtain ⟨_, -, ok⟩ := Report.exists_of_bind_eq_ok ok
  obtain ⟨_, -, ok⟩ := Report.exists_of_bind_eq_ok ok
  rw [← Except.ok.inj ok]
  exact part?_of_asText named

/-- The parts of a complete document that hold names. -/
structure Reads (d : Document) (s : Settings) : Prop where
  lists : ∃ x, d.part? "catalog_lists" = some x ∧ asList readList x = .ok s.catalogLists
  taxonomy : ∃ x, d.part? "taxonomy" = some x ∧ readTaxonomy x = .ok s.taxonomy
  countries : ∃ x, d.part? "countries" = some x ∧ readCountries x = .ok s.countries

theorem reads_of_settings {d : Document} {s : Settings} (ok : settings d = .ok s) : Reads d s := by
  obtain ⟨_, -, ok⟩ := Report.exists_of_bind_eq_ok ok
  obtain ⟨_, -, ok⟩ := Report.exists_of_bind_eq_ok ok
  obtain ⟨_, -, ok⟩ := Report.exists_of_bind_eq_ok ok
  obtain ⟨_, lists, ok⟩ := Report.exists_of_bind_eq_ok ok
  obtain ⟨_, taxonomy, ok⟩ := Report.exists_of_bind_eq_ok ok
  obtain ⟨_, -, ok⟩ := Report.exists_of_bind_eq_ok ok
  obtain ⟨_, countries, ok⟩ := Report.exists_of_bind_eq_ok ok
  obtain rfl := Except.ok.inj ok
  exact ⟨part?_of_fieldAs lists, part?_of_fieldAs taxonomy, part?_of_fieldAs countries⟩

/-! ## From the file to the settings -/

section

variable {given made x : Document} {whole : Nat → Document}

theorem isLineOf_of_readList (isList : given.isList = true)
    (named : ∀ item ∈ given.items, ∀ s, item.part? "name" = some (.scalar (.text s)) → IsLineOf IsName s)
    (completed : completeLists given = .ok made) (hollow : Document.Hollow whole)
    {lists : List ListSettings} (read : asList readList (made.filled whole 0) = .ok lists) :
    ∀ l ∈ lists, IsLineOf IsName l.name := by
  obtain ⟨items, those, ok⟩ := Report.exists_of_bind_eq_ok completed
  obtain rfl := eq_items_of_isList isList those
  obtain ⟨all, each, last⟩ := Report.exists_of_bind_eq_ok ok
  obtain rfl := Except.ok.inj last
  intro l member
  obtain ⟨x, among, name⟩ := Report.exists_of_mem_mapM read member
  obtain ⟨y, there, rfl⟩ := Document.exists_of_mem_filledItems among
  obtain ⟨item, inside, complete⟩ := Report.exists_of_mem_mapM each there
  obtain ⟨fields, rfl, keeps⟩ := name_of_completeList complete
  exact named item inside l.name (keeps _ (Document.field?_of_filled hollow (name_of_readList name)))

theorem isLineOf_of_readTaxonomy
    (named : ∀ s, given.part? "name" = some (.scalar (.text s)) → IsLineOf IsName s)
    (completed : completeTaxonomy given = .ok made) (hollow : Document.Hollow whole)
    {taxonomy : TaxonomySettings} (read : readTaxonomy (made.filled whole 0) = .ok taxonomy) :
    IsLineOf IsName taxonomy.name := by
  obtain ⟨fields, rfl, keeps⟩ := name_of_completeTaxonomy completed
  rcases keeps _ (Document.field?_of_filled hollow (name_of_readTaxonomy read)) with text | default
  · exact named _ text
  · rw [default]
    exact ⟨defaultTaxonomy.name.toList, ⟨⟨'D', by decide, by decide⟩, by decide⟩, .inl rfl⟩

theorem isLineOf_of_readCountries {fields : List (Scalar × Document)}
    (named : ∀ key s, (key, .scalar (.text s)) ∈ fields → IsLineOf IsCode s)
    (hollow : Document.Hollow whole) {countries : Keyed Scalar String}
    (read : readCountries ((Document.mapping fields).filled whole 0) = .ok countries) :
    ∀ c ∈ countries, IsLineOf IsCode c.2 := by
  intro c member
  obtain ⟨f, among, code⟩ := Report.exists_of_mem_mapM read member
  obtain ⟨text, same, rfl⟩ := Report.exists_of_map_eq_ok code
  obtain ⟨y, there, filled⟩ := Document.exists_of_mem_filledFields among
  rw [eq_text_of_asText same] at filled
  rw [Document.eq_scalar_of_filled hollow filled.symm] at there
  exact named _ _ there

end

theorem isWellNamed_of_names {d made : Document} {s : Settings} (names : Names d)
    (ok : complete d = .ok made) (reads : Reads made s) : s.IsWellNamed := by
  obtain ⟨givenLists, listsThere, ok⟩ := Report.exists_of_bind_eq_ok ok
  obtain ⟨lists, listsMade, ok⟩ := Report.exists_of_bind_eq_ok ok
  obtain ⟨givenTaxonomy, taxonomyThere, ok⟩ := Report.exists_of_bind_eq_ok ok
  obtain ⟨taxonomy, taxonomyMade, ok⟩ := Report.exists_of_bind_eq_ok ok
  obtain ⟨_, -, ok⟩ := Report.exists_of_bind_eq_ok ok
  obtain ⟨countries, countriesMade, ok⟩ := Report.exists_of_bind_eq_ok ok
  obtain rfl := Except.ok.inj ok
  constructor
  · obtain ⟨x, part, read⟩ := reads.lists
    obtain ⟨y, whole, hollow, there, rfl⟩ := Document.exists_of_part? part
    obtain rfl : lists = y := Option.some.inj there
    obtain ⟨isList, named⟩ := names.lists _ (part?_of_need listsThere)
    exact isLineOf_of_readList isList named listsMade hollow read
  · obtain ⟨x, part, read⟩ := reads.taxonomy
    obtain ⟨y, whole, hollow, there, rfl⟩ := Document.exists_of_part? part
    obtain rfl : taxonomy = y := Option.some.inj there
    exact isLineOf_of_readTaxonomy (names.taxonomy _ (part?_of_need taxonomyThere)) taxonomyMade hollow read
  · obtain ⟨x, part, read⟩ := reads.countries
    obtain ⟨y, whole, hollow, there, rfl⟩ := Document.exists_of_part? part
    obtain rfl : countries = y := Option.some.inj there
    obtain ⟨fields, rfl, named⟩ := fields_of_completeCountries names countriesMade
    exact isLineOf_of_readCountries named hollow read

theorem isWellNamed_of_load {text : String} {s : Settings} (ok : load .builtIn text = .ok s) :
    s.IsWellNamed := by
  obtain ⟨made, completed, reads⟩ := Report.exists_of_bind_eq_ok ok
  obtain ⟨d, -, completed⟩ := Report.exists_of_bind_eq_ok completed
  obtain ⟨⟨⟩, checked, completed⟩ := Report.exists_of_bind_eq_ok completed
  exact isWellNamed_of_names (names_of_follows (follows_of_checkIn (Report.eq_ok_of_mapError checked)))
    (Report.eq_ok_of_mapError completed) (reads_of_settings reads)

end Config

end Codebook
