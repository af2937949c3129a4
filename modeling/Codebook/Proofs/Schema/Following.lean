import Codebook.Proofs.Keyed
import Codebook.Proofs.Report
import Codebook.Proofs.Schema.Search

/-!
# Following a schema

What a document shows that follows a schema of the seventh draft: its kind, the expression that a text
meets, and that its fields and items follow the schemas that are there for them. The schemas are those
that neither refer to other ones nor name a dialect.
-/

namespace Codebook.Schema

open Application Search

/-- A schema that is applied to a part of a document without a violation. -/
def Follows (schema d : Document) : Prop :=
  ∃ depth a, a.around = .draft7 ∧ a.dialect = .draft7 ∧ a.schema = schema ∧ Yields (applied depth a d) ()

/-- The fields of a schema that neither refers to another one nor names a dialect. -/
structure Plain (fields : List (String × Document)) : Prop where
  noReference : (Document.ofFields fields).field? "$ref" = none
  noDialect : (Document.ofFields fields).field? "$schema" = none

theorem isMapping_ofFields (fields : List (String × Document)) :
    (Document.ofFields fields).isMapping = true := rfl

/-! ## From a check -/

theorem eq_nil_of_reported {found : List Violation} {fault? : Option SchemaFault}
    (reported : Violation.reported found fault? = .ok none) : found = [] ∧ fault? = none := by
  cases found with
  | nil =>
    cases fault? with
    | none => exact ⟨rfl, rfl⟩
    | some fault => cases reported
  | cons v rest =>
    rw [Violation.reported] at reported
    obtain ⟨_, -, reported⟩ := Report.exists_of_bind_eq_ok reported
    obtain ⟨best, -, reported⟩ := Report.exists_of_bind_eq_ok reported
    cases fault? with
    | none =>
      obtain ⟨inner, -, last⟩ := Report.exists_of_bind_eq_ok reported
      cases last
    | some fault => cases reported

theorem yields_of_result {s : Search Unit} (nothing : s.result = ([], none)) : Yields s () := by
  rw [Search.result] at nothing
  rcases run : s.run.run #[] with ⟨_ | ⟨⟩, found⟩
  · rw [run] at nothing
    cases (Prod.mk.inj nothing).2
  · rw [run] at nothing
    obtain rfl := Array.toList_eq_nil_iff.1 (Prod.mk.inj nothing).1
    exact run

theorem follows_of_checkIn {fields : List (String × Document)} {d : Document}
    (passes : checkIn .draft7 (.ofFields fields) d = .ok ()) : Follows (.ofFields fields) d := by
  refine ⟨depthLimit, application .draft7 (.ofFields fields), rfl, rfl, rfl, yields_of_result ?_⟩
  rw [checkIn, violations] at passes
  rcases result : ((application .draft7 (.ofFields fields)).search d).result with ⟨found, fault?⟩
  rw [result] at passes
  dsimp only at passes
  split at passes
  · next nothing =>
    obtain ⟨rfl, rfl⟩ := eq_nil_of_reported nothing
    exact result
  · cases passes
  · cases passes

/-! ## Keywords -/

section

variable {fields sub : List (String × Document)} {d x : Document} {keyword : String} {value : Document}

theorem keywords_ofFields (plain : Plain fields) {a : Application} (schema : a.schema = .ofFields fields) :
    a.keywords = .ok (fields.filter fun (keyword, _) => a.dialect.knows keyword) := by
  have reference := plain.noReference
  have all : (fields.map fun f => (Scalar.text f.1, f.2)).map
      (fun f : Scalar × Document => (f.1.plainText, f.2)) = fields := by
    rw [List.map_map]
    exact List.map_id fields
  rw [Document.ofFields] at reference schema
  rw [keywords, schema]
  dsimp only
  rw [reference, all]
  cases a.around.hasLoneReferences <;> rfl

/-- Each keyword of a schema is applied without a violation. -/
theorem Follows.applies (plain : Plain fields) (follows : Follows (.ofFields fields) d)
    (there : (keyword, value) ∈ fields) (known : Dialect.draft7.knows keyword = true) :
    ∃ depth, ∃ a : Application, a.dialect = .draft7 ∧ a.schema = .ofFields fields ∧
      Yields (a.applyOne? (applied depth) keyword value d) () := by
  obtain ⟨depth, a, around, dialect, schema, yields⟩ := follows
  cases depth with
  | zero => cases yields
  | succ depth =>
    rw [applied] at yields
    obtain ⟨all, keywords, yields⟩ := yields_get_bind yields
    rw [keywords_ofFields plain schema, dialect] at keywords
    obtain rfl := Except.ok.inj keywords
    obtain ⟨⟨⟩, loop, -⟩ := yields_bind (fun _ => grows_pure _) yields
    refine ⟨depth, a, dialect, schema, ?_⟩
    have each := forall_of_yields_forIn
      (P := fun f : String × Document => Yields (a.applyOne? (applied depth) f.1 f.2 d) ())
      (fun _ _ => grows_bind (grows_changed _ _) fun _ => grows_pure _)
      (fun _ _ _ goesOn => (yields_goOn goesOn).imp_right yields_changed.1) loop
    exact each (keyword, value) (List.mem_filter.2 ⟨there, known⟩)

theorem not_yields_report {a : Application} {breach : Breach} :
    ¬ Yields (a.report keyword d breach) () := by
  rw [report, reportFrom]
  split
  · exact fun yields => nomatch yields
  · exact not_yields_add

theorem grows_descend (a : Application) (apply : Apply) (schema d : Document)
    (step schemaStep : Option Scalar) : Grows (a.descend apply schema d step schemaStep) := by
  rw [descend.eq_def]
  split
  · exact grows_pure _
  · rw [refuse]
    split
    · exact grows_throw _
    · exact grows_add _
  · refine grows_bind (grows_get _) fun _ => grows_bind (grows_get _) fun _ => ?_
    rw [descendAt.eq_def]
    split
    · exact grows_pure _
    · rw [refuse]
      split
      · exact grows_throw _
      · exact grows_add _
    · exact grows_bind (grows_get _) fun _ => grows_changed _ _

theorem follows_of_descend {a : Application} {depth : Nat} {step schemaStep : Option Scalar}
    (dialect : a.dialect = .draft7) (plain : Plain sub)
    (yields : Yields (a.descend (applied depth) (.ofFields sub) d step schemaStep) ()) :
    Follows (.ofFields sub) d := by
  obtain ⟨name, -, yields⟩ := yields_get_bind yields
  obtain ⟨resolver, -, yields⟩ := yields_get_bind yields
  obtain ⟨b, inner, yields⟩ := yields_get_bind yields
  obtain ⟨found, named, rfl⟩ := Report.exists_of_map_eq_ok inner
  refine ⟨depth, _, dialect, ?_, rfl, yields_changed.1 yields⟩
  have same : a.dialect.ofSchema (.ofFields sub) = .ok a.dialect := by
    have none := plain.noDialect
    rw [Document.ofFields] at none ⊢
    rw [Dialect.ofSchema, none]
  rw [same] at named
  rw [← Except.ok.inj named, dialect]

theorem isMapping_of_mem_fields {f : Scalar × Document} (field : f ∈ d.fields) : d.isMapping = true := by
  cases d with
  | mapping => rfl
  | scalar | list | pair | set | enclosing => cases field

/-- A field that is there follows the schema for its name. -/
theorem Follows.part (plain : Plain fields) (follows : Follows (.ofFields fields) d)
    {properties : List (String × Document)} (there : ("properties", .ofFields properties) ∈ fields)
    {name : String} (named : (name, .ofFields sub) ∈ properties) (inner : Plain sub)
    (part : d.part? name = some x) : Follows (.ofFields sub) x := by
  obtain ⟨depth, a, dialect, -, yields⟩ := follows.applies plain there (by decide)
  change Yields (a.applyFields (applied depth) (.ofFields properties) d) () at yields
  rw [applyFields, if_pos (isMapping_of_mem_fields (Keyed.mem_of_get? part))] at yields
  have all : (fieldsOf (.ofFields properties) : Search _) = pure properties := by
    rw [Document.ofFields, fieldsOf, List.map_map]
    exact congrArg pure (List.map_id properties)
  rw [all, pure_bind] at yields
  obtain ⟨⟨⟩, loop, -⟩ := yields_bind (fun _ => grows_pure _) yields
  have each := forall_of_yields_forIn
    (P := fun f : String × Document => ∀ x, d.part? f.1 = some x →
      Yields (a.descend (applied depth) f.2 x (some (.text f.1)) (some (.text f.1))) ())
    (fun f _ => by
      dsimp only
      split
      · exact grows_bind (grows_descend a _ _ _ _ _) fun _ => grows_pure _
      · rw [dialect]
        exact grows_pure _)
    (fun f _ step goesOn => by
      dsimp only at goesOn
      split at goesOn
      · next x there =>
        refine (yields_goOn goesOn).imp_right fun descends y here => ?_
        rwa [← Option.some.inj (there.symm.trans here)]
      · next absent =>
        rw [dialect] at goesOn
        exact ⟨(yields_pure.1 goesOn).symm, fun y here => nomatch absent.symm.trans here⟩) loop
  exact follows_of_descend dialect inner (each _ named x part)

theorem applyItems_of_isList {a : Application} {apply : Apply} (dialect : a.dialect = .draft7)
    (isList : d.isList = true) :
    a.applyItems apply (.ofFields sub) d = a.applyFrom apply 0 (.ofFields sub) d.items := by
  rw [applyItems.eq_def, if_pos isList, dialect]
  rfl

/-- The items of a list follow the schema for them. -/
theorem Follows.item (plain : Plain fields) (follows : Follows (.ofFields fields) d)
    (there : ("items", .ofFields sub) ∈ fields) (inner : Plain sub) (isList : d.isList = true)
    (item : x ∈ d.items) : Follows (.ofFields sub) x := by
  obtain ⟨depth, a, dialect, -, yields⟩ := follows.applies plain there (by decide)
  change Yields (a.applyItems (applied depth) (.ofFields sub) d) () at yields
  rw [applyItems_of_isList dialect isList] at yields
  obtain ⟨⟨⟩, loop, -⟩ := yields_bind (fun _ => grows_pure _) yields
  have each := forall_of_yields_forIn (P := fun p : Document × Nat => Follows (.ofFields sub) p.1)
    (fun _ _ => grows_bind (grows_descend a _ _ _ _ _) fun _ => grows_pure _)
    (fun _ _ _ goesOn => (yields_goOn goesOn).imp_right (follows_of_descend dialect inner)) loop
  obtain ⟨index, here⟩ := List.mem_iff_getElem?.1 item
  exact each (x, index) (List.mem_zipIdx_iff_getElem?.2 here)

theorem filterAuxM_true {α : Type} (items kept : List α) :
    (items.filterAuxM (fun _ => pure true) kept : Search (List α)) = pure (items.reverse ++ kept) := by
  induction items generalizing kept with
  | nil => rfl
  | cons a rest ih =>
    rw [List.filterAuxM, pure_bind, ih]
    simp

theorem extraKeys_of_noNames {a : Application} (noNames : a.schema.field? "properties" = none)
    (noPatterns : a.schema.field? "patternProperties" = none) : a.extraKeys d = pure d.fields := by
  have all : a.extraKeys d = d.fields.filterM fun _ => pure true := by
    rw [extraKeys, noNames, noPatterns]
    rfl
  rw [all, List.filterM, filterAuxM_true, pure_bind, List.append_nil, List.reverse_reverse]

/-- Where no names are told, the values of all fields follow the schema for others. -/
theorem Follows.extra (plain : Plain fields) (follows : Follows (.ofFields fields) d)
    (there : ("additionalProperties", .ofFields sub) ∈ fields) (inner : Plain sub)
    (noNames : (Document.ofFields fields).field? "properties" = none)
    (noPatterns : (Document.ofFields fields).field? "patternProperties" = none)
    {key : Scalar} (field : (key, x) ∈ d.fields) : Follows (.ofFields sub) x := by
  obtain ⟨depth, a, dialect, schema, yields⟩ := follows.applies plain there (by decide)
  change Yields (a.applyExtra (applied depth) (.ofFields sub) d) () at yields
  rw [applyExtra, if_pos (isMapping_of_mem_fields field), extraKeys_of_noNames (schema ▸ noNames)
    (schema ▸ noPatterns), pure_bind, if_pos (isMapping_ofFields sub)] at yields
  obtain ⟨⟨⟩, loop, -⟩ := yields_bind (fun _ => grows_pure _) yields
  have each := forall_of_yields_forIn (P := fun f : Scalar × Document => Follows (.ofFields sub) f.2)
    (fun _ _ => grows_bind (grows_descend a _ _ _ _ _) fun _ => grows_pure _)
    (fun _ _ _ goesOn => (yields_goOn goesOn).imp_right (follows_of_descend dialect inner)) loop
  exact each (key, x) field

/-- A document is of the kind that is asked for. -/
theorem Follows.kind (plain : Plain fields) (follows : Follows (.ofFields fields) d)
    {name : String} (there : ("type", .ofText name) ∈ fields) {kind : Kind}
    (known : Dialect.draft7.kindNamed? name = some kind) : Dialect.draft7.admits kind d = true := by
  obtain ⟨depth, a, dialect, -, yields⟩ := follows.applies plain there (by decide)
  have asks : a.applyOne? (applied depth) "type" (.ofText name) d = (a.askKind (.ofText name) d >>= pure) := by
    show (if a.dialect == .draft3 then pure () else a.askKind (.ofText name) d) >>=
      (fun _ => if a.dialect == .draft3 then a.applyKinds (applied depth) (.ofText name) d else pure ()) = _
    rw [dialect]
    rfl
  rw [asks, bind_pure, askKind] at yields
  obtain ⟨kinds, same, yields⟩ := yields_get_bind yields
  cases same
  obtain ⟨ok, found, yields⟩ := yields_get_bind yields
  have single (unknown : SchemaFault) :
      a.isOfKind d (.ofText name) unknown = .ok (Dialect.draft7.admits kind d) := by
    rw [Document.ofText, isOfKind, dialect, known]
  rw [isOfSomeKind, single] at found
  cases admits : Dialect.draft7.admits kind d with
  | true => rfl
  | false =>
    rw [admits] at found
    cases found
    exact absurd yields not_yields_report

/-- A text meets the expression that is asked for. -/
theorem Follows.meets (plain : Plain fields) {s : String}
    (follows : Follows (.ofFields fields) (.scalar (.text s)))
    {source : String} (there : ("pattern", .ofText source) ∈ fields) :
    ∃ e, Expression.ofText source = .ok e ∧ e.meets s = true := by
  obtain ⟨depth, a, -, -, yields⟩ := follows.applies plain there (by decide)
  change Yields (a.askPattern (.ofText source) (.scalar (.text s)) >>= pure) () at yields
  rw [bind_pure] at yields
  obtain ⟨e, read, yields⟩ := yields_get_bind yields
  refine ⟨e, Report.eq_ok_of_mapError read, ?_⟩
  cases meets : e.meets s with
  | true => rfl
  | false =>
    rw [meets] at yields
    exact absurd yields not_yields_report

end

end Codebook.Schema
