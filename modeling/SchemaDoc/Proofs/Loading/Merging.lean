-- SUMMARY: A built type joins its definition and its extensions in load order.
import SchemaDoc.Proofs.Loading.Arrangement
import SchemaDoc.Proofs.Loading.Verdict

/-!
# Merging definitions and extensions

A type of a schema declares what its definition and its extensions declare, one
after the other. Of members that are declared several times the first gives the
place and the last gives the content. Names, in contrast, are listed once.
-/

namespace SchemaDoc

/-! ## Merged entries and names -/

/-- Each name stands where it first occurs among some entries, with the value of its last occurrence. -/
structure OrderedMap.Merges {α : Type} (m : OrderedMap α) (entries : List (String × α)) : Prop where
  keys : m.keys = (entries.map Prod.fst).eraseDups
  find : ∀ name, m.find? name = entries.reverse.lookup name

theorem OrderedMap.merges_ofList {α : Type} (entries : List (String × α)) :
    (OrderedMap.ofList entries).Merges entries where
  keys := OrderedMap.keys_insertAll .empty entries
  find := by
    intro name
    rw [OrderedMap.ofList, OrderedMap.find?_insertAll]
    exact Option.or_none

theorem OrderedMap.Merges.insertAll {α : Type} {m : OrderedMap α} {entries : List (String × α)}
    (h : m.Merges entries) (more : List (String × α)) : (m.insertAll more).Merges (entries ++ more) where
  keys := by
    rw [OrderedMap.keys_insertAll, List.map_append]
    apply eraseDups_append_congr
    rw [OrderedMap.eraseDups_keys, h.keys]
  find := by
    intro name
    rw [OrderedMap.find?_insertAll, h.find, List.reverse_append, List.lookup_append]

theorem OrderedMap.Merges.mem_of_mem {α : Type} {m : OrderedMap α} {entries : List (String × α)}
    (h : m.Merges entries) {entry : String × α} (hmem : entry ∈ m.entries) : entry ∈ entries := by
  have hfind : m.find? entry.1 = some entry.2 := OrderedMap.find?_eq_some_iff.2 hmem
  rw [h.find] at hfind
  exact List.mem_reverse.1 (OrderedMap.mem_of_lookup_eq_some hfind)

theorem appendNew_of_nodup {names : List String} (h : names.Nodup) (more : List String) :
    appendNew names more = (names ++ more).eraseDups := by
  induction more generalizing names with
  | nil =>
    rw [List.append_nil, eraseDups_of_nodup h]
    rfl
  | cons name rest ih =>
    have hstep : appendNew names (name :: rest) =
        appendNew (if names.contains name then names else names ++ [name]) rest := rfl
    have hcons : names ++ name :: rest = (names ++ [name]) ++ rest := List.append_cons ..
    rw [hstep, hcons]
    by_cases hmem : name ∈ names
    · rw [if_pos (List.contains_iff_mem.2 hmem), ih h]
      apply eraseDups_append_congr
      rw [List.eraseDups_append]
      simp [List.removeAll, hmem]
    · have hnodup : (names ++ [name]).Nodup := by
        rw [List.nodup_append]
        refine ⟨h, by simp, ?_⟩
        intro other hother last hlast heq
        rw [List.mem_singleton.1 hlast] at heq
        exact hmem (heq ▸ hother)
      rw [if_neg (fun hc => hmem (List.contains_iff_mem.1 hc)), ih hnodup]

/-- Appending to names that are already listed once is appending to the names as written. -/
theorem appendNew_eraseDups (names more : List String) :
    appendNew names.eraseDups more = (names ++ more).eraseDups := by
  rw [appendNew_of_nodup (nodup_eraseDups names)]
  apply eraseDups_append_congr
  exact eraseDups_of_nodup (nodup_eraseDups names)

/-! ## What the parts of a type declare -/

namespace Sdl.TypeDeclBody

def enumValues : TypeDeclBody → List EnumValueDecl
  | .enum values => values
  | _ => []

def inputFields : TypeDeclBody → List InputDecl
  | .input fields => fields
  | _ => []

def fields : TypeDeclBody → List FieldDecl
  | .interface _ fields | .object _ fields => fields
  | _ => []

def interfaces : TypeDeclBody → List String
  | .interface interfaces _ | .object interfaces _ => interfaces
  | _ => []

def members : TypeDeclBody → List String
  | .union members => members
  | _ => []

end Sdl.TypeDeclBody

/-- Unless the first part repeats an interface, all parts together name each interface once. -/
def JoinsInterfaces (parts : List (Placed Sdl.TypeDecl)) (interfaces : List String) : Prop :=
  (∀ first ∈ parts.head?, first.decl.body.interfaces.Nodup) →
    interfaces = (parts.flatMap (·.decl.body.interfaces)).eraseDups

/-- A body joins what the definition of a type, the first part, and its extensions declare. -/
def TypeBody.Joins (name : String) (parts : List (Placed Sdl.TypeDecl)) : TypeBody → Prop
  | .enum values =>
    values.Merges (parts.flatMap fun p => EnumValue.entries p.file name p.decl.body.enumValues)
  | .input fields => fields.Merges (parts.flatMap fun p => InputValue.entries p.file p.decl.body.inputFields)
  | .interface interfaces fields | .object interfaces fields => JoinsInterfaces parts interfaces ∧
    fields.Merges (parts.flatMap fun p => Field.entries p.file name p.decl.body.fields)
  | .scalar => True
  | .union members => members = (parts.flatMap (·.decl.body.members)).eraseDups

/-- A type is its definition with its extensions after it. -/
structure TypeDef.Joins (type : TypeDef) (definition : Placed Sdl.TypeDecl) (exts : List Extension) :
    Prop where
  name : type.name = definition.decl.name
  description : type.description = definition.decl.description
  location : type.location = .inFile definition.file definition.decl.position
  kind : ∀ part ∈ definition :: exts, part.decl.body.kind = type.kind
  applied : type.applied = definition.decl.applied ++ exts.flatMap (·.decl.applied)
  body : type.body.Joins definition.decl.name (definition :: exts)

theorem JoinsInterfaces.append {parts : List (Placed Sdl.TypeDecl)} {interfaces : List String}
    (h : JoinsInterfaces parts interfaces) (part : Placed Sdl.TypeDecl) :
    JoinsInterfaces (parts ++ [part]) (appendNew interfaces part.decl.body.interfaces) := by
  intro hfirst
  have hparts := h fun first hmem => hfirst first (by
    rw [List.head?_append, Option.mem_def.1 hmem]
    rfl)
  rw [hparts, appendNew_eraseDups, List.flatMap_append, List.flatMap_singleton]

theorem TypeBody.joins_ofDecl (p : Placed Sdl.TypeDecl) :
    (TypeBody.ofDecl p.file p.decl.name p.decl.body).Joins p.decl.name [p] := by
  have hinterfaces : JoinsInterfaces [p] p.decl.body.interfaces := by
    intro hfirst
    rw [List.flatMap_singleton, eraseDups_of_nodup (hfirst p rfl)]
  obtain ⟨file, position, description, name, applied, body⟩ := p
  cases body <;> simp only [TypeBody.ofDecl, TypeBody.Joins, List.flatMap_singleton]
  case enum values => exact OrderedMap.merges_ofList _
  case input fields => exact OrderedMap.merges_ofList _
  case interface interfaces fields => exact ⟨hinterfaces, OrderedMap.merges_ofList _⟩
  case object interfaces fields => exact ⟨hinterfaces, OrderedMap.merges_ofList _⟩
  case union members => exact appendNew_of_nodup List.nodup_nil members

/-- An extension is one more part of the type. -/
theorem TypeBody.Joins.extend {name : String} {parts : List (Placed Sdl.TypeDecl)}
    {body extended : TypeBody} (h : body.Joins name parts) {part : Placed Sdl.TypeDecl}
    (hextend : body.extend part.file name part.decl.body = some extended) :
    extended.Joins name (parts ++ [part]) := by
  obtain ⟨file, position, description, other, applied, more⟩ := part
  cases body <;> cases more <;>
    simp only [TypeBody.extend, Option.some.injEq, reduceCtorEq] at hextend <;> subst hextend <;>
    simp only [TypeBody.Joins, List.flatMap_append, List.flatMap_singleton] at h ⊢
  case enum.enum values more => exact h.insertAll _
  case input.input fields more => exact h.insertAll _
  case interface.interface interfaces fields others more => exact ⟨h.1.append _, h.2.insertAll _⟩
  case object.object interfaces fields others more => exact ⟨h.1.append _, h.2.insertAll _⟩
  case union.union members more =>
    rw [h]
    exact appendNew_eraseDups _ more

theorem TypeDef.joins_typeDef (p : Placed Sdl.TypeDecl) : p.typeDef.Joins p [] where
  name := rfl
  description := rfl
  location := rfl
  kind := by
    intro part hpart
    rw [List.mem_singleton.1 hpart]
    exact (TypeBody.kind_ofDecl p.file p.decl.name p.decl.body).symm
  applied := (List.append_nil _).symm
  body := TypeBody.joins_ofDecl p

theorem TypeDef.Joins.extend {type extended : TypeDef} {definition : Placed Sdl.TypeDecl}
    {exts : List Extension} (h : type.Joins definition exts) {extension : Extension}
    (hextend : type.extend extension.file extension.decl = some extended) :
    extended.Joins definition (exts ++ [extension]) := by
  have hhead := TypeDef.sameHead_extend hextend
  obtain ⟨body, hbody, rfl⟩ := Option.map_eq_some_iff.1 hextend
  rw [h.name] at hbody
  refine ⟨hhead.name.trans h.name, hhead.description.trans h.description,
    hhead.location.trans h.location, ?_, ?_, h.body.extend hbody⟩
  · intro part hpart
    rw [hhead.kind]
    rcases List.mem_append.1 (List.cons_append ▸ hpart) with hbefore | hlast
    · exact h.kind part hbefore
    · rw [List.mem_singleton.1 hlast]
      exact TypeBody.kind_of_extend hbody
  · show type.applied ++ extension.decl.applied = _
    rw [h.applied, List.flatMap_append, List.flatMap_singleton, List.append_assoc]

theorem TypeDef.Joins.extendAll {type extended : TypeDef} {definition : Placed Sdl.TypeDecl}
    {before exts : List Extension} (h : type.Joins definition before)
    (hextend : type.extendAll exts = some extended) : extended.Joins definition (before ++ exts) := by
  -- Extensions that were added move from the list to the parts of the type.
  induction exts generalizing type before with
  | nil =>
    cases hextend
    rw [List.append_nil]
    exact h
  | cons extension rest ih =>
    rw [TypeDef.extendAll_cons] at hextend
    obtain ⟨next, hnext, hrest⟩ := Option.bind_eq_some_iff.1 hextend
    rw [List.append_cons]
    exact ih (h.extend hnext) hrest

/-! ## Types of a schema -/

namespace Schema.Completes

variable {schema : Schema} {ds : Declarations} {draft : Draft} {declared : OrderedMap TypeDef}

theorem types_eq (h : schema.Completes ds draft declared) :
    schema.types = Draft.arrangeTypes declared draft.allDirectives := by
  rw [h.eq]
  rfl

theorem directives_eq (h : schema.Completes ds draft declared) :
    schema.directives = draft.allDirectives := by
  rw [h.eq]
  rfl

theorem keys_directives (h : schema.Completes ds draft declared) :
    draft.directives.keys = ds.directives.map (·.decl.name) := by
  obtain ⟨unnamed, hrecords⟩ := h.records
  rw [OrderedMap.keys, hrecords.directives, List.map_map]
  rfl

/-- Declared directives come before built-in ones, so they are not replaced. -/
theorem find?_directive (h : schema.Completes ds draft declared) {definition : Placed Sdl.DirectiveDecl}
    (hdefinition : definition ∈ ds.directives) :
    schema.directives.find? definition.decl.name = some definition.directiveDef := by
  obtain ⟨unnamed, hrecords⟩ := h.records
  have hfirst : draft.directives.find? definition.decl.name = some definition.directiveDef := by
    rw [OrderedMap.find?_eq_some_iff, hrecords.directives]
    exact List.mem_map_of_mem hdefinition
  rw [h.directives_eq, Draft.allDirectives_eq, OrderedMap.find?_insertAllNew, hfirst]
  rfl

theorem keys_declared (h : schema.Completes ds draft declared) :
    declared.keys = ds.types.map (·.decl.name) := by
  obtain ⟨unnamed, hrecords⟩ := h.records
  rw [h.extends_types.keys, OrderedMap.keys, hrecords.types, List.map_map]
  rfl

theorem find?_declared (h : schema.Completes ds draft declared) {definition : Placed Sdl.TypeDecl}
    (hdefinition : definition ∈ ds.types) :
    ∃ type, schema.types.find? definition.decl.name = some type ∧
      definition.typeDef.extendAll (ds.extensionsOf definition.decl.name) = some type := by
  obtain ⟨unnamed, hrecords⟩ := h.records
  have hmem : definition.decl.name ∈ declared.keys := by
    rw [h.keys_declared]
    exact List.mem_map_of_mem hdefinition
  have hfirst : draft.types.find? definition.decl.name = some definition.typeDef := by
    rw [hrecords.find?_types,
      Declarations.find?_eq_of_nodup (·.decl.name) hrecords.distinct.types hdefinition]
    rfl
  obtain ⟨type, htype⟩ := Option.isSome_iff_exists.1 (OrderedMap.find?_isSome_iff.2 hmem)
  refine ⟨type, by rw [h.types_eq, Draft.find?_arrangeTypes_of_mem hmem, htype], ?_⟩
  rw [h.extends_types.find, hfirst] at htype
  exact htype

end Schema.Completes

/-- Every defined type joins its definition and its extensions; the types stand in the order of their definitions. -/
theorem Schema.types_join {documents : List Document} {schema : Schema}
    (h : Schema.ofDocuments documents = .ok schema) :
    let ds := Document.declarations documents
    (∀ definition ∈ ds.types, ∃ type, schema.types.find? definition.decl.name = some type ∧
      type.Joins definition (ds.extensionsOf definition.decl.name) ∧
      (ds.extensionsOf definition.decl.name = [] → type = definition.typeDef)) ∧
    schema.types.keys.filter (· ∈ ds.types.map (·.decl.name)) = ds.types.map (·.decl.name) := by
  intro ds
  obtain ⟨draft, declared, hcompletes⟩ := Schema.completes_of_ofDocuments h
  constructor
  · intro definition hdefinition
    obtain ⟨type, hfind, hextend⟩ := hcompletes.find?_declared hdefinition
    refine ⟨type, hfind, (TypeDef.joins_typeDef definition).extendAll hextend, ?_⟩
    intro hnone
    rw [hnone] at hextend
    cases hextend
    rfl
  · have hkeys := Draft.filter_keys_arrangeTypes declared draft.allDirectives
    rw [hcompletes.types_eq, ← hcompletes.keys_declared]
    exact hkeys

theorem TypeBody.exists_of_kind_object {body : TypeBody} (h : body.kind = .object) :
    ∃ interfaces fields, body = .object interfaces fields := by
  cases body with
  | object interfaces fields => exact ⟨interfaces, fields, rfl⟩
  | enum values => cases h
  | input fields => cases h
  | interface interfaces fields => cases h
  | scalar => cases h
  | union members => cases h

/-- A type that is extended from another file, where one of its fields is declared again. -/
def Document.extendedElsewhere : List Document :=
  [⟨some "a.graphql", "type T @a { x: Int y: Int }"⟩, ⟨some "b.graphql", "extend type T @b { x: ID z: ID }"⟩]

/-- The field that is declared twice keeps its place, and has its type and its file from the extension. -/
theorem Schema.types_join_extendedElsewhere :
    ∃ schema type interfaces fields x, Schema.ofDocuments Document.extendedElsewhere = .ok schema ∧
      schema.types.find? "T" = some type ∧ type.applied.map (·.name) = ["a", "b"] ∧
        type.body = .object interfaces fields ∧ fields.keys = ["x", "y", "z"] ∧ fields.find? "x" = some x ∧
          x.type = .named "ID" true ∧ x.location = .inFile "b.graphql" ⟨1, 20⟩ := by
  have hok : (Schema.ofDocuments Document.extendedElsewhere).isOk = true := by decide +kernel
  have htypes : (Document.declarations Document.extendedElsewhere).types.map
      (fun p => (p.decl.name, p.decl.body.kind, p.decl.applied.map (·.name))) = [("T", .object, ["a"])] := by
    decide +kernel
  have hexts : ((Document.declarations Document.extendedElsewhere).extensionsOf "T").flatMap
      (·.decl.applied.map (·.name)) = ["b"] := by decide +kernel
  have hkeys : (((Document.declarations Document.extendedElsewhere).types ++
      (Document.declarations Document.extendedElsewhere).extensionsOf "T").flatMap fun p =>
        Field.entries p.file "T" p.decl.body.fields).map Prod.fst = ["x", "y", "x", "z"] := by decide +kernel
  have hlast : ((((Document.declarations Document.extendedElsewhere).types ++
      (Document.declarations Document.extendedElsewhere).extensionsOf "T").flatMap fun p =>
        Field.entries p.file "T" p.decl.body.fields).reverse.lookup "x").map (fun x => (x.type, x.location)) =
      some (.named "ID" true, .inFile "b.graphql" ⟨1, 20⟩) := by decide +kernel
  obtain ⟨schema, hschema⟩ := Schema.exists_of_isOk hok
  obtain ⟨hjoins, -⟩ := Schema.types_join hschema
  obtain ⟨definition, rest, hcons, hdefinition, hrest⟩ := List.map_eq_cons_iff.1 htypes
  obtain rfl := List.map_eq_nil_iff.1 hrest
  simp only [Prod.mk.injEq] at hdefinition
  obtain ⟨hname, hkind, hdirectives⟩ := hdefinition
  obtain ⟨type, hfind, htype, -⟩ := hjoins definition (hcons ▸ List.mem_cons_self)
  rw [hname] at hfind htype
  have hobject : type.body.kind = .object := (htype.kind definition List.mem_cons_self).symm.trans hkind
  obtain ⟨interfaces, fields, hbody⟩ := TypeBody.exists_of_kind_object hobject
  have hmerges := htype.body
  rw [hbody, hname] at hmerges
  rw [hcons, List.singleton_append] at hkeys hlast
  rw [← hmerges.2.find, Option.map_eq_some_iff] at hlast
  obtain ⟨x, hx, htypeOf⟩ := hlast
  simp only [Prod.mk.injEq] at htypeOf
  refine ⟨schema, type, interfaces, fields, x, hschema, hfind, ?_, hbody, ?_, hx, htypeOf⟩
  · rw [htype.applied, List.map_append, List.map_flatMap, hdirectives, hexts]
    rfl
  · rw [hmerges.2.keys, hkeys]
    decide

end SchemaDoc
