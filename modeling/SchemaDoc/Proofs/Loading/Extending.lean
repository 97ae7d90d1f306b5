-- SUMMARY: Adding extensions to declared types: each type takes its own extensions in order, or the first misfit is reported.
import SchemaDoc.Proofs.Loading.Declarations
import SchemaDoc.Proofs.OrderedMap

/-!
# Extending declared types

Extensions are added one after the other to a map of types. An extension touches
the one type that it names and leaves its kind as it was, so whether an
extension fits can be said of the types as they were at the start, and what
becomes of a type depends on its own extensions only.
-/

namespace SchemaDoc

/-! ## One type -/

theorem TypeBody.kind_ofDecl (file name : String) (body : Sdl.TypeDeclBody) :
    (TypeBody.ofDecl file name body).kind = body.kind := by
  cases body <;> rfl

theorem TypeBody.kind_extend {file name : String} {body extended : TypeBody} {more : Sdl.TypeDeclBody}
    (h : body.extend file name more = some extended) : extended.kind = body.kind := by
  cases body <;> cases more <;> simp only [TypeBody.extend, Option.some.injEq, reduceCtorEq] at h <;>
    subst h <;> rfl

theorem TypeBody.extend_eq_none_iff {file name : String} {body : TypeBody} {more : Sdl.TypeDeclBody} :
    body.extend file name more = none ↔ body.kind ≠ more.kind := by
  have h := TypeBody.extend_isSome file name body more
  rw [← Option.not_isSome_iff_eq_none, h]
  simp

/-- A body is only extended by one of its kind. -/
theorem TypeBody.kind_of_extend {file name : String} {body extended : TypeBody}
    {more : Sdl.TypeDeclBody} (h : body.extend file name more = some extended) :
    more.kind = body.kind := by
  have hsome := TypeBody.extend_isSome file name body more
  rw [h] at hsome
  exact (beq_iff_eq.1 hsome.symm).symm

/-- What an extension leaves as it was. -/
structure TypeDef.SameHead (type other : TypeDef) : Prop where
  name : other.name = type.name
  description : other.description = type.description
  location : other.location = type.location
  kind : other.kind = type.kind

theorem TypeDef.sameHead_extend {type extended : TypeDef} {file : String} {extension : Sdl.TypeDecl}
    (h : type.extend file extension = some extended) : type.SameHead extended := by
  obtain ⟨body, hbody, rfl⟩ := Option.map_eq_some_iff.1 h
  exact ⟨rfl, rfl, rfl, TypeBody.kind_extend hbody⟩

/-- The type with several extensions added in order, if all are of its kind. -/
def TypeDef.extendAll (type : TypeDef) (exts : List Extension) : Option TypeDef :=
  exts.foldlM (fun type extension => type.extend extension.file extension.decl) type

@[simp] theorem TypeDef.extendAll_nil (type : TypeDef) : type.extendAll [] = some type := rfl

theorem TypeDef.extendAll_cons (type : TypeDef) (extension : Extension) (exts : List Extension) :
    type.extendAll (extension :: exts) = (type.extend extension.file extension.decl).bind (·.extendAll exts) := rfl

/-! ## One extension -/

/-- Why an extension cannot be added, given the kinds of the defined types. -/
def Extension.fault? (kindOf : String → Option TypeKind) (extension : Extension) : Option BuildError :=
  match kindOf extension.decl.name with
  | none => some (.extensionOfUndefined extension.decl.name (.inFile extension.file extension.decl.position))
  | some kind =>
    if kind = extension.decl.body.kind then none
    else some (.extensionOfOtherKind extension.decl.name kind extension.decl.body.kind
      (.inFile extension.file extension.decl.position))

theorem Extension.fault?_eq_none_iff {kindOf : String → Option TypeKind} {extension : Extension} :
    extension.fault? kindOf = none ↔ kindOf extension.decl.name = some extension.decl.body.kind := by
  unfold Extension.fault?
  cases h : kindOf extension.decl.name with
  | none => simp
  | some kind => simp

/-- The kind of the type under a name. -/
def OrderedMap.kindOf (types : OrderedMap TypeDef) (name : String) : Option TypeKind :=
  (types.find? name).map TypeDef.kind

namespace Draft

variable {types : OrderedMap TypeDef} {extension : Extension}

theorem extendType_of_fault {e : BuildError} (h : extension.fault? types.kindOf = some e) :
    extendType types extension = .error e := by
  unfold Extension.fault? OrderedMap.kindOf at h
  unfold extendType
  cases hfind : types.find? extension.decl.name with
  | none =>
    simp only [hfind, Option.map_none, Option.some.injEq] at h
    subst h
    rfl
  | some type =>
    simp only [hfind, Option.map_some] at h
    by_cases hkind : type.kind = extension.decl.body.kind
    · simp [hkind] at h
    · have hnone : type.extend extension.file extension.decl = none := by
        rw [TypeDef.extend, Option.map_eq_none_iff]
        exact TypeBody.extend_eq_none_iff.2 hkind
      rw [if_neg hkind, Option.some.injEq] at h
      subst h
      simp only [hnone]

/-- The type that the extension names takes it up, all others stay. -/
theorem extendType_of_fits (h : extension.fault? types.kindOf = none) :
    ∃ result, extendType types extension = .ok result ∧ result.keys = types.keys ∧
      ∀ name, result.find? name = (types.find? name).bind fun type =>
        if extension.decl.name = name then type.extend extension.file extension.decl else some type := by
  have hkind := Extension.fault?_eq_none_iff.1 h
  obtain ⟨type, hfind, hkind⟩ := Option.map_eq_some_iff.1 hkind
  have hsome : (type.extend extension.file extension.decl).isSome := by
    rw [TypeDef.extend, Option.isSome_map, TypeBody.extend_isSome, beq_iff_eq]
    exact hkind
  obtain ⟨extended, hext⟩ := Option.isSome_iff_exists.1 hsome
  have hmem : extension.decl.name ∈ types.keys := by
    rw [← OrderedMap.find?_isSome_iff, hfind]
    rfl
  refine ⟨types.insert extension.decl.name extended, ?_, OrderedMap.keys_insert_of_mem extended hmem, ?_⟩
  · simp only [extendType, hfind, hext]
  · intro name
    rw [OrderedMap.find?_insert]
    by_cases hname : name = extension.decl.name
    · subst hname
      simp [hfind, hext]
    · have hname' : extension.decl.name ≠ name := fun e => hname e.symm
      simp [hname, hname']

/-! ## All extensions -/

/-- The types with all extensions added: each has its own, in order. -/
structure Extends (types : OrderedMap TypeDef) (exts : List Extension) (result : OrderedMap TypeDef) :
    Prop where
  keys : result.keys = types.keys
  find : ∀ name, result.find? name =
    (types.find? name).bind (·.extendAll (exts.filter (·.decl.name == name)))

/-- Kinds stay, so the extensions that follow fit as they did before. -/
theorem kindOf_extendType {result : OrderedMap TypeDef} (hkeys : result.keys = types.keys)
    (hfind : ∀ name, result.find? name = (types.find? name).bind fun type =>
      if extension.decl.name = name then type.extend extension.file extension.decl else some type) :
    result.kindOf = types.kindOf := by
  funext name
  unfold OrderedMap.kindOf
  cases htype : types.find? name with
  | none => rw [hfind, htype]; rfl
  | some type =>
    have hmem : name ∈ result.keys := by
      rw [hkeys, ← OrderedMap.find?_isSome_iff, htype]
      rfl
    obtain ⟨extended, hextended⟩ := Option.isSome_iff_exists.1 (OrderedMap.find?_isSome_iff.2 hmem)
    have hstep := hfind name
    rw [hextended, htype, Option.bind_some] at hstep
    rw [hextended, Option.map_some, Option.map_some]
    split at hstep
    · rw [(TypeDef.sameHead_extend hstep.symm).kind]
    · cases hstep
      rfl

/-- Adding extensions reports the first that does not fit, and otherwise extends each type. -/
theorem foldlM_extendType (exts : List Extension) (types : OrderedMap TypeDef) :
    match exts.findSome? (·.fault? types.kindOf) with
    | some e => exts.foldlM extendType types = .error e
    | none => ∃ result, exts.foldlM extendType types = .ok result ∧ Extends types exts result := by
  induction exts generalizing types with
  | nil =>
    refine ⟨types, rfl, rfl, ?_⟩
    intro name
    simp
  | cons extension rest ih =>
    rw [List.findSome?_cons, List.foldlM_cons]
    cases hfault : extension.fault? types.kindOf with
    | some e =>
      simp only [extendType_of_fault hfault]
      rfl
    | none =>
      obtain ⟨next, hstep, hkeys, hfind⟩ := extendType_of_fits hfault
      have hrest := ih next
      -- The faults that follow are stated for the types before this step.
      rw [kindOf_extendType hkeys hfind] at hrest
      simp only [hstep]
      cases hfaults : rest.findSome? (·.fault? types.kindOf) with
      | some e =>
        rw [hfaults] at hrest
        exact hrest
      | none =>
        rw [hfaults] at hrest
        obtain ⟨result, hresult, hextends⟩ := hrest
        refine ⟨result, hresult, hextends.keys.trans hkeys, ?_⟩
        intro name
        rw [hextends.find, hfind, Option.bind_assoc]
        congr 1
        funext type
        by_cases hname : extension.decl.name = name
        · simp [hname, TypeDef.extendAll_cons]
        · simp [hname]

end Draft

end SchemaDoc
