-- SUMMARY: The definitions of a document have proper names and defaults, and types that fit between the brackets around them.
import SchemaDoc.Proofs.Page.Outline
import SchemaDoc.Proofs.Sdl.Values

/-!
# Well-formed definitions

Every name in a definition is a name, and no type nests lists deeper than the
brackets around it leave room for. So what a document defines can be written
down again. Every default is a value as documents can hold it.
-/

namespace SchemaDoc

namespace Sdl

open Value

/-- What a definition declares fits. -/
def Definition.Fits (room : Nat) : Definition → Prop
  | .roots _ => True
  | .type decl | .extension decl => decl.outline.Fits room
  | .directive decl => decl.outline.Fits room

/-- All arguments and input fields of a type. -/
def TypeDeclBody.inputs : TypeDeclBody → List InputDecl
  | .input fields => fields
  | .interface _ fields | .object _ fields => fields.flatMap (·.args)
  | .enum _ | .scalar | .union _ => []

/-- All arguments and input fields that a definition declares. -/
def Definition.inputs : Definition → List InputDecl
  | .roots _ => []
  | .type decl | .extension decl => decl.body.inputs
  | .directive decl => decl.args

/-- Every default in a definition is a value of a document. -/
def Definition.Loadable (definition : Definition) : Prop :=
  ∀ input ∈ definition.inputs, LoadableDefault input.default?

namespace Reader.Gives

variable {room : Nat}

/-! ## Types and applied directives -/

theorem nullability {type : TypeRef} (h : type.fits room = true) :
    Gives (nullability type) room room fun type => type.fits room = true := by
  refine skip_bind (plain rfl) (fun _ => pure ?_) (pure h)
  cases type with
  | named name nullable => exact h
  | list item nullable =>
    cases room with
    | zero => cases h
    | succ inner => exact h

theorem typeWithin (depth : Nat) :
    Gives (typeWithin depth) room room fun type => type.fits room = true := by
  induction depth generalizing room with
  | zero => exact unexpected
  | succ depth ih =>
    refine skip_bind (opens rfl) (fun hroom => ?_) ?_
    · obtain ⟨inner, rfl⟩ : ∃ inner, room = inner + 1 := ⟨room - 1, by omega⟩
      exact ih.bind fun item hitem => (closes rfl).bind fun _ _ => nullability hitem
    · exact name.bind fun text htext => nullability htext

theorem typeRef : Gives typeRef room room fun type => type.fits room = true :=
  fun ts => typeWithin ts.length ts

theorem appliedDirective : Gives appliedDirective room room fun _ => True :=
  (plain rfl).bind fun _ _ => name.bind fun _ _ =>
    (optionalList rfl rfl (entry (value true _))).map fun _ _ => trivial

theorem appliedDirectives : Gives appliedDirectives room room fun _ => True :=
  (many appliedDirective).mono fun _ _ => trivial

/-! ## Members -/

/-- A description takes a string or nothing. -/
theorem description : Gives description room room fun _ => True := by
  intro ts a ts' hts hok
  cases ts with
  | nil =>
    cases hok
    exact ⟨hts, trivial⟩
  | cons t ts =>
    simp only [Sdl.description] at hok
    split at hok
    · next hstring =>
      have htoken : Gives (some <$> Reader.token (stringValue? documentLetters)) room room fun _ => True := by
        refine map (P := fun _ => True) (token ?_ fun _ _ _ _ => trivial) fun _ _ => trivial
        intro l s hl
        cases l with
        | mark c => cases hl
        | _ => rfl
      exact htoken _ _ _ hts hok
    · cases hok
      exact ⟨hts, trivial⟩

theorem inputDecl : Gives inputDecl room room fun decl => decl.outline.Fits room ∧ LoadableDefault decl.default? := by
  refine position.bind fun _ _ => description.bind fun _ _ => name.bind fun text htext =>
    (plain rfl).bind fun _ _ => typeRef.bind fun type htype => ?_
  refine skip_bind (plain rfl) (fun _ => ?_) ?_
  · have hvalue : ∀ v : Value, v.Loadable → LoadableDefault (some v) := by
      intro v hv w hw
      rwa [← Option.some.inj hw]
    exact bind (map (value false room) hvalue) fun _ hdefault =>
      appliedDirectives.map fun _ _ => ⟨⟨htext, htype⟩, hdefault⟩
  · exact bind (P := LoadableDefault) (pure nofun) fun _ hdefault =>
      appliedDirectives.map fun _ _ => ⟨⟨htext, htype⟩, hdefault⟩

theorem fieldDecl : Gives fieldDecl room room fun decl =>
    decl.outline.Fits room ∧ ∀ arg ∈ decl.args, LoadableDefault arg.default? :=
  position.bind fun _ _ => description.bind fun _ _ => name.bind fun _ htext =>
    (optionalList rfl rfl inputDecl).bind fun _ hargs => (plain rfl).bind fun _ _ =>
      typeRef.bind fun _ htype => appliedDirectives.map fun _ _ =>
        ⟨⟨htext, htype, List.forall_mem_map.2 fun arg harg => ⟨(hargs arg harg).1, (hargs arg harg).2.1⟩⟩,
          fun arg harg => (hargs arg harg).2.2⟩

theorem enumValueDecl : Gives enumValueDecl room room fun decl => isName decl.name = true :=
  position.bind fun _ _ => description.bind fun _ _ => name.bind fun _ htext =>
    appliedDirectives.map fun _ _ => htext

/-! ## Definitions -/

theorem interfaces : Gives interfaces room room fun names => ∀ name ∈ names, isName name = true :=
  skip_bind (plain rfl) (fun _ => separated rfl name) (pure (by simp))

/-- The fields between braces fit there, and so do the defaults of their arguments. -/
theorem fields {fields : List FieldDecl}
    (h : ∀ field ∈ fields, 0 < room ∧ field.outline.Fits (room - 1) ∧
      ∀ arg ∈ field.args, LoadableDefault arg.default?) :
    (∀ field ∈ fields.map FieldDecl.outline, 0 < room ∧ field.Fits (room - 1)) ∧
      ∀ input ∈ fields.flatMap (·.args), LoadableDefault input.default? := by
  constructor
  · exact List.forall_mem_map.2 fun field hfield => ⟨(h field hfield).1, (h field hfield).2.1⟩
  · intro input hinput
    obtain ⟨field, hfield, harg⟩ := List.mem_flatMap.1 hinput
    exact (h field hfield).2.2 input harg

theorem typeDecl (description : Option String) : Gives (typeDecl description) room room fun decl =>
    decl.outline.Fits room ∧ ∀ input ∈ decl.body.inputs, LoadableDefault input.default? := by
  have hnone {decl : TypeDecl} (h : decl.body.inputs = []) :
      ∀ input ∈ decl.body.inputs, LoadableDefault input.default? := by
    simp [h]
  refine position.bind fun place _ => name.bind fun keyword _ => ?_
  split
  · exact name.bind fun _ htext => appliedDirectives.map fun _ _ => ⟨htext, hnone rfl⟩
  · exact name.bind fun _ htext => interfaces.bind fun _ hinterfaces => appliedDirectives.bind fun _ _ =>
      (optionalList rfl rfl fieldDecl).map fun _ hfields =>
        ⟨⟨htext, hinterfaces, (fields hfields).1⟩, (fields hfields).2⟩
  · exact name.bind fun _ htext => interfaces.bind fun _ hinterfaces => appliedDirectives.bind fun _ _ =>
      (optionalList rfl rfl fieldDecl).map fun _ hfields =>
        ⟨⟨htext, hinterfaces, (fields hfields).1⟩, (fields hfields).2⟩
  · refine name.bind fun _ htext => appliedDirectives.bind fun _ _ => ?_
    refine skip_bind (plain rfl) (fun _ => ?_) ?_
    · exact (separated rfl name).map fun _ hmembers => ⟨⟨htext, hmembers⟩, hnone rfl⟩
    · exact bind (P := fun members => ∀ member ∈ members, isName member = true) (pure (by simp))
        fun _ hmembers => pure ⟨⟨htext, hmembers⟩, hnone rfl⟩
  · exact name.bind fun _ htext => appliedDirectives.bind fun _ _ =>
      (optionalList rfl rfl enumValueDecl).map fun _ hvalues =>
        ⟨⟨htext, List.forall_mem_map.2 hvalues⟩, hnone rfl⟩
  · exact name.bind fun _ htext => appliedDirectives.bind fun _ _ =>
      (optionalList rfl rfl inputDecl).map fun _ hfields =>
        ⟨⟨htext, List.forall_mem_map.2 fun field hfield => ⟨(hfields field hfield).1, (hfields field hfield).2.1⟩⟩,
          fun field hfield => (hfields field hfield).2.2⟩
  · exact failAt _

theorem extensionDecl : Gives extensionDecl room room fun decl =>
    decl.outline.Fits room ∧ ∀ input ∈ decl.body.inputs, LoadableDefault input.default? := by
  refine (plain rfl).bind fun _ _ => (typeDecl none).bind fun decl hdecl => ?_
  split
  · exact failAt _
  · exact pure hdecl

theorem directiveLocation :
    Gives directiveLocation room room fun location => directiveLocations.contains location = true := by
  refine token ?_ ?_
  · intro l location hl
    cases l with
    | mark c => cases hl
    | _ => rfl
  · intro l location _ hl
    cases l with
    | name text =>
      simp only at hl
      split at hl
      · next hcontains =>
        cases hl
        exact hcontains
      · cases hl
    | _ => cases hl

theorem locations : Gives locations room room
    fun names => ∀ location ∈ names, directiveLocations.contains location = true := by
  intro ts names ts' hts hok
  simp only [Sdl.locations] at hok
  split at hok
  · exact separated rfl directiveLocation ts names ts' hts hok
  · cases hok
    exact ⟨hts, by simp⟩

theorem directiveDecl (description : Option String) : Gives (directiveDecl description) room room fun decl =>
    decl.outline.Fits room ∧ ∀ arg ∈ decl.args, LoadableDefault arg.default? := by
  refine position.bind fun place _ => (plain rfl).bind fun _ _ => (plain rfl).bind fun _ _ =>
    name.bind fun text htext => (optionalList rfl rfl inputDecl).bind fun args hargs => ?_
  have hfits : ∀ arg ∈ args, 0 < room ∧ arg.outline.Fits (room - 1) :=
    fun arg harg => ⟨(hargs arg harg).1, (hargs arg harg).2.1⟩
  have hrest (repeatable : Bool) : Gives (do
      Reader.lexeme (.name "on")
      let names ← Sdl.locations
      return DirectiveDecl.mk place description text args repeatable names) room room
        fun decl => decl.outline.Fits room ∧ ∀ arg ∈ decl.args, LoadableDefault arg.default? :=
    (plain rfl).bind fun _ _ => locations.map fun _ hlocations =>
      ⟨⟨htext, List.forall_mem_map.2 hfits, hlocations⟩, fun arg harg => (hargs arg harg).2.2⟩
  exact skip_bind (plain rfl) (fun _ => hrest true) (hrest false)

theorem rootsDecl : Gives rootsDecl room room fun _ => True := by
  refine position.bind fun _ _ => (plain rfl).bind fun _ _ => appliedDirectives.bind fun _ _ =>
    (opens rfl).bind fun _ hroom => (upTo rfl hroom (entry name)).bind fun entries _ => ?_
  split
  · exact pure trivial
  · exact failAt _

theorem definition : Gives definition room room fun definition =>
    definition.Fits room ∧ definition.Loadable := by
  refine (nextIs _).bind fun _ _ => ?_
  split
  · exact rootsDecl.map fun _ _ => ⟨trivial, fun _ hinput => nomatch hinput⟩
  refine (nextIs _).bind fun _ _ => ?_
  split
  · exact extensionDecl.map fun _ hdecl => hdecl
  refine description.bind fun text _ => (nextIs _).bind fun _ _ => ?_
  split
  · exact (directiveDecl text).map fun _ hdecl => hdecl
  · exact (typeDecl text).map fun _ hdecl => hdecl

theorem definitions : Gives definitions room room fun ds =>
    ∀ d ∈ ds, d.Fits room ∧ d.Loadable :=
  cons definition (many definition)

end Reader.Gives

/--
The definitions of a document fit between as many brackets as a document can open,
and have defaults as documents can hold them.
-/
theorem wellformed_of_parse {document : String} {definitions : List Definition}
    (h : parse document = .ok definitions) :
    ∀ d ∈ definitions, d.Fits nestingLimit ∧ d.Loadable := by
  simp only [parse] at h
  split at h
  · next read rest hread =>
    split at h
    · cases h
      exact (Reader.Gives.definitions _ _ _ (fits_lexFrom nestingLimit .start _) hread).2
    · cases h
  · cases h

end Sdl

end SchemaDoc
