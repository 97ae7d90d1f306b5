-- SUMMARY: Definitions are read back from the lexemes of code blocks.
import SchemaDoc.Proofs.Page.CodeText
import SchemaDoc.Proofs.Sdl.ValueText

/-!
# Reading code blocks

The grammar reads the lexemes of a code block as one definition, whose outline
is the code block. Only a default may come back in another form: as the literal of
the value that it is read as. Where a reader decides by what comes next whether to
go on, the lexemes after a member say that it ends.
-/

namespace SchemaDoc

/-! ## Defaults that are read again -/

namespace Code

/-- If there is a default, it is one literal, and is read as its value wherever a document has a constant. -/
def Input.Legible (input : Input) : Prop :=
  ∀ text, input.default? = some text → ∃ v, Sdl.literal? Sdl.documentLetters text = some v ∧
    ∀ rest, Sdl.Reader.Reads (Sdl.value false) (Sdl.lexemesOf text) rest (· = v)

theorem Input.legible_of_none {input : Input} (h : input.default? = none) : input.Legible := by
  intro text htext
  rw [h] at htext
  cases htext

/-- A default that is read comes back as the literal of its value. -/
def Input.reread (input : Input) : Input :=
  { input with
    default? := input.default?.map fun text => ((Sdl.literal? Sdl.documentLetters text).map Value.text).getD text }

def Field.reread (field : Field) : Field :=
  { field with args := field.args.map Input.reread }

/-- What a code block says once it has been read. -/
def reread : Code → Code
  | .input name fields => .input name (fields.map Input.reread)
  | .interface name interfaces fields => .interface name interfaces (fields.map Field.reread)
  | .object name interfaces fields => .object name interfaces (fields.map Field.reread)
  | .directive name args repeatable places => .directive name (args.map Input.reread) repeatable places
  | .operation field => .operation field.reread
  | code => code

theorem Input.reread_of_none {input : Input} (h : input.default? = none) : input.reread = input := by
  obtain ⟨name, type, default?, deprecated⟩ := input
  cases h
  rfl

theorem map_reread_of_none {inputs : List Input} (h : ∀ input ∈ inputs, input.default? = none) :
    inputs.map Input.reread = inputs :=
  (List.map_congr_left fun input hinput => Input.reread_of_none (h input hinput)).trans (List.map_id inputs)

theorem Field.reread_of_none {field : Field} (h : ∀ arg ∈ field.args, arg.default? = none) :
    field.reread = field := by
  rw [reread, map_reread_of_none h]

/-- Without defaults nothing changes. -/
theorem reread_of_none {code : Code} (h : ∀ input ∈ code.inputs, input.default? = none) : code.reread = code := by
  have hfields {fields : List Field} (h : ∀ input ∈ fields.flatMap (·.args), input.default? = none) :
      fields.map Field.reread = fields := by
    refine (List.map_congr_left fun field hfield => ?_).trans (List.map_id fields)
    exact Field.reread_of_none fun arg harg => h arg (List.mem_flatMap.2 ⟨field, hfield, harg⟩)
  cases code with
  | input name fields => exact congrArg (input name) (map_reread_of_none h)
  | interface name interfaces fields => exact congrArg (interface name interfaces) (hfields h)
  | object name interfaces fields => exact congrArg (object name interfaces) (hfields h)
  | directive name args repeatable places =>
    exact congrArg (directive name · repeatable places) (map_reread_of_none h)
  | operation field => exact congrArg operation (Field.reread_of_none h)
  | enum name values => rfl
  | scalar name => rfl
  | union name members => rfl

end Code

namespace Sdl

namespace Reader.Reads

variable {rest : List Lexeme}

/-! ## Types -/

theorem nullability {type : TypeRef} (nullable : Bool) (hrest : rest.head? ≠ some (.mark '!')) :
    Reads (nullability type) (if nullable then [] else [.mark '!']) rest
      (· = if nullable then type else type.nonNull) := by
  cases nullable
  · refine cons (skip_true (.mark '!')) ?_
    rintro _ rfl
    exact pure rfl
  · refine peek (skip_false hrest) ?_
    rintro _ rfl
    exact pure rfl

theorem typeWithin {type : TypeRef} {depth : Nat} (hdepth : type.lexemes.length ≤ depth)
    (hrest : rest.head? ≠ some (.mark '!')) : Reads (typeWithin depth) type.lexemes rest (· = type) := by
  induction type generalizing depth rest with
  | named name nullable =>
    obtain ⟨depth, rfl⟩ : ∃ d, depth = d + 1 := by
      rw [TypeRef.lexemes, List.length_cons] at hdepth
      exact ⟨depth - 1, by omega⟩
    rw [TypeRef.lexemes]
    refine peek (skip_false (by simp)) ?_
    rintro _ rfl
    refine cons (Reads.name name) ?_
    rintro _ rfl
    refine mono (nullability nullable hrest) ?_
    rintro _ rfl
    cases nullable <;> rfl
  | list item nullable ih =>
    rw [TypeRef.lexemes, List.append_assoc, List.cons_append, List.length_cons, List.length_append] at hdepth
    obtain ⟨depth, rfl⟩ : ∃ d, depth = d + 1 := ⟨depth - 1, by omega⟩
    rw [TypeRef.lexemes, List.append_assoc, List.cons_append]
    refine cons (skip_true (.mark '[')) ?_
    rintro _ rfl
    refine bind (ih (by omega) (by simp)) ?_
    rintro _ rfl
    refine cons (Reads.mark ']') fun _ _ => ?_
    refine mono (nullability nullable hrest) ?_
    rintro _ rfl
    cases nullable <;> rfl

/-- A type of a document is read whatever it nests. -/
theorem typeRef (type : TypeRef) (hrest : rest.head? ≠ some (.mark '!')) :
    Reads typeRef type.lexemes rest (· = type) := by
  intro ts hts
  have hlength : type.lexemes.length ≤ ts.length := by
    have h := congrArg List.length hts
    rw [List.length_map, List.length_append] at h
    omega
  exact typeWithin hlength hrest ts hts

/-! ## Members -/

/-- Nothing that could continue a member follows. -/
def Ends (rest : List Lexeme) : Prop :=
  ∀ c ∈ ['!', '=', '@', '('], rest.head? ≠ some (.mark c)

theorem ends_name (name : String) (rest : List Lexeme) : Ends (.name name :: rest) := by
  simp [Ends]

theorem ends_closing {c : Char} (hc : isClosing c = true) (rest : List Lexeme) : Ends (.mark c :: rest) := by
  simp only [isClosing, Bool.or_eq_true, beq_iff_eq] at hc
  rcases hc with (rfl | rfl) | rfl <;> simp [Ends]

theorem appliedDirective (name : String) (hrest : rest.head? ≠ some (.mark '(')) :
    Reads appliedDirective [.mark '@', .name name] rest (·.name = name) := by
  refine cons (Reads.mark '@') fun _ _ => cons (Reads.name name) ?_
  rintro _ rfl
  refine peek (P := fun _ => True) (peek (skip_false hrest) ?_) fun _ _ => pure rfl
  rintro _ rfl
  exact pure trivial

/-- Directives without arguments. -/
theorem appliedDirectives (names : List String) (hat : rest.head? ≠ some (.mark '@'))
    (hrest : rest.head? ≠ some (.mark '(')) :
    Reads appliedDirectives (names.flatMap fun name => [.mark '@', .name name]) rest
      (List.Forall₂ (fun name applied => applied.name = name) names) := by
  refine many (fun ls => ls.head? == some (.mark '@')) (fun ls => ls.head? ≠ some (.mark '('))
    (startsWith_eq _) ?_ ?_ ?_ hrest (beq_false_of_ne hat)
  · intro name _ next hnext
    exact appliedDirective name hnext
  · intro name _ next
    exact ⟨by simp, beq_self_eq_true _⟩
  · intro name _
    exact List.cons_ne_nil _ _

theorem deprecation (deprecated : Bool) (hrest : Ends rest) :
    Reads Sdl.appliedDirectives (Code.markLexemes deprecated) rest
      (AppliedDirective.isDeprecated · = deprecated) := by
  have hat := hrest '@' (by simp)
  have hparen := hrest '(' (by simp)
  cases deprecated
  · refine mono (appliedDirectives [] hat hparen) fun applied happlied => ?_
    cases happlied
    rfl
  · refine mono (appliedDirectives ["deprecated"] hat hparen) fun applied happlied => ?_
    obtain ⟨first, rest, hfirst, -, rfl⟩ := List.forall₂_cons_left_iff.1 happlied
    simp [AppliedDirective.isDeprecated, AppliedDirective.carries, hfirst]

theorem head_markLexemes (deprecated : Bool) {c : Char} (hc : c ≠ '@') (hrest : rest.head? ≠ some (.mark c)) :
    (Code.markLexemes deprecated ++ rest).head? ≠ some (.mark c) := by
  cases deprecated
  · exact hrest
  · intro h
    cases h
    exact hc rfl

/-- No description stands before a name or mark. -/
theorem noDescription {l : Lexeme} (hl : isString l = false) :
    Reads description [] (l :: rest) fun _ => True := by
  intro ts hts
  obtain ⟨t, ts', rfl, rfl, hts'⟩ := List.map_eq_cons_iff.1 hts
  refine ⟨none, t :: ts', ?_, hts, trivial⟩
  simp only [description, hl, Bool.false_eq_true, if_false]

/-- A bracketed list of members, each of which starts with its name. -/
theorem members {α β : Type} {opening closing : Char} (hclosing : isClosing closing = true)
    {item : Reader α} {lexemes : β → List Lexeme} {outline : α → β} {reread : β → β} {xs : List β}
    (hitem : ∀ x ∈ xs, ∀ next, Ends next → Reads item (lexemes x) next (outline · = reread x))
    (hname : ∀ x ∈ xs, ∃ name ls, lexemes x = .name name :: ls)
    (hrest : rest.head? ≠ some (.mark opening)) :
    Reads (Reader.optionalList opening closing item) (bracketed opening closing lexemes xs) rest
      (·.map outline = xs.map reread) := by
  have hnext : ∀ x ∈ xs, ∀ next, Ends (lexemes x ++ next) ∧
      (lexemes x ++ next).head? ≠ some (.mark closing) := by
    intro x hx next
    obtain ⟨name, ls, hls⟩ := hname x hx
    rw [hls]
    exact ⟨ends_name _ _, by simp⟩
  have hne : ∀ x ∈ xs, lexemes x ≠ [] := by
    intro x hx
    obtain ⟨name, ls, hls⟩ := hname x hx
    simp [hls]
  exact mono (optionalList hitem hnext hne (ends_closing hclosing rest) hrest) fun _ has =>
    Result.map_eq_map_of_forall₂ has fun _ _ h => h

theorem inputDecl {input : Code.Input} (hdefault : input.Legible) (hrest : Ends rest) :
    Reads inputDecl input.lexemes rest (·.outline = input.reread) := by
  obtain ⟨name, type, default?, deprecated⟩ := input
  have hafter (c : Char) (hc : c ≠ '@') (hmem : c ∈ ['!', '=', '@', '(']) :=
    head_markLexemes deprecated hc (hrest c hmem)
  refine peek position fun _ _ => peek (noDescription rfl) fun _ _ => cons (Reads.name name) ?_
  rintro _ rfl
  cases default? with
  | none =>
    refine cons (Reads.mark ':') fun _ _ => bind (typeRef type (hafter '!' (by decide) (by simp))) ?_
    rintro _ rfl
    refine peek (skip_false (hafter '=' (by decide) (by simp))) ?_
    rintro _ rfl
    refine peek (pure rfl : Reads (Pure.pure none) [] _ (· = none)) ?_
    rintro _ rfl
    refine map (deprecation deprecated hrest) ?_
    rintro _ rfl
    rfl
  | some text =>
    obtain ⟨v, hliteral, hvalue⟩ := hdefault text rfl
    have hsome {next : List Lexeme} : Reads (some <$> Sdl.value false) (lexemesOf text) next (· = some v) := by
      rw [← bind_pure_comp]
      exact map (hvalue next) fun _ h => congrArg some h
    refine cons (Reads.mark ':') fun _ _ => bind (typeRef type (by simp [Code.defaultLexemes])) ?_
    rintro _ rfl
    refine cons (skip_true (.mark '=')) ?_
    rintro _ rfl
    refine bind hsome ?_
    rintro _ rfl
    refine map (deprecation deprecated hrest) ?_
    rintro _ rfl
    simp only [InputDecl.outline, Code.Input.reread, Option.map_some, hliteral, Option.getD_some]

theorem args {args : List Code.Input} (hdefaults : ∀ arg ∈ args, arg.Legible)
    (hrest : rest.head? ≠ some (.mark '(')) :
    Reads (Reader.optionalList '(' ')' Sdl.inputDecl) (bracketed '(' ')' Code.Input.lexemes args) rest
      (·.map InputDecl.outline = args.map Code.Input.reread) :=
  members rfl (fun arg harg _ hnext => inputDecl (hdefaults arg harg) hnext) (fun _ _ => ⟨_, _, rfl⟩) hrest

theorem fieldDecl {field : Code.Field} (hdefaults : ∀ arg ∈ field.args, arg.Legible)
    (hrest : Ends rest) : Reads fieldDecl field.lexemes rest (·.outline = field.reread) := by
  obtain ⟨name, fieldArgs, type, deprecated⟩ := field
  refine peek position fun _ _ => peek (noDescription rfl) fun _ _ => cons (Reads.name name) ?_
  rintro _ rfl
  refine bind (args hdefaults (by simp)) fun decls hdecls => ?_
  refine cons (Reads.mark ':') fun _ _ => bind (typeRef type ?_) ?_
  · exact head_markLexemes deprecated (by decide) (hrest '!' (by simp))
  rintro _ rfl
  refine map (deprecation deprecated hrest) ?_
  rintro _ rfl
  rw [FieldDecl.outline, Code.Field.reread, hdecls]

theorem enumValueDecl {value : Code.EnumValue} (hrest : Ends rest) :
    Reads enumValueDecl value.lexemes rest (·.outline = value) := by
  obtain ⟨name, deprecated⟩ := value
  refine peek position fun _ _ => peek (noDescription rfl) fun _ _ => cons (Reads.name name) ?_
  rintro _ rfl
  refine map (deprecation deprecated hrest) ?_
  rintro _ rfl
  rfl

/-! ## Definitions -/

/-- Names with marks between them. -/
theorem names {separator : Char} {names : List String} (hne : names ≠ []) {item : Reader String}
    (hitem : ∀ name ∈ names, ∀ next, Reads item [.name name] next (· = name))
    (hrest : rest.head? ≠ some (.mark separator)) :
    Reads (Reader.separated separator item) (joined separator .name names) rest (· = names) :=
  mono (separated hitem (by simp) hne hrest) fun _ has => Result.eq_of_forall₂ has

/-- One interface is written as the grammar has it; more of them have marks between them there. -/
theorem interfaces {all : List String} (hlength : all.length ≤ 1)
    (hrest : ∀ name, rest.head? ≠ some (.name name)) (hamp : rest.head? ≠ some (.mark '&')) :
    Reads interfaces (Code.implementsLexemes all) rest (· = all) := by
  match all with
  | [] =>
    refine peek (P := (· = false)) (skip_false (hrest "implements")) ?_
    rintro _ rfl
    exact pure rfl
  | [name] =>
    refine cons (skip_true (.name "implements")) ?_
    rintro _ rfl
    have hnames : Reads (Reader.separated '&' Reader.name) (joined '&' .name [name]) rest (· = [name]) :=
      names (List.cons_ne_nil _ _) (fun name _ _ => Reads.name name) hamp
    exact hnames
  | _ :: _ :: _ => simp at hlength

/-- No directives are applied to the definition. -/
theorem noDirectives (hat : rest.head? ≠ some (.mark '@')) (hrest : rest.head? ≠ some (.mark '(')) :
    Reads Sdl.appliedDirectives [] rest fun _ => True :=
  mono (appliedDirectives [] hat hrest) fun _ _ => trivial

/-- Members between braces, or nothing, at the end of the tokens. -/
theorem head_braces {α : Type} (lexemes : α → List Lexeme) (xs : List α) {l : Lexeme}
    (hl : l ≠ .mark '\x7b') : (bracketed '\x7b' '\x7d' lexemes xs ++ []).head? ≠ some l := by
  cases xs with
  | nil => simp [bracketed]
  | cons x xs =>
    intro h
    exact hl (Option.some.inj h).symm

/-- A type that has members between braces. -/
theorem fieldsDecl {names : List String} {fields : List Code.Field} {name : String}
    (hlength : names.length ≤ 1) (hdefaults : ∀ field ∈ fields, ∀ arg ∈ field.args, arg.Legible)
    (body : List String → List FieldDecl → TypeDeclBody) (position : Position) (description : Option String) :
    Reads (do
        let name ← Reader.name
        let interfaces ← Sdl.interfaces
        let applied ← Sdl.appliedDirectives
        let fields ← Reader.optionalList '\x7b' '\x7d' Sdl.fieldDecl
        return TypeDecl.mk position description name applied (body interfaces fields))
      (.name name :: (Code.implementsLexemes names ++ bracketed '\x7b' '\x7d' Code.Field.lexemes fields)) []
      fun decl => decl.name = name ∧
        ∃ decls, decls.map FieldDecl.outline = fields.map Code.Field.reread ∧ decl.body = body names decls := by
  have hmembers : Reads (Reader.optionalList '\x7b' '\x7d' Sdl.fieldDecl)
      (bracketed '\x7b' '\x7d' Code.Field.lexemes fields) []
      (·.map FieldDecl.outline = fields.map Code.Field.reread) :=
    members rfl (fun field hfield _ hnext => fieldDecl (hdefaults field hfield) hnext)
      (fun _ _ => ⟨_, _, rfl⟩) (by simp)
  refine cons (Reads.name name) ?_
  rintro _ rfl
  refine bind (interfaces hlength (fun _ => head_braces _ _ (by simp)) (head_braces _ _ (by simp))) ?_
  rintro _ rfl
  refine peek (noDirectives (head_braces _ _ (by simp)) (head_braces _ _ (by simp))) fun applied _ =>
    map hmembers fun decls hdecls => ?_
  exact ⟨rfl, decls, hdecls, rfl⟩

/-- All types are read back, from their keyword on. -/
theorem typeDecl {kind : TypeKind} {code : Code} (hkind : code.kind? = some kind)
    (hlength : code.interfaces.length ≤ 1) (hdefaults : ∀ input ∈ code.inputs, input.Legible)
    (description : Option String) : Reads (typeDecl description) code.lexemes [] (·.outline = code.reread) := by
  cases code with
  | enum name values =>
    refine peek position fun place _ => cons (Reads.name "enum") ?_
    rintro _ rfl
    refine cons (Reads.name name) ?_
    rintro _ rfl
    refine peek (noDirectives (head_braces _ _ (by simp)) (head_braces _ _ (by simp))) fun applied _ => ?_
    refine map (members rfl (fun _ _ _ hnext => enumValueDecl hnext) (fun _ _ => ⟨_, _, rfl⟩) (by simp))
      fun decls hdecls => ?_
    exact congrArg (Code.enum _) (hdecls.trans (List.map_id values))
  | input name fields =>
    refine peek position fun place _ => cons (Reads.name "input") ?_
    rintro _ rfl
    refine cons (Reads.name name) ?_
    rintro _ rfl
    refine peek (noDirectives (head_braces _ _ (by simp)) (head_braces _ _ (by simp))) fun applied _ => ?_
    refine map (members rfl (fun field hfield _ hnext => inputDecl (hdefaults field hfield) hnext)
      (fun _ _ => ⟨_, _, rfl⟩) (by simp)) fun decls hdecls => ?_
    exact congrArg (Code.input _) hdecls
  | interface name interfaces fields =>
    refine peek position fun place _ => cons (Reads.name "interface") ?_
    rintro _ rfl
    refine mono (@fieldsDecl interfaces _ _ hlength ?_ .interface place description) ?_
    · exact fun field hfield arg harg => hdefaults arg (List.mem_flatMap.2 ⟨field, hfield, harg⟩)
    · rintro decl ⟨rfl, decls, hdecls, hbody⟩
      rw [TypeDecl.outline, hbody, TypeDeclBody.outline, hdecls, Code.reread]
  | object name interfaces fields =>
    refine peek position fun place _ => cons (Reads.name "type") ?_
    rintro _ rfl
    refine mono (@fieldsDecl interfaces _ _ hlength ?_ .object place description) ?_
    · exact fun field hfield arg harg => hdefaults arg (List.mem_flatMap.2 ⟨field, hfield, harg⟩)
    · rintro decl ⟨rfl, decls, hdecls, hbody⟩
      rw [TypeDecl.outline, hbody, TypeDeclBody.outline, hdecls, Code.reread]
  | scalar name =>
    refine peek position fun place _ => cons (Reads.name "scalar") ?_
    rintro _ rfl
    refine cons (Reads.name name) ?_
    rintro _ rfl
    exact map (noDirectives (by simp) (by simp)) fun _ _ => rfl
  | union name all =>
    refine peek position fun place _ => cons (Reads.name "union") ?_
    rintro _ rfl
    refine cons (Reads.name name) ?_
    rintro _ rfl
    cases all with
    | nil =>
      refine peek (noDirectives (by simp) (by simp)) fun applied _ => peek (skip_false (by simp)) ?_
      rintro _ rfl
      refine peek (pure rfl : Reads (Pure.pure []) [] _ (· = [])) ?_
      rintro _ rfl
      exact pure rfl
    | cons member others =>
      refine peek (noDirectives (by simp) (by simp)) fun applied _ => cons (skip_true (.mark '=')) ?_
      rintro _ rfl
      refine map (names (List.cons_ne_nil _ _) (fun name _ _ => Reads.name name) (by simp)) ?_
      rintro _ rfl
      rfl
  | directive name args repeatable places => cases hkind
  | operation field => cases hkind

theorem exists_lexemes_of_kind {kind : TypeKind} {code : Code} (hkind : code.kind? = some kind) :
    ∃ ls, code.lexemes = .name kind.keyword :: ls := by
  cases code <;> cases hkind <;> exact ⟨_, rfl⟩

theorem typeDefinition {kind : TypeKind} {code : Code} (hkind : code.kind? = some kind)
    (hlength : code.interfaces.length ≤ 1) (hdefaults : ∀ input ∈ code.inputs, input.Legible) :
    Reads Sdl.definition code.lexemes [] (·.outline? = some code.reread) := by
  obtain ⟨ls, hls⟩ := exists_lexemes_of_kind hkind
  have hkeyword (text : String) (hne : kind.keyword ≠ text) :
      ((code.lexemes ++ []).head? == some (.name text)) = false := by
    simpa [hls] using hne
  refine peek (nextIs (.name "schema")) ?_
  rintro _ rfl
  rw [hkeyword "schema" (by cases kind <;> decide)]
  refine peek (nextIs (.name "extend")) ?_
  rintro _ rfl
  rw [hkeyword "extend" (by cases kind <;> decide)]
  have hdescription : Reads description [] (code.lexemes ++ []) fun _ => True := by
    rw [hls]
    exact noDescription rfl
  refine peek hdescription fun description _ => peek (nextIs (.name "directive")) ?_
  rintro _ rfl
  rw [hkeyword "directive" (by cases kind <;> decide)]
  refine map (typeDecl hkind hlength hdefaults description) fun decl hdecl => ?_
  exact congrArg some hdecl

theorem directiveLocation {place : String} (h : directiveLocations.contains place = true) :
    Reads directiveLocation [.name place] rest (· = place) :=
  token (if_pos h)

theorem locations {places : List String} (h : ∀ place ∈ places, directiveLocations.contains place = true) :
    Reads locations (joined '|' .name places) [] (· = places) := by
  intro ts hts
  cases places with
  | nil =>
    obtain rfl : ts = [] := List.map_eq_nil_iff.1 hts
    exact ⟨[], [], rfl, rfl, rfl⟩
  | cons place others =>
    obtain ⟨⟨l, position⟩, ts', rfl, rfl, hts'⟩ := List.map_eq_cons_iff.1 hts
    simp only [Sdl.locations, startsLocations, if_true]
    exact names (List.cons_ne_nil _ _) (fun place hplace _ => directiveLocation (h place hplace)) (by simp) _ hts

theorem directiveDecl {name : String} {args : List Code.Input} {repeatable : Bool} {places : List String}
    (hdefaults : ∀ arg ∈ args, arg.Legible)
    (hplaces : ∀ place ∈ places, directiveLocations.contains place = true) (description : Option String) :
    Reads (directiveDecl description) (Code.directive name args repeatable places).lexemes []
      (·.outline = (Code.directive name args repeatable places).reread) := by
  refine peek position fun place _ => cons (lexeme _) fun _ _ => cons (Reads.mark '@') fun _ _ =>
    cons (Reads.name name) ?_
  rintro _ rfl
  refine bind (Reads.args hdefaults (by cases repeatable <;> simp)) fun decls hdecls => ?_
  cases repeatable
  · refine peek (skip_false (by simp)) ?_
    rintro _ rfl
    refine cons (lexeme _) fun _ _ => map (locations hplaces) ?_
    rintro _ rfl
    exact congrArg (Code.directive _ · false _) hdecls
  · refine cons (skip_true _) ?_
    rintro _ rfl
    refine cons (lexeme _) fun _ _ => map (locations hplaces) ?_
    rintro _ rfl
    exact congrArg (Code.directive _ · true _) hdecls

/-- A code block is one definition, unless it is that of an operation. -/
theorem definition {code : Code} {room : Nat} (hfits : code.Fits room)
    (hoperation : ∀ field, code ≠ .operation field) (hlength : code.interfaces.length ≤ 1)
    (hdefaults : ∀ input ∈ code.inputs, input.Legible) :
    Reads definition code.lexemes [] (·.outline? = some code.reread) := by
  cases hkind : code.kind? with
  | some kind => exact typeDefinition hkind hlength hdefaults
  | none =>
    cases code with
    | directive name args repeatable places =>
      refine peek (nextIs (.name "schema")) ?_
      rintro _ rfl
      refine peek (nextIs (.name "extend")) ?_
      rintro _ rfl
      refine peek (noDescription rfl) fun description _ => peek (nextIs (.name "directive")) ?_
      rintro _ rfl
      refine map (directiveDecl hdefaults hfits.2.2 description) fun decl hdecl => ?_
      exact congrArg some hdecl
    | operation field => exact absurd rfl (hoperation field)
    | _ => cases hkind

theorem definitions {ls : List Lexeme} {P : Definition → Prop} (h : Reads Sdl.definition ls [] P) :
    Reads definitions ls [] fun ds => ∃ d, ds = [d] ∧ P d := by
  have hnone : Reads (Reader.many (!·.isEmpty) Sdl.definition) [] [] (· = []) := by
    intro ts hts
    obtain rfl : ts = [] := List.map_eq_nil_iff.1 hts
    exact ⟨[], [], by rw [Reader.many]; rfl, rfl, rfl⟩
  have hall : Reads Sdl.definitions (ls ++ []) [] fun ds => ∃ d, ds = [d] ∧ P d := by
    refine bind h fun d hd => map hnone ?_
    rintro _ rfl
    exact ⟨d, rfl, hd⟩
  rwa [List.append_nil] at hall

end Reader.Reads

/-- The text of a code block is a document of one definition. -/
theorem parse_text {code : Code} (hfits : code.Fits nestingLimit)
    (hoperation : ∀ field, code ≠ .operation field) (hlength : code.interfaces.length ≤ 1)
    (hspelled : ∀ input ∈ code.inputs, ∀ inner, nestingLimit ≤ inner + 2 → input.Spelled inner)
    (hdefaults : ∀ input ∈ code.inputs, input.Legible) :
    ∃ definition, parse code.text = .ok [definition] ∧ definition.outline? = some code.reread := by
  obtain ⟨hcomplete, hlexemes⟩ := (Writes.code hfits hspelled).scans .start
  have hreads := (Reader.Reads.definition hfits hoperation hlength hdefaults).definitions
  obtain ⟨ds, rest, hds, -, definition, rfl, houtline⟩ :=
    hreads _ (hlexemes.trans (List.append_nil _).symm)
  refine ⟨definition, ?_, houtline⟩
  simp only [parse, lex, hds, hcomplete, if_true]

/-- Without defaults the definition is the one that is shown. -/
theorem parse_text_of_none {code : Code} (hfits : code.Fits nestingLimit)
    (hoperation : ∀ field, code ≠ .operation field) (hlength : code.interfaces.length ≤ 1)
    (hdefaults : ∀ input ∈ code.inputs, input.default? = none) :
    ∃ definition, parse code.text = .ok [definition] ∧ definition.outline? = some code := by
  have hspelled : ∀ input ∈ code.inputs, ∀ inner, nestingLimit ≤ inner + 2 → input.Spelled inner :=
    fun input hinput inner _ => Code.Input.spelled_of_none (hdefaults input hinput) inner
  have hparse := parse_text hfits hoperation hlength hspelled fun input hinput =>
    Code.Input.legible_of_none (hdefaults input hinput)
  rwa [Code.reread_of_none hdefaults] at hparse

end Sdl

end SchemaDoc
