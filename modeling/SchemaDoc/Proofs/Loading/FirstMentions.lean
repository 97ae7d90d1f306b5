-- SUMMARY: The names that are collected from a type stand in the order of their first mentions, which is that of places.
import SchemaDoc.Proofs.Loading.Mentions

/-!
# The order of mentions

A mention has a place: numbers that lead to it, from the type to a field and from
the field to an argument. Places are ordered as words are in a dictionary. So one
type is mentioned before another if it has a place before all those of the other,
whatever the list is in which the names of both are collected.
-/

namespace SchemaDoc

/-! ## Places -/

/-- The place leads to the part of that number, and from there to a place at which the property holds. -/
def Within (i : Nat) (holds : List Nat → Prop) (place : List Nat) : Prop :=
  ∃ rest, place = i :: rest ∧ holds rest

/-- The place leads to one of the parts. -/
def InPart {α : Type} (parts : List α) (holds : α → List Nat → Prop) (place : List Nat) : Prop :=
  ∃ i part, parts[i]? = some part ∧ Within i (holds part) place

/-- The place of an input with the type. -/
def OrderedMap.MentionsAt (inputs : OrderedMap InputValue) (name : String) : List Nat → Prop :=
  InPart inputs.values fun input place => input.type.Wraps name ∧ place = []

/-- The type of a field stands before its arguments. -/
def Field.MentionsAt (field : Field) (name : String) (place : List Nat) : Prop :=
  Within 0 (fun rest => field.type.Wraps name ∧ rest = []) place ∨ Within 1 (field.args.MentionsAt name) place

/-- The interfaces of a type stand before its fields. -/
def TypeBody.MentionsAt (name : String) (place : List Nat) : TypeBody → Prop
  | .enum _ | .scalar => False
  | .input fields => fields.MentionsAt name place
  | .interface interfaces fields | .object interfaces fields =>
    Within 0 (InPart interfaces fun interface rest => interface = name ∧ rest = []) place ∨
      Within 1 (InPart fields.values fun field => field.MentionsAt name) place
  | .union members => InPart members (fun member rest => member = name ∧ rest = []) place

/-- The type is mentioned at a place before all those at which the other type is. -/
def TypeBody.MentionsBefore (body : TypeBody) (name other : String) : Prop :=
  ∃ place, body.MentionsAt name place ∧ ∀ later, body.MentionsAt other later → place < later

/-! ## Collecting names in the order of places -/

/-- The names are those for which the property holds, from the first place to the last. -/
def Collects (names : List String) (holds : String → List Nat → Prop) : Prop :=
  ∃ visits : List (List Nat × String), visits.map Prod.snd = names ∧ visits.Pairwise (·.1 < ·.1) ∧
    ∀ place name, (place, name) ∈ visits ↔ holds name place

namespace Collects

variable {names later : List String} {holds others : String → List Nat → Prop}

theorem nil (h : ∀ name place, ¬ holds name place) : Collects [] holds :=
  ⟨[], rfl, .nil, fun place name => iff_of_false List.not_mem_nil (h name place)⟩

theorem leaf {name : String} (h : ∀ other, holds other = fun place => name = other ∧ place = []) :
    Collects [name] holds := by
  refine ⟨[([], name)], rfl, List.pairwise_singleton _ _, fun place other => ?_⟩
  rw [h, List.mem_singleton, Prod.mk.injEq, eq_comm (a := other), and_comm]

theorem congr (h : Collects names holds) (heq : ∀ name place, holds name place ↔ others name place) :
    Collects names others := by
  obtain ⟨visits, hnames, hsorted, hvisits⟩ := h
  exact ⟨visits, hnames, hsorted, fun place name => (hvisits place name).trans (heq name place)⟩

theorem within (h : Collects names holds) (i : Nat) : Collects names fun name => Within i (holds name) := by
  obtain ⟨visits, hnames, hsorted, hvisits⟩ := h
  refine ⟨visits.map fun visit => (i :: visit.1, visit.2), ?_, ?_, fun place name => ?_⟩
  · rw [List.map_map]
    exact hnames
  · rw [List.pairwise_map]
    exact hsorted.imp fun hlt => List.cons_lt_cons_iff.2 (.inr ⟨rfl, hlt⟩)
  · simp only [List.mem_map, Prod.exists, Prod.mk.injEq, Within, ← hvisits]
    constructor
    · rintro ⟨rest, name, hmem, rfl, rfl⟩
      exact ⟨rest, rfl, hmem⟩
    · rintro ⟨rest, rfl, hmem⟩
      exact ⟨rest, name, hmem, rfl, rfl⟩

/-- Names that are collected at later places stand behind. -/
theorem append (h : Collects names holds) (hlater : Collects later others)
    (hlt : ∀ name place other place', holds name place → others other place' → place < place') :
    Collects (names ++ later) fun name place => holds name place ∨ others name place := by
  obtain ⟨visits, rfl, hsorted, hvisits⟩ := h
  obtain ⟨visits', rfl, hsorted', hvisits'⟩ := hlater
  refine ⟨visits ++ visits', List.map_append, List.pairwise_append.2 ⟨hsorted, hsorted', ?_⟩, fun place name => ?_⟩
  · intro visit hvisit visit' hvisit'
    exact hlt visit.2 visit.1 visit'.2 visit'.1 ((hvisits _ _).1 hvisit) ((hvisits' _ _).1 hvisit')
  · rw [List.mem_append, hvisits, hvisits']

/-- The parts of an item are gone through one after the other. -/
theorem within_append {i j : Nat} (h : Collects names holds) (hlater : Collects later others) (hlt : i < j) :
    Collects (names ++ later) fun name place => Within i (holds name) place ∨ Within j (others name) place := by
  refine (h.within i).append (hlater.within j) ?_
  rintro _ _ _ _ ⟨rest, rfl, -⟩ ⟨rest', rfl, -⟩
  exact List.cons_lt_cons_iff.2 (.inl hlt)

theorem flatMap {α : Type} {parts : List α} {names : α → List String} {holds : α → String → List Nat → Prop}
    (h : ∀ part ∈ parts, Collects (names part) (holds part)) :
    Collects (parts.flatMap names) fun name => InPart parts fun part => holds part name := by
  -- the parts are numbered from any number on
  suffices hfrom : ∀ start, Collects (parts.flatMap names) fun name place =>
      ∃ i part, parts[i]? = some part ∧ Within (start + i) (holds part name) place by
    exact (hfrom 0).congr fun name place => by simp only [Nat.zero_add, InPart]
  induction parts with
  | nil => exact fun start => nil fun name place ⟨i, part, hpart, _⟩ => by simp at hpart
  | cons part rest ih =>
    intro start
    obtain ⟨hpart, hrest⟩ := List.forall_mem_cons.1 h
    have hboth := (hpart.within start).append (ih hrest (start + 1)) (by
      rintro _ _ _ _ ⟨place, rfl, -⟩ ⟨i, other, -, place', rfl, -⟩
      exact List.cons_lt_cons_iff.2 (.inl (by omega)))
    refine hboth.congr fun name place => ?_
    constructor
    · rintro (hhere | ⟨i, other, hother, hwithin⟩)
      · exact ⟨0, part, rfl, hhere⟩
      · exact ⟨i + 1, other, hother, by rwa [← Nat.add_assoc, Nat.add_right_comm]⟩
    · rintro ⟨_ | i, other, hother, hwithin⟩
      · cases hother
        exact .inl hwithin
      · exact .inr ⟨i, other, hother, by rwa [Nat.add_right_comm, Nat.add_assoc]⟩

theorem mem_iff (h : Collects names holds) {name : String} : name ∈ names ↔ ∃ place, holds name place := by
  obtain ⟨visits, rfl, -, hvisits⟩ := h
  simp only [List.mem_map, Prod.exists, exists_eq_right, hvisits]

end Collects

/-- The first places of names, each listed once, come one after the other. -/
theorem pairwise_visits {visits : List (List Nat × String)} (h : visits.Pairwise (·.1 < ·.1)) :
    (visits.map Prod.snd).eraseDups.Pairwise fun name other =>
      ∃ place, (place, name) ∈ visits ∧ ∀ later, (later, other) ∈ visits → place < later := by
  -- what is left without the first name may be shorter by more than one visit
  induction hlength : visits.length using Nat.strongRecOn generalizing visits with
  | ind length ih =>
    subst hlength
    cases visits with
    | nil => exact .nil
    | cons visit rest =>
      obtain ⟨hfirst, hrest⟩ := List.pairwise_cons.1 h
      rw [List.map_cons, List.eraseDups_cons, List.filter_map]
      refine List.pairwise_cons.2 ⟨fun other hother => ⟨visit.1, List.mem_cons_self, fun later hlater => ?_⟩, ?_⟩
      · obtain ⟨found, hfound, rfl⟩ := List.mem_map.1 (List.mem_eraseDups.1 hother)
        have hne : found.2 ≠ visit.2 := by simpa using (List.mem_filter.1 hfound).2
        rcases List.mem_cons.1 hlater with hsame | hlater
        · exact absurd (congrArg Prod.snd hsame) hne
        · exact hfirst _ hlater
      · refine (ih _ (Nat.lt_succ_of_le (List.length_filter_le _ rest)) (hrest.filter _) rfl).imp_of_mem ?_
        intro name other _ hother ⟨place, hplace, hbefore⟩
        obtain ⟨found, hfound, rfl⟩ := List.mem_map.1 (List.mem_eraseDups.1 hother)
        have hkept := (List.mem_filter.1 hfound).2
        refine ⟨place, List.mem_cons_of_mem _ (List.mem_filter.1 hplace).1, fun later hlater => ?_⟩
        rcases List.mem_cons.1 hlater with rfl | hlater
        · simp at hkept
        · exact hbefore later (List.mem_filter.2 ⟨hlater, hkept⟩)

/-! ## The names that are collected from a type -/

theorem collects_names (names : List String) :
    Collects names fun name => InPart names fun other rest => other = name ∧ rest = [] := by
  have hleaf : ∀ other ∈ names, Collects [other] fun name rest => other = name ∧ rest = [] :=
    fun other _ => .leaf fun _ => rfl
  have hleaves := Collects.flatMap hleaf
  rwa [List.flatMap_singleton'] at hleaves

theorem OrderedMap.collects (inputs : OrderedMap InputValue) :
    Collects (inputs.values.map (·.type.name)) fun name => inputs.MentionsAt name := by
  rw [List.map_eq_flatMap]
  exact .flatMap fun input _ => .leaf fun name => by simp only [TypeRef.wraps_iff]

theorem Field.collects (field : Field) : Collects field.referenced fun name => field.MentionsAt name := by
  have htype : Collects [field.type.name] fun name rest => field.type.Wraps name ∧ rest = [] :=
    .leaf fun name => by simp only [TypeRef.wraps_iff]
  exact htype.within_append field.args.collects Nat.zero_lt_one

/-- The names that are collected from a type stand in the order of their places. -/
theorem TypeBody.collects (body : TypeBody) :
    Collects body.referenced fun name place => body.MentionsAt name place := by
  have hfields (interfaces : List String) (fields : OrderedMap Field) :=
    (collects_names interfaces).within_append
      (Collects.flatMap fun field (_ : field ∈ fields.values) => field.collects) Nat.zero_lt_one
  cases body with
  | enum values => exact .nil fun _ _ => id
  | input fields => exact fields.collects
  | interface interfaces fields => exact hfields interfaces fields
  | object interfaces fields => exact hfields interfaces fields
  | scalar => exact .nil fun _ _ => id
  | union members => exact collects_names members

/-- What a type mentions has a place in it. -/
theorem TypeBody.mentions_iff_at {body : TypeBody} {name : String} :
    body.Mentions name ↔ ∃ place, body.MentionsAt name place :=
  mentions_iff.trans body.collects.mem_iff

theorem TypeBody.pairwise_mentionsBefore (body : TypeBody) :
    body.referenced.eraseDups.Pairwise body.MentionsBefore := by
  obtain ⟨visits, hnames, hsorted, hvisits⟩ := body.collects
  rw [← hnames]
  refine (pairwise_visits hsorted).imp fun ⟨place, hplace, hbefore⟩ => ?_
  exact ⟨place, (hvisits _ _).1 hplace, fun later hlater => hbefore later ((hvisits _ _).2 hlater)⟩

end SchemaDoc
