import Mathlib.Data.Fintype.Basic
import Cestos.Schemas.Validate

/-!
# What validation means

The validation finds no errors exactly if the value is valid, unless it comes to a comparison in
which Python differs from JSON: booleans are numbers there, a float is not an integer, and an empty
list of alternatives is passed over.
-/

namespace Cestos.Schemas

open Cestos.Core

variable {search : String → String → Bool} {value : Json} {schema : JsonSchema} {path : String}

@[simp] theorem report_eq_nil {p : Prop} [Decidable p] {message : String} :
    report p message = [] ↔ ¬ p := by
  unfold report
  split <;> simp_all

theorem reportCount_eq_nil {minimum maximum : Option Int} {count : Nat} {few many : String} :
    reportCount minimum maximum count few many = [] ↔
      JsonSchema.Within minimum maximum count := by
  cases minimum <;> cases maximum <;> simp [reportCount, JsonSchema.Within]

theorem not_any {α : Type} {o : Option α} {p : α → Bool} :
    ¬ o.any p = true ↔ ∀ a ∈ o, p a = false := by
  cases o <;> simp

theorem less_eq_false {a b : Json} :
    less a b = false ↔ ∀ x ∈ a.number?, ∀ y ∈ b.number?, y ≤ x := by
  unfold less
  cases a.number? <;> cases b.number? <;> simp [Rat.not_lt]

theorem lessEq_eq_false {a b : Json} :
    lessEq a b = false ↔ ∀ x ∈ a.number?, ∀ y ∈ b.number?, y < x := by
  unfold lessEq
  cases a.number? <;> cases b.number? <;> simp [Rat.not_le]

theorem reportBounds_eq_nil :
    reportBounds value schema path = [] ↔ ∀ x, value.number? = some x → schema.Bounded x := by
  simp only [reportBounds, List.append_eq_nil_iff, report_eq_nil, not_any, less_eq_false,
    lessEq_eq_false]
  cases hvalue : value.number? with
  | none => simp
  | some x => simp [JsonSchema.Bounded, and_assoc]

theorem countP_eq_one {α : Type} {l : List α} {p : α → Bool} :
    l.countP p = 1 ↔ ∃! i : Fin l.length, p (l.get i) = true := by
  induction l with
  | nil => simp
  | cons a l ih =>
      rw [List.countP_cons]
      cases ha : p a with
      | true =>
          simp only [↓reduceIte, Nat.add_eq_right, List.countP_eq_zero]
          constructor
          · intro hnone
            refine ⟨⟨0, Nat.succ_pos _⟩, ha, fun i hi => ?_⟩
            cases i using Fin.cases with
            | zero => rfl
            | succ i => exact absurd hi (hnone _ (List.get_mem l i))
          · intro hone b hb hpb
            obtain ⟨i, rfl⟩ := List.get_of_mem hb
            have hsame : (0 : Fin (l.length + 1)) = i.succ := hone.unique ha hpb
            exact Fin.succ_ne_zero i hsame.symm
      | false =>
          simp only [Bool.false_eq_true, ↓reduceIte, Nat.add_zero, ih]
          constructor
          · rintro ⟨i, hi, honly⟩
            refine ⟨i.succ, hi, fun j hj => ?_⟩
            cases j using Fin.cases with
            | zero => simp [ha] at hj
            | succ j => exact congrArg Fin.succ (honly j hj)
          · rintro ⟨i, hi, honly⟩
            cases i using Fin.cases with
            | zero => simp [ha] at hi
            | succ i => exact ⟨i, hi, fun j hj => Fin.succ_injective _ (honly j.succ hj)⟩

theorem reportAny_eq_nil {α : Type} {parts : List α} {f : α → List String} {message : String} :
    reportAny (parts.map f) message = [] ↔ parts = [] ∨ ∃ part ∈ parts, f part = [] := by
  rw [reportAny, report_eq_nil, not_and_or, not_not, not_not, List.map_eq_nil_iff, List.mem_map]

theorem reportOne_eq_nil {α : Type} {parts : List α} {f : α → List String} {message : String} :
    reportOne (parts.map f) message = [] ↔
      parts = [] ∨ ∃! i : Fin parts.length, f (parts.get i) = [] := by
  rw [reportOne, report_eq_nil, not_and_or, not_not, not_not, List.map_eq_nil_iff, List.count,
    List.countP_map, countP_eq_one]
  simp

/-! ## What the validation accepts -/

/-- When the validation finds no errors, in terms of the validation of the parts. -/
theorem validateSchemaValue_eq_nil : validateSchemaValue search value schema path = [] ↔
    (schema.types = [] ∨ schema.types.any (matchesKind value) = true) ∧
      (∀ choices ∈ schema.enum, choices.any value.pythonEq = true) ∧
      (∀ constant ∈ schema.const, value.pythonEq constant = true) ∧
      (∀ child ∈ schema.allOf, validateSchemaValue search value child path = []) ∧
      (∀ parts ∈ schema.anyOf, parts = [] ∨
        ∃ child ∈ parts, validateSchemaValue search value child path = []) ∧
      (∀ parts ∈ schema.oneOf, parts = [] ∨
        ∃! i : Fin parts.length, validateSchemaValue search value (parts.get i) path = []) ∧
      (∀ members, value = .obj members →
        (∀ key ∈ schema.required, (members.lookup key).isSome) ∧
        (∀ property ∈ schema.properties, ∀ own, members.lookup property.1 = some own →
          validateSchemaValue search own property.2 (path ++ "." ++ property.1) = []) ∧
        (schema.additionalProperties = .forbidden →
          ∀ member ∈ members, member.1 ∈ schema.names) ∧
        (∀ part, schema.additionalProperties = .schema part → ∀ member ∈ members,
          member.1 ∉ schema.names →
          validateSchemaValue search member.2 part (path ++ "." ++ member.1) = []) ∧
        JsonSchema.Within schema.minProperties schema.maxProperties members.length) ∧
      (∀ items, value = .arr items →
        JsonSchema.Within schema.minItems schema.maxItems items.length ∧
        ∀ part, schema.items = some part → ∀ item ∈ items.zipIdx,
          validateSchemaValue search item.1 part (path ++ "[" ++ toString item.2 ++ "]") = []) ∧
      (∀ text, value = .str text →
        JsonSchema.Within schema.minLength schema.maxLength text.length ∧
        ∀ pattern ∈ schema.pattern, search pattern text = true) ∧
      ∀ x, value.number? = some x → schema.Bounded x := by
  rw [validateSchemaValue.eq_def]
  by_cases htypes : schema.types ≠ [] ∧ schema.types.any (matchesKind value) = false
  · rw [if_pos htypes]
    obtain ⟨hsome, hnone⟩ := htypes
    simp [hsome, hnone]
  · have htyped : schema.types = [] ∨ schema.types.any (matchesKind value) = true := by
      rwa [not_and_or, not_not, Bool.not_eq_false] at htypes
    rw [if_neg htypes, and_iff_right htyped]
    simp only [List.append_eq_nil_iff, report_eq_nil, not_any, List.flatMap_eq_nil_iff, and_assoc]
    refine and_congr ?_ (and_congr ?_ (and_congr Iff.rfl (and_congr ?_ (and_congr ?_ ?_))))
    · simp
    · simp
    · split
      · simp [*]
      · simp [*, reportAny_eq_nil]
    · split
      · simp [*]
      · simp [*, reportOne_eq_nil]
    · cases value with
      | null | bool b => simp [Json.number?]
      | int n | float x text => simp [reportBounds_eq_nil]
      | str text =>
          simp only [List.append_eq_nil_iff, reportCount_eq_nil, report_eq_nil, not_any]
          simp [Json.number?]
      | arr items =>
          simp only [List.append_eq_nil_iff, reportCount_eq_nil]
          split <;> simp [*, Json.number?, List.flatMap_eq_nil_iff]
      | obj members =>
          simp only [List.append_eq_nil_iff, List.flatMap_eq_nil_iff, reportCount_eq_nil,
            report_eq_nil]
          simp only [Json.obj.injEq, forall_eq', reduceCtorEq, IsEmpty.forall_iff, implies_true,
            and_true, Json.number?, and_assoc]
          refine and_congr ?_ (and_congr ?_ ?_)
          · simp [Option.isSome_iff_ne_none]
          · refine forall₂_congr fun property _ => ?_
            split <;> simp [*]
          · rw [← and_assoc]
            refine and_congr ?_ Iff.rfl
            split
            all_goals simp [*, List.flatMap_eq_nil_iff]

/-! ## Where Python and JSON agree -/

/-- A float without a fraction is not held against integers alone. -/
def TypesAgree (schema : JsonSchema) (value : Json) : Prop :=
  ∀ (n : Int) text, value = .float (some n) text → Kind.integer ∈ schema.types →
    Kind.number ∈ schema.types

/-- Nothing is equal to the value in Python alone, and lists of alternatives are not empty. -/
structure ConstantsAgree (schema : JsonSchema) (value : Json) : Prop where
  enum : ∀ choices ∈ schema.enum, ∀ choice ∈ choices, value.pythonEq choice = true →
    ∃ same ∈ choices, value.same same = true
  const : ∀ constant ∈ schema.const, value.pythonEq constant = true → value.same constant = true
  anyOf : schema.anyOf ≠ some []
  oneOf : schema.oneOf ≠ some []

variable (search) in
/-- Python and JSON agree wherever the validation comes to. It does not go on after a type that is
refused, nor with the alternatives after one that is valid. -/
def Agree (schema : JsonSchema) (value : Json) : Prop :=
  TypesAgree schema value ∧ (schema.Typed value → ConstantsAgree schema value ∧
    (∀ part ∈ schema.allOf, Agree part value) ∧
    (∀ parts, schema.anyOf = some parts →
      (∃ i : Fin parts.length, Agree (parts.get i) value ∧ (parts.get i).Valid search value) ∨
        ∀ part ∈ parts, Agree part value) ∧
    (∀ parts, schema.oneOf = some parts → ∀ part ∈ parts, Agree part value) ∧
    (∀ members, value = .obj members →
      (∀ property ∈ schema.properties, ∀ own, members.lookup property.1 = some own →
        Agree property.2 own) ∧
      ∀ part, schema.additionalProperties = .schema part → ∀ member ∈ members,
        member.1 ∉ schema.names → Agree part member.2) ∧
    ∀ items, value = .arr items → ∀ part, schema.items = some part → ∀ item ∈ items,
      Agree part item)
termination_by sizeOf schema
decreasing_by
  all_goals apply JsonSchema.Part.sizeOf_lt
  · exact .allOf ‹_›
  · exact .anyOf ‹_› (List.get_mem _ _)
  · exact .anyOf ‹_› ‹_›
  · exact .oneOf ‹_› ‹_›
  · exact .property ‹_›
  · exact .additional ‹_›
  · exact .item ‹_›

theorem is_of_matchesKind {kind : Kind} (h : matchesKind value kind = true) : value.Is kind := by
  revert h
  cases value <;> cases kind <;> simp [matchesKind, Json.Is, Json.number?]

/-- Only a float without a fraction is of a type that it is not taken for. -/
theorem matchesKind_of_is {kind : Kind} (h : value.Is kind) :
    matchesKind value kind = true ∨
      kind = .integer ∧ ∃ (n : Int) (text : String), value = .float (some n) text := by
  revert h
  cases value <;> cases kind <;> simp [matchesKind, Json.Is, Json.number?]

theorem typed_iff (h : TypesAgree schema value) :
    schema.types = [] ∨ schema.types.any (matchesKind value) = true ↔ schema.Typed value := by
  refine or_congr Iff.rfl ?_
  rw [List.any_eq_true]
  constructor
  · rintro ⟨kind, hkind, hmatches⟩
    exact ⟨kind, hkind, is_of_matchesKind hmatches⟩
  · rintro ⟨kind, hkind, his⟩
    rcases matchesKind_of_is his with hmatches | ⟨rfl, n, text, rfl⟩
    · exact ⟨kind, hkind, hmatches⟩
    · exact ⟨.number, h n text rfl hkind, rfl⟩

variable (search) in
/-- The validation finds no errors in the value exactly if it is valid. -/
def Decides (schema : JsonSchema) (value : Json) : Prop :=
  ∀ path, validateSchemaValue search value schema path = [] ↔ schema.Valid search value

section Parts

variable {parts : List JsonSchema}

/-- One alternative is valid and passes, or the validation is right about all. -/
theorem any_iff (hne : parts ≠ [])
    (h : (∃ i : Fin parts.length,
        Decides search (parts.get i) value ∧ (parts.get i).Valid search value) ∨
      ∀ part ∈ parts, Decides search part value) :
    (parts = [] ∨ ∃ part ∈ parts, validateSchemaValue search value part path = []) ↔
      ∃ i : Fin parts.length, (parts.get i).Valid search value := by
  rw [or_iff_right hne]
  rcases h with ⟨i, hdecides, hvalid⟩ | hdecides
  · exact iff_of_true ⟨_, List.get_mem parts i, (hdecides path).2 hvalid⟩ ⟨i, hvalid⟩
  · constructor
    · rintro ⟨part, hpart, hpasses⟩
      obtain ⟨i, rfl⟩ := List.get_of_mem hpart
      exact ⟨i, (hdecides _ hpart path).1 hpasses⟩
    · rintro ⟨i, hvalid⟩
      exact ⟨_, List.get_mem parts i, (hdecides _ (List.get_mem parts i) path).2 hvalid⟩

theorem one_iff (hne : parts ≠ []) (h : ∀ part ∈ parts, Decides search part value) :
    (parts = [] ∨
        ∃! i : Fin parts.length, validateSchemaValue search value (parts.get i) path = []) ↔
      ∃! i : Fin parts.length, (parts.get i).Valid search value := by
  rw [or_iff_right hne]
  exact existsUnique_congr fun i => h _ (List.get_mem parts i) path

theorem exists_place {α : Type} {items : List α} {item : α} (h : item ∈ items) :
    ∃ i, (item, i) ∈ items.zipIdx := by
  obtain ⟨i, hi, rfl⟩ := List.getElem_of_mem h
  exact ⟨i, List.mk_mem_zipIdx_iff_getElem?.2 (List.getElem?_eq_getElem hi)⟩

theorem items_iff {part : JsonSchema} {items : List Json}
    (h : ∀ item ∈ items, Decides search part item) :
    (∀ item ∈ items.zipIdx,
        validateSchemaValue search item.1 part (path ++ "[" ++ toString item.2 ++ "]") = []) ↔
      ∀ item ∈ items, part.Valid search item := by
  constructor
  · intro hpasses item hitem
    obtain ⟨i, hplace⟩ := exists_place hitem
    exact (h _ hitem _).1 (hpasses _ hplace)
  · intro hvalid item hitem
    have hmem := List.fst_mem_of_mem_zipIdx hitem
    exact (h _ hmem _).2 (hvalid _ hmem)

end Parts

/-- What is compared with the constants of a schema passes exactly if it is one of them. -/
theorem constants_iff (h : ConstantsAgree schema value) :
    ((∀ choices ∈ schema.enum, choices.any value.pythonEq = true) ∧
        ∀ constant ∈ schema.const, value.pythonEq constant = true) ↔
      (∀ choices ∈ schema.enum, ∃ choice ∈ choices, value.same choice = true) ∧
        ∀ constant ∈ schema.const, value.same constant = true := by
  refine and_congr (forall₂_congr fun choices hchoices => ?_)
    (forall₂_congr fun constant hconstant => ?_)
  · rw [List.any_eq_true]
    constructor
    · rintro ⟨choice, hchoice, heq⟩
      exact h.enum choices hchoices choice hchoice heq
    · rintro ⟨choice, hchoice, hsame⟩
      exact ⟨choice, hchoice, Json.pythonEq_of_same hsame⟩
  · exact ⟨h.const constant hconstant, Json.pythonEq_of_same⟩

/-- Where Python and JSON agree, the validation finds no errors exactly if the value is valid. -/
theorem decides_of_agree (schema : JsonSchema) :
    ∀ value : Json, Agree search schema value → Decides search schema value := by
  induction schema using JsonSchema.induction with
  | h schema ih =>
      intro value hagree path
      rw [Agree] at hagree
      obtain ⟨htypes, hrest⟩ := hagree
      rw [validateSchemaValue_eq_nil, JsonSchema.Valid, typed_iff htypes]
      by_cases htyped : schema.Typed value
      swap
      · exact iff_of_false (fun h => htyped h.1) fun h => htyped h.1.type
      obtain ⟨hconstants, hall, hany, hone, hmembers, hitems⟩ := hrest htyped
      have hallOf : (∀ part ∈ schema.allOf, validateSchemaValue search value part path = []) ↔
          ∀ part ∈ schema.allOf, part.Valid search value :=
        forall₂_congr fun part hpart => ih part (.allOf hpart) value (hall part hpart) path
      have hanyOf : (∀ parts ∈ schema.anyOf, parts = [] ∨
            ∃ part ∈ parts, validateSchemaValue search value part path = []) ↔
          ∀ parts, schema.anyOf = some parts →
            ∃ i : Fin parts.length, (parts.get i).Valid search value := by
        refine forall₂_congr fun parts hparts => any_iff ?_ ?_
        · exact fun hempty => hconstants.anyOf (hempty ▸ hparts)
        · apply (hany parts hparts).imp
          · rintro ⟨i, hagree, hvalid⟩
            exact ⟨i, ih _ (.anyOf hparts (List.get_mem parts i)) value hagree, hvalid⟩
          · exact fun hagree part hpart => ih part (.anyOf hparts hpart) value (hagree part hpart)
      have honeOf : (∀ parts ∈ schema.oneOf, parts = [] ∨
            ∃! i : Fin parts.length, validateSchemaValue search value (parts.get i) path = []) ↔
          ∀ parts, schema.oneOf = some parts →
            ∃! i : Fin parts.length, (parts.get i).Valid search value := by
        refine forall₂_congr fun parts hparts => one_iff ?_ fun part hpart => ?_
        · exact fun hempty => hconstants.oneOf (hempty ▸ hparts)
        · exact ih part (.oneOf hparts hpart) value (hone parts hparts part hpart)
      have hown : ∀ members, value = .obj members → ∀ property ∈ schema.properties, ∀ own,
          members.lookup property.1 = some own → Decides search property.2 own :=
        fun members h property hproperty own hlookup =>
          ih property.2 (.property hproperty) own ((hmembers members h).1 _ hproperty own hlookup)
      have hother : ∀ members, value = .obj members → ∀ part,
          schema.additionalProperties = .schema part → ∀ member ∈ members,
          member.1 ∉ schema.names → Decides search part member.2 :=
        fun members h part hpart member hmember hname =>
          ih part (.additional hpart) member.2 ((hmembers members h).2 part hpart _ hmember hname)
      have hitem : ∀ items, value = .arr items → ∀ part, schema.items = some part →
          ∀ item ∈ items, Decides search part item := fun items h part hpart item hmem =>
        ih part (.item hpart) item (hitems items h part hpart item hmem)
      rw [hallOf, hanyOf, honeOf]
      constructor
      · rintro ⟨-, henum, hconst, hparts, hsome, hexactly, hobject, harray, htext, hbounds⟩
        obtain ⟨henum, hconst⟩ := (constants_iff hconstants).1 ⟨henum, hconst⟩
        refine ⟨⟨htyped, henum, hconst, fun members h => (hobject members h).1,
          fun members h => (hobject members h).2.2.2.2,
          fun members h => (hobject members h).2.2.1, fun items h => (harray items h).1,
          fun text h => (htext text h).1, fun text h => (htext text h).2, hbounds⟩,
          hparts, hsome, hexactly, fun members h => ⟨fun property hproperty own hlookup => ?_,
          fun part hpart member hmember hname => ?_⟩, fun items h part hpart => ?_⟩
        · exact (hown members h property hproperty own hlookup _).1
            ((hobject members h).2.1 property hproperty own hlookup)
        · exact (hother members h part hpart member hmember hname _).1
            ((hobject members h).2.2.2.1 part hpart member hmember hname)
        · exact (items_iff (hitem items h part hpart)).1 ((harray items h).2 part hpart)
      · rintro ⟨hadmits, hparts, hsome, hexactly, hobject, harray⟩
        obtain ⟨henum, hconst⟩ := (constants_iff hconstants).2 ⟨hadmits.enum, hadmits.const⟩
        refine ⟨htyped, henum, hconst, hparts, hsome, hexactly,
          fun members h => ⟨hadmits.required members h,
            fun property hproperty own hlookup => ?_, hadmits.additional members h,
            fun part hpart member hmember hname => ?_, hadmits.properties members h⟩,
          fun items h => ⟨hadmits.items items h, fun part hpart => ?_⟩,
          fun text h => ⟨hadmits.length text h, hadmits.pattern text h⟩, hadmits.bounds⟩
        · exact (hown members h property hproperty own hlookup _).2
            ((hobject members h).1 property hproperty own hlookup)
        · exact (hother members h part hpart member hmember hname _).2
            ((hobject members h).2 part hpart member hmember hname)
        · exact (items_iff (hitem items h part hpart)).2 (harray items h part hpart)

/-! ## Schemas with one keyword -/

open JsonSchema (unrestricted)

section Leaves

variable {types : List Kind} {enum : Option (List Json)} {const : Option Json}

theorem leaf_eq_nil : validateSchemaValue search value { unrestricted with types, enum, const } path =
      [] ↔ (types = [] ∨ types.any (matchesKind value) = true) ∧
        (∀ choices ∈ enum, choices.any value.pythonEq = true) ∧
        ∀ constant ∈ const, value.pythonEq constant = true := by
  rw [validateSchemaValue_eq_nil]
  simp [unrestricted, JsonSchema.Within, JsonSchema.Bounded]

theorem leaf_valid : JsonSchema.Valid search { unrestricted with types, enum, const } value ↔
    (types = [] ∨ ∃ kind ∈ types, value.Is kind) ∧
      (∀ choices ∈ enum, ∃ choice ∈ choices, value.same choice = true) ∧
      ∀ constant ∈ const, value.same constant = true := by
  rw [JsonSchema.Valid]
  constructor
  · exact fun h => ⟨h.1.type, h.1.enum, h.1.const⟩
  · rintro ⟨htypes, henum, hconst⟩
    refine ⟨⟨htypes, henum, hconst, ?_, ?_, ?_, ?_, ?_, ?_, ?_⟩, ?_⟩
    all_goals simp [unrestricted, JsonSchema.Within, JsonSchema.Bounded]

/-- For types alone the validation is right only if a float without a fraction is not held against
integers alone. -/
theorem typesAgree_of_decides (h : Decides search { unrestricted with types } value) :
    TypesAgree { unrestricted with types } value := by
  have hpath := h ""
  rw [leaf_eq_nil, leaf_valid] at hpath
  rintro n text rfl hinteger
  have hvalid := hpath.2 ⟨.inr ⟨.integer, hinteger, n, rfl⟩, by simp [unrestricted]⟩
  rcases hvalid.1 with hnone | hsome
  · exact absurd hinteger (hnone ▸ List.not_mem_nil)
  · obtain ⟨kind, hkind, hmatches⟩ := List.any_eq_true.1 hsome
    cases kind <;> first | exact hkind | cases hmatches

/-- For choices or a constant alone it is right only if nothing is equal in Python alone. -/
theorem constantsAgree_of_decides (h : Decides search { unrestricted with enum } value)
    (h' : Decides search { unrestricted with const } value) :
    ConstantsAgree { unrestricted with enum, const } value := by
  have henum := h ""
  have hconst := h' ""
  rw [leaf_eq_nil, leaf_valid] at henum hconst
  refine ⟨fun choices hchoices choice hchoice heq => ?_, fun constant hconstant heq => ?_,
    by simp [unrestricted], by simp [unrestricted]⟩
  · refine (henum.1 ⟨.inl rfl, fun other hother => ?_, by simp [unrestricted]⟩).2.1 _ hchoices
    obtain rfl := Option.some.inj (hchoices.symm.trans hother)
    exact List.any_eq_true.2 ⟨choice, hchoice, heq⟩
  · refine (hconst.1 ⟨.inl rfl, by simp [unrestricted], fun other hother => ?_⟩).2.2 _ hconstant
    obtain rfl := Option.some.inj (hconstant.symm.trans hother)
    exact heq

end Leaves

namespace Sample

def receipt : Json := .obj [("type", .str "object"), ("required", .arr [.str "total"]),
  ("properties", .obj [("total", .obj [("type", .str "number"), ("minimum", .int 0)])]),
  ("additionalProperties", .bool false)]

def total : JsonSchema :=
  { unrestricted with types := [.number], minimum := some (.int 0) }

/-- The receipt as it is read. -/
def receiptSchema : JsonSchema :=
  { unrestricted with
    types := [.object]
    required := ["total"]
    properties := [("total", total)]
    additionalProperties := .forbidden }

def paid : Json := .obj [("total", .float (some (25 / 2)) "12.5")]

def choice : Json := .obj [("enum", .arr [.int 1])]

end Sample

end Cestos.Schemas
