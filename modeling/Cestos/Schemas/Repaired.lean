import Cestos.Core.Lookup
import Cestos.Schemas.Meaning
import Cestos.Schemas.Normalize

/-!
# What a repair makes valid

A value that is repaired by a schema of types, properties and items alone is valid, unless it has a
float where an integer is asked for, or anything at all where null is.
-/

namespace Cestos.Schemas

open Cestos.Core

open JsonSchema (unrestricted)

/-- A schema of one type, its properties and its items. -/
def plain (kind : Kind) (required : List String) (properties : List (String × JsonSchema))
    (closed : Bool) (items : Option JsonSchema) : JsonSchema :=
  { unrestricted with
    types := [kind]
    required, properties, items
    additionalProperties := if closed then .forbidden else .unrestricted }

/-- The schema and all of its parts are of that form; what is required is among the properties. -/
inductive Plain : JsonSchema → Prop
  | intro (kind : Kind) (required : List String) (properties : List (String × JsonSchema))
      (closed : Bool) (items : Option JsonSchema) :
      (properties.map Prod.fst).Nodup → (∀ name ∈ required, name ∈ properties.map Prod.fst) →
      (∀ property ∈ properties, Plain property.2) → (∀ part ∈ items, Plain part) →
      Plain (plain kind required properties closed items)

/-- Where null is asked for there is null, and where an integer is asked for there is no float. -/
def Repairable (schema : JsonSchema) (value : Json) : Prop :=
  (schema.types = [.null] → value = .null) ∧
    (schema.types = [.integer] → ∀ x text, value ≠ .float x text) ∧
    (schema.types = [.object] → ∀ members, value = .obj members →
      ∀ property ∈ schema.properties, ∀ own, members.lookup property.1 = some own →
        Repairable property.2 own) ∧
    (schema.types = [.array] → ∀ items, value = .arr items → ∀ part, schema.items = some part →
      ∀ item ∈ items, Repairable part item)
termination_by sizeOf schema
decreasing_by
  all_goals apply JsonSchema.Part.sizeOf_lt
  · exact .property ‹_›
  · exact .item ‹_›

variable {search : String → String → Bool} {env : Coercion} {schema : JsonSchema} {value : Json}
  {path : String}

theorem repairable_null : Repairable schema .null := by
  rw [Repairable]
  simp

/-! ## Validation and repair of plain schemas -/

theorem plain_eq_nil {kind : Kind} {required : List String} {properties : List (String × JsonSchema)}
    {closed : Bool} {items : Option JsonSchema} :
    validateSchemaValue search value (plain kind required properties closed items) path = [] ↔
      matchesKind value kind = true ∧
      (∀ members, value = .obj members →
        (∀ key ∈ required, (members.lookup key).isSome) ∧
        (∀ property ∈ properties, ∀ own, members.lookup property.1 = some own →
          validateSchemaValue search own property.2 (path ++ "." ++ property.1) = []) ∧
        (closed = true → ∀ member ∈ members, member.1 ∈ properties.map Prod.fst)) ∧
      ∀ list, value = .arr list → ∀ part, items = some part → ∀ item ∈ list.zipIdx,
        validateSchemaValue search item.1 part (path ++ "[" ++ toString item.2 ++ "]") = [] := by
  rw [validateSchemaValue_eq_nil]
  cases closed <;>
    simp [plain, unrestricted, JsonSchema.Within, JsonSchema.Bounded, JsonSchema.names]

section Plain

variable {kind : Kind} {required : List String} {properties : List (String × JsonSchema)}
  {closed : Bool} {items : Option JsonSchema}

theorem expectedKind_plain (hkind : kind ≠ .null) :
    expectedKind (plain kind required properties closed items) = some kind := by
  simp [expectedKind, plain, hkind]

theorem startValue_plain (hkind : kind ≠ .null) :
    startValue (plain kind required properties closed items) value =
      if isNull value then kindDefault kind else value := by
  rw [startValue, schemaDefault, expectedKind_plain hkind]
  rfl

theorem settleEnum_plain :
    settleEnum (plain kind required properties closed items) value = (value, false) := rfl

theorem not_null_plain (hkind : kind ≠ .null) : ¬ (isNull value = true ∧
    Kind.null ∈ (plain kind required properties closed items).types) := by
  simp [plain, Ne.symm hkind]

theorem normalize_null :
    (normalizeSchemaValue env value (plain .null required properties closed items)).1 = value := by
  rw [normalizeSchemaValue]
  cases value <;> simp [plain, unrestricted, startValue, isNull, expectedKind, settleEnum]

theorem normalize_scalar (hkind : kind ≠ .null) (hobject : kind ≠ .object) (harray : kind ≠ .array) :
    (normalizeSchemaValue env value (plain kind required properties closed items)).1 =
      (repairScalar env kind (if isNull value then kindDefault kind else value)).1 := by
  rw [normalizeSchemaValue, if_neg (not_null_plain hkind), startValue_plain hkind]
  cases kind <;> simp_all [expectedKind_plain, settleEnum_plain]

/-- What an object place has of a value. -/
def ownMembers (value : Json) : Json.Members := value.members?.getD []

theorem normalize_object :
    (normalizeSchemaValue env value (plain .object required properties closed items)).1 =
      .obj ((properties.filterMap fun property =>
          if ((ownMembers value).lookup property.1).isSome ∨ property.1 ∈ required then
            some (property.1,
              (normalizeSchemaValue env (Json.getD (ownMembers value) property.1 .null) property.2).1)
          else none) ++
        if closed then [] else
          (ownMembers value).filter fun member => member.1 ∉ properties.map Prod.fst) := by
  have hkind : Kind.object ≠ .null := nofun
  have hown : (if isNull value then kindDefault .object else value).members?.getD [] =
      ownMembers value := by
    cases value <;> rfl
  rw [normalizeSchemaValue, if_neg (not_null_plain hkind), startValue_plain hkind,
    expectedKind_plain hkind]
  simp only [settleEnum_plain, rebuildObject, hown]
  rw [List.map_filterMap]
  refine congrArg Json.obj (congrArg₂ (· ++ ·) ?_ ?_)
  · refine List.filterMap_congr fun property _ => ?_
    show Option.map (fun child => (child.1, child.2.1))
      (if ((ownMembers value).lookup property.1).isSome ∨ property.1 ∈ required then
        some (property.1,
          normalizeSchemaValue env (Json.getD (ownMembers value) property.1 .null) property.2)
      else none) = _
    split <;> rfl
  · cases closed <;> rfl

theorem normalize_array :
    (normalizeSchemaValue env value (plain .array required properties closed items)).1 =
      .arr ((value.items?.getD []).map fun item =>
        match items with
        | none => item
        | some part => (normalizeSchemaValue env item part).1) := by
  have hkind : Kind.array ≠ .null := nofun
  have hown : (if isNull value then kindDefault .array else value).items?.getD [] =
      value.items?.getD [] := by
    cases value <;> rfl
  rw [normalizeSchemaValue, if_neg (not_null_plain hkind), startValue_plain hkind,
    expectedKind_plain hkind]
  simp only [settleEnum_plain, hown]
  cases items <;> simp [plain, rebuildArray, Function.comp_def]

theorem repairString_matches : matchesKind (repairString value) .string = true := by
  cases value <;> rfl

theorem repairBoolean_matches : matchesKind (repairBoolean env value) .boolean = true := by
  cases value <;> rfl

theorem repairNumber_matches : matchesKind (repairNumber env value) .number = true := by
  unfold repairNumber
  split <;> rfl

theorem repairInteger_matches : matchesKind (repairInteger env value) .integer = true := by
  unfold repairInteger
  split <;> rfl

/-- A scalar is brought into its type, unless it is a float where an integer is asked for. -/
theorem repairScalar_matches (hnull : kind ≠ .null) (hobject : kind ≠ .object)
    (harray : kind ≠ .array) :
    matchesKind (repairScalar env kind value).1 kind = true ↔
      (kind = .integer → ∀ x text, value ≠ .float x text) := by
  unfold repairScalar
  by_cases hinstance : isInstance kind value = true
  · rw [if_pos hinstance]
    cases kind with
    | integer => cases value <;> simp_all [matchesKind, isInstance, isNumber]
    | string | boolean | number | object | array | null =>
        exact iff_of_true hinstance fun hkind => Kind.noConfusion hkind
  · rw [if_neg hinstance]
    cases kind with
    | null => exact absurd rfl hnull
    | object => exact absurd rfl hobject
    | array => exact absurd rfl harray
    | string => exact iff_of_true repairString_matches fun hkind => Kind.noConfusion hkind
    | boolean => exact iff_of_true repairBoolean_matches fun hkind => Kind.noConfusion hkind
    | number => exact iff_of_true repairNumber_matches fun hkind => Kind.noConfusion hkind
    | integer =>
        refine iff_of_true repairInteger_matches fun _ x text hvalue => hinstance ?_
        rw [hvalue]
        rfl

theorem start_float : (∀ x text, (if isNull value then kindDefault kind else value) ≠ .float x text) ↔
    ∀ x text, value ≠ .float x text := by
  cases value <;> cases kind <;> simp [isNull, kindDefault]

theorem plain_scalar_eq_nil (hobject : kind ≠ .object) (harray : kind ≠ .array) :
    validateSchemaValue search value (plain kind required properties closed items) path = [] ↔
      matchesKind value kind = true := by
  rw [plain_eq_nil, and_iff_left_iff_imp]
  intro hmatches
  constructor
  · rintro members rfl
    cases kind <;> first | exact absurd rfl hobject | cases hmatches
  · rintro list rfl
    cases kind <;> first | exact absurd rfl harray | cases hmatches

theorem lookup_object (hnodup : (properties.map Prod.fst).Nodup) {members : Json.Members}
    {property : String × JsonSchema} (hproperty : property ∈ properties) :
    ((properties.filterMap fun property =>
          if (members.lookup property.1).isSome ∨ property.1 ∈ required then
            some (property.1,
              (normalizeSchemaValue env (Json.getD members property.1 .null) property.2).1)
          else none) ++
        if closed then [] else
          members.filter fun member => member.1 ∉ properties.map Prod.fst).lookup property.1 =
      if (members.lookup property.1).isSome ∨ property.1 ∈ required then
        some (normalizeSchemaValue env (Json.getD members property.1 .null) property.2).1
      else none := by
  have hothers : (if closed then [] else
      members.filter fun member => member.1 ∉ properties.map Prod.fst).lookup property.1 = none := by
    rw [lookup_eq_none]
    cases closed with
    | true => simp
    | false =>
        intro hmem
        obtain ⟨member, hmember, hname⟩ := List.mem_map.1 hmem
        have hfresh := of_decide_eq_true (List.mem_filter.1 hmember).2
        exact hfresh (hname ▸ List.mem_map_of_mem hproperty)
  rw [List.lookup_append, hothers, Option.or_none]
  exact lookup_filterMap hnodup
    (fun property => (members.lookup property.1).isSome = true ∨ property.1 ∈ required)
    (fun property => (normalizeSchemaValue env (Json.getD members property.1 .null) property.2).1)
    hproperty

theorem object_valid_iff (hnodup : (properties.map Prod.fst).Nodup)
    (hrequired : ∀ name ∈ required, name ∈ properties.map Prod.fst)
    (ih : ∀ property ∈ properties, ∀ value path,
      validateSchemaValue search (normalizeSchemaValue env value property.2).1 property.2 path = [] ↔
        Repairable property.2 value) :
    validateSchemaValue search
        (normalizeSchemaValue env value (plain .object required properties closed items)).1
        (plain .object required properties closed items) path = [] ↔
      ∀ property ∈ properties, ∀ own, (ownMembers value).lookup property.1 = some own →
        Repairable property.2 own := by
  rw [normalize_object, plain_eq_nil]
  simp only [Json.obj.injEq, forall_eq', reduceCtorEq, IsEmpty.forall_iff, implies_true, and_true]
  constructor
  · rintro ⟨-, -, hchildren, -⟩ property hproperty own hown
    have htaken : ((ownMembers value).lookup property.1).isSome = true ∨ property.1 ∈ required :=
      .inl (hown ▸ rfl)
    have hvalue : Json.getD (ownMembers value) property.1 .null = own := by
      rw [Json.getD, hown]
      rfl
    refine (ih property hproperty own _).1 (hchildren property hproperty _ ?_)
    rw [lookup_object hnodup hproperty, if_pos htaken, hvalue]
  · intro hown
    refine ⟨rfl, fun key hkey => ?_, fun property hproperty own hlookup => ?_, fun hclosed member hmember => ?_⟩
    · obtain ⟨property, hproperty, rfl⟩ := List.mem_map.1 (hrequired key hkey)
      rw [lookup_object hnodup hproperty, if_pos (.inr hkey)]
      rfl
    · rw [lookup_object hnodup hproperty, Option.ite_none_right_eq_some, Option.some.injEq] at hlookup
      obtain ⟨-, rfl⟩ := hlookup
      refine (ih property hproperty _ _).2 ?_
      rw [Json.getD]
      cases hvalue : (ownMembers value).lookup property.1 with
      | none => exact repairable_null
      | some own => exact hown property hproperty own hvalue
    · rw [if_pos hclosed, List.append_nil, filterMap_eq_map_filter] at hmember
      obtain ⟨property, hproperty, rfl⟩ := List.mem_map.1 hmember
      exact List.mem_map_of_mem (List.mem_filter.1 hproperty).1

theorem scalar_valid_iff (hnull : kind ≠ .null) (hobject : kind ≠ .object) (harray : kind ≠ .array) :
    validateSchemaValue search
        (normalizeSchemaValue env value (plain kind required properties closed items)).1
        (plain kind required properties closed items) path = [] ↔
      (kind = .integer → ∀ x text, value ≠ .float x text) := by
  rw [normalize_scalar hnull hobject harray, plain_scalar_eq_nil hobject harray,
    repairScalar_matches hnull hobject harray, start_float]

theorem array_valid_iff
    (ih : ∀ part ∈ items, ∀ value path,
      validateSchemaValue search (normalizeSchemaValue env value part).1 part path = [] ↔
        Repairable part value) :
    validateSchemaValue search
        (normalizeSchemaValue env value (plain .array required properties closed items)).1
        (plain .array required properties closed items) path = [] ↔
      ∀ part, items = some part → ∀ item ∈ value.items?.getD [], Repairable part item := by
  rw [normalize_array, plain_eq_nil]
  simp only [Json.arr.injEq, forall_eq', reduceCtorEq, IsEmpty.forall_iff, implies_true, true_and]
  refine (and_iff_right (show matchesKind _ .array = true from rfl)).trans ?_
  refine forall₂_congr fun part hpart => ?_
  subst hpart
  constructor
  · intro hvalid item hitem
    obtain ⟨i, hi, rfl⟩ := List.getElem_of_mem hitem
    refine (ih part rfl _ _).1 (hvalid (_, i) ?_)
    rw [List.mk_mem_zipIdx_iff_getElem?, List.getElem?_map, List.getElem?_eq_getElem hi]
    rfl
  · intro hitems item hitem
    obtain ⟨own, hown, hvalue⟩ := List.mem_map.1 (List.fst_mem_of_mem_zipIdx hitem)
    rw [← hvalue]
    exact (ih part rfl own _).2 (hitems own hown)

end Plain

/-- A value that is repaired by a plain schema is valid exactly if no integer place has a float and
no null place anything but null. -/
theorem normalize_valid_iff (search : String → String → Bool) (env : Coercion)
    {schema : JsonSchema} (h : Plain schema) (value : Json) (path : String) :
    validateSchemaValue search (normalizeSchemaValue env value schema).1 schema path = [] ↔
      Repairable schema value := by
  induction h generalizing value path with
  | intro kind required properties closed items hnodup hrequired _ _ ihproperties ihitems =>
      by_cases hnull : kind = .null
      · subst hnull
        have hscalar : Kind.null ≠ .object ∧ Kind.null ≠ .array := ⟨nofun, nofun⟩
        rw [normalize_null, plain_scalar_eq_nil hscalar.1 hscalar.2, Repairable]
        cases value <;> simp [plain, matchesKind]
      by_cases hobject : kind = .object
      · subst hobject
        rw [object_valid_iff hnodup hrequired ihproperties, Repairable]
        cases value <;> simp [plain, ownMembers, Json.members?]
      by_cases harray : kind = .array
      · subst harray
        rw [array_valid_iff ihitems, Repairable]
        cases value <;> simp [plain, Json.items?]
      · rw [scalar_valid_iff hnull hobject harray, Repairable]
        simp [plain, hnull, hobject, harray]

/-! ## An amount that is repaired, and one that is not -/

namespace Sample

/-- Reads one number. -/
def reading : Coercion := ⟨fun text => if text = "12" then some (12, "12.0") else none, id, id⟩

def leaf (kind : Kind) : JsonSchema := plain kind [] [] false none

def invoice : JsonSchema :=
  plain .object ["total", "paid"] [("total", leaf .integer), ("paid", leaf .boolean)] true none

def invoiceData : Json := .obj [("total", .str "12"), ("note", .null)]

end Sample

theorem plain_leaf (kind : Kind) : Plain (Sample.leaf kind) :=
  .intro kind [] [] false none List.nodup_nil nofun nofun nofun

/-- The total is read from a text, what is missing is added, and what is not known is left out. -/
theorem normalize_valid_iff_invoice :
    (normalizeSchemaValue Sample.reading Sample.invoiceData Sample.invoice).1 =
        .obj [("total", .int 12), ("paid", .bool false)] ∧
      validateSchemaValue (fun _ _ => true)
        (normalizeSchemaValue Sample.reading Sample.invoiceData Sample.invoice).1 Sample.invoice
        "data" = [] := by
  have hplain : Plain Sample.invoice := by
    refine .intro _ _ _ _ _ (by decide) (by decide) ?_ nofun
    simp [plain_leaf]
  have htotal : (normalizeSchemaValue Sample.reading (.str "12") (Sample.leaf .integer)).1 =
      .int 12 := by
    have hscalar : Kind.integer ≠ .null ∧ Kind.integer ≠ .object ∧ Kind.integer ≠ .array := by decide
    rw [Sample.leaf, normalize_scalar hscalar.1 hscalar.2.1 hscalar.2.2]
    rfl
  have hpaid : (normalizeSchemaValue Sample.reading .null (Sample.leaf .boolean)).1 =
      .bool false := by
    have hscalar : Kind.boolean ≠ .null ∧ Kind.boolean ≠ .object ∧ Kind.boolean ≠ .array := by decide
    rw [Sample.leaf, normalize_scalar hscalar.1 hscalar.2.1 hscalar.2.2]
    rfl
  have hleaf : Repairable (Sample.leaf .integer) (.str "12") := by
    rw [Repairable]
    simp [Sample.leaf, plain]
  refine ⟨?_, (normalize_valid_iff _ _ hplain _ _).2 ?_⟩
  · rw [Sample.invoice, normalize_object, ← htotal, ← hpaid]
    rfl
  · rw [Repairable]
    simp [Sample.invoice, Sample.invoiceData, plain, List.lookup_cons, hleaf]

/-- A float is left where an integer is asked for. -/
theorem normalize_valid_iff_broken : ¬ ∀ (search : String → String → Bool) (env : Coercion)
    (schema : JsonSchema) (value : Json) (path : String), Plain schema →
      validateSchemaValue search (normalizeSchemaValue env value schema).1 schema path = [] := by
  intro h
  have hnull : Kind.integer ≠ .null := nofun
  have hvalid := h (fun _ _ => true) Sample.reading (Sample.leaf .integer)
    (.float (some (5 / 2)) "2.5") "data" (plain_leaf .integer)
  rw [Sample.leaf, scalar_valid_iff hnull nofun nofun] at hvalid
  exact hvalid rfl _ _ rfl

end Cestos.Schemas
