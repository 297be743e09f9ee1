import Cestos.Schemas.Meaning
import Cestos.Schemas.Normalize
import Cestos.Schemas.Validate

/-!
# What a repair keeps

Data that is valid stays as it is when it is repaired, as long as its places have values of the
first type that is declared for them, and null only where null is declared.
-/

namespace Cestos.Schemas

open Cestos.Core

/-- The properties of the schema and of its parts have different names, as those of a dict have. -/
inductive NamesDistinct : JsonSchema → Prop
  | intro {schema : JsonSchema} : schema.names.Nodup →
      (∀ property ∈ schema.properties, NamesDistinct property.2) →
      (∀ part, schema.items = some part → NamesDistinct part) → NamesDistinct schema

/-- Null is declared wherever there is null, and what else there is is of the first type. -/
def Kept (schema : JsonSchema) (value : Json) : Prop :=
  (value = .null → Kind.null ∈ schema.types) ∧
    (value ≠ .null → ∀ kind ∈ expectedKind schema, isInstance kind value = true) ∧
    (expectedKind schema = some .object → ∀ members, value = .obj members →
      ∀ property ∈ schema.properties, ∀ own, members.lookup property.1 = some own →
        Kept property.2 own) ∧
    (expectedKind schema = some .array → ∀ items, value = .arr items →
      ∀ part, schema.items = some part → ∀ item ∈ items, Kept part item)
termination_by sizeOf schema
decreasing_by
  all_goals apply JsonSchema.Part.sizeOf_lt
  · exact .property ‹_›
  · exact .item ‹_›

variable {compiles : String → Bool} {search : String → String → Bool} {env : Coercion}
  {schema : JsonSchema} {value : Json} {path : String}

/-! ## Schemas that have been read -/

theorem distinct_of_lookup {members : Json.Members} {name : String}
    (h : (Json.obj members).distinct = true) (hlookup : members.lookup name = some value) :
    value.distinct = true :=
  (Json.distinct_obj.1 h).2 _ (mem_of_lookup hlookup)

theorem namesDistinct_of_ok {levels : Nat} {text : Json} (hdistinct : text.distinct = true)
    (h : checkSchemaShape compiles levels text = .ok schema) : NamesDistinct schema := by
  induction levels generalizing text schema with
  | zero => cases h
  | succ levels ih =>
      obtain ⟨members, rfl, hreads⟩ := reads_of_ok h
      obtain ⟨own, hown, hproperties⟩ := hreads.properties
      have howns : (Json.obj own).distinct = true := by
        rw [← hown, Json.getD]
        cases hlookup : members.lookup "properties" with
        | none => rfl
        | some properties => exact distinct_of_lookup hdistinct hlookup
      obtain ⟨hnodup, hvalues⟩ := Json.distinct_obj.1 howns
      have hnames : schema.names = own.map Prod.fst :=
        map_eq_of_mapM hproperties fun _ _ hread => (checkProperty_ok hread).1
      refine .intro (hnames ▸ hnodup) ?_ fun part hpart => ?_
      · exact forall_of_mapM hproperties fun property hproperty read hread =>
          ih (hvalues property hproperty) (checkProperty_ok hread).2
      · obtain ⟨child, hlookup, hchild⟩ := checkItems_ok (hpart ▸ hreads.items)
        exact ih (distinct_of_lookup hdistinct hlookup) hchild

/-! ## Values that are not null -/

/-- The properties that are taken up, each with what becomes of it. -/
def children (env : Coercion) (schema : JsonSchema) (members : Json.Members) :
    List (String × Repair) :=
  schema.properties.filterMap fun property =>
    if (members.lookup property.1).isSome ∨ property.1 ∈ schema.required then
      some (property.1, normalizeSchemaValue env (Json.getD members property.1 .null) property.2)
    else none

/-- The items, each with what becomes of it. -/
def repairItems (env : Coercion) (schema : JsonSchema) (items : List Json) : List Repair :=
  items.map fun item =>
    match schema.items with
    | none => (item, false)
    | some part => normalizeSchemaValue env item part

/-- A value that is brought into the first type. -/
def repairTyped (env : Coercion) (schema : JsonSchema) (value : Json) : Repair :=
  match expectedKind schema with
  | none => (value, false)
  | some .object => rebuildObject schema value (children env schema (value.members?.getD []))
  | some .array => rebuildArray value (repairItems env schema (value.items?.getD []))
  | some kind => repairScalar env kind value

/-- A value that is brought into the choices. -/
def settle (schema : JsonSchema) (repaired : Repair) : Repair :=
  ((settleEnum schema repaired.1).1, repaired.2 || (settleEnum schema repaired.1).2)

theorem normalize_of_not_left (h : ¬ (isNull value = true ∧ Kind.null ∈ schema.types)) :
    normalizeSchemaValue env value schema =
      ((settle schema (repairTyped env schema (startValue schema value))).1,
        isNull value || (settle schema (repairTyped env schema (startValue schema value))).2) := by
  rw [normalizeSchemaValue, if_neg h]
  unfold repairTyped repairItems settle
  cases expectedKind schema with
  | none => simp only [Bool.or_assoc]
  | some kind =>
      cases kind with
      | array => cases schema.items <;> simp only [Bool.or_assoc]
      | object => simp only [Bool.or_assoc, children]
      | string | number | integer | boolean | null => simp only [Bool.or_assoc]

theorem normalize_of_ne_null (h : value ≠ .null) :
    normalizeSchemaValue env value schema = settle schema (repairTyped env schema value) := by
  have hvalue : isNull value = false := by cases value <;> simp_all [isNull]
  rw [normalize_of_not_left (by simp [hvalue]), startValue, hvalue]
  rfl

theorem settle_kept {repaired : Repair}
    (henum : ∀ choices ∈ schema.enum, choices.any value.pythonEq = true)
    (hexact : repaired.1.exact value = true) (hunchanged : repaired.2 = false) :
    settle schema repaired = repaired := by
  have hsettled : settleEnum schema repaired.1 = (repaired.1, false) := by
    unfold settleEnum
    split
    · rfl
    · rfl
    · next first rest hchoices =>
      obtain ⟨choice, hchoice, heq⟩ := List.any_eq_true.1 (henum _ hchoices)
      exact if_pos (List.any_eq_true.2 ⟨choice, hchoice, Json.pythonEq_of_exact _ _ _ hexact heq⟩)
  rw [settle, hsettled, hunchanged, Bool.or_false, ← hunchanged]

theorem settle_unchanged {repaired : Repair} (h : (settle schema repaired).2 = false) :
    repaired.2 = false :=
  (Bool.or_eq_false_iff.1 h).1

section Objects

variable {members : Json.Members}

/-- Of a valid object the properties are taken up that it has. -/
theorem mem_children (hrequired : ∀ key ∈ schema.required, (members.lookup key).isSome = true)
    {child : String × Repair} : child ∈ children env schema members ↔
      ∃ property ∈ schema.properties, ∃ own, members.lookup property.1 = some own ∧
        child = (property.1, normalizeSchemaValue env own property.2) := by
  simp only [children, List.mem_filterMap, Option.ite_none_right_eq_some, Option.some.injEq]
  refine exists_congr fun property => and_congr_right fun _ => ?_
  constructor
  · rintro ⟨htaken, rfl⟩
    obtain ⟨own, hown⟩ := Option.isSome_iff_exists.1 (htaken.elim id (hrequired property.1))
    refine ⟨own, hown, ?_⟩
    rw [Json.getD, hown]
    rfl
  · rintro ⟨own, hown, rfl⟩
    refine ⟨.inl (hown ▸ rfl), ?_⟩
    rw [Json.getD, hown]
    rfl

theorem rebuild_unchanged_iff
    (hrequired : ∀ key ∈ schema.required, (members.lookup key).isSome = true) :
    (rebuildObject schema (.obj members) (children env schema members)).2 = false ↔
      ∀ property ∈ schema.properties, ∀ own, members.lookup property.1 = some own →
        (normalizeSchemaValue env own property.2).2 = false := by
  simp only [rebuildObject, Json.members?, Option.isNone_some, Bool.false_or, Option.getD_some,
    List.any_eq_false, mem_children hrequired]
  constructor
  · intro hchildren property hproperty own hown
    have hchild := hchildren _ ⟨property, hproperty, own, hown, rfl⟩
    simpa [hown] using hchild
  · rintro hown child ⟨property, hproperty, own, hlookup, rfl⟩
    simp [hown property hproperty own hlookup, hlookup]

/-- The members beside the properties. -/
def otherMembers (schema : JsonSchema) (members : Json.Members) : Json.Members :=
  match schema.additionalProperties with
  | .forbidden => []
  | .unrestricted | .schema _ => members.filter fun member => member.1 ∉ schema.names

theorem rebuildObject_fst : (rebuildObject schema (.obj members) (children env schema members)).1 =
    .obj ((children env schema members).map (fun child => (child.1, child.2.1)) ++
      otherMembers schema members) := rfl

theorem mem_otherMembers (hforbidden : schema.additionalProperties = .forbidden →
      ∀ member ∈ members, member.1 ∈ schema.names) {member : String × Json} :
    member ∈ otherMembers schema members ↔ member ∈ members ∧ member.1 ∉ schema.names := by
  unfold otherMembers
  split
  · next hadditional =>
    have hnone : ¬ (member ∈ members ∧ member.1 ∉ schema.names) :=
      fun h => h.2 (hforbidden hadditional member h.1)
    simpa using hnone
  all_goals simp

theorem otherMembers_sublist : (otherMembers schema members).Sublist members := by
  unfold otherMembers
  split
  · exact List.nil_sublist members
  all_goals exact List.filter_sublist

theorem rebuild_names (hnames : schema.names.Nodup) (hdistinct : (members.map Prod.fst).Nodup)
    (hrequired : ∀ key ∈ schema.required, (members.lookup key).isSome = true)
    (hforbidden : schema.additionalProperties = .forbidden →
      ∀ member ∈ members, member.1 ∈ schema.names) :
    (((children env schema members).map (fun child => (child.1, child.2.1)) ++
      otherMembers schema members).map Prod.fst).Perm (members.map Prod.fst) := by
  have hchildren : ((children env schema members).map Prod.fst).Nodup := by
    rw [children, filterMap_eq_map_filter, List.map_map]
    exact hnames.sublist (List.filter_sublist.map Prod.fst)
  have hmem : ∀ name, name ∈ (children env schema members).map Prod.fst ↔
      name ∈ schema.names ∧ name ∈ members.map Prod.fst := by
    intro name
    rw [List.mem_map, ← isSome_lookup, Option.isSome_iff_exists]
    constructor
    · rintro ⟨child, hchild, rfl⟩
      obtain ⟨property, hproperty, own, hown, rfl⟩ := (mem_children hrequired).1 hchild
      exact ⟨List.mem_map_of_mem hproperty, own, hown⟩
    · rintro ⟨hname, own, hown⟩
      obtain ⟨property, hproperty, rfl⟩ := List.mem_map.1 hname
      exact ⟨_, (mem_children hrequired).2 ⟨property, hproperty, own, hown, rfl⟩, rfl⟩
  have hother : ∀ name, name ∈ (otherMembers schema members).map Prod.fst ↔
      name ∈ members.map Prod.fst ∧ name ∉ schema.names := by
    intro name
    simp only [List.mem_map, mem_otherMembers hforbidden]
    grind
  rw [List.map_append, List.map_map]
  have hkeys : ((children env schema members).map Prod.fst ++
      (otherMembers schema members).map Prod.fst).Nodup := by
    refine List.nodup_append.2 ⟨hchildren, hdistinct.sublist (otherMembers_sublist.map _), ?_⟩
    rintro name hname _ hname' rfl
    exact ((hother name).1 hname').2 ((hmem name).1 hname).1
  refine (List.perm_ext_iff_of_nodup hkeys hdistinct).2 fun name => ?_
  rw [List.mem_append, hmem, hother]
  tauto

theorem rebuild_exact (hnames : schema.names.Nodup) (hdistinct : (Json.obj members).distinct = true)
    (hrequired : ∀ key ∈ schema.required, (members.lookup key).isSome = true)
    (hforbidden : schema.additionalProperties = .forbidden →
      ∀ member ∈ members, member.1 ∈ schema.names)
    (hown : ∀ property ∈ schema.properties, ∀ own, members.lookup property.1 = some own →
      (normalizeSchemaValue env own property.2).1.exact own = true) :
    (rebuildObject schema (.obj members) (children env schema members)).1.exact (.obj members) =
      true := by
  obtain ⟨hnodup, hvalues⟩ := Json.distinct_obj.1 hdistinct
  have hperm : (((children env schema members).map (fun child => (child.1, child.2.1)) ++
      otherMembers schema members).map Prod.fst).Perm (members.map Prod.fst) :=
    rebuild_names hnames hnodup hrequired hforbidden
  have hlength := hperm.length_eq
  rw [List.length_map, List.length_map] at hlength
  rw [rebuildObject_fst, Json.exact, Json.sameBy, Bool.and_eq_true, Json.sameMembersBy_iff]
  refine ⟨decide_eq_true hlength, fun member hmember => ?_⟩
  rcases List.mem_append.1 hmember with hchild' | hother
  · obtain ⟨child, hchild, rfl⟩ := List.mem_map.1 hchild'
    obtain ⟨property, hproperty, own, hlookup, rfl⟩ := (mem_children hrequired).1 hchild
    exact ⟨own, hlookup, hown property hproperty own hlookup⟩
  · have hmem := ((mem_otherMembers hforbidden).1 hother).1
    exact ⟨member.2, (lookup_eq_some_iff hnodup).2 hmem,
      Json.exact_refl member.2 (hvalues member hmem)⟩

end Objects

section Arrays

variable {items : List Json}

theorem exactItems_map {f : Json → Json} (h : ∀ item ∈ items, (f item).exact item = true) :
    Json.sameItemsBy Json.exactAtoms (items.map f) items = true := by
  induction items with
  | nil => rfl
  | cons item items ih =>
      obtain ⟨hitem, hitems⟩ := List.forall_mem_cons.1 h
      rw [List.map_cons, Json.sameItemsBy, Bool.and_eq_true]
      exact ⟨hitem, ih hitems⟩

theorem rebuildArray_unchanged_iff :
    (rebuildArray (.arr items) (repairItems env schema items)).2 = false ↔
      ∀ part, schema.items = some part → ∀ item ∈ items,
        (normalizeSchemaValue env item part).2 = false := by
  unfold rebuildArray repairItems
  cases schema.items <;> simp [Json.items?]

theorem rebuildArray_exact (hdistinct : (Json.arr items).distinct = true)
    (hitems : ∀ part, schema.items = some part → ∀ item ∈ items,
      (normalizeSchemaValue env item part).1.exact item = true) :
    (rebuildArray (.arr items) (repairItems env schema items)).1.exact (.arr items) = true := by
  have hown := Json.distinctItems_iff.1 hdistinct
  unfold rebuildArray repairItems
  rw [List.map_map, Json.exact, Json.sameBy]
  refine exactItems_map fun item hitem => ?_
  cases hpart : schema.items with
  | none => exact Json.exact_refl item (hown item hitem)
  | some part => exact hitems part hpart item hitem

end Arrays

/-! ## Valid values -/

theorem isInstance_object : isInstance .object value = true ↔ ∃ members, value = .obj members := by
  cases value <;> simp [isInstance, matchesKind]

theorem isInstance_array : isInstance .array value = true ↔ ∃ items, value = .arr items := by
  cases value <;> simp [isInstance, matchesKind]

theorem expectedKind_ne_null : expectedKind schema ≠ some .null := by
  intro h
  have hkind := List.find?_some h
  simp at hkind

theorem normalize_of_kept (hnames : NamesDistinct schema) (hdistinct : value.distinct = true)
    (hvalid : validateSchemaValue search value schema path = []) (hkept : Kept schema value) :
    (normalizeSchemaValue env value schema).1.exact value = true ∧
      (normalizeSchemaValue env value schema).2 = false := by
  induction hnames generalizing value path with
  | @intro schema hnodup _ _ ihproperties ihitems =>
      rw [Kept] at hkept
      obtain ⟨hnull, hinstance, hmembers, harray⟩ := hkept
      obtain ⟨-, henum, -, -, -, -, hobject, hlist, -⟩ := validateSchemaValue_eq_nil.1 hvalid
      by_cases hvalue : value = .null
      · subst hvalue
        rw [normalizeSchemaValue, if_pos ⟨rfl, hnull rfl⟩]
        exact ⟨rfl, rfl⟩
      have htyped : (repairTyped env schema value).1.exact value = true ∧
          (repairTyped env schema value).2 = false := by
        unfold repairTyped
        split
        · exact ⟨Json.exact_refl value hdistinct, rfl⟩
        · next hkind =>
          obtain ⟨members, rfl⟩ := isInstance_object.1 (hinstance hvalue .object hkind)
          obtain ⟨hrequired, hproperties, hforbidden, -⟩ := hobject members rfl
          have hown : ∀ property ∈ schema.properties, ∀ own,
              members.lookup property.1 = some own →
              (normalizeSchemaValue env own property.2).1.exact own = true ∧
                (normalizeSchemaValue env own property.2).2 = false := by
            intro property hproperty own hlookup
            exact ihproperties property hproperty (distinct_of_lookup hdistinct hlookup)
              (hproperties property hproperty own hlookup)
              (hmembers hkind members rfl property hproperty own hlookup)
          exact ⟨rebuild_exact hnodup hdistinct hrequired hforbidden
              fun property hproperty own hlookup => (hown property hproperty own hlookup).1,
            (rebuild_unchanged_iff hrequired).2
              fun property hproperty own hlookup => (hown property hproperty own hlookup).2⟩
        · next hkind =>
          obtain ⟨items, rfl⟩ := isInstance_array.1 (hinstance hvalue .array hkind)
          have hown : ∀ part, schema.items = some part → ∀ item ∈ items,
              (normalizeSchemaValue env item part).1.exact item = true ∧
                (normalizeSchemaValue env item part).2 = false := by
            intro part hpart item hitem
            obtain ⟨i, hplace⟩ := exists_place hitem
            exact ihitems part hpart (Json.distinctItems_iff.1 hdistinct _ hitem)
              ((hlist items rfl).2 part hpart _ hplace)
              (harray hkind items rfl part hpart _ hitem)
          exact ⟨rebuildArray_exact hdistinct fun part hpart item hitem => (hown part hpart item hitem).1,
            rebuildArray_unchanged_iff.2 fun part hpart item hitem => (hown part hpart item hitem).2⟩
        · next kind _ _ hkind =>
          have hsame : repairScalar env kind value = (value, false) :=
            if_pos (hinstance hvalue kind hkind)
          rw [hsame]
          exact ⟨Json.exact_refl value hdistinct, rfl⟩
      rw [normalize_of_ne_null hvalue, settle_kept henum htyped.1 htyped.2]
      exact htyped

theorem isInstance_of_unchanged {kind : Kind} (hkind : expectedKind schema = some kind)
    (h : (repairTyped env schema value).2 = false) : isInstance kind value = true := by
  unfold repairTyped at h
  rw [hkind] at h
  cases kind with
  | null => exact absurd hkind expectedKind_ne_null
  | object => cases value <;> first | rfl | cases h
  | array => cases value <;> first | rfl | cases h
  | string | number | integer | boolean =>
      by_contra hinstance
      have hchanged : (repairScalar env _ value).2 = true := congrArg Prod.snd (if_neg hinstance)
      exact Bool.false_ne_true (h.symm.trans hchanged)

theorem kept_of_unchanged (hvalid : validateSchemaValue search value schema path = [])
    (h : (normalizeSchemaValue env value schema).2 = false) : Kept schema value := by
  induction schema using JsonSchema.induction generalizing value path with
  | h schema ih =>
      obtain ⟨-, -, -, -, -, -, hobject, hlist, -⟩ := validateSchemaValue_eq_nil.1 hvalid
      rw [Kept]
      by_cases hvalue : value = .null
      · subst hvalue
        have hdeclared : Kind.null ∈ schema.types := by
          by_contra hnot
          rw [normalizeSchemaValue, if_neg fun hnull => hnot hnull.2] at h
          cases h
        exact ⟨fun _ => hdeclared, fun hne => absurd rfl hne, nofun, nofun⟩
      rw [normalize_of_ne_null hvalue] at h
      have htyped := settle_unchanged h
      refine ⟨fun hnull => absurd hnull hvalue, fun _ kind hkind => isInstance_of_unchanged hkind htyped,
        ?_, ?_⟩
      · rintro hkind members rfl property hproperty own hown
        obtain ⟨hrequired, hproperties, -⟩ := hobject members rfl
        rw [repairTyped, hkind] at htyped
        exact ih property.2 (.property hproperty) (hproperties property hproperty own hown)
          ((rebuild_unchanged_iff hrequired).1 htyped property hproperty own hown)
      · rintro hkind items rfl part hpart item hitem
        obtain ⟨i, hplace⟩ := exists_place hitem
        rw [repairTyped, hkind] at htyped
        exact ih part (.item hpart) ((hlist items rfl).2 part hpart _ hplace)
          (rebuildArray_unchanged_iff.1 htyped part hpart _ hitem)

/-- Valid data comes back unchanged exactly if null is declared wherever there is null, and what
else there is is of the first type that is declared for it. -/
theorem normalize_keeps_iff (compiles : String → Bool) (search : String → String → Bool)
    (env : Coercion) {text value : Json} {schema : JsonSchema} {path : String}
    (htext : text.distinct = true) (hvalue : value.distinct = true)
    (haccepted : checkSchemaShape compiles 33 text = .ok schema)
    (hvalid : validateSchemaValue search value schema path = []) :
    ((normalizeSchemaValue env value schema).1.exact value = true ∧
        (normalizeSchemaValue env value schema).2 = false) ↔ Kept schema value :=
  ⟨fun h => kept_of_unchanged hvalid h.2,
    normalize_of_kept (namesDistinct_of_ok htext haccepted) hvalue hvalid⟩

/-! ## A receipt, and a number that is taken for a text -/

namespace Sample

open JsonSchema (unrestricted)

def plainText : Coercion := ⟨fun _ => none, id, id⟩

def textOrNumber : Json := .obj [("type", .arr [.str "string", .str "number"])]

end Sample

/-- The receipt comes back as it was. -/
theorem normalize_keeps_iff_receipt :
    (normalizeSchemaValue Sample.plainText Sample.paid Sample.receiptSchema).1.exact Sample.paid =
        true ∧
      (normalizeSchemaValue Sample.plainText Sample.paid Sample.receiptSchema).2 = false := by
  have htotal : validateSchemaValue (fun _ _ => true) (.float (some (25 / 2)) "12.5") Sample.total
      "data.total" = [] := by
    have hbound : (0 : ℚ) ≤ 25 / 2 := by decide +kernel
    rw [validateSchemaValue_eq_nil]
    simp [Sample.total, JsonSchema.unrestricted, matchesKind, JsonSchema.Within, JsonSchema.Bounded,
      Json.number?, hbound]
  have hvalid : validateSchemaValue (fun _ _ => true) Sample.paid Sample.receiptSchema "data" =
      [] := by
    rw [validateSchemaValue_eq_nil]
    simp [Sample.paid, Sample.receiptSchema, JsonSchema.unrestricted, matchesKind, JsonSchema.Within,
      JsonSchema.names, Json.number?, htotal]
  have hkept : Kept Sample.total (.float (some (25 / 2)) "12.5") := by
    rw [Kept]
    simp [Sample.total, JsonSchema.unrestricted, expectedKind, isInstance, matchesKind]
  have haccepted : checkSchemaShape (fun _ => true) 33 Sample.receipt = .ok Sample.receiptSchema :=
    rfl
  refine (normalize_keeps_iff (fun _ => true) (fun _ _ => true) Sample.plainText rfl rfl haccepted
    hvalid).2 ?_
  rw [Kept]
  simp [Sample.paid, Sample.receiptSchema, JsonSchema.unrestricted, expectedKind, isInstance,
    matchesKind, hkept]

/-- A number becomes a text where the text comes first. -/
theorem normalize_keeps_iff_broken : ¬ ∀ (compiles : String → Bool)
    (search : String → String → Bool) (env : Coercion) (text value : Json) (schema : JsonSchema)
    (path : String), text.distinct = true → value.distinct = true →
      checkSchemaShape compiles 33 text = .ok schema →
      validateSchemaValue search value schema path = [] →
      (normalizeSchemaValue env value schema).1.exact value = true ∧
        (normalizeSchemaValue env value schema).2 = false := by
  intro h
  have hvalid : validateSchemaValue (fun _ _ => true) (.int 5)
      { JsonSchema.unrestricted with types := [.string, .number] } "data" = [] := by
    rw [validateSchemaValue_eq_nil]
    simp [JsonSchema.unrestricted, matchesKind, JsonSchema.Within, JsonSchema.Bounded]
  have hkept := kept_of_unchanged hvalid (h (fun _ => true) (fun _ _ => true) Sample.plainText
    Sample.textOrNumber (.int 5) _ "data" rfl rfl rfl hvalid).2
  rw [Kept] at hkept
  exact absurd (hkept.2.1 Json.noConfusion .string rfl) Bool.false_ne_true

end Cestos.Schemas
