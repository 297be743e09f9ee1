import Cestos.Core.Json

/-!
# JSON Schema

What a schema of the common keywords means for a JSON value: its types and constants, how it is put
together from other schemas, what it asks of members and items, and its bounds.
-/

namespace Cestos.Core

inductive Kind
  | object
  | array
  | string
  | number
  | integer
  | boolean
  | null
  deriving DecidableEq

inductive Additional (α : Type)
  | unrestricted
  | forbidden
  | schema (schema : α)

/-- A schema with its keywords. `types` is empty where no type is given. -/
structure JsonSchema where
  types : List Kind
  enum : Option (List Json)
  const : Option Json
  allOf : List JsonSchema
  anyOf : Option (List JsonSchema)
  oneOf : Option (List JsonSchema)
  required : List String
  properties : List (String × JsonSchema)
  additionalProperties : Additional JsonSchema
  items : Option JsonSchema
  minProperties : Option Int
  maxProperties : Option Int
  minItems : Option Int
  maxItems : Option Int
  minLength : Option Int
  maxLength : Option Int
  pattern : Option String
  minimum : Option Json
  maximum : Option Json
  exclusiveMinimum : Option Json
  exclusiveMaximum : Option Json

/-- Whether a value is of a type. A number without a fraction is an integer. -/
def Json.Is (value : Json) : Kind → Prop
  | .object => ∃ members, value = .obj members
  | .array => ∃ items, value = .arr items
  | .string => ∃ text, value = .str text
  | .number => (∃ n, value = .int n) ∨ ∃ x text, value = .float x text
  | .integer => ∃ n : Int, value.number? = some n
  | .boolean => ∃ b, value = .bool b
  | .null => value = .null

namespace JsonSchema

/-- The schema without keywords. -/
def unrestricted : JsonSchema where
  types := []
  enum := none
  const := none
  allOf := []
  anyOf := none
  oneOf := none
  required := []
  properties := []
  additionalProperties := .unrestricted
  items := none
  minProperties := none
  maxProperties := none
  minItems := none
  maxItems := none
  minLength := none
  maxLength := none
  pattern := none
  minimum := none
  maximum := none
  exclusiveMinimum := none
  exclusiveMaximum := none

/-- One schema is part of another. -/
inductive Part : JsonSchema → JsonSchema → Prop
  | allOf {part schema : JsonSchema} : part ∈ schema.allOf → Part part schema
  | anyOf {part schema : JsonSchema} {parts : List JsonSchema} : schema.anyOf = some parts →
      part ∈ parts → Part part schema
  | oneOf {part schema : JsonSchema} {parts : List JsonSchema} : schema.oneOf = some parts →
      part ∈ parts → Part part schema
  | property {schema : JsonSchema} {property : String × JsonSchema} :
      property ∈ schema.properties → Part property.2 schema
  | additional {part schema : JsonSchema} : schema.additionalProperties = .schema part →
      Part part schema
  | item {part schema : JsonSchema} : schema.items = some part → Part part schema

theorem Part.sizeOf_lt {part schema : JsonSchema} (h : Part part schema) :
    sizeOf part < sizeOf schema := by
  cases h with
  | allOf hmem =>
      have hlt := List.sizeOf_lt_of_mem hmem
      cases schema
      simp only [JsonSchema.mk.sizeOf_spec] at hlt ⊢
      omega
  | anyOf hparts hmem | oneOf hparts hmem =>
      have hlt := List.sizeOf_lt_of_mem hmem
      cases schema
      cases hparts
      simp only [JsonSchema.mk.sizeOf_spec, Option.some.sizeOf_spec] at hlt ⊢
      omega
  | @property schema property hmem =>
      have hlt := List.sizeOf_lt_of_mem hmem
      cases schema
      cases property
      simp only [JsonSchema.mk.sizeOf_spec, Prod.mk.sizeOf_spec] at hlt ⊢
      omega
  | additional hpart =>
      cases schema
      cases hpart
      simp only [JsonSchema.mk.sizeOf_spec, Additional.schema.sizeOf_spec]
      omega
  | item hpart =>
      cases schema
      cases hpart
      simp only [JsonSchema.mk.sizeOf_spec, Option.some.sizeOf_spec]
      omega

/-- What follows for a schema from its parts is so for all. -/
theorem induction {motive : JsonSchema → Prop}
    (h : ∀ schema, (∀ part, Part part schema → motive part) → motive schema)
    (schema : JsonSchema) : motive schema :=
  h schema fun part _ => induction h part
termination_by sizeOf schema
decreasing_by exact Part.sizeOf_lt ‹_›

def names (schema : JsonSchema) : List String := schema.properties.map Prod.fst

/-! ## Meaning -/

variable (search : String → String → Bool)

/-- A count is within bounds. -/
def Within (minimum maximum : Option Int) (count : Nat) : Prop :=
  (∀ n ∈ minimum, n ≤ count) ∧ ∀ n ∈ maximum, (count : Int) ≤ n

/-- Whether the value is of one of the types, if any are given. -/
def Typed (schema : JsonSchema) (value : Json) : Prop :=
  schema.types = [] ∨ ∃ kind ∈ schema.types, value.Is kind

def Bounded (schema : JsonSchema) (x : ℚ) : Prop :=
  (∀ bound ∈ schema.minimum, ∀ y ∈ bound.number?, y ≤ x) ∧
    (∀ bound ∈ schema.maximum, ∀ y ∈ bound.number?, x ≤ y) ∧
    (∀ bound ∈ schema.exclusiveMinimum, ∀ y ∈ bound.number?, y < x) ∧
    ∀ bound ∈ schema.exclusiveMaximum, ∀ y ∈ bound.number?, x < y

/-- What a schema asks of a value, apart from what it asks with its parts. -/
structure Admits (schema : JsonSchema) (value : Json) : Prop where
  type : schema.Typed value
  enum : ∀ choices ∈ schema.enum, ∃ choice ∈ choices, value.same choice = true
  const : ∀ constant ∈ schema.const, value.same constant = true
  required : ∀ members, value = .obj members → ∀ name ∈ schema.required,
    (members.lookup name).isSome
  properties : ∀ members, value = .obj members →
    Within schema.minProperties schema.maxProperties members.length
  additional : ∀ members, value = .obj members → schema.additionalProperties = .forbidden →
    ∀ member ∈ members, member.1 ∈ schema.names
  items : ∀ items, value = .arr items → Within schema.minItems schema.maxItems items.length
  length : ∀ text, value = .str text → Within schema.minLength schema.maxLength text.length
  pattern : ∀ text, value = .str text → ∀ pattern ∈ schema.pattern, search pattern text = true
  bounds : ∀ x, value.number? = some x → schema.Bounded x

/-- Whether a value is valid. Of `oneOf` exactly one has to hold. -/
def Valid (schema : JsonSchema) (value : Json) : Prop :=
  schema.Admits search value ∧
    (∀ part ∈ schema.allOf, part.Valid value) ∧
    (∀ parts, schema.anyOf = some parts → ∃ i : Fin parts.length, (parts.get i).Valid value) ∧
    (∀ parts, schema.oneOf = some parts → ∃! i : Fin parts.length, (parts.get i).Valid value) ∧
    (∀ members, value = .obj members →
      (∀ property ∈ schema.properties, ∀ own, members.lookup property.1 = some own →
        property.2.Valid own) ∧
      ∀ part, schema.additionalProperties = .schema part → ∀ member ∈ members,
        member.1 ∉ schema.names → part.Valid member.2) ∧
    ∀ items, value = .arr items → ∀ part, schema.items = some part → ∀ item ∈ items,
      part.Valid item
termination_by sizeOf schema
decreasing_by
  all_goals apply Part.sizeOf_lt
  · exact .allOf ‹_›
  · exact .anyOf ‹_› (List.get_mem _ _)
  · exact .oneOf ‹_› (List.get_mem _ _)
  · exact .property ‹_›
  · exact .additional ‹_›
  · exact .item ‹_›

end JsonSchema

end Cestos.Core
