import Cestos.Core.JsonSchema
import Cestos.Core.Outcome

/-!
# Schemas of documents

A schema that is supplied with a document is checked for its shape, to a depth of thirty-two, and
read. The data that a model has found in the document is validated against it; each error names the
place of the value.
-/

namespace Cestos.Schemas

open Cestos.Core

/-- What Python raises. -/
inductive Raised
  | valueError (message : String)
  | typeError
  deriving DecidableEq

/-! ## Shape -/

def kinds : List (String × Kind) :=
  [("object", .object), ("array", .array), ("string", .string), ("number", .number),
    ("integer", .integer), ("boolean", .boolean), ("null", .null)]

/-- A declared type. What cannot be looked up in a set is not refused but raises. -/
def checkKind (kind : Json) : Except Raised Kind :=
  if kind.hashable then
    orError (kind.str?.bind fun name => kinds.lookup name)
      (.valueError "The JSON schema contains an unsupported type declaration.")
  else .error .typeError

def checkTypes (schema : Json.Members) : Except Raised (List Kind) :=
  match Json.getD schema "type" .null with
  | .null => .ok []
  | .arr [] => .error (.valueError "The JSON schema contains an unsupported type declaration.")
  | .arr declared => declared.mapM checkKind
  | declared => do .ok [← checkKind declared]

def checkRequired (schema : Json.Members) : Except Raised (List String) :=
  let message := "JSON schema required must be an array of property names."
  match Json.getD schema "required" (.arr []) with
  | .arr names => names.mapM fun name => orError name.str? (.valueError message)
  | _ => .error (.valueError message)

def checkEnum (schema : Json.Members) : Except Raised (Option (List Json)) :=
  match schema.lookup "enum" with
  | none => .ok none
  | some choices => do
    .ok (some (← orError choices.items? (.valueError "JSON schema enum must be an array.")))

/-- A number, also one that is not finite. -/
def isNumber : Json → Bool
  | .int _ | .float _ _ => true
  | _ => false

def checkBound (schema : Json.Members) (key : String) : Except Raised (Option Json) :=
  match schema.lookup key with
  | none => .ok none
  | some bound => do
    ensure (isNumber bound) (.valueError ("JSON schema " ++ key ++ " must be a number."))
    .ok (some bound)

def checkCount (schema : Json.Members) (key : String) : Except Raised (Option Int) :=
  match schema.lookup key with
  | none => .ok none
  | some count => do
    .ok (some (← orError count.int?
      (.valueError ("JSON schema " ++ key ++ " must be an integer."))))

def checkPattern (compiles : String → Bool) (schema : Json.Members) :
    Except Raised (Option String) :=
  match schema.lookup "pattern" with
  | none => .ok none
  | some pattern => do
    .ok (some (← orError (pattern.str?.filter compiles)
      (.valueError "JSON schema pattern must be a valid regular expression.")))

def checkAdditional (schema : Json.Members) (check : Json → Except Raised JsonSchema) :
    Except Raised (Additional JsonSchema) :=
  match Json.getD schema "additionalProperties" .null with
  | .obj members => do .ok (.schema (← check (.obj members)))
  | .null | .bool true => .ok .unrestricted
  | .bool false => .ok .forbidden
  | _ => .error
    (.valueError "JSON schema additionalProperties must be a boolean or schema object.")

def checkVariants (schema : Json.Members) (key : String) (check : Json → Except Raised JsonSchema) :
    Except Raised (Option (List JsonSchema)) :=
  match schema.lookup key with
  | none => .ok none
  | some variants => do
    let variants ← orError variants.items?
      (.valueError ("JSON schema " ++ key ++ " must be an array."))
    .ok (some (← variants.mapM check))

/-- `_check_schema_shape` with the levels that are left. What it accepts is what `.get` returns for
the keywords: a keyword that is null does not count for types, items and additional properties. -/
def checkSchemaShape (compiles : String → Bool) : Nat → Json → Except Raised JsonSchema
  | 0, _ =>
    .error (.valueError "The JSON schema is nested too deeply (maximum 32 levels).")
  | levels + 1, value => do
    let schema ← orError value.members? (.valueError "The JSON schema must be an object.")
    let types ← checkTypes schema
    ensure ((schema.lookup "$ref").isNone)
      (.valueError "JSON schema $ref values are not supported; inline the referenced schema.")
    let required ← checkRequired schema
    let enum ← checkEnum schema
    let minimum ← checkBound schema "minimum"
    let maximum ← checkBound schema "maximum"
    let exclusiveMinimum ← checkBound schema "exclusiveMinimum"
    let exclusiveMaximum ← checkBound schema "exclusiveMaximum"
    let minLength ← checkCount schema "minLength"
    let maxLength ← checkCount schema "maxLength"
    let minItems ← checkCount schema "minItems"
    let maxItems ← checkCount schema "maxItems"
    let minProperties ← checkCount schema "minProperties"
    let maxProperties ← checkCount schema "maxProperties"
    let pattern ← checkPattern compiles schema
    let properties ← orError (Json.getD schema "properties" (.obj [])).members?
      (.valueError "JSON schema properties must be an object.")
    let items ← match Json.getD schema "items" .null with
      | .null => .ok none
      | items => do .ok (some (← checkSchemaShape compiles levels items))
    let properties ← properties.mapM fun property => do
      .ok (property.1, ← checkSchemaShape compiles levels property.2)
    let additionalProperties ← checkAdditional schema (checkSchemaShape compiles levels)
    let oneOf ← checkVariants schema "oneOf" (checkSchemaShape compiles levels)
    let anyOf ← checkVariants schema "anyOf" (checkSchemaShape compiles levels)
    let allOf ← checkVariants schema "allOf" (checkSchemaShape compiles levels)
    .ok {
      types, enum, const := schema.lookup "const", allOf := allOf.getD [], anyOf, oneOf, required,
      properties, additionalProperties, items, minProperties, maxProperties, minItems, maxItems,
      minLength, maxLength, pattern, minimum, maximum, exclusiveMinimum, exclusiveMaximum }

/-! ## Values -/

def Kind.text : Kind → String
  | .object => "object"
  | .array => "array"
  | .string => "string"
  | .number => "number"
  | .integer => "integer"
  | .boolean => "boolean"
  | .null => "null"

/-- `isinstance`, with booleans told apart from numbers. -/
def matchesKind (value : Json) (kind : Kind) : Bool :=
  match kind, value with
  | .object, .obj _ => true
  | .array, .arr _ => true
  | .string, .str _ => true
  | .number, .int _ => true
  | .number, .float _ _ => true
  | .integer, .int _ => true
  | .boolean, .bool _ => true
  | .null, .null => true
  | _, _ => false

/-- `<` and `<=` of numbers. A number that is not finite, which JSON does not have, is not compared. -/
def less (value bound : Json) : Bool :=
  value.number?.any fun x => bound.number?.any fun y => x < y

def lessEq (value bound : Json) : Bool :=
  value.number?.any fun x => bound.number?.any fun y => x ≤ y

/-- An error, if something is the case. -/
def report (p : Prop) [Decidable p] (message : String) : List String :=
  if p then [message] else []

/-- An error unless one of the alternatives, if there are any, has no errors. -/
def reportAny (results : List (List String)) (message : String) : List String :=
  report (results ≠ [] ∧ [] ∉ results) message

def reportOne (results : List (List String)) (message : String) : List String :=
  report (results ≠ [] ∧ results.count [] ≠ 1) message

/-- The errors about the number of members, of items or of characters. -/
def reportCount (minimum maximum : Option Int) (count : Nat) (few many : String) : List String :=
  report ((count : Int) < minimum.getD 0) few ++
    report (maximum.any (fun most => most < (count : Int)) = true) many

/-- The errors about the bounds of a number. -/
def reportBounds (value : Json) (schema : JsonSchema) (path : String) : List String :=
  report (schema.minimum.any (less value) = true) (path ++ " is below the allowed minimum") ++
    report (schema.maximum.any (fun bound => less bound value) = true)
      (path ++ " is above the allowed maximum") ++
    report (schema.exclusiveMinimum.any (lessEq value) = true)
      (path ++ " is not above the exclusive minimum") ++
    report (schema.exclusiveMaximum.any (fun bound => lessEq bound value) = true)
      (path ++ " is not below the exclusive maximum")

/-- `validate_schema_value` of a schema that has been checked. Python leaves open in which order the
members beside the properties are reported; here it is that of the value. -/
def validateSchemaValue (search : String → String → Bool) (value : Json) (schema : JsonSchema)
    (path : String) : List String :=
  if schema.types ≠ [] ∧ schema.types.any (matchesKind value) = false then
    [path ++ " must have type " ++ " or ".intercalate (schema.types.map Kind.text)]
  else
    report (schema.enum.any (fun choices => !choices.any value.pythonEq) = true)
        (path ++ " must be one of the allowed values") ++
      report (schema.const.any (fun constant => !value.pythonEq constant) = true)
        (path ++ " must equal the schema constant") ++
      (schema.allOf.flatMap fun child => validateSchemaValue search value child path) ++
      (match _ : schema.anyOf with
        | none => []
        | some anyOf =>
          reportAny (anyOf.map fun child => validateSchemaValue search value child path)
            (path ++ " does not match any allowed schema")) ++
      (match _ : schema.oneOf with
        | none => []
        | some oneOf =>
          reportOne (oneOf.map fun child => validateSchemaValue search value child path)
            (path ++ " must match exactly one allowed schema")) ++
      match value with
      | .obj members =>
        (schema.required.flatMap fun key =>
            report (members.lookup key = none) (path ++ "." ++ key ++ " is required")) ++
          (schema.properties.flatMap fun property =>
            match members.lookup property.1 with
            | none => []
            | some own =>
              validateSchemaValue search own property.2 (path ++ "." ++ property.1)) ++
          (match _ : schema.additionalProperties with
            | .unrestricted => []
            | .forbidden => members.flatMap fun member =>
              report (member.1 ∉ schema.names) (path ++ "." ++ member.1 ++ " is not allowed")
            | .schema additional => members.flatMap fun member =>
              if member.1 ∈ schema.names then []
              else validateSchemaValue search member.2 additional (path ++ "." ++ member.1)) ++
          reportCount schema.minProperties schema.maxProperties members.length
            (path ++ " has too few properties") (path ++ " has too many properties")
      | .arr items =>
        reportCount schema.minItems schema.maxItems items.length (path ++ " has too few items")
            (path ++ " has too many items") ++
          match _ : schema.items with
          | none => []
          | some itemSchema => items.zipIdx.flatMap fun item =>
            validateSchemaValue search item.1 itemSchema
              (path ++ "[" ++ toString item.2 ++ "]")
      | .str text =>
        reportCount schema.minLength schema.maxLength text.length
            (path ++ " is shorter than allowed") (path ++ " is longer than allowed") ++
          report (schema.pattern.any (fun pattern => !search pattern text) = true)
            (path ++ " does not match the required pattern")
      | .int _ | .float _ _ => reportBounds value schema path
      | .null | .bool _ => []
termination_by sizeOf schema
decreasing_by
  all_goals apply JsonSchema.Part.sizeOf_lt
  · exact .allOf ‹_›
  · exact .anyOf ‹_› ‹_›
  · exact .oneOf ‹_› ‹_›
  · exact .property ‹_›
  · exact .additional ‹_›
  · exact .item ‹_›

/-!
## The shape of a schema

What the check of a schema reads, keyword by keyword.
-/

variable {compiles : String → Bool} {levels : Nat}

/-- The check of `items`, which may be null. -/
def checkItems (schema : Json.Members) (check : Json → Except Raised JsonSchema) :
    Except Raised (Option JsonSchema) :=
  match Json.getD schema "items" .null with
  | .null => .ok none
  | items => do .ok (some (← check items))

def checkProperty (check : Json → Except Raised JsonSchema) (property : String × Json) :
    Except Raised (String × JsonSchema) := do
  .ok (property.1, ← check property.2)

theorem checkSchemaShape_obj (members : Json.Members) :
    checkSchemaShape compiles (levels + 1) (.obj members) = (do
      let types ← checkTypes members
      ensure ((members.lookup "$ref").isNone)
        (.valueError "JSON schema $ref values are not supported; inline the referenced schema.")
      let required ← checkRequired members
      let enum ← checkEnum members
      let minimum ← checkBound members "minimum"
      let maximum ← checkBound members "maximum"
      let exclusiveMinimum ← checkBound members "exclusiveMinimum"
      let exclusiveMaximum ← checkBound members "exclusiveMaximum"
      let minLength ← checkCount members "minLength"
      let maxLength ← checkCount members "maxLength"
      let minItems ← checkCount members "minItems"
      let maxItems ← checkCount members "maxItems"
      let minProperties ← checkCount members "minProperties"
      let maxProperties ← checkCount members "maxProperties"
      let pattern ← checkPattern compiles members
      let own ← orError (Json.getD members "properties" (.obj [])).members?
        (.valueError "JSON schema properties must be an object.")
      let items ← checkItems members (checkSchemaShape compiles levels)
      let properties ← own.mapM (checkProperty (checkSchemaShape compiles levels))
      let additionalProperties ← checkAdditional members (checkSchemaShape compiles levels)
      let oneOf ← checkVariants members "oneOf" (checkSchemaShape compiles levels)
      let anyOf ← checkVariants members "anyOf" (checkSchemaShape compiles levels)
      let allOf ← checkVariants members "allOf" (checkSchemaShape compiles levels)
      .ok {
        types, enum, const := members.lookup "const", allOf := allOf.getD [], anyOf, oneOf, required,
        properties, additionalProperties, items, minProperties, maxProperties, minItems, maxItems,
        minLength, maxLength, pattern, minimum, maximum, exclusiveMinimum, exclusiveMaximum }) := by
  rw [checkSchemaShape]
  refine (ok_bind members _).trans ?_
  iterate 16 refine bind_congr fun _ => ?_
  unfold checkItems
  cases Json.getD members "items" .null with
  | null => rfl
  | bool _ | int _ | float _ _ | str _ | arr _ | obj _ => exact (bind_assoc _ _ _).symm

/-- What a schema is read from. -/
structure Reads (compiles : String → Bool) (levels : Nat) (members : Json.Members)
    (schema : JsonSchema) : Prop where
  types : checkTypes members = .ok schema.types
  ref : members.lookup "$ref" = none
  required : checkRequired members = .ok schema.required
  enum : checkEnum members = .ok schema.enum
  const : schema.const = members.lookup "const"
  minimum : checkBound members "minimum" = .ok schema.minimum
  maximum : checkBound members "maximum" = .ok schema.maximum
  exclusiveMinimum : checkBound members "exclusiveMinimum" = .ok schema.exclusiveMinimum
  exclusiveMaximum : checkBound members "exclusiveMaximum" = .ok schema.exclusiveMaximum
  minLength : checkCount members "minLength" = .ok schema.minLength
  maxLength : checkCount members "maxLength" = .ok schema.maxLength
  minItems : checkCount members "minItems" = .ok schema.minItems
  maxItems : checkCount members "maxItems" = .ok schema.maxItems
  minProperties : checkCount members "minProperties" = .ok schema.minProperties
  maxProperties : checkCount members "maxProperties" = .ok schema.maxProperties
  pattern : checkPattern compiles members = .ok schema.pattern
  properties : ∃ own, Json.getD members "properties" (.obj []) = .obj own ∧
    own.mapM (checkProperty (checkSchemaShape compiles levels)) = .ok schema.properties
  items : checkItems members (checkSchemaShape compiles levels) = .ok schema.items
  additional : checkAdditional members (checkSchemaShape compiles levels) =
    .ok schema.additionalProperties
  oneOf : checkVariants members "oneOf" (checkSchemaShape compiles levels) = .ok schema.oneOf
  anyOf : checkVariants members "anyOf" (checkSchemaShape compiles levels) = .ok schema.anyOf
  allOf : ∃ allOf, checkVariants members "allOf" (checkSchemaShape compiles levels) = .ok allOf ∧
    schema.allOf = allOf.getD []

theorem members?_eq_some {value : Json} {members : Json.Members} :
    value.members? = some members ↔ value = .obj members := by
  cases value <;> simp [Json.members?]

theorem reads_of_ok {value : Json} {schema : JsonSchema}
    (h : checkSchemaShape compiles (levels + 1) value = .ok schema) :
    ∃ members, value = .obj members ∧ Reads compiles levels members schema := by
  obtain ⟨members, hvalue, -⟩ := orError_bind_eq_ok.1 h
  obtain rfl := members?_eq_some.1 hvalue
  refine ⟨members, rfl, ?_⟩
  rw [checkSchemaShape_obj] at h
  obtain ⟨types, htypes, h⟩ := bind_eq_ok.1 h
  obtain ⟨href, h⟩ := ensure_bind_eq_ok.1 h
  obtain ⟨required, hrequired, h⟩ := bind_eq_ok.1 h
  obtain ⟨enum, henum, h⟩ := bind_eq_ok.1 h
  obtain ⟨minimum, hminimum, h⟩ := bind_eq_ok.1 h
  obtain ⟨maximum, hmaximum, h⟩ := bind_eq_ok.1 h
  obtain ⟨exclusiveMinimum, hexclusiveMinimum, h⟩ := bind_eq_ok.1 h
  obtain ⟨exclusiveMaximum, hexclusiveMaximum, h⟩ := bind_eq_ok.1 h
  obtain ⟨minLength, hminLength, h⟩ := bind_eq_ok.1 h
  obtain ⟨maxLength, hmaxLength, h⟩ := bind_eq_ok.1 h
  obtain ⟨minItems, hminItems, h⟩ := bind_eq_ok.1 h
  obtain ⟨maxItems, hmaxItems, h⟩ := bind_eq_ok.1 h
  obtain ⟨minProperties, hminProperties, h⟩ := bind_eq_ok.1 h
  obtain ⟨maxProperties, hmaxProperties, h⟩ := bind_eq_ok.1 h
  obtain ⟨pattern, hpattern, h⟩ := bind_eq_ok.1 h
  obtain ⟨own, hown, h⟩ := orError_bind_eq_ok.1 h
  obtain ⟨items, hitems, h⟩ := bind_eq_ok.1 h
  obtain ⟨properties, hproperties, h⟩ := bind_eq_ok.1 h
  obtain ⟨additional, hadditional, h⟩ := bind_eq_ok.1 h
  obtain ⟨oneOf, honeOf, h⟩ := bind_eq_ok.1 h
  obtain ⟨anyOf, hanyOf, h⟩ := bind_eq_ok.1 h
  obtain ⟨allOf, hallOf, h⟩ := bind_eq_ok.1 h
  obtain rfl := Except.ok.inj h
  exact {
    types := htypes, ref := Option.isNone_iff_eq_none.1 href, required := hrequired, enum := henum
    const := rfl, minimum := hminimum, maximum := hmaximum, exclusiveMinimum := hexclusiveMinimum
    exclusiveMaximum := hexclusiveMaximum, minLength := hminLength, maxLength := hmaxLength
    minItems := hminItems, maxItems := hmaxItems, minProperties := hminProperties
    maxProperties := hmaxProperties, pattern := hpattern
    properties := ⟨own, members?_eq_some.1 hown, hproperties⟩
    items := hitems, additional := hadditional, oneOf := honeOf, anyOf := hanyOf
    allOf := ⟨allOf, hallOf, rfl⟩ }

theorem checkItems_ok {members : Json.Members} {check : Json → Except Raised JsonSchema}
    {part : JsonSchema} (h : checkItems members check = .ok (some part)) :
    ∃ child, members.lookup "items" = some child ∧ check child = .ok part := by
  unfold checkItems at h
  rw [Json.getD] at h
  cases hlookup : members.lookup "items" with
  | none =>
      rw [hlookup] at h
      cases h
  | some child =>
      rw [hlookup, Option.getD_some] at h
      refine ⟨child, rfl, ?_⟩
      split at h
      · cases h
      · obtain ⟨read, hread, h⟩ := bind_eq_ok.1 h
        obtain rfl := Option.some.inj (Except.ok.inj h)
        exact hread

theorem checkProperty_ok {check : Json → Except Raised JsonSchema} {property : String × Json}
    {read : String × JsonSchema} (h : checkProperty check property = .ok read) :
    read.1 = property.1 ∧ check property.2 = .ok read.2 := by
  obtain ⟨child, hchild, h⟩ := bind_eq_ok.1 h
  obtain rfl := Except.ok.inj h
  exact ⟨rfl, hchild⟩

end Cestos.Schemas
