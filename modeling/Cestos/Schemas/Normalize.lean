import Cestos.Schemas.Validate

/-!
# Repairing data

The data of a model is repaired before it is validated: a null gets the default of the first type,
what is not of that type is brought into it, properties that are required are added, and what is
not a choice gives way to one.
-/

namespace Cestos.Schemas

open Cestos.Core

/-- The text functions of Python; `float` is what it returns if that is finite, with its text. -/
structure Coercion where
  float : String → Option (ℚ × String)
  strip : String → String
  lower : String → String

def isNull : Json → Bool
  | .null => true
  | _ => false

/-- The first type that is not null. -/
def expectedKind (schema : JsonSchema) : Option Kind := schema.types.find? (· ≠ .null)

def kindDefault : Kind → Json
  | .string => .str ""
  | .number => .int 0
  | .integer => .int 0
  | .boolean => .bool false
  | .object => .obj []
  | .array => .arr []
  | .null => .null

/-- `_schema_default` of a schema that has been checked. -/
def schemaDefault (schema : JsonSchema) : Json := ((expectedKind schema).map kindDefault).getD .null

/-- The value that is repaired: the default for a null. -/
def startValue (schema : JsonSchema) (value : Json) : Json :=
  if isNull value then schemaDefault schema else value

/-! ## Scalars -/

/-- `str` of a float. -/
def floatText (value : Option ℚ) (text : String) : String :=
  if value.isSome then text
  else if text = "NaN" then "nan"
  else if text = "Infinity" then "inf"
  else "-inf"

def repairString : Json → Json
  | .int value => .str (toString value)
  | .float value text => .str (floatText value text)
  | .bool value => .str (if value then "True" else "False")
  | _ => .str ""

/-- What `float` makes of a value that is no number; only texts are read as one. -/
def readFloat (env : Coercion) : Json → Option (ℚ × String)
  | .str text => env.float (env.strip (String.ofList (text.toList.filter (· ≠ ','))))
  | _ => none

def repairNumber (env : Coercion) (value : Json) : Json :=
  match readFloat env value with
  | some (x, text) => .float (some x) text
  | none => .int 0

def repairInteger (env : Coercion) (value : Json) : Json :=
  match readFloat env value with
  | some (x, _) => .int (if x.den = 1 then x.num else 0)
  | none => .int 0

def repairBoolean (env : Coercion) : Json → Json
  | .str text => .bool (env.lower (env.strip text) ∈ ["true", "yes", "1"])
  | _ => .bool false

/-- What a value has to be an instance of. Any number will do for an integer. -/
def isInstance : Kind → Json → Bool
  | .integer, value => isNumber value
  | kind, value => matchesKind value kind

/-- A value of the type, and whether it is another one. -/
def repairScalar (env : Coercion) (kind : Kind) (value : Json) : Json × Bool :=
  if isInstance kind value then (value, false)
  else
    match kind with
    | .string => (repairString value, true)
    | .number => (repairNumber env value, true)
    | .integer => (repairInteger env value, true)
    | .boolean => (repairBoolean env value, true)
    | .object | .array | .null => (value, false)

/-! ## Objects, arrays and choices -/

abbrev Repair := Json × Bool

/-- An object with the properties that were repaired. -/
def rebuildObject (schema : JsonSchema) (value : Json) (children : List (String × Repair)) :
    Repair :=
  let members := value.members?.getD []
  let others := match schema.additionalProperties with
    | .forbidden => []
    | .unrestricted | .schema _ => members.filter fun member => member.1 ∉ schema.names
  (.obj (children.map (fun child => (child.1, child.2.1)) ++ others),
    value.members?.isNone ||
      children.any fun child => child.2.2 || (members.lookup child.1).isNone)

def rebuildArray (value : Json) (items : List Repair) : Repair :=
  (.arr (items.map Prod.fst), value.items?.isNone || items.any Prod.snd)

/-- The value if it is a choice, or else the empty text or the first choice. -/
def settleEnum (schema : JsonSchema) (value : Json) : Repair :=
  match schema.enum with
  | none | some [] => (value, false)
  | some (first :: rest) =>
    if (first :: rest).any value.pythonEq then (value, false)
    else if (first :: rest).any (Json.pythonEq (.str "")) then (.str "", true)
    else (first, true)

/-- `_normalize_schema_value` of a schema that has been checked. -/
def normalizeSchemaValue (env : Coercion) (value : Json) (schema : JsonSchema) : Repair :=
  if isNull value = true ∧ Kind.null ∈ schema.types then (.null, false)
  else
    let start := startValue schema value
    let repaired := match expectedKind schema with
      | none => (start, false)
      | some .object =>
        let members := start.members?.getD []
        rebuildObject schema start (schema.properties.filterMap fun (property : String × JsonSchema) =>
          if (members.lookup property.1).isSome ∨ property.1 ∈ schema.required then
            some (property.1,
              normalizeSchemaValue env (Json.getD members property.1 .null) property.2)
          else none)
      | some .array =>
        match _ : schema.items with
        | none => rebuildArray start ((start.items?.getD []).map (·, false))
        | some part =>
          rebuildArray start ((start.items?.getD []).map fun item =>
            normalizeSchemaValue env item part)
      | some kind => repairScalar env kind start
    let settled := settleEnum schema repaired.1
    (settled.1, isNull value || repaired.2 || settled.2)
termination_by sizeOf schema
decreasing_by
  all_goals apply JsonSchema.Part.sizeOf_lt
  · exact .property ‹_›
  · exact .item ‹_›

end Cestos.Schemas
