import Cestos.Schemas.Normalize

/-!
# Validation and repair of any schema

The validation and the repair as Python runs them: on a schema that nobody has checked, each
operation on it may raise. The depth is how many calls are left.
-/

namespace Cestos.Schemas.Dynamic

open Cestos.Core

inductive Exception
  | attributeError
  | typeError
  | keyError
  | indexError
  | recursionError
  deriving DecidableEq

abbrev Attempt (α : Type) := Except Exception α

/-! ## Operations -/

/-- What only a dict has: `get`, `keys` and `items`. -/
def membersOf (value : Json) : Attempt Json.Members := orError value.members? .attributeError

/-- What `for` goes through: of a dict its keys, of a text its characters. -/
def iterate : Json → Attempt (List Json)
  | .arr items => .ok items
  | .obj members => .ok (members.map fun member => .str member.1)
  | .str text => .ok (text.toList.map fun c => .str (String.singleton c))
  | .null | .bool _ | .int _ | .float _ _ => .error .typeError

/-- Whether the text has the part somewhere. -/
def occursIn (part : List Char) : List Char → Bool
  | [] => part.isEmpty
  | c :: text => part.isPrefixOf (c :: text) || occursIn part text

/-- `item in container`. -/
def contains (container item : Json) : Attempt Bool :=
  match container with
  | .arr items => .ok (items.any item.pythonEq)
  | .obj members => do
    ensure (item.hashable = true) .typeError
    .ok (item.str?.any fun name => (members.lookup name).isSome)
  | .str text => do
    let part ← orError item.str? .typeError
    .ok (occursIn part.toList text.toList)
  | .null | .bool _ | .int _ | .float _ _ => .error .typeError

/-- `container[0]`. -/
def firstOf : Json → Attempt Json
  | .arr items => orError items.head? .indexError
  | .str text => orError (text.toList.head?.map fun c => .str (String.singleton c)) .indexError
  | .obj _ => .error .keyError
  | .null | .bool _ | .int _ | .float _ _ => .error .typeError

/-- `set(value)`. -/
def setOf (value : Json) : Attempt (List Json) := do
  let items ← iterate value
  ensure (items.all Json.hashable = true) .typeError
  .ok items

def isReal : Json → Bool
  | .bool _ | .int _ | .float _ _ => true
  | _ => false

/-- `a < b` and `a <= b`, where one of them is a number. -/
def lessThan (a b : Json) : Attempt Bool := do
  ensure (isReal a = true ∧ isReal b = true) .typeError
  .ok (a.pythonNumber?.any fun x => b.pythonNumber?.any fun y => x < y)

def atMost (a b : Json) : Attempt Bool := do
  ensure (isReal a = true ∧ isReal b = true) .typeError
  .ok (a.pythonNumber?.any fun x => b.pythonNumber?.any fun y => x ≤ y)

/-- The text of a key in a message; a list or a dict is no key. -/
def keyText : Json → String
  | .null => "None"
  | .bool value => if value then "True" else "False"
  | .int value => toString value
  | .float value text => floatText value text
  | .str value => value
  | .arr _ | .obj _ => ""

/-! ## Types -/

def expectedTypes (schema : Json.Members) : List Json :=
  match Json.getD schema "type" .null with
  | .arr declared => declared
  | declared => if declared.truthy then [declared] else []

/-- What a dict with the names of the types has for a kind. -/
def lookupKind (kind : Json) : Attempt (Option Kind) := do
  ensure (kind.hashable = true) .typeError
  .ok (kind.str?.bind fun name => kinds.lookup name)

/-- `matches`; a type that is not known matches. -/
def matchesType (value kind : Json) : Attempt Bool := do
  let known ← lookupKind kind
  .ok (known.all (matchesKind value))

def notNull (kind : Json) : Bool := !kind.pythonEq (.str "null")

/-! ## Validation -/

/-- An error, if what a keyword says of the value comes out so. -/
def reportKeyword (schema : Json.Members) (key : String) (test : Json → Attempt Bool)
    (message : String) : Attempt (List String) :=
  match schema.lookup key with
  | none => .ok []
  | some keyword => do
    let failed ← test keyword
    .ok (report (failed = true) message)

def reportCount (schema : Json.Members) (minimum maximum : String) (count : Nat)
    (few many : String) : Attempt (List String) := do
  let below ← lessThan (.int count) (Json.getD schema minimum (.int 0))
  let above ← reportKeyword schema maximum (fun most => lessThan most (.int count)) many
  .ok (report (below = true) few ++ above)

def reportBounds (value : Json) (schema : Json.Members) (path : String) :
    Attempt (List String) := do
  let minimum ← reportKeyword schema "minimum" (lessThan value)
    (path ++ " is below the allowed minimum")
  let maximum ← reportKeyword schema "maximum" (fun bound => lessThan bound value)
    (path ++ " is above the allowed maximum")
  let exclusiveMinimum ← reportKeyword schema "exclusiveMinimum" (atMost value)
    (path ++ " is not above the exclusive minimum")
  let exclusiveMaximum ← reportKeyword schema "exclusiveMaximum" (fun bound => atMost bound value)
    (path ++ " is not below the exclusive maximum")
  .ok (minimum ++ maximum ++ exclusiveMinimum ++ exclusiveMaximum)

def reportMistyped (expected : List Json) (path : String) : Attempt (List String) := do
  let names ← expected.mapM fun kind => orError kind.str? .typeError
  .ok [path ++ " must have type " ++ " or ".intercalate names]

/-- A `re.error` is caught. -/
def reportPattern (compiles : String → Bool) (search : String → String → Bool) (text : String)
    (schema : Json.Members) (path : String) : List String :=
  match schema.lookup "pattern" with
  | none => []
  | some pattern =>
    match pattern.str?.filter compiles with
    | none => [path ++ " uses an invalid schema pattern"]
    | some pattern => report ((!search pattern text) = true)
      (path ++ " does not match the required pattern")

section Validation

variable (validate : Json → Json → String → Attempt (List String))

def validateAllOf (value : Json) (schema : Json.Members) (path : String) :
    Attempt (List String) := do
  let children ← iterate (Json.getD schema "allOf" (.arr []))
  let results ← children.mapM fun child => validate value child path
  .ok results.flatten

/-- No alternative is looked at after one that has no errors. -/
def validateAnyOf (value : Json) (schema : Json.Members) (path : String) :
    Attempt (List String) :=
  let anyOf := Json.getD schema "anyOf" (.arr [])
  if anyOf.truthy then do
    let children ← iterate anyOf
    let found ← children.anyM fun child => do .ok (decide ((← validate value child path) = []))
    .ok (report (found = false) (path ++ " does not match any allowed schema"))
  else .ok []

def validateOneOf (value : Json) (schema : Json.Members) (path : String) :
    Attempt (List String) :=
  let oneOf := Json.getD schema "oneOf" (.arr [])
  if oneOf.truthy then do
    let children ← iterate oneOf
    let results ← children.mapM fun child => validate value child path
    .ok (report (results.count [] ≠ 1) (path ++ " must match exactly one allowed schema"))
  else .ok []

def reportRequired (own : Json.Members) (schema : Json.Members) (path : String) :
    Attempt (List String) :=
  match Json.getD schema "required" (.arr []) with
  | .arr keys => do
    let reports ← keys.mapM fun key => do
      let found ← contains (.obj own) key
      .ok (report (found = false) (path ++ "." ++ keyText key ++ " is required"))
    .ok reports.flatten
  | _ => .ok []

def validateProperty (own : Json.Members) (path : String) (property : String × Json) :
    Attempt (List String) :=
  match own.lookup property.1, property.2 with
  | some value, .obj members => validate value (.obj members) (path ++ "." ++ property.1)
  | _, _ => .ok []

def validateOther (schema properties : Json.Members) (path : String) (member : String × Json) :
    Attempt (List String) :=
  if (properties.lookup member.1).isSome then .ok []
  else
    match Json.getD schema "additionalProperties" .null with
    | .bool false => .ok [path ++ "." ++ member.1 ++ " is not allowed"]
    | .obj additional => validate member.2 (.obj additional) (path ++ "." ++ member.1)
    | _ => .ok []

def validateMembers (own : Json.Members) (schema : Json.Members) (path : String) :
    Attempt (List String) :=
  match Json.getD schema "properties" (.obj []) with
  | .obj properties => do
    let known ← properties.mapM (validateProperty validate own path)
    let others ← own.mapM (validateOther validate schema properties path)
    .ok (known.flatten ++ others.flatten)
  | _ => .ok []

def validateItems (items : List Json) (schema : Json.Members) (path : String) :
    Attempt (List String) :=
  match Json.getD schema "items" .null with
  | .obj part => do
    let results ← items.zipIdx.mapM fun (item : Json × Nat) =>
      validate item.1 (.obj part) (path ++ "[" ++ toString item.2 ++ "]")
    .ok results.flatten
  | _ => .ok []

def validateOwn (compiles : String → Bool) (search : String → String → Bool) (value : Json)
    (schema : Json.Members) (path : String) : Attempt (List String) :=
  match value with
  | .obj own => do
    let required ← reportRequired own schema path
    let members ← validateMembers validate own schema path
    let count ← reportCount schema "minProperties" "maxProperties" own.length
      (path ++ " has too few properties") (path ++ " has too many properties")
    .ok (required ++ members ++ count)
  | .arr items => do
    let count ← reportCount schema "minItems" "maxItems" items.length (path ++ " has too few items")
      (path ++ " has too many items")
    let children ← validateItems validate items schema path
    .ok (count ++ children)
  | .str text => do
    let count ← reportCount schema "minLength" "maxLength" text.length
      (path ++ " is shorter than allowed") (path ++ " is longer than allowed")
    .ok (count ++ reportPattern compiles search text schema path)
  | .int _ | .float _ _ => reportBounds value schema path
  | .null | .bool _ => .ok []

/-- The validation of a value that has a type that is declared. -/
def validateTyped (compiles : String → Bool) (search : String → String → Bool) (value : Json)
    (schema : Json.Members) (path : String) : Attempt (List String) := do
  let enum ← reportKeyword schema "enum" (fun choices => do .ok (!(← contains choices value)))
    (path ++ " must be one of the allowed values")
  let const ← reportKeyword schema "const" (fun constant => .ok (!value.pythonEq constant))
    (path ++ " must equal the schema constant")
  let allOf ← validateAllOf validate value schema path
  let anyOf ← validateAnyOf validate value schema path
  let oneOf ← validateOneOf validate value schema path
  let own ← validateOwn validate compiles search value schema path
  .ok (enum ++ const ++ allOf ++ anyOf ++ oneOf ++ own)

end Validation

/-- `validate_schema_value`. -/
def validateSchemaValue (compiles : String → Bool) (search : String → String → Bool) :
    Nat → Json → Json → String → Attempt (List String)
  | 0, _, _, _ => .error .recursionError
  | depth + 1, value, schema, path => do
    let schema ← membersOf schema
    let typed ← (expectedTypes schema).anyM (matchesType value)
    if expectedTypes schema ≠ [] ∧ typed = false then reportMistyped (expectedTypes schema) path
    else validateTyped (validateSchemaValue compiles search depth) compiles search value schema path

/-! ## Repair -/

/-- The type for which there is a default. -/
def defaultType (schema : Json.Members) : Json :=
  match Json.getD schema "type" .null with
  | .arr declared => (declared.find? notNull).getD (.str "null")
  | declared => declared

/-- `_schema_default`. -/
def schemaDefault (schema : Json.Members) : Attempt Json := do
  let known ← lookupKind (defaultType schema)
  .ok ((known.map kindDefault).getD .null)

def startValue (schema : Json.Members) (value : Json) : Attempt Json :=
  if isNull value then schemaDefault schema else .ok value

/-- What is no number is read as one, or gives way to the default. -/
def repairNumeric (env : Coercion) (kind : Kind) (value : Json) (schema : Json.Members) :
    Attempt Repair :=
  if isNumber value then .ok (value, false)
  else
    match readFloat env value with
    | some (x, text) =>
      .ok (if kind = .integer then .int (if x.den = 1 then x.num else 0) else .float (some x) text,
        true)
    | none => do .ok (← schemaDefault schema, true)

/-- The empty text if it is a choice, or else the first choice. -/
def neutral (choices : Json) (empty : Bool) : Attempt Json :=
  if empty then .ok (.str "") else firstOf choices

def settle (choices value : Json) (found : Bool) : Attempt Repair :=
  if found then .ok (value, false)
  else do .ok (← contains choices (.str "") >>= neutral choices, true)

def settleEnum (schema : Json.Members) (value : Json) : Attempt Repair :=
  let choices := Json.getD schema "enum" .null
  if choices.truthy then contains choices value >>= settle choices value
  else .ok (value, false)

section Repair

variable (normalize : Json → Json → Attempt Repair)

def normalizeProperty (own : Json.Members) (required : List Json) (property : String × Json) :
    Attempt (Option (String × Repair)) :=
  if (own.lookup property.1).isSome ∨ required.any (Json.pythonEq (.str property.1)) = true then do
    .ok (some (property.1, ← normalize (Json.getD own property.1 .null) property.2))
  else .ok none

/-- The members beside the properties that are taken over. -/
def takenOver (schema properties own : Json.Members) : Json.Members :=
  match Json.getD schema "additionalProperties" .null with
  | .bool false => []
  | _ => own.filter fun member => (properties.lookup member.1).isNone

def normalizeObject (value : Json) (schema : Json.Members) : Attempt Repair := do
  let own := value.members?.getD []
  let required ← setOf (Json.getD schema "required" (.arr []))
  let properties ← membersOf (Json.getD schema "properties" (.obj []))
  let children ← properties.mapM (normalizeProperty normalize own required)
  let children := children.filterMap id
  .ok (.obj (children.map (fun child => (child.1, child.2.1)) ++ takenOver schema properties own),
    value.members?.isNone || children.any fun child => child.2.2 || (own.lookup child.1).isNone)

def normalizeArray (value : Json) (schema : Json.Members) : Attempt Repair :=
  let items := value.items?.getD []
  match Json.getD schema "items" .null with
  | .obj part => do
    let items ← items.mapM fun item => normalize item (.obj part)
    .ok (rebuildArray value items)
  | _ => .ok (rebuildArray value (items.map (·, false)))

/-- A value of the type that is expected, which may be none of the known ones. -/
def repairExpected (env : Coercion) (value : Json) (schema : Json.Members) :
    Option Kind → Attempt Repair
  | some .object => normalizeObject normalize value schema
  | some .array => normalizeArray normalize value schema
  | some .number => repairNumeric env .number value schema
  | some .integer => repairNumeric env .integer value schema
  | some .string => .ok (repairScalar env .string value)
  | some .boolean => .ok (repairScalar env .boolean value)
  | some .null | none => .ok (value, false)

/-- The repair of a value that is not left as a null. -/
def repair (env : Coercion) (value : Json) (schema : Json.Members) : Attempt Repair := do
  let start ← startValue schema value
  let expected := (expectedTypes schema).find? notNull
  let repaired ← repairExpected normalize env start schema
    ((expected.bind Json.str?).bind fun name => kinds.lookup name)
  let settled ← settleEnum schema repaired.1
  .ok (settled.1, isNull value || repaired.2 || settled.2)

end Repair

/-- `_normalize_schema_value`. -/
def normalizeSchemaValue (env : Coercion) : Nat → Json → Json → Attempt Repair
  | 0, _, _ => .error .recursionError
  | depth + 1, value, schema => do
    let schema ← membersOf schema
    if isNull value = true ∧ (expectedTypes schema).any (Json.pythonEq (.str "null")) = true then
      .ok (.null, false)
    else repair (normalizeSchemaValue env depth) env value schema

end Cestos.Schemas.Dynamic
