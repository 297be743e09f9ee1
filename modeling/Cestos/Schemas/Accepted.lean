import Cestos.Schemas.Dynamic
import Cestos.Schemas.Validate

/-!
# Validation by an accepted schema

Of a schema that the check accepts, every operation of the validation is one that its keyword has:
the validation returns what that of the checked schema returns.
-/

namespace Cestos.Schemas.Dynamic

open Cestos.Core

variable {compiles : String → Bool} {search : String → String → Bool} {env : Coercion}
  {levels : Nat} {members : Json.Members} {schema : JsonSchema} {value : Json} {path : String}

/-! ## Types -/

def typeName (kind : Kind) : Json := .str (Kind.text kind)

theorem lookup_text (kind : Kind) : kinds.lookup (Kind.text kind) = some kind := by
  cases kind <;> rfl

theorem text_of_lookup {name : String} {kind : Kind} (h : kinds.lookup name = some kind) :
    name = Kind.text kind := by
  have hmem := mem_of_lookup h
  cases kind <;> simpa [kinds, Kind.text] using hmem

theorem eq_text_of_checkKind {declared : Json} {kind : Kind} (h : checkKind declared = .ok kind) :
    declared = typeName kind := by
  unfold checkKind at h
  split at h
  · rw [orError_eq_ok] at h
    cases declared with
    | str name => exact congrArg Json.str (text_of_lookup h)
    | null | bool _ | int _ | float _ _ | arr _ | obj _ => cases h
  · cases h

theorem type_of_checkTypes {types : List Kind} (h : checkTypes members = .ok types) :
    (Json.getD members "type" .null = .null ∧ types = []) ∨
      (∃ kind : Kind, Json.getD members "type" .null = typeName kind ∧ types = [kind]) ∨
      Json.getD members "type" .null = .arr (types.map typeName) := by
  have hone : ∀ declared : Json, (do .ok [← checkKind declared]) = Except.ok types →
      ∃ kind : Kind, declared = typeName kind ∧ types = [kind] := by
    intro declared h
    obtain ⟨kind, hkind, h⟩ := bind_eq_ok.1 h
    exact ⟨kind, eq_text_of_checkKind hkind, (Except.ok.inj h).symm⟩
  unfold checkTypes at h
  cases hdeclared : Json.getD members "type" .null with
  | null =>
      rw [hdeclared] at h
      exact .inl ⟨rfl, (Except.ok.inj h).symm⟩
  | arr declared =>
      rw [hdeclared] at h
      refine .inr (.inr (congrArg Json.arr ?_))
      cases declared with
      | nil => cases h
      | cons first rest => exact (map_of_mapM h fun _ _ hkind => (eq_text_of_checkKind hkind).symm).symm
  | bool _ | int _ | float _ _ | str _ | obj _ =>
      rw [hdeclared] at h
      exact .inr (.inl (hone _ h))

theorem expectedTypes_eq {types : List Kind} (h : checkTypes members = .ok types) :
    expectedTypes members = types.map typeName := by
  unfold expectedTypes
  rcases type_of_checkTypes h with ⟨hdeclared, rfl⟩ | ⟨kind, hdeclared, rfl⟩ | hdeclared
  · rw [hdeclared]
    rfl
  · rw [hdeclared]
    cases kind <;> rfl
  · rw [hdeclared]

theorem lookupKind_text (kind : Kind) : lookupKind (typeName kind) = .ok (some kind) := by
  cases kind <;> rfl

theorem matchesType_text (kind : Kind) :
    matchesType value (typeName kind) = .ok (matchesKind value kind) := by
  rw [matchesType, lookupKind_text]
  rfl

theorem anyM_matchesType (types : List Kind) :
    (types.map typeName).anyM (matchesType value) = .ok (types.any (matchesKind value)) := by
  induction types with
  | nil => rfl
  | cons kind types ih =>
      rw [List.map_cons, List.anyM, matchesType_text, ok_bind, List.any_cons]
      cases matchesKind value kind with
      | true => rfl
      | false => exact ih

theorem notNull_text (kind : Kind) : notNull (typeName kind) = decide (kind ≠ .null) := by
  cases kind <;> rfl

theorem find?_notNull (types : List Kind) :
    (types.map typeName).find? notNull =
      (types.find? (· ≠ .null)).map typeName := by
  rw [List.find?_map]
  congr 2
  exact funext notNull_text

theorem any_null_iff (types : List Kind) :
    (types.map typeName).any (Json.pythonEq (.str "null")) = true ↔
      Kind.null ∈ types := by
  have hone : ∀ kind : Kind, Json.pythonEq (.str "null") (typeName kind) = true ↔ kind = .null := by
    intro kind
    cases kind <;> simp [typeName, Json.pythonEq, Json.sameBy, Json.pythonAtoms, Kind.text]
  simp [List.any_map, hone]

/-! ## Keywords -/

theorem choices_of_checkEnum {enum : Option (List Json)} (h : checkEnum members = .ok enum) :
    members.lookup "enum" = enum.map .arr := by
  unfold checkEnum at h
  cases hchoices : members.lookup "enum" with
  | none =>
      rw [hchoices] at h
      rw [← Except.ok.inj h]
      rfl
  | some choices =>
      rw [hchoices] at h
      obtain ⟨items, hitems, h⟩ := orError_bind_eq_ok.1 h
      rw [← Except.ok.inj h, Json.items?_eq_some.1 hitems]
      rfl

theorem bound_of_checkBound {key : String} {bound : Option Json}
    (h : checkBound members key = .ok bound) :
    members.lookup key = bound ∧ ∀ value ∈ bound, isNumber value = true := by
  unfold checkBound at h
  cases hbound : members.lookup key with
  | none =>
      rw [hbound] at h
      rw [← Except.ok.inj h]
      simp
  | some value =>
      rw [hbound] at h
      obtain ⟨hnumber, h⟩ := ensure_bind_eq_ok.1 h
      rw [← Except.ok.inj h]
      simpa using hnumber

theorem count_of_checkCount {key : String} {count : Option Int}
    (h : checkCount members key = .ok count) : members.lookup key = count.map .int := by
  unfold checkCount at h
  cases hcount : members.lookup key with
  | none =>
      rw [hcount] at h
      rw [← Except.ok.inj h]
      rfl
  | some value =>
      rw [hcount] at h
      obtain ⟨n, hn, h⟩ := orError_bind_eq_ok.1 h
      rw [← Except.ok.inj h]
      cases value with
      | int _ => rw [← Option.some.inj hn, Option.map_some]
      | null | bool _ | float _ _ | str _ | arr _ | obj _ => cases hn

theorem pattern_of_checkPattern {pattern : Option String}
    (h : checkPattern compiles members = .ok pattern) :
    members.lookup "pattern" = pattern.map .str ∧ ∀ text ∈ pattern, compiles text = true := by
  unfold checkPattern at h
  cases hpattern : members.lookup "pattern" with
  | none =>
      rw [hpattern] at h
      rw [← Except.ok.inj h]
      simp
  | some value =>
      rw [hpattern] at h
      obtain ⟨text, htext, h⟩ := orError_bind_eq_ok.1 h
      rw [Option.filter_eq_some_iff] at htext
      rw [← Except.ok.inj h]
      cases value with
      | str _ =>
          obtain rfl := Option.some.inj htext.1
          simpa using htext.2
      | null | bool _ | int _ | float _ _ | arr _ | obj _ => cases htext.1

theorem names_of_checkRequired {required : List String}
    (h : checkRequired members = .ok required) :
    Json.getD members "required" (.arr []) = .arr (required.map .str) := by
  unfold checkRequired at h
  cases hnames : Json.getD members "required" (.arr []) with
  | arr names =>
      rw [hnames] at h
      refine congrArg Json.arr (map_of_mapM h fun name text hname => ?_).symm
      rw [orError_eq_ok] at hname
      cases name with
      | str _ => rw [← Option.some.inj hname]
      | null | bool _ | int _ | float _ _ | arr _ | obj _ => cases hname
  | null | bool _ | int _ | float _ _ | str _ | obj _ =>
      rw [hnames] at h
      cases h

section Children

variable {check : Json → Except Raised JsonSchema}

theorem items_of_checkItems {items : Option JsonSchema} (h : checkItems members check = .ok items) :
    (items = none ∧ Json.getD members "items" .null = .null) ∨
      ∃ part, items = some part ∧ check (Json.getD members "items" .null) = .ok part := by
  unfold checkItems at h
  cases hitems : Json.getD members "items" .null with
  | null =>
      rw [hitems] at h
      exact .inl ⟨(Except.ok.inj h).symm, rfl⟩
  | bool _ | int _ | float _ _ | str _ | arr _ | obj _ =>
      rw [hitems] at h
      obtain ⟨part, hpart, h⟩ := bind_eq_ok.1 h
      exact .inr ⟨part, (Except.ok.inj h).symm, hpart⟩

theorem additional_of_checkAdditional {additional : Additional JsonSchema}
    (h : checkAdditional members check = .ok additional) :
    (∃ own part, Json.getD members "additionalProperties" .null = .obj own ∧
      check (.obj own) = .ok part ∧ additional = .schema part) ∨
    (Json.getD members "additionalProperties" .null = .bool false ∧ additional = .forbidden) ∨
    ((Json.getD members "additionalProperties" .null = .null ∨
      Json.getD members "additionalProperties" .null = .bool true) ∧
      additional = .unrestricted) := by
  unfold checkAdditional at h
  cases hadditional : Json.getD members "additionalProperties" .null with
  | obj own =>
      rw [hadditional] at h
      obtain ⟨part, hpart, h⟩ := bind_eq_ok.1 h
      exact .inl ⟨own, part, rfl, hpart, (Except.ok.inj h).symm⟩
  | bool flag =>
      rw [hadditional] at h
      cases flag with
      | false => exact .inr (.inl ⟨rfl, (Except.ok.inj h).symm⟩)
      | true => exact .inr (.inr ⟨.inr rfl, (Except.ok.inj h).symm⟩)
  | null =>
      rw [hadditional] at h
      exact .inr (.inr ⟨.inl rfl, (Except.ok.inj h).symm⟩)
  | int _ | float _ _ | str _ | arr _ =>
      rw [hadditional] at h
      cases h

theorem variants_of_checkVariants {key : String} {variants : Option (List JsonSchema)}
    (h : checkVariants members key check = .ok variants) :
    (members.lookup key = none ∧ variants = none) ∨
      ∃ children parts, members.lookup key = some (.arr children) ∧
        children.mapM check = .ok parts ∧ variants = some parts := by
  unfold checkVariants at h
  cases hvariants : members.lookup key with
  | none =>
      rw [hvariants] at h
      exact .inl ⟨rfl, (Except.ok.inj h).symm⟩
  | some value =>
      rw [hvariants] at h
      obtain ⟨children, hchildren, h⟩ := orError_bind_eq_ok.1 h
      obtain ⟨parts, hparts, h⟩ := bind_eq_ok.1 h
      rw [Json.items?_eq_some.1 hchildren]
      exact .inr ⟨children, parts, rfl, hparts, (Except.ok.inj h).symm⟩

end Children

/-! ## Validation -/

theorem reportKeyword_eq {α : Type} {key message : String} {keyword : Option α} {encode : α → Json}
    {test : Json → Attempt Bool} {failed : α → Bool}
    (hkey : members.lookup key = keyword.map encode)
    (htest : ∀ a ∈ keyword, test (encode a) = .ok (failed a)) :
    reportKeyword members key test message = .ok (report (keyword.any failed = true) message) := by
  rw [reportKeyword, hkey]
  cases keyword with
  | none => rfl
  | some a =>
      show (test (encode a) >>= fun failed => Except.ok (report (failed = true) message)) = _
      rw [htest a rfl]
      rfl

theorem isReal_of_isNumber (h : isNumber value = true) : isReal value = true := by
  cases value with
  | int _ | float _ _ => rfl
  | null | bool _ | str _ | arr _ | obj _ => cases h

theorem pythonNumber?_of_isNumber (h : isNumber value = true) :
    value.pythonNumber? = value.number? := by
  cases value with
  | int _ | float _ _ => rfl
  | null | bool _ | str _ | arr _ | obj _ => cases h

theorem lessThan_eq {a b : Json} (ha : isNumber a = true) (hb : isNumber b = true) :
    lessThan a b = .ok (less a b) := by
  rw [lessThan, ensure, if_pos ⟨isReal_of_isNumber ha, isReal_of_isNumber hb⟩, ok_bind,
    pythonNumber?_of_isNumber ha, pythonNumber?_of_isNumber hb, less]

theorem atMost_eq {a b : Json} (ha : isNumber a = true) (hb : isNumber b = true) :
    atMost a b = .ok (lessEq a b) := by
  rw [atMost, ensure, if_pos ⟨isReal_of_isNumber ha, isReal_of_isNumber hb⟩, ok_bind,
    pythonNumber?_of_isNumber ha, pythonNumber?_of_isNumber hb, lessEq]

theorem less_int (a b : Int) : less (.int a) (.int b) = decide (a < b) := by
  simp [less, Json.number?, Rat.intCast_lt_intCast]

theorem reportCount_eq {minimum maximum few many : String} {least most : Option Int} {count : Nat}
    (hleast : members.lookup minimum = least.map .int)
    (hmost : members.lookup maximum = most.map .int) :
    reportCount members minimum maximum count few many =
      .ok (Schemas.reportCount least most count few many) := by
  have hbelow : Json.getD members minimum (.int 0) = .int (least.getD 0) := by
    rw [Json.getD, hleast]
    cases least <;> rfl
  have habove : reportKeyword members maximum (fun most => lessThan most (.int count)) many =
      .ok (report (most.any (fun most => decide (most < (count : Int))) = true) many) :=
    reportKeyword_eq hmost fun most _ => (lessThan_eq rfl rfl).trans (congrArg _ (less_int _ _))
  rw [reportCount, hbelow, lessThan_eq rfl rfl, less_int, ok_bind, habove, ok_bind,
    Schemas.reportCount]
  simp

theorem reportBounds_eq (hreads : Reads compiles levels members schema)
    (hvalue : isNumber value = true) :
    reportBounds value members path = .ok (Schemas.reportBounds value schema path) := by
  have hbound : ∀ {key message : String} {bound : Option Json} {test : Json → Attempt Bool}
      {failed : Json → Bool}, checkBound members key = .ok bound →
      (∀ b, isNumber b = true → test b = .ok (failed b)) →
      reportKeyword members key test message = .ok (report (bound.any failed = true) message) := by
    intro key message bound test failed hcheck htest
    obtain ⟨hkey, hnumber⟩ := bound_of_checkBound hcheck
    exact reportKeyword_eq (hkey.trans Option.map_id'.symm) fun b hb =>
      htest b (hnumber b hb)
  rw [reportBounds, hbound hreads.minimum fun b hb => lessThan_eq hvalue hb, ok_bind,
    hbound hreads.maximum fun b hb => lessThan_eq hb hvalue, ok_bind,
    hbound hreads.exclusiveMinimum fun b hb => atMost_eq hvalue hb, ok_bind,
    hbound hreads.exclusiveMaximum fun b hb => atMost_eq hb hvalue, ok_bind, Schemas.reportBounds]

theorem reportMistyped_eq (types : List Kind) : reportMistyped (types.map typeName) path =
    .ok [path ++ " must have type " ++ " or ".intercalate (types.map Kind.text)] := by
  have hnames : ((types.map typeName).mapM fun kind => orError kind.str? Exception.typeError) =
      .ok (types.map Kind.text) := by
    rw [List.mapM_map]
    exact mapM_ok fun _ _ => rfl
  rw [reportMistyped, hnames, ok_bind]

theorem reportPattern_eq (hreads : Reads compiles levels members schema) (text : String) :
    reportPattern compiles search text members path =
      report (schema.pattern.any (fun pattern => !search pattern text) = true)
        (path ++ " does not match the required pattern") := by
  obtain ⟨hpattern, hcompiles⟩ := pattern_of_checkPattern hreads.pattern
  rw [reportPattern, hpattern]
  cases hschema : schema.pattern with
  | none => rfl
  | some pattern =>
      have hfilter : (Json.str? (.str pattern)).filter compiles = some pattern :=
        Option.filter_eq_some_iff.2 ⟨rfl, hcompiles pattern hschema⟩
      simp only [Option.map_some]
      rw [hfilter]
      rfl

theorem reportEnum_eq (hreads : Reads compiles levels members schema) {message : String} :
    reportKeyword members "enum" (fun choices => do .ok (!(← contains choices value))) message =
      .ok (report (schema.enum.any (fun choices => !choices.any value.pythonEq) = true) message) :=
  reportKeyword_eq (choices_of_checkEnum hreads.enum) fun _ _ => rfl

theorem reportConst_eq (hreads : Reads compiles levels members schema) {message : String} :
    reportKeyword members "const" (fun constant => .ok (!value.pythonEq constant)) message =
      .ok (report (schema.const.any (fun constant => !value.pythonEq constant) = true) message) :=
  reportKeyword_eq (hreads.const.symm.trans Option.map_id'.symm) fun _ _ => rfl

theorem reportRequired_eq (hreads : Reads compiles levels members schema) (own : Json.Members) :
    reportRequired own members path = .ok (schema.required.flatMap fun key =>
      report (own.lookup key = none) (path ++ "." ++ key ++ " is required")) := by
  have hkeys : ((schema.required.map Json.str).mapM fun key => do
      let found ← contains (.obj own) key
      Except.ok (report (found = false) (path ++ "." ++ keyText key ++ " is required"))) =
      .ok (schema.required.map fun key =>
        report (own.lookup key = none) (path ++ "." ++ key ++ " is required")) := by
    rw [List.mapM_map]
    refine mapM_ok fun key _ => congrArg Except.ok ?_
    cases hkey : own.lookup key <;> simp [Json.str?, hkey, keyText]
  rw [reportRequired, names_of_checkRequired hreads.required]
  simp only
  rw [hkeys, ok_bind, List.flatMap_def]

theorem report_congr {p q : Prop} [Decidable p] [Decidable q] {message : String} (h : p ↔ q) :
    report p message = report q message := by
  unfold report
  by_cases hp : p
  · rw [if_pos hp, if_pos (h.1 hp)]
  · rw [if_neg hp, if_neg fun hq => hp (h.2 hq)]

/-- Whether alternatives are looked at, by what is read of them. -/
theorem truthy_arr {check : Json → Except Raised JsonSchema} {children : List Json}
    {parts : List JsonSchema} (h : children.mapM check = .ok parts) :
    (Json.arr children).truthy = !parts.isEmpty := by
  rw [Json.truthy, isEmpty_of_mapM h]

theorem obj_of_accepted {child : Json} {part : JsonSchema}
    (h : checkSchemaShape compiles levels child = .ok part) : ∃ own, child = .obj own := by
  cases levels with
  | zero => cases h
  | succ levels =>
      obtain ⟨own, hchild, -⟩ := reads_of_ok h
      exact ⟨own, hchild⟩

/-- The errors about a property and about a member that is none. -/
def propertyErrors (search : String → String → Bool) (own : Json.Members) (path : String)
    (property : String × JsonSchema) : List String :=
  (own.lookup property.1).elim [] fun value =>
    Schemas.validateSchemaValue search value property.2 (path ++ "." ++ property.1)

def otherErrors (search : String → String → Bool) (schema : JsonSchema) (path : String)
    (member : String × Json) : List String :=
  if member.1 ∈ schema.names then []
  else
    match schema.additionalProperties with
    | .unrestricted => []
    | .forbidden => [path ++ "." ++ member.1 ++ " is not allowed"]
    | .schema part =>
      Schemas.validateSchemaValue search member.2 part (path ++ "." ++ member.1)

/-- The errors about what the value has as a value of its type. -/
def ownErrors (search : String → String → Bool) (schema : JsonSchema) (path : String) :
    Json → List String
  | .obj own =>
    (schema.required.flatMap fun key =>
        report (own.lookup key = none) (path ++ "." ++ key ++ " is required")) ++
      schema.properties.flatMap (propertyErrors search own path) ++
      own.flatMap (otherErrors search schema path) ++
      Schemas.reportCount schema.minProperties schema.maxProperties own.length
        (path ++ " has too few properties") (path ++ " has too many properties")
  | .arr items =>
    Schemas.reportCount schema.minItems schema.maxItems items.length
        (path ++ " has too few items") (path ++ " has too many items") ++
      schema.items.elim [] fun part => items.zipIdx.flatMap fun item =>
        Schemas.validateSchemaValue search item.1 part (path ++ "[" ++ toString item.2 ++ "]")
  | .str text =>
    Schemas.reportCount schema.minLength schema.maxLength text.length
        (path ++ " is shorter than allowed") (path ++ " is longer than allowed") ++
      report (schema.pattern.any (fun pattern => !search pattern text) = true)
        (path ++ " does not match the required pattern")
  | .int n => Schemas.reportBounds (.int n) schema path
  | .float x text => Schemas.reportBounds (.float x text) schema path
  | .null | .bool _ => []

/-- The errors about a value that has a type that is declared. -/
theorem validateSchemaValue_of_typed
    (htyped : ¬ (schema.types ≠ [] ∧ schema.types.any (matchesKind value) = false)) :
    Schemas.validateSchemaValue search value schema path =
      report (schema.enum.any (fun choices => !choices.any value.pythonEq) = true)
          (path ++ " must be one of the allowed values") ++
        report (schema.const.any (fun constant => !value.pythonEq constant) = true)
          (path ++ " must equal the schema constant") ++
        (schema.allOf.flatMap fun child =>
          Schemas.validateSchemaValue search value child path) ++
        (schema.anyOf.elim [] fun anyOf =>
          reportAny (anyOf.map fun child => Schemas.validateSchemaValue search value child path)
            (path ++ " does not match any allowed schema")) ++
        (schema.oneOf.elim [] fun oneOf =>
          reportOne (oneOf.map fun child => Schemas.validateSchemaValue search value child path)
            (path ++ " must match exactly one allowed schema")) ++
        ownErrors search schema path value := by
  rw [Schemas.validateSchemaValue.eq_def, if_neg htyped]
  congr 1
  · congr 1
    · congr 1
      split <;> simp [*]
    · split <;> simp [*]
  · cases value with
    | obj own =>
        simp only [ownErrors]
        congr 2
        · congr 2
          funext property
          rw [propertyErrors]
          cases own.lookup property.1 <;> rfl
        · unfold otherErrors
          split <;> simp [*, report]
    | arr items =>
        simp only [ownErrors]
        split <;> simp [*]
    | str text => rfl
    | int _ | float _ _ => rfl
    | null | bool _ => rfl

section Validation

/-- A validation of schemas of these levels that returns what the checked schema says. -/
def Follows (compiles : String → Bool) (search : String → String → Bool) (levels : Nat)
    (validate : Json → Json → String → Attempt (List String)) : Prop :=
  ∀ child part, checkSchemaShape compiles levels child = .ok part →
    ∀ value path, validate value child path =
      .ok (Schemas.validateSchemaValue search value part path)

variable {validate : Json → Json → String → Attempt (List String)}
  (hvalidate : Follows compiles search levels validate)
  (hreads : Reads compiles levels members schema)

include hvalidate hreads

theorem validateAllOf_eq : validateAllOf validate value members path =
    .ok (schema.allOf.flatMap fun child => Schemas.validateSchemaValue search value child path) := by
  obtain ⟨allOf, hallOf, hschema⟩ := hreads.allOf
  rw [validateAllOf, Json.getD, hschema]
  rcases variants_of_checkVariants hallOf with ⟨hlookup, rfl⟩ | ⟨children, parts, hlookup, hparts, rfl⟩
  · rw [hlookup]
    rfl
  · rw [hlookup, Option.getD_some, iterate, ok_bind,
      mapM_of_mapM hparts fun child part hpart => hvalidate child part hpart value path, ok_bind,
      Option.getD_some, List.flatMap_def]

theorem validateAnyOf_eq : validateAnyOf validate value members path =
    .ok (schema.anyOf.elim [] fun anyOf =>
      reportAny (anyOf.map fun child => Schemas.validateSchemaValue search value child path)
        (path ++ " does not match any allowed schema")) := by
  rw [validateAnyOf, Json.getD]
  rcases variants_of_checkVariants hreads.anyOf with ⟨hlookup, hschema⟩ |
    ⟨children, parts, hlookup, hparts, hschema⟩
  · rw [hlookup, hschema]
    rfl
  · rw [hlookup, hschema, Option.getD_some, Option.elim_some]
    have hany := anyM_of_mapM
      (p := fun child => do .ok (decide ((← validate value child path) = [])))
      (q := fun part => decide (Schemas.validateSchemaValue search value part path = [])) hparts
      fun child part hpart => by rw [hvalidate child part hpart, ok_bind]
    rw [iterate, ok_bind, hany, ok_bind, truthy_arr hparts, reportAny]
    cases parts with
    | nil => rfl
    | cons part parts => exact congrArg Except.ok (report_congr (by simp))

theorem validateOneOf_eq : validateOneOf validate value members path =
    .ok (schema.oneOf.elim [] fun oneOf =>
      reportOne (oneOf.map fun child => Schemas.validateSchemaValue search value child path)
        (path ++ " must match exactly one allowed schema")) := by
  rw [validateOneOf, Json.getD]
  rcases variants_of_checkVariants hreads.oneOf with ⟨hlookup, hschema⟩ |
    ⟨children, parts, hlookup, hparts, hschema⟩
  · rw [hlookup, hschema]
    rfl
  · rw [hlookup, hschema, Option.getD_some, Option.elim_some, iterate, ok_bind,
      mapM_of_mapM hparts fun child part hpart => hvalidate child part hpart value path, ok_bind,
      truthy_arr hparts, reportOne]
    cases parts with
    | nil => rfl
    | cons part parts => exact congrArg Except.ok (report_congr (by simp))

omit hvalidate in
theorem properties_of_reads : ∃ own, Json.getD members "properties" (.obj []) = .obj own ∧
    own.mapM (checkProperty (checkSchemaShape compiles levels)) = .ok schema.properties ∧
    ∀ name, (own.lookup name).isSome = true ↔ name ∈ schema.names := by
  obtain ⟨own, hown, hproperties⟩ := hreads.properties
  have hnames : schema.names = own.map Prod.fst :=
    map_eq_of_mapM hproperties fun _ _ h => (checkProperty_ok h).1
  exact ⟨own, hown, hproperties, fun name => by rw [isSome_lookup, hnames]⟩

theorem validateMembers_eq (own : Json.Members) : validateMembers validate own members path =
    .ok (schema.properties.flatMap (propertyErrors search own path) ++
      own.flatMap (otherErrors search schema path)) := by
  obtain ⟨properties, hown, hproperties, hnames⟩ := properties_of_reads hreads
  have hknown : properties.mapM (validateProperty validate own path) =
      .ok (schema.properties.map (propertyErrors search own path)) := by
    refine mapM_of_mapM hproperties fun property read hread => ?_
    obtain ⟨hname, hpart⟩ := checkProperty_ok hread
    obtain ⟨child, hobj⟩ := obj_of_accepted hpart
    rw [hobj] at hpart
    rw [validateProperty, propertyErrors, hname, hobj]
    cases own.lookup property.1 with
    | none => rfl
    | some value => exact hvalidate (.obj child) read.2 hpart value _
  have hother : own.mapM (validateOther validate members properties path) =
      .ok (own.map (otherErrors search schema path)) := by
    refine mapM_ok fun member _ => ?_
    rw [validateOther, otherErrors]
    by_cases hname : member.1 ∈ schema.names
    · rw [if_pos ((hnames member.1).2 hname), if_pos hname]
    · rw [if_neg fun h => hname ((hnames member.1).1 h), if_neg hname]
      rcases additional_of_checkAdditional hreads.additional with
        ⟨own', part, hadditional, hpart, hschema⟩ | ⟨hadditional, hschema⟩ |
        ⟨hadditional | hadditional, hschema⟩
      · rw [hadditional, hschema]
        exact hvalidate _ part hpart member.2 _
      · rw [hadditional, hschema]
      · rw [hadditional, hschema]
      · rw [hadditional, hschema]
  rw [validateMembers, hown]
  show (properties.mapM (validateProperty validate own path) >>= fun known =>
    own.mapM (validateOther validate members properties path) >>= fun others =>
      Except.ok (known.flatten ++ others.flatten)) = _
  rw [hknown, ok_bind, hother, ok_bind, List.flatMap_def, List.flatMap_def]

theorem validateItems_eq (items : List Json) : validateItems validate items members path =
    .ok (schema.items.elim [] fun part => items.zipIdx.flatMap fun item =>
      Schemas.validateSchemaValue search item.1 part (path ++ "[" ++ toString item.2 ++ "]")) := by
  rw [validateItems]
  rcases items_of_checkItems hreads.items with ⟨hschema, hitems⟩ | ⟨part, hschema, hpart⟩
  · rw [hschema, hitems]
    rfl
  · obtain ⟨own, hobj⟩ := obj_of_accepted hpart
    rw [hobj] at hpart ⊢
    have hresults : (items.zipIdx.mapM fun (item : Json × Nat) =>
        validate item.1 (.obj own) (path ++ "[" ++ toString item.2 ++ "]")) =
        .ok (items.zipIdx.map fun item =>
          Schemas.validateSchemaValue search item.1 part (path ++ "[" ++ toString item.2 ++ "]")) :=
      mapM_ok fun item _ => hvalidate _ part hpart item.1 _
    simp only
    rw [hresults, ok_bind, hschema, Option.elim_some, List.flatMap_def]

theorem validateOwn_eq : validateOwn validate compiles search value members path =
    .ok (ownErrors search schema path value) := by
  cases value with
  | obj own =>
      rw [validateOwn, reportRequired_eq hreads, ok_bind, validateMembers_eq hvalidate hreads,
        ok_bind, reportCount_eq (count_of_checkCount hreads.minProperties)
          (count_of_checkCount hreads.maxProperties), ok_bind, ownErrors]
      simp only [List.append_assoc]
  | arr items =>
      rw [validateOwn, reportCount_eq (count_of_checkCount hreads.minItems)
        (count_of_checkCount hreads.maxItems), ok_bind, validateItems_eq hvalidate hreads, ok_bind,
        ownErrors]
  | str text =>
      rw [validateOwn, reportCount_eq (count_of_checkCount hreads.minLength)
        (count_of_checkCount hreads.maxLength), ok_bind, reportPattern_eq hreads, ownErrors]
  | int _ | float _ _ => exact reportBounds_eq hreads rfl
  | null | bool _ => rfl

theorem validateTyped_eq
    (htyped : ¬ (schema.types ≠ [] ∧ schema.types.any (matchesKind value) = false)) :
    validateTyped validate compiles search value members path =
      .ok (Schemas.validateSchemaValue search value schema path) := by
  rw [validateTyped, reportEnum_eq hreads, ok_bind, reportConst_eq hreads, ok_bind,
    validateAllOf_eq hvalidate hreads, ok_bind, validateAnyOf_eq hvalidate hreads, ok_bind,
    validateOneOf_eq hvalidate hreads, ok_bind, validateOwn_eq hvalidate hreads, ok_bind,
    validateSchemaValue_of_typed htyped]

end Validation

/-- A schema that is accepted is validated against without an exception. -/
theorem validateSchemaValue_of_accepted {text : Json} {schema : JsonSchema} {depth : Nat}
    (haccepted : checkSchemaShape compiles levels text = .ok schema) (hdepth : levels ≤ depth)
    (value : Json) (path : String) :
    validateSchemaValue compiles search depth value text path =
      .ok (Schemas.validateSchemaValue search value schema path) := by
  induction levels generalizing text schema depth value path with
  | zero => cases haccepted
  | succ levels ih =>
      obtain ⟨members, rfl, hreads⟩ := reads_of_ok haccepted
      obtain ⟨depth, rfl⟩ : ∃ d, depth = d + 1 := ⟨depth - 1, by omega⟩
      have hfollows : Follows compiles search levels (validateSchemaValue compiles search depth) :=
        fun child part hpart value path => ih hpart (by omega) value path
      have htyped : (expectedTypes members).anyM (matchesType value) =
          .ok (schema.types.any (matchesKind value)) := by
        rw [expectedTypes_eq hreads.types, anyM_matchesType]
      rw [validateSchemaValue, membersOf, Json.members?, orError, ok_bind, htyped, ok_bind,
        expectedTypes_eq hreads.types]
      by_cases hmistyped : schema.types ≠ [] ∧ schema.types.any (matchesKind value) = false
      · rw [if_pos (by simpa using hmistyped), reportMistyped_eq,
          Schemas.validateSchemaValue.eq_def, if_pos hmistyped]
      · rw [if_neg (by simpa using hmistyped), validateTyped_eq hfollows hreads hmistyped]

end Cestos.Schemas.Dynamic
