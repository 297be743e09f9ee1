import Cestos.Schemas.Accepted
import Cestos.Schemas.Kept
import Cestos.Schemas.Validate

/-!
# How a schema fails the check

The tests of the check in their order. A type that cannot be looked up fails otherwise than
everything else: Python raises a `TypeError` there, where the check means to refuse the schema.
-/

namespace Cestos.Schemas

open Cestos.Core

section Checked

variable {compiles : String → Bool} {levels : Nat} {members : Json.Members} {value : Json}

inductive Fault
  | refused
  | unhashable
  deriving DecidableEq

def Raised.fault : Raised → Fault
  | .valueError _ => .refused
  | .typeError => .unhashable

/-- A test that refuses the schema where it fails. -/
def refusal (passed : Bool) : Option Fault := if passed then none else some .refused

def kindFault (declared : Json) : Option Fault :=
  if declared.hashable then refusal (declared.str?.any fun name => (kinds.lookup name).isSome)
  else some .unhashable

def typeFaults (members : Json.Members) : List (Option Fault) :=
  match Json.getD members "type" .null with
  | .null => []
  | .arr [] => [some .refused]
  | .arr declared => declared.map kindFault
  | declared => [kindFault declared]

def requiredFaults (members : Json.Members) : List (Option Fault) :=
  match Json.getD members "required" (.arr []) with
  | .arr names => names.map fun name => refusal name.str?.isSome
  | _ => [some .refused]

/-- A keyword that is not there passes its test. -/
def keywordFault (members : Json.Members) (key : String) (test : Json → Bool) : Option Fault :=
  refusal ((members.lookup key).all test)

def boundFault (members : Json.Members) (key : String) : Option Fault :=
  keywordFault members key isNumber

def countFault (members : Json.Members) (key : String) : Option Fault :=
  keywordFault members key fun count => count.int?.isSome

def itemsFaults (members : Json.Members) (child : Json → List (Option Fault)) :
    List (Option Fault) :=
  match Json.getD members "items" .null with
  | .null => []
  | items => child items

def additionalFaults (members : Json.Members) (child : Json → List (Option Fault)) :
    List (Option Fault) :=
  match Json.getD members "additionalProperties" .null with
  | .obj additional => child (.obj additional)
  | .null | .bool _ => []
  | _ => [some .refused]

def variantsFaults (members : Json.Members) (key : String) (child : Json → List (Option Fault)) :
    List (Option Fault) :=
  match members.lookup key with
  | none => []
  | some (.arr variants) => variants.flatMap child
  | some _ => [some .refused]

/-- How the tests of a schema come out, one after the other, with the levels that are left. -/
def schemaFaults (compiles : String → Bool) : Nat → Json → List (Option Fault)
  | levels + 1, .obj members =>
    typeFaults members ++ (refusal (members.lookup "$ref").isNone :: (requiredFaults members ++
      (keywordFault members "enum" (fun choices => choices.items?.isSome) ::
        boundFault members "minimum" :: boundFault members "maximum" ::
        boundFault members "exclusiveMinimum" :: boundFault members "exclusiveMaximum" ::
        countFault members "minLength" :: countFault members "maxLength" ::
        countFault members "minItems" :: countFault members "maxItems" ::
        countFault members "minProperties" :: countFault members "maxProperties" ::
        keywordFault members "pattern" (fun pattern => pattern.str?.any compiles) ::
        refusal (Json.getD members "properties" (.obj [])).members?.isSome ::
        (itemsFaults members (schemaFaults compiles levels) ++
          (((Json.getD members "properties" (.obj [])).members?.getD []).flatMap
              (fun property => schemaFaults compiles levels property.2) ++
            (additionalFaults members (schemaFaults compiles levels) ++
              (variantsFaults members "oneOf" (schemaFaults compiles levels) ++
                (variantsFaults members "anyOf" (schemaFaults compiles levels) ++
                  variantsFaults members "allOf" (schemaFaults compiles levels)))))))))
  | _, _ => [some .refused]

/-! ## The tests are those of the check -/

section Tests

variable {α : Type} {message : String}

theorem faultOf_ensure {p : Prop} [Decidable p] :
    faultOf Raised.fault (ensure p (.valueError message)) = refusal (decide p) := by
  unfold ensure refusal
  by_cases hp : p
  · simp [hp]
  · simp [hp, Raised.fault]

theorem faultOf_orError {x : Option α} :
    faultOf Raised.fault (orError x (.valueError message)) = refusal x.isSome := by
  cases x <;> rfl

theorem faultOf_checkKind (declared : Json) :
    faultOf Raised.fault (checkKind declared) = kindFault declared := by
  unfold checkKind kindFault
  split
  · rw [faultOf_orError]
    cases declared.str? <;> rfl
  · rfl

theorem faultOf_checkTypes (members : Json.Members) :
    faultOf Raised.fault (checkTypes members) = firstFault (typeFaults members) := by
  have hone : ∀ declared : Json, faultOf Raised.fault (do .ok [← checkKind declared]) =
      firstFault [kindFault declared] := by
    intro declared
    rw [faultOf_bind_ok, firstFault_singleton, faultOf_checkKind]
  unfold checkTypes typeFaults
  cases Json.getD members "type" .null with
  | null => rfl
  | arr declared =>
      cases declared with
      | nil => rfl
      | cons first rest => exact faultOf_mapM_map fun declared _ => faultOf_checkKind declared
  | bool _ | int _ | float _ _ | str _ | obj _ => exact hone _

theorem faultOf_checkRequired (members : Json.Members) :
    faultOf Raised.fault (checkRequired members) = firstFault (requiredFaults members) := by
  unfold checkRequired requiredFaults
  cases Json.getD members "required" (.arr []) with
  | arr names => exact faultOf_mapM_map fun _ _ => faultOf_orError
  | null | bool _ | int _ | float _ _ | str _ | obj _ => rfl

theorem faultOf_checkEnum (members : Json.Members) :
    faultOf Raised.fault (checkEnum members) =
      keywordFault members "enum" fun choices => choices.items?.isSome := by
  unfold checkEnum keywordFault
  cases members.lookup "enum" with
  | none => rfl
  | some choices => cases choices <;> rfl

theorem faultOf_checkBound (members : Json.Members) (key : String) :
    faultOf Raised.fault (checkBound members key) = boundFault members key := by
  unfold checkBound boundFault keywordFault
  cases members.lookup key with
  | none => rfl
  | some bound => cases bound <;> rfl

theorem faultOf_checkCount (members : Json.Members) (key : String) :
    faultOf Raised.fault (checkCount members key) = countFault members key := by
  unfold checkCount countFault keywordFault
  cases members.lookup key with
  | none => rfl
  | some count => cases count <;> rfl

theorem faultOf_checkPattern (members : Json.Members) :
    faultOf Raised.fault (checkPattern compiles members) =
      keywordFault members "pattern" fun pattern => pattern.str?.any compiles := by
  unfold checkPattern keywordFault
  cases members.lookup "pattern" with
  | none => rfl
  | some pattern =>
      refine faultOf_bind_ok.trans (faultOf_orError.trans (congrArg refusal ?_))
      cases pattern with
      | str text => cases hcompiles : compiles text <;> simp [Json.str?, Option.filter, hcompiles]
      | null | bool _ | int _ | float _ _ | arr _ | obj _ => rfl

variable {check : Json → Except Raised JsonSchema} {child : Json → List (Option Fault)}

theorem faultOf_checkItems (h : ∀ value, faultOf Raised.fault (check value) = firstFault (child value)) :
    faultOf Raised.fault (checkItems members check) = firstFault (itemsFaults members child) := by
  have hone : ∀ items, faultOf Raised.fault (do .ok (some (← check items))) =
      firstFault (child items) := fun items => faultOf_bind_ok.trans (h items)
  unfold checkItems itemsFaults
  cases Json.getD members "items" .null with
  | null => rfl
  | bool _ | int _ | float _ _ | str _ | arr _ | obj _ => exact hone _

theorem faultOf_checkAdditional
    (h : ∀ value, faultOf Raised.fault (check value) = firstFault (child value)) :
    faultOf Raised.fault (checkAdditional members check) =
      firstFault (additionalFaults members child) := by
  unfold checkAdditional additionalFaults
  cases Json.getD members "additionalProperties" .null with
  | obj additional => exact faultOf_bind_ok.trans (h (.obj additional))
  | bool value => cases value <;> rfl
  | null | int _ | float _ _ | str _ | arr _ => rfl

theorem faultOf_checkVariants {key : String}
    (h : ∀ value, faultOf Raised.fault (check value) = firstFault (child value)) :
    faultOf Raised.fault (checkVariants members key check) =
      firstFault (variantsFaults members key child) := by
  unfold checkVariants variantsFaults
  cases members.lookup key with
  | none => rfl
  | some variants =>
      cases variants with
      | arr variants => exact faultOf_bind_ok.trans (faultOf_mapM fun value _ => h value)
      | null | bool _ | int _ | float _ _ | str _ | obj _ => rfl

end Tests

theorem faultOf_checkSchemaShape : faultOf Raised.fault (checkSchemaShape compiles levels value) =
    firstFault (schemaFaults compiles levels value) := by
  induction levels generalizing value with
  | zero => rfl
  | succ levels ih =>
      cases value with
      | obj members =>
          rw [checkSchemaShape_obj, schemaFaults]
          refine faultOf_bind (faultOf_checkTypes members) fun _ _ => ?_
          refine faultOf_bind_cons (faultOf_ensure.trans (by simp)) fun _ _ => ?_
          refine faultOf_bind (faultOf_checkRequired members) fun _ _ => ?_
          refine faultOf_bind_cons (faultOf_checkEnum members) fun _ _ => ?_
          iterate 4 refine faultOf_bind_cons (faultOf_checkBound members _) fun _ _ => ?_
          iterate 6 refine faultOf_bind_cons (faultOf_checkCount members _) fun _ _ => ?_
          refine faultOf_bind_cons (faultOf_checkPattern members) fun _ _ => ?_
          refine faultOf_bind_cons faultOf_orError fun own hown => ?_
          rw [orError_eq_ok] at hown
          rw [hown, Option.getD_some]
          refine faultOf_bind (faultOf_checkItems fun _ => ih) fun _ _ => ?_
          refine faultOf_bind (faultOf_mapM fun property _ => faultOf_bind_ok.trans ih) fun _ _ => ?_
          refine faultOf_bind (faultOf_checkAdditional fun _ => ih) fun _ _ => ?_
          refine faultOf_bind (faultOf_checkVariants fun _ => ih) fun _ _ => ?_
          refine faultOf_bind (faultOf_checkVariants fun _ => ih) fun _ _ => ?_
          exact faultOf_bind_ok.trans (faultOf_checkVariants fun _ => ih)
      | null | bool _ | int _ | float _ _ | str _ | arr _ => rfl

/-- Whether the first thing that is wrong with a schema is a type that cannot be looked up. -/
def Misdeclared (compiles : String → Bool) (value : Json) : Prop :=
  firstFault (schemaFaults compiles 33 value) = some .unhashable

instance : DecidablePred (Misdeclared compiles) := fun value =>
  decEq (firstFault (schemaFaults compiles 33 value)) (some .unhashable)

/-- The check refuses what it does not accept, unless a type is declared so. -/
theorem raises_valueError_iff :
    (∀ raised, checkSchemaShape compiles 33 value = .error raised →
      ∃ message, raised = .valueError message) ↔ ¬ Misdeclared compiles value := by
  rw [Misdeclared, ← faultOf_checkSchemaShape]
  cases checkSchemaShape compiles 33 value with
  | ok schema => simp
  | error raised => cases raised <;> simp [Raised.fault]

end Checked

/-!
## What schemas raise

The repair by an accepted schema returns what that of the checked schema returns. So all that a
schema can raise is raised by its check, and that means to raise nothing but a `ValueError`.
-/

namespace Dynamic

variable {compiles : String → Bool} {env : Coercion} {levels : Nat} {members : Json.Members}
  {schema : JsonSchema} {value : Json}

theorem schemaDefault_eq (hreads : Reads compiles levels members schema) :
    schemaDefault members = .ok (Schemas.schemaDefault schema) := by
  have hfirst : ∀ first : Option Kind, (lookupKind ((first.map typeName).getD (.str "null")) >>=
      fun known => Except.ok ((known.map kindDefault).getD .null)) =
      (Except.ok ((first.map kindDefault).getD .null) : Attempt Json) := by
    intro first
    cases first with
    | none => rfl
    | some kind => rw [Option.map_some, Option.getD_some, lookupKind_text]; rfl
  rw [schemaDefault, defaultType, Schemas.schemaDefault, expectedKind]
  rcases type_of_checkTypes hreads.types with ⟨htype, htypes⟩ | ⟨kind, htype, htypes⟩ | htype
  · rw [htype, htypes]
    rfl
  · rw [htype, htypes]
    cases kind <;> rfl
  · rw [htype]
    simp only
    rw [find?_notNull, hfirst]

theorem startValue_eq (hreads : Reads compiles levels members schema) :
    startValue members value = .ok (Schemas.startValue schema value) := by
  rw [startValue, Schemas.startValue, schemaDefault_eq hreads]
  split <;> rfl

theorem expected_eq (hreads : Reads compiles levels members schema) :
    ((((expectedTypes members).find? notNull).bind Json.str?).bind fun name => kinds.lookup name) =
      expectedKind schema := by
  rw [expectedTypes_eq hreads.types, find?_notNull, expectedKind]
  cases schema.types.find? (· ≠ .null) with
  | none => rfl
  | some kind => exact lookup_text kind

theorem repairNumeric_eq (hreads : Reads compiles levels members schema) {kind : Kind}
    (hkind : kind = .number ∨ kind = .integer) (hexpected : expectedKind schema = some kind) :
    repairNumeric env kind value members = .ok (repairScalar env kind value) := by
  have hdefault : schemaDefault members = .ok (.int 0) := by
    rw [schemaDefault_eq hreads, Schemas.schemaDefault, hexpected]
    rcases hkind with rfl | rfl <;> rfl
  rw [repairNumeric, hdefault]
  rcases hkind with rfl | rfl
  · have hinstance : isInstance .number value = isNumber value := by cases value <;> rfl
    rw [repairScalar.eq_def, hinstance]
    split
    · rfl
    · simp only [repairNumber]
      cases readFloat env value <;> rfl
  · rw [repairScalar.eq_def, isInstance]
    split
    · rfl
    · simp only [repairInteger]
      cases readFloat env value <;> rfl

theorem settleEnum_eq (hreads : Reads compiles levels members schema) :
    settleEnum members value = .ok (Schemas.settleEnum schema value) := by
  rw [settleEnum, Json.getD, choices_of_checkEnum hreads.enum, Schemas.settleEnum]
  cases schema.enum with
  | none => rfl
  | some choices =>
      cases choices with
      | nil => rfl
      | cons first rest =>
          have hneutral : (neutral (.arr (first :: rest))
              ((first :: rest).any (Json.pythonEq (.str "")))) =
              .ok (if (first :: rest).any (Json.pythonEq (.str "")) = true then .str ""
                else first) := by
            rw [neutral]
            split <;> rfl
          show (Except.ok ((first :: rest).any value.pythonEq) >>=
              settle (.arr (first :: rest)) value) =
            Except.ok (if (first :: rest).any value.pythonEq = true then (value, false)
              else if (first :: rest).any (Json.pythonEq (.str "")) = true then (.str "", true)
              else (first, true))
          rw [ok_bind, settle, contains, ok_bind, hneutral]
          split
          · rfl
          · rw [ok_bind]
            split <;> rfl

theorem any_str_iff {names : List String} {name : String} :
    (names.map Json.str).any (Json.pythonEq (.str name)) = true ↔ name ∈ names := by
  simp [List.any_map, Json.pythonEq, Json.sameBy, Json.pythonAtoms]

section Repair

/-- A repair by schemas of these levels that returns what the checked schema says. -/
def Repairs (compiles : String → Bool) (env : Coercion) (levels : Nat)
    (normalize : Json → Json → Attempt Repair) : Prop :=
  ∀ child part, checkSchemaShape compiles levels child = .ok part →
    ∀ value, normalize value child = .ok (Schemas.normalizeSchemaValue env value part)

variable {normalize : Json → Json → Attempt Repair} (hnormalize : Repairs compiles env levels normalize)
  (hreads : Reads compiles levels members schema)

include hnormalize hreads

theorem normalizeObject_eq : normalizeObject normalize value members =
    .ok (rebuildObject schema value (children env schema (value.members?.getD []))) := by
  obtain ⟨properties, hown, hproperties, hnames⟩ := properties_of_reads hreads
  have hrequired : setOf (Json.getD members "required" (.arr [])) =
      .ok (schema.required.map .str) := by
    rw [names_of_checkRequired hreads.required]
    have hhashable : (schema.required.map Json.str).all Json.hashable = true := by
      simp [Json.hashable]
    rw [setOf, iterate, ok_bind, hhashable]
    rfl
  have hchildren : properties.mapM (normalizeProperty normalize (value.members?.getD [])
      (schema.required.map .str)) = .ok (schema.properties.map fun property =>
        if ((value.members?.getD []).lookup property.1).isSome ∨ property.1 ∈ schema.required then
          some (property.1, Schemas.normalizeSchemaValue env
            (Json.getD (value.members?.getD []) property.1 .null) property.2)
        else none) := by
    refine mapM_of_mapM hproperties fun property read hread => ?_
    obtain ⟨hname, hpart⟩ := checkProperty_ok hread
    rw [normalizeProperty, hname, hnormalize property.2 read.2 hpart]
    simp only [any_str_iff]
    split <;> rfl
  have hothers : ∀ own, takenOver members properties own = otherMembers schema own := by
    intro own
    have hnone : ∀ member : String × Json, (properties.lookup member.1).isNone =
        decide (member.1 ∉ schema.names) := by
      intro member
      rw [Bool.eq_iff_iff, decide_eq_true_iff, ← hnames]
      cases properties.lookup member.1 <;> simp
    rw [takenOver, otherMembers]
    rcases additional_of_checkAdditional hreads.additional with
      ⟨own', part, hadditional, -, hschema⟩ | ⟨hadditional, hschema⟩ |
      ⟨hadditional | hadditional, hschema⟩
    all_goals rw [hadditional, hschema]
    all_goals simp only [hnone]
  rw [normalizeObject]
  simp only
  rw [hrequired, ok_bind, hown, membersOf, Json.members?, orError, ok_bind, hchildren, ok_bind,
    List.filterMap_map, hothers]
  rfl

theorem normalizeArray_eq : normalizeArray normalize value members =
    .ok (rebuildArray value (repairItems env schema (value.items?.getD []))) := by
  rw [normalizeArray]
  unfold repairItems
  rcases items_of_checkItems hreads.items with ⟨hschema, hitems⟩ | ⟨part, hschema, hpart⟩
  · rw [hschema, hitems]
  · obtain ⟨own, hobj⟩ := obj_of_accepted hpart
    rw [hobj] at hpart ⊢
    have hresults : ((value.items?.getD []).mapM fun item => normalize item (.obj own)) =
        .ok ((value.items?.getD []).map fun item =>
          Schemas.normalizeSchemaValue env item part) :=
      mapM_ok fun item _ => hnormalize _ part hpart item
    simp only
    rw [hresults, ok_bind, hschema]

theorem repairExpected_eq : repairExpected normalize env value members (expectedKind schema) =
    .ok (repairTyped env schema value) := by
  rw [repairTyped]
  cases hexpected : expectedKind schema with
  | none => rfl
  | some kind =>
      cases kind with
      | object => exact normalizeObject_eq hnormalize hreads
      | array => exact normalizeArray_eq hnormalize hreads
      | number => exact repairNumeric_eq hreads (.inl rfl) hexpected
      | integer => exact repairNumeric_eq hreads (.inr rfl) hexpected
      | string | boolean => rfl
      | null => exact absurd hexpected expectedKind_ne_null

theorem repair_eq (h : ¬ (isNull value = true ∧ Kind.null ∈ schema.types)) :
    repair normalize env value members = .ok (Schemas.normalizeSchemaValue env value schema) := by
  rw [repair, startValue_eq hreads, ok_bind, normalize_of_not_left h]
  simp only
  rw [expected_eq hreads, repairExpected_eq hnormalize hreads, ok_bind, settleEnum_eq hreads,
    ok_bind, Schemas.settle, Bool.or_assoc]

end Repair

/-- By a schema that is accepted a value is repaired without an exception. -/
theorem normalizeSchemaValue_of_accepted {text : Json} {schema : JsonSchema} {depth : Nat}
    (haccepted : checkSchemaShape compiles levels text = .ok schema) (hdepth : levels ≤ depth)
    (value : Json) : normalizeSchemaValue env depth value text =
      .ok (Schemas.normalizeSchemaValue env value schema) := by
  induction levels generalizing text schema depth value with
  | zero => cases haccepted
  | succ levels ih =>
      obtain ⟨members, rfl, hreads⟩ := reads_of_ok haccepted
      obtain ⟨depth, rfl⟩ : ∃ d, depth = d + 1 := ⟨depth - 1, by omega⟩
      have hrepairs : Repairs compiles env levels (normalizeSchemaValue env depth) :=
        fun child part hpart value => ih hpart (by omega) value
      rw [normalizeSchemaValue, membersOf, Json.members?, orError, ok_bind,
        expectedTypes_eq hreads.types]
      by_cases hleft : isNull value = true ∧ Kind.null ∈ schema.types
      · rw [if_pos (hleft.imp_right (any_null_iff _).2), Schemas.normalizeSchemaValue,
          if_pos hleft]
      · rw [if_neg fun h => hleft (h.imp_right (any_null_iff _).1), repair_eq hrepairs hreads hleft]

end Dynamic

/-! ### What is raised -/

/-- The check raises nothing but a `ValueError`; by what it accepts every value is validated and
repaired without an exception. -/
def RaisesValueErrors (compiles : String → Bool) (search : String → String → Bool)
    (env : Coercion) (text : Json) : Prop :=
  (∀ raised, checkSchemaShape compiles 33 text = .error raised →
    ∃ message, raised = .valueError message) ∧
  ∀ schema, checkSchemaShape compiles 33 text = .ok schema → ∀ depth, 33 ≤ depth → ∀ value,
    (∀ path, ∃ errors,
      Dynamic.validateSchemaValue compiles search depth value text path = .ok errors) ∧
    ∃ repaired, Dynamic.normalizeSchemaValue env depth value text = .ok repaired

/-- A schema raises something else exactly if the first thing that is wrong with it is a type that
cannot be looked up. -/
theorem schema_raises_iff (compiles : String → Bool) (search : String → String → Bool)
    (env : Coercion) (text : Json) :
    RaisesValueErrors compiles search env text ↔ ¬ Misdeclared compiles text := by
  rw [← raises_valueError_iff]
  refine and_iff_left fun schema haccepted depth hdepth value => ⟨fun path => ?_, ?_⟩
  · exact ⟨_, Dynamic.validateSchemaValue_of_accepted haccepted hdepth value path⟩
  · exact ⟨_, Dynamic.normalizeSchemaValue_of_accepted haccepted hdepth value⟩

/-- A type that is an object is not refused: looking it up raises a `TypeError`. -/
theorem schema_raises_broken : ¬ ∀ (compiles : String → Bool) (search : String → String → Bool)
    (env : Coercion) (text : Json), RaisesValueErrors compiles search env text := by
  intro h
  have hraised : checkSchemaShape (fun _ => true) 33 (.obj [("type", .obj [])]) =
      .error .typeError := rfl
  obtain ⟨message, hmessage⟩ :=
    (h (fun _ => true) (fun _ _ => true) ⟨fun _ => none, id, id⟩ _).1 _ hraised
  cases hmessage

end Cestos.Schemas
