import Cestos.Core.Lookup
import Mathlib.Algebra.GroupWithZero.Nat
import Mathlib.Data.Rat.Defs

/-!
# JSON values

Values as Python reads them: integers and floats are told apart, and a float may be infinite or not
a number. An object lists its members in the order in which they were read; a member is found by
its first name.
-/

namespace Cestos.Core

/-- A float has its value, if it is finite, and the text that it is written with. -/
inductive Json
  | null
  | bool (value : Bool)
  | int (value : Int)
  | float (value : Option ℚ) (text : String)
  | str (value : String)
  | arr (items : List Json)
  | obj (members : List (String × Json))

abbrev Json.Members := List (String × Json)

namespace Json

/-- Whether `if` takes the value for true. -/
def truthy : Json → Bool
  | .null => false
  | .bool value => value
  | .int value => value ≠ 0
  | .float value _ => value ≠ some 0
  | .str value => value ≠ ""
  | .arr items => !items.isEmpty
  | .obj members => !members.isEmpty

def members? : Json → Option Members
  | .obj members => some members
  | _ => none

def items? : Json → Option (List Json)
  | .arr items => some items
  | _ => none

def str? : Json → Option String
  | .str value => some value
  | _ => none

/-- `type(value) is int`. -/
def int? : Json → Option Int
  | .int value => some value
  | _ => none

/-- Whether the value may be a key or a member of a set. -/
def hashable : Json → Bool
  | .arr _ => false
  | .obj _ => false
  | _ => true

/-- A member, or `default` where there is none. -/
def getD (members : Members) (name : String) (default : Json) : Json :=
  (members.lookup name).getD default

theorem items?_eq_some {value : Json} {items : List Json} :
    value.items? = some items ↔ value = .arr items := by
  cases value <;> simp [items?]

/-! ## Equality -/

/-- What a number is; neither an infinite one nor what is no number has a value. -/
def number? : Json → Option ℚ
  | .int value => some value
  | .float value _ => value
  | _ => none

mutual

/-- Arrays are compared item by item and objects by their members in any order, everything else
as `atoms` compares it. -/
def sameBy (atoms : Json → Json → Bool) : Json → Json → Bool
  | .arr items, .arr items' => sameItemsBy atoms items items'
  | .obj members, .obj members' =>
    members.length = members'.length && sameMembersBy atoms members members'
  | value, value' => atoms value value'

def sameItemsBy (atoms : Json → Json → Bool) : List Json → List Json → Bool
  | [], [] => true
  | item :: items, item' :: items' => sameBy atoms item item' && sameItemsBy atoms items items'
  | _, _ => false

def sameMembersBy (atoms : Json → Json → Bool) :
    List (String × Json) → List (String × Json) → Bool
  | [], _ => true
  | (name, value) :: members, members' =>
    (match members'.lookup name with
      | some value' => sameBy atoms value value'
      | none => false) && sameMembersBy atoms members members'

end

def sameAtoms : Json → Json → Bool
  | .null, .null => true
  | .bool value, .bool value' => value = value'
  | .str value, .str value' => value = value'
  | value, value' => value.number?.any fun x => value'.number? = some x

/-- Equality of JSON values; `1` and `1.0` are equal. -/
def same : Json → Json → Bool := sameBy sameAtoms

/-- In Python `True` and `False` are the numbers one and zero. -/
def pythonNumber? : Json → Option ℚ
  | .bool value => some (if value then 1 else 0)
  | value => value.number?

def pythonAtoms : Json → Json → Bool
  | .null, .null => true
  | .str value, .str value' => value = value'
  | value, value' => value.pythonNumber?.any fun x => value'.pythonNumber? = some x

/-- `==` of Python. -/
def pythonEq : Json → Json → Bool := sameBy pythonAtoms

mutual

/-- What compares more atoms as equal compares more values as equal. -/
theorem sameBy_mono {atoms atoms' : Json → Json → Bool}
    (h : ∀ a b, atoms a b = true → atoms' a b = true) :
    ∀ a b : Json, sameBy atoms a b = true → sameBy atoms' a b = true
  | .arr items, .arr items', hsame => sameItemsBy_mono h items items' hsame
  | .obj members, .obj members', hsame => by
      rw [sameBy, Bool.and_eq_true] at hsame ⊢
      exact ⟨hsame.1, sameMembersBy_mono h members members' hsame.2⟩
  | .null, b, hsame | .bool _, b, hsame | .int _, b, hsame | .float _ _, b, hsame
  | .str _, b, hsame => h _ b hsame
  | .arr _, .null, hsame | .arr _, .bool _, hsame | .arr _, .int _, hsame
  | .arr _, .float _ _, hsame | .arr _, .str _, hsame | .arr _, .obj _, hsame => h _ _ hsame
  | .obj _, .null, hsame | .obj _, .bool _, hsame | .obj _, .int _, hsame
  | .obj _, .float _ _, hsame | .obj _, .str _, hsame | .obj _, .arr _, hsame => h _ _ hsame

theorem sameItemsBy_mono {atoms atoms' : Json → Json → Bool}
    (h : ∀ a b, atoms a b = true → atoms' a b = true) :
    ∀ items items' : List Json,
      sameItemsBy atoms items items' = true → sameItemsBy atoms' items items' = true
  | [], [], _ => rfl
  | [], _ :: _, hsame | _ :: _, [], hsame => by cases hsame
  | item :: items, item' :: items', hsame => by
      rw [sameItemsBy, Bool.and_eq_true] at hsame ⊢
      exact ⟨sameBy_mono h item item' hsame.1, sameItemsBy_mono h items items' hsame.2⟩

theorem sameMembersBy_mono {atoms atoms' : Json → Json → Bool}
    (h : ∀ a b, atoms a b = true → atoms' a b = true) :
    ∀ members members' : List (String × Json),
      sameMembersBy atoms members members' = true → sameMembersBy atoms' members members' = true
  | [], _, _ => rfl
  | (name, value) :: members, members', hsame => by
      rw [sameMembersBy, Bool.and_eq_true] at hsame ⊢
      refine ⟨?_, sameMembersBy_mono h members members' hsame.2⟩
      cases hvalue : members'.lookup name with
      | none => simp [hvalue] at hsame
      | some value' =>
          rw [hvalue] at hsame
          exact sameBy_mono h value value' hsame.1

end

/-- What is equal as JSON is equal in Python. -/
theorem pythonEq_of_same {a b : Json} (h : a.same b = true) : a.pythonEq b = true := by
  refine sameBy_mono (fun a b hatoms => ?_) a b h
  cases a with
  | bool value =>
      cases b with
      | bool value' =>
          obtain rfl := of_decide_eq_true hatoms
          simp [pythonAtoms, pythonNumber?]
      | _ => cases hatoms
  | int _ | float _ _ =>
      cases b with
      | bool value => simp [sameAtoms, number?] at hatoms
      | _ => exact hatoms
  | _ => cases b <;> exact hatoms

def exactAtoms : Json → Json → Bool
  | .null, .null => true
  | .bool value, .bool value' => value = value'
  | .int value, .int value' => value = value'
  | .float value text, .float value' text' => value = value' ∧ text = text'
  | .str value, .str value' => value = value'
  | _, _ => false

/-- The same value; only the members of objects may have another order. -/
def exact : Json → Json → Bool := sameBy exactAtoms

mutual

/-- Whether the members of each object have different names, as those of a dict have. -/
def distinct : Json → Bool
  | .arr items => distinctItems items
  | .obj members => (members.map Prod.fst).Nodup && distinctMembers members
  | _ => true

def distinctItems : List Json → Bool
  | [] => true
  | item :: items => distinct item && distinctItems items

def distinctMembers : List (String × Json) → Bool
  | [] => true
  | (_, value) :: members => distinct value && distinctMembers members

end

theorem distinctItems_iff {items : List Json} :
    distinctItems items = true ↔ ∀ item ∈ items, distinct item = true := by
  induction items with
  | nil => simp [distinctItems]
  | cons item items ih => simp [distinctItems, ih]

theorem distinctMembers_iff {members : Members} :
    distinctMembers members = true ↔ ∀ member ∈ members, distinct member.2 = true := by
  induction members with
  | nil => simp [distinctMembers]
  | cons member members ih => simp [distinctMembers, ih]

theorem distinct_obj {members : Members} : distinct (.obj members) = true ↔
    (members.map Prod.fst).Nodup ∧ ∀ member ∈ members, distinct member.2 = true := by
  simp [distinct, distinctMembers_iff]

theorem sameMembersBy_iff {atoms : Json → Json → Bool} {members members' : Members} :
    sameMembersBy atoms members members' = true ↔
      ∀ member ∈ members, ∃ value, members'.lookup member.1 = some value ∧
        sameBy atoms member.2 value = true := by
  induction members with
  | nil => simp [sameMembersBy]
  | cons member members ih =>
      rw [sameMembersBy, Bool.and_eq_true, ih, List.forall_mem_cons]
      refine and_congr_left' ?_
      cases members'.lookup member.1 <;> simp

mutual

/-- A value is the same as itself. -/
theorem exact_refl : ∀ value : Json, value.distinct = true → value.exact value = true
  | .arr items, h => exactItems_refl items h
  | .obj members, h => by
      obtain ⟨hnodup, hvalues⟩ := distinct_obj.1 h
      rw [exact, sameBy, Bool.and_eq_true, sameMembersBy_iff]
      refine ⟨decide_eq_true rfl, fun member hmember => ⟨member.2, ?_, ?_⟩⟩
      · exact (lookup_eq_some_iff hnodup).2 hmember
      · exact exactMembers_refl members (distinctMembers_iff.2 hvalues) member hmember
  | .null, _ => rfl
  | .bool _, _ | .int _, _ | .float _ _, _ | .str _, _ => by simp [exact, sameBy, exactAtoms]

theorem exactItems_refl : ∀ items : List Json, distinctItems items = true →
    sameItemsBy exactAtoms items items = true
  | [], _ => rfl
  | item :: items, h => by
      rw [distinctItems, Bool.and_eq_true] at h
      rw [sameItemsBy, Bool.and_eq_true]
      exact ⟨exact_refl item h.1, exactItems_refl items h.2⟩

theorem exactMembers_refl : ∀ members : List (String × Json), distinctMembers members = true →
    ∀ member ∈ members, member.2.exact member.2 = true
  | [], _, _, hmem => absurd hmem List.not_mem_nil
  | (name, value) :: members, h, member, hmem => by
      rw [distinctMembers, Bool.and_eq_true] at h
      rcases List.mem_cons.1 hmem with rfl | hmem
      · exact exact_refl value h.1
      · exact exactMembers_refl members h.2 member hmem

end

mutual

/-- What is the same as a value is equal to what the value is equal to. -/
theorem pythonEq_of_exact : ∀ a b c : Json, a.exact b = true → b.pythonEq c = true →
    a.pythonEq c = true
  | .arr items, b, c, hexact, heq => by
      cases b with
      | arr items' =>
          cases c with
          | arr items'' => exact pythonEqItems_of_exact items items' items'' hexact heq
          | _ => simp [pythonEq, sameBy, pythonAtoms, pythonNumber?, number?] at heq
      | _ => simp [exact, sameBy, exactAtoms] at hexact
  | .obj members, b, c, hexact, heq => by
      cases b with
      | obj members' =>
          cases c with
          | obj members'' =>
              rw [exact, sameBy, Bool.and_eq_true, sameMembersBy_iff] at hexact
              rw [pythonEq, sameBy, Bool.and_eq_true, sameMembersBy_iff] at heq ⊢
              have hlength := (of_decide_eq_true hexact.1).trans (of_decide_eq_true heq.1)
              refine ⟨decide_eq_true hlength, fun member hmember => ?_⟩
              obtain ⟨value', hlookup', hexact'⟩ := hexact.2 member hmember
              obtain ⟨value'', hlookup'', heq''⟩ := heq.2 _ (mem_of_lookup hlookup')
              exact ⟨value'', hlookup'',
                pythonEqMembers_of_exact members member hmember value' value'' hexact' heq''⟩
          | _ => simp [pythonEq, sameBy, pythonAtoms, pythonNumber?, number?] at heq
      | _ => simp [exact, sameBy, exactAtoms] at hexact
  | .null, b, c, hexact, heq | .bool _, b, c, hexact, heq | .int _, b, c, hexact, heq
  | .float _ _, b, c, hexact, heq | .str _, b, c, hexact, heq => by
      cases b <;> simp_all [exact, sameBy, exactAtoms]

theorem pythonEqItems_of_exact : ∀ items items' items'' : List Json,
    sameItemsBy exactAtoms items items' = true → sameItemsBy pythonAtoms items' items'' = true →
      sameItemsBy pythonAtoms items items'' = true
  | [], [], _, _, h => h
  | item :: items, item' :: items', item'' :: items'', hexact, heq => by
      rw [sameItemsBy, Bool.and_eq_true] at hexact heq ⊢
      exact ⟨pythonEq_of_exact item item' item'' hexact.1 heq.1,
        pythonEqItems_of_exact items items' items'' hexact.2 heq.2⟩

theorem pythonEqMembers_of_exact : ∀ members : List (String × Json), ∀ member ∈ members, ∀ b c,
    member.2.exact b = true → b.pythonEq c = true → member.2.pythonEq c = true
  | [], _, hmem, _, _, _, _ => absurd hmem List.not_mem_nil
  | (name, value) :: members, member, hmem, b, c, hexact, heq => by
      rcases List.mem_cons.1 hmem with rfl | hmem
      · exact pythonEq_of_exact value b c hexact heq
      · exact pythonEqMembers_of_exact members member hmem b c hexact heq

end

/-! ## Size -/

/-- How many characters `json.dumps` writes for one of a string. -/
def charLength (c : Char) : Nat :=
  if c ∈ ['"', '\\', '\n', '\r', '\t', Char.ofNat 8, Char.ofNat 12] then 2
  else if 32 ≤ c.toNat ∧ c.toNat ≤ 126 then 1
  else if c.toNat < 65536 then 6
  else 12

def textLength (text : String) : Nat := (text.toList.map charLength).sum + 2

mutual

/-- How long the text is that `json.dumps` writes. -/
def dumpsLength : Json → Nat
  | .null => 4
  | .bool value => if value then 4 else 5
  | .int value => (toString value).length
  | .float _ text => text.length
  | .str value => textLength value
  | .arr items => itemsLength items + 2
  | .obj members => membersLength members + 2

/-- The items with the separators between them. -/
def itemsLength : List Json → Nat
  | [] => 0
  | item :: items => dumpsLength item + (if items.isEmpty then 0 else 2) + itemsLength items

def membersLength : List (String × Json) → Nat
  | [] => 0
  | (name, value) :: members =>
    textLength name + 2 + dumpsLength value + (if members.isEmpty then 0 else 2) +
      membersLength members

end

theorem length_le_textLength (text : String) : text.length ≤ textLength text := by
  have hpos : ∀ c, 1 ≤ charLength c := by
    intro c
    unfold charLength
    split
    · omega
    · split
      · omega
      · split <;> omega
  have hsum : ∀ l : List Char, l.length ≤ (l.map charLength).sum := by
    intro l
    induction l with
    | nil => exact Nat.le_refl 0
    | cons c l ih =>
        have hc := hpos c
        rw [List.length_cons, List.map_cons, List.sum_cons]
        omega
  have hlist := hsum text.toList
  rw [String.length_toList] at hlist
  show text.length ≤ (text.toList.map charLength).sum + 2
  omega

end Json

end Cestos.Core
