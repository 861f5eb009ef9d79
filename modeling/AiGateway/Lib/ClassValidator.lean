import AiGateway.Lib.JsValue

/- Validation by declared rules, in the manner of class-validator: each property of a class has
   validators, and conditions that are asked first. The conditions of a property guard all of
   its validators, whatever stands next to them in the declaration; when one does not hold, none
   of the validators runs and the property passes with any value. A nested value is checked
   against the rules of its class, an array item by item. -/
namespace ClassValidator

open Json (Value)

/-- The rules of one property. A condition may read the whole object. -/
structure Property where
  name : String
  conditions : List (Value → Option Value → Bool)
  validators : List (Option Value → Bool)

abbrev Rules := List Property

/-- `conditionalValidation`. -/
def Property.validated (p : Property) (object : Value) : Bool :=
  p.conditions.all fun holds => holds object (object.get? p.name)

def Property.accepts (p : Property) (object : Value) : Bool :=
  !p.validated object || p.validators.all fun valid => valid (object.get? p.name)

/-- Members that are not copied from the plain object to the instance. -/
def isCopied (key : String) : Bool := key ≠ "__proto__" && key ≠ "constructor"

/-- `forbidNonWhitelisted`: every property of the instance has rules. -/
def whitelisted (rules : Rules) (members : List (String × Value)) : Bool :=
  members.all fun member => !isCopied member.1 || rules.any fun p => p.name = member.1

def acceptsObject (rules : Rules) (members : List (String × Value)) : Bool :=
  whitelisted rules members && rules.all fun p => p.accepts (.obj members)

mutual
/-- `nestedValidations` of a value or of an item of an array: what is neither an object nor an
array fails, also `null`. -/
def acceptsNested (rules : Rules) : Value → Bool
  | .arr items => acceptsItems rules items
  | .obj members => acceptsObject rules members
  | .null | .bool _ | .num _ | .str _ => false
def acceptsItems (rules : Rules) : List Value → Bool
  | [] => true
  | item :: items => acceptsNested rules item && acceptsItems rules items
end

/-! ## Decorators -/

def isString : Option Value → Bool
  | some (.str _) => true
  | _ => false

def isNotEmpty : Option Value → Bool
  | none | some .null => false
  | some (.str s) => s ≠ ""
  | some _ => true

def isIn (texts : List String) : Option Value → Bool
  | some (.str s) => texts.contains s
  | _ => false

def isArray : Option Value → Bool
  | some (.arr _) => true
  | _ => false

def arrayMinSize (min : ℕ) : Option Value → Bool
  | some (.arr items) => min ≤ items.length
  | _ => false

def arrayMaxSize (max : ℕ) : Option Value → Bool
  | some (.arr items) => items.length ≤ max
  | _ => false

/-- `isLength max s` is the library's own count of the characters of `s`. -/
def maxLength (isLength : ℕ → String → Bool) (max : ℕ) : Option Value → Bool
  | some (.str s) => isLength max s
  | _ => false

/-- A property that is absent or `null` is not gone into. -/
def validateNested (rules : Rules) : Option Value → Bool
  | none | some .null => true
  | some v => acceptsNested rules v

def validateIf (condition : Value → Bool) : Value → Option Value → Bool := fun object _ => condition object

def isOptional : Value → Option Value → Bool := fun _ v =>
  match v with
  | none | some .null => false
  | some _ => true

/-! ## Rules -/

theorem acceptsItems_iff {rules : Rules} {items : List Value} :
    acceptsItems rules items = true ↔ ∀ item ∈ items, acceptsNested rules item = true := by
  induction items with
  | nil => simp [acceptsItems]
  | cons item items ih => simp [acceptsItems, ih]

/-- A property without a condition has passed all of its validators. -/
theorem valid_of_unconditional {p : Property} {object : Value} (haccepts : p.accepts object = true)
    (hconditions : p.conditions = []) : ∀ valid ∈ p.validators, valid (object.get? p.name) = true := by
  have hvalidated : p.validated object = true := by simp [Property.validated, hconditions]
  simp only [Property.accepts, hvalidated, Bool.not_true, Bool.false_or] at haccepts
  exact List.all_eq_true.mp haccepts

/-- A condition that fails lets any value pass. -/
theorem accepts_of_failed {p : Property} {object : Value} {holds : Value → Option Value → Bool}
    (hmem : holds ∈ p.conditions) (hfails : holds object (object.get? p.name) = false) : p.accepts object = true := by
  have hvalidated : p.validated object = false := by
    rw [Property.validated, List.all_eq_false]
    exact ⟨holds, hmem, by simp [hfails]⟩
  simp [Property.accepts, hvalidated]

/-- Conditions that exclude each other leave a property without any validation. -/
theorem accepts_of_exclusive {p : Property} {first second : Value → Bool} (object : Value)
    (hfirst : validateIf first ∈ p.conditions) (hsecond : validateIf second ∈ p.conditions)
    (hexclusive : first object = true → second object = false) : p.accepts object = true := by
  cases h : first object with
  | false => exact accepts_of_failed hfirst h
  | true => exact accepts_of_failed hsecond (hexclusive h)

theorem property_of_accepted {rules : Rules} {members : List (String × Value)} {p : Property}
    (haccepts : acceptsObject rules members = true) (hp : p ∈ rules) : p.accepts (.obj members) = true := by
  simp only [acceptsObject, Bool.and_eq_true] at haccepts
  exact List.all_eq_true.mp haccepts.2 p hp

end ClassValidator
