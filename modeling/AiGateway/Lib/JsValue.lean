import AiGateway.Lib.Json

/- Reading unchecked JSON the way JavaScript does: truthiness, optional chaining, `===` with
   a string, `length` and `for ... of`. A property that may be undefined is an `Option`. -/
namespace Json

/-- `Boolean(v)`. -/
def Value.truthy : Value → Bool
  | .null => false
  | .bool b => b
  | .num n => n.value ≠ 0
  | .str s => s ≠ ""
  | .arr _ | .obj _ => true

/-- `Boolean(v)` where `v` may be undefined. -/
def truthy? (v : Option Value) : Bool := v.any Value.truthy

/-- `v && typeof v === 'object'`. -/
def Value.isObject : Value → Bool
  | .arr _ | .obj _ => true
  | _ => false

/-- `v?.key`. -/
def prop (v : Option Value) (key : String) : Option Value := v.bind fun x => x.get? key

/-- `v === s`. -/
def isText (v : Option Value) (s : String) : Bool :=
  match v with
  | some (.str t) => t = s
  | _ => false

/-- `v ?? fallback`. -/
def orElse (v : Option Value) (fallback : Value) : Value :=
  match v with
  | none | some .null => fallback
  | some x => x

/-- `v?.length` is truthy. -/
def Value.hasLength : Value → Bool
  | .str s => s ≠ ""
  | .arr items => !items.isEmpty
  | .obj members => truthy? ((Value.obj members).get? "length")
  | _ => false

/-- The items that `for (const item of v)` goes through; `none` is its `TypeError`. -/
def iterate : Value → Option (List Value)
  | .arr items => some items
  | .str s => some (s.toList.map fun c => .str (String.singleton c))
  | _ => none

end Json
