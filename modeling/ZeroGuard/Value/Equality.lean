import ZeroGuard.Number.Exact
import ZeroGuard.Value.Basic

namespace ZeroGuard

/-- The shape of a nested list: how many items there are at each depth, as far as all lists of that
depth agree, and whether they disagree below. A value that is no list has no extents. -/
structure Shape where
  extents : List Nat
  isRagged : Bool
deriving DecidableEq, Repr

namespace Shape

/-- The extents on which two lists of extents agree from the top. -/
def common : List Nat → List Nat → List Nat
  | m :: ms, n :: ns => if m = n then m :: common ms ns else []
  | _, _ => []

/-- The shape that two items of a list have in common. -/
def meet (a b : Shape) : Shape :=
  ⟨common a.extents b.extents, a.isRagged || b.isRagged || a.extents != b.extents⟩

/-- The shape of a list of items with given shapes. -/
def ofItems : List Shape → Shape
  | [] => ⟨[0], false⟩
  | first :: rest =>
    let shape := rest.foldl meet first
    ⟨(rest.length + 1) :: shape.extents, shape.isRagged⟩

end Shape

namespace Number

/-- A single as the double of the same value. -/
def widen : Number → Number
  | float32 x => float64 x.convert
  | number => number

/-- Equality of a number of a fixed width with an item of a list. The item keeps its own precision,
and an integer is compared exactly if it does not fit 64 bits. -/
def equalItem (number item : Number) : Except Fault Bool :=
  match item with
  | int n =>
    if -wordBound ≤ n ∧ n < 2 * wordBound then number.widen.equal item
    else number.plain.equal item
  | _ => number.widen.equal item

end Number

namespace Value

mutual

def shape : Value → Shape
  | list items => .ofItems (shapes items)
  | _ => ⟨[], false⟩

def shapes : List Value → List Shape
  | [] => []
  | value :: rest => shape value :: shapes rest

end

mutual

/-- The values inside nested lists, from left to right. -/
def leaves : Value → List Value
  | list items => allLeaves items
  | value => [value]

def allLeaves : List Value → List Value
  | [] => []
  | value :: rest => leaves value ++ allLeaves rest

end

/-- Equality of a number of a fixed width with a value from a list. -/
def equalLeaf (a : Number) : Value → Except Fault Bool
  | number _ item => a.equalItem item
  | _ => .ok false

/-- Equality of a number with a list, which has one outcome only if there is one item. -/
def equalList (a : Number) (items : Value) : Except Fault Bool :=
  if !a.hasFixedWidth then .ok false
  else if items.shape.isRagged then .error (.ragged items.shape.extents)
  else do
    match ← items.leaves.mapM (equalLeaf a) with
    | [outcome] => .ok outcome
    | [] => .error .emptyTruth
    | _ => .error .manyTruths

mutual

/-- Equality of values. Variants and lists are equal to their like with equal contents. Inside a
container a number with the same mark is equal to itself whatever it is. -/
def equalAs (inside : Bool) : Value → Value → Except Fault Bool
  | none, none => .ok true
  | text s, text t => .ok (s = t)
  | number m a, number n b => if inside ∧ m = n ∧ a = b then .ok true else a.equal b
  | number _ a, list ys => equalList a (list ys)
  | list xs, number _ b => equalList b (list xs)
  | list xs, list ys => if xs.length = ys.length then equalAll xs ys else .ok false
  | some a, some b => equalAs true a b
  | nothing, nothing => .ok true
  | ok a, ok b => equalAs true a b
  | err a, err b => equalAs true a b
  | _, _ => .ok false

/-- Compares item by item and stops at the first difference. -/
def equalAll : List Value → List Value → Except Fault Bool
  | a :: as, b :: bs => do
    if ← equalAs true a b then equalAll as bs else .ok false
  | _, _ => .ok true

end

def equal (a b : Value) : Except Fault Bool :=
  equalAs false a b

/-- Whether a value compares equal to the integer 0. -/
def isZero (value : Value) : Except Fault Bool :=
  value.equal (number 0 (.int 0))

end Value

end ZeroGuard
