import HhctrlMgmt.Common.Exception

namespace HhctrlMgmt.Common

-- boost::json::value; a double is given by its binary64 format.
inductive Json where
  | null
  | boolean (value : Bool)
  | int64 (value : Int)
  | uint64 (value : Nat)
  | double (bits : UInt64)
  | string (value : Bytes)
  | array (values : List Json)
  | object (members : List (Bytes × Json))

-- boost::json::object: distinct keys, in the order of their insertion
abbrev Object := List (Bytes × Json)

namespace Object

def contains (object : Object) (key : Bytes) : Bool :=
  object.any fun member => member.1 = key

-- object[key] = value
def assign (object : Object) (key : Bytes) (value : Json) : Object :=
  if object.contains key then
    object.map fun member => if member.1 = key then (key, value) else member
  else
    object ++ [(key, value)]

-- object.at(key), where the key is present
def lookup (object : Object) (key : Bytes) : Option Json :=
  (object.find? fun member => member.1 = key).map Prod.snd

theorem lookup_cons (member : Bytes × Json) (object : Object) (key : Bytes) :
    lookup (member :: object) key = if member.1 = key then some member.2 else lookup object key := by
  unfold lookup
  rw [List.find?_cons]
  by_cases hkey : member.1 = key <;> simp [hkey]

theorem contains_iff (object : Object) (key : Bytes) : object.contains key = true ↔ object.lookup key ≠ none := by
  simp [contains, lookup]

theorem lookup_append (object : Object) (key other : Bytes) (value : Json) :
    lookup (object ++ [(key, value)]) other = (object.lookup other).or (if key = other then some value else none) := by
  induction object with
  | nil => exact lookup_cons _ _ _
  | cons member object ih =>
      rw [List.cons_append, lookup_cons, lookup_cons, ih]
      by_cases hmember : member.1 = other <;> simp [hmember]

theorem lookup_replace (object : Object) (key other : Bytes) (value : Json) :
    lookup (object.map fun member => if member.1 = key then (key, value) else member) other =
      if other = key then (object.lookup key).map fun _ => value else object.lookup other := by
  induction object with
  | nil => simp [lookup]
  | cons member object ih =>
      rw [List.map_cons, lookup_cons, lookup_cons, lookup_cons, ih]
      have hswap : (key = other) = (other = key) := propext eq_comm
      by_cases hmember : member.1 = key
      · by_cases hother : other = key <;> simp [hmember, hswap, hother]
      · by_cases hother : other = key <;> simp [hmember, hother]

@[simp] theorem lookup_assign_self (object : Object) (key : Bytes) (value : Json) :
    (object.assign key value).lookup key = some value := by
  unfold assign
  by_cases hcontains : object.contains key = true
  · obtain ⟨previous, hprevious⟩ := Option.ne_none_iff_exists'.mp ((contains_iff object key).mp hcontains)
    rw [if_pos hcontains, lookup_replace, if_pos rfl, hprevious]
    rfl
  · have habsent : object.lookup key = none := not_not.mp ((contains_iff object key).not.mp hcontains)
    rw [if_neg hcontains, lookup_append, habsent]
    simp

theorem lookup_assign_ne (object : Object) (key other : Bytes) (value : Json) (hother : other ≠ key) :
    (object.assign key value).lookup other = object.lookup other := by
  unfold assign
  by_cases hcontains : object.contains key = true
  · rw [if_pos hcontains, lookup_replace, if_neg hother]
  · rw [if_neg hcontains, lookup_append, if_neg (Ne.symm hother), Option.or_none]

end Object

def Json.isNull : Json → Bool
  | null => true
  | _ => false

-- The integer that a double is equal to. The unit of its last digit is
-- 2 ^ (exponent - 1075); subnormal numbers have the smallest exponent, and the largest
-- one stands for infinities and NaNs.
def exactInt (bits : UInt64) : Option Int :=
  let field := ((bits >>> 52) &&& 0x7ff).toNat
  let fraction := (bits &&& 0xfffffffffffff).toNat
  let exponent := max field 1
  let digits := if field = 0 then fraction else fraction + 1 <<< 52
  let magnitude : Option Nat :=
    if field = 0x7ff then none
    else if 1075 ≤ exponent then some (digits <<< (exponent - 1075))
    else if digits % (1 <<< (1075 - exponent)) = 0 then some (digits >>> (1075 - exponent))
    else none
  magnitude.map fun value => if bits >>> 63 = 0 then (value : Int) else -value

-- to_number<std::int64_t>; `none` is an error, of the kind or of the value.
def Json.toNumber : Json → Option Int
  | int64 value => some value
  | uint64 value => if value ≤ 9223372036854775807 then some value else none
  | double bits => (exactInt bits).filter fun value => -9223372036854775808 ≤ value ∧ value ≤ 9223372036854775807
  | _ => none

@[simp] theorem Json.toNumber_int64 (value : Int) : (int64 value).toNumber = some value := rfl

end HhctrlMgmt.Common
