import Versatile.Lib.Decimal
import Versatile.Py.Value

/-!
# Numbers and lengths

`int(v)`, `len(v)`, and the items of `v` by index, as the resolvers of 2016 use them under
Python 2. A text is a number there when it is one after its surrounding space is taken off
and the decimal digits of other scripts are read as the ASCII ones.
-/

namespace Py

/-- The zeros of the decimal digits beyond ASCII; the other nine follow each of them. -/
def otherZeros : List Nat :=
  [0x660, 0x6F0, 0x7C0, 0x966, 0x9E6, 0xA66, 0xAE6, 0xB66, 0xBE6, 0xC66, 0xCE6, 0xD66, 0xE50,
    0xED0, 0xF20, 0x1040, 0x1090, 0x17E0, 0x1810, 0x1946, 0x19D0, 0x1A80, 0x1A90, 0x1B50, 0x1BB0,
    0x1C40, 0x1C50, 0xA620, 0xA8D0, 0xA900, 0xA9D0, 0xAA50, 0xABF0, 0xFF10]

/-- A decimal digit of any script as an ASCII digit; other characters stay. -/
def asciiDigit (c : Char) : Char :=
  match otherZeros.find? fun z => z ≤ c.toNat && c.toNat < z + 10 with
  | some z => Nat.digitChar (c.toNat - z)
  | none => c

/-- `c.isspace()`. -/
def isSpace (c : Char) : Bool :=
  c.toNat ∈ [9, 10, 11, 12, 13, 28, 29, 30, 31, 32, 0x85, 0xA0, 0x1680, 0x180E, 0x2028, 0x2029,
    0x202F, 0x205F, 0x3000] || (0x2000 ≤ c.toNat && c.toNat ≤ 0x200A)

/-- `s.strip()`. -/
def strip (cs : List Char) : List Char :=
  ((cs.dropWhile isSpace).reverse.dropWhile isSpace).reverse

/-- The space behind a sign, which Python 2 takes off too. -/
def stripSign : List Char → List Char
  | '-' :: cs => '-' :: cs.dropWhile isSpace
  | '+' :: cs => '+' :: cs.dropWhile isSpace
  | cs => cs

/-- `int(s)` of a text. -/
def intOfText (cs : List Char) : Except Exc Int :=
  match Decimal.readInt (stripSign ((strip cs).map asciiDigit)) with
  | some n => .ok n
  | none => .error (.raised "invalid literal for int() with base 10")

/-- `int(x)` of a float that is no integer, from its `repr`: the digits before the point,
and zero for one so small that it is written with an exponent. -/
def intOfFraction (repr : String) : Except Exc Int :=
  if repr = "nan" then .error (.raised "cannot convert float NaN to integer")
  else if repr = "inf" ∨ repr = "-inf" then
    .error (.raised "cannot convert float infinity to integer")
  else if 'e' ∈ repr.toList then .ok 0
  else .ok ((Decimal.readInt (repr.toList.takeWhile (· ≠ '.'))).getD 0)

namespace Value

/-- `int(v)`. -/
def toInt : Value → Except Exc Int
  | .bool b => .ok (if b then 1 else 0)
  | .int n => .ok n
  | .float _ (some n) => .ok n
  | .float repr Option.none => intOfFraction repr
  | .str s => intOfText s.toList
  | _ => .error .typeError

/-- `len(v)`. -/
def len : Value → Except Exc Nat
  | .list xs => .ok xs.length
  | .str s => .ok s.toList.length
  | .dict kvs => .ok kvs.length
  | _ => .error .typeError

/-- The texts `v[0]`, `v[1]` and so on up to `v[len(v) - 1]`, where the code concatenates each
to a string. An object has no such keys. -/
def items : Value → Except Exc (List String)
  | .list xs => xs.mapM asStr
  | .str s => .ok (s.toList.map String.singleton)
  | .dict [] => .ok []
  | .dict _ => .error .keyError
  | _ => .error .typeError

/-- There are as many items as the length says. -/
theorem len_of_items {v : Value} {xs : List String} (h : v.items = .ok xs) :
    v.len = .ok xs.length := by
  cases v with
  | list vs => rw [len, Except.length_mapM h]
  | str s =>
    obtain rfl : s.toList.map String.singleton = xs := Except.ok.inj h
    rw [len, List.length_map]
  | dict kvs =>
    cases kvs with
    | nil =>
      obtain rfl : [] = xs := Except.ok.inj h
      rfl
    | cons e kvs => exact absurd h (by simp [items])
  | _ => exact absurd h (by simp [items])

/-- The text of a number is that number. -/
example : (str "- 12 ").toInt = .ok (-12) := by rfl

end Value

end Py
