import Versatile.Lib.Dict
import Versatile.Lib.Except

/-!
# Python values

The values a JSON payload decodes to, and the operations the handlers perform on them,
each with the exception it raises on a value of the wrong type. A float is kept by what
Python shows of it: its `repr`, and its integer value when it has one.
-/

namespace Py

/-- The exceptions the handlers can meet. All of them are caught by `except Exception`. -/
inductive Exc where
  | attributeError
  | typeError
  | keyError
  | indexError
  | recursionError
  /-- An error reported by the database server, by its error number. -/
  | sqlError (code : Nat)
  /-- `raise Exception (msg)`. -/
  | raised (msg : String)
  /-- No exception of Python: a text with a lone surrogate, for which there is no `String`. -/
  | loneSurrogate
  deriving DecidableEq, Repr

/-- A decoded JSON value. -/
inductive Value where
  | none
  | bool (b : Bool)
  | int (n : Int)
  | float (repr : String) (int? : Option Int)
  | str (s : String)
  | list (xs : List Value)
  | dict (kvs : List (String × Value))
  deriving Repr

/-- A dictionary key: values that compare equal, as `1`, `1.0` and `True` do, are one key. -/
inductive Key where
  | none
  | num (n : Int)
  | float (repr : String)
  | str (s : String)
  deriving DecidableEq, Repr

namespace Value

/-- `v.get(k)`. -/
def get : Value → String → Except Exc Value
  | .dict kvs, k => .ok ((Dict.get kvs k).getD .none)
  | _, _ => .error .attributeError

/-- The values `for x in v` runs over. -/
def iter : Value → Except Exc (List Value)
  | .list xs => .ok xs
  | .str s => .ok (s.toList.map fun c => .str (String.singleton c))
  | .dict kvs => .ok (kvs.map fun e => .str e.1)
  | _ => .error .typeError

/-- `v[-1]`. -/
def last : Value → Except Exc Value
  | .list xs => match xs.getLast? with
    | some x => .ok x
    | Option.none => .error .indexError
  | .str s => match s.toList.getLast? with
    | some c => .ok (.str (String.singleton c))
    | Option.none => .error .indexError
  | .dict _ => .error .keyError
  | _ => .error .typeError

/-- The text of `v`, where the code concatenates it to a string. -/
def asStr : Value → Except Exc String
  | .str s => .ok s
  | _ => .error .typeError

/-- `hash(v)`: the key under which a dictionary holds `v`. -/
def key : Value → Except Exc Key
  | .none => .ok .none
  | .bool b => .ok (.num (if b then 1 else 0))
  | .int n => .ok (.num n)
  | .float _ (some n) => .ok (.num n)
  | .float r Option.none => .ok (.float r)
  | .str s => .ok (.str s)
  | _ => .error .typeError

/-- `bool(v)`. -/
def truthy : Value → Bool
  | .none => false
  | .bool b => b
  | .int n => n != 0
  | .float _ n => n != some 0
  | .str s => s != ""
  | .list xs => !xs.isEmpty
  | .dict kvs => !kvs.isEmpty

/-- `v is None`. -/
def isNone : Value → Bool
  | .none => true
  | _ => false

/-- `v == t` for a string `t`. -/
def isStr : Value → String → Bool
  | .str s, t => s == t
  | _, _ => false

/-- `v is 0`: small integers are shared objects, `False` and `0.0` are others. -/
def isZero : Value → Bool
  | .int 0 => true
  | _ => false

/-- `v` is a dictionary, a JSON object. -/
def IsDict (v : Value) : Prop := ∃ kvs, v = .dict kvs

@[simp] theorem get_dict (kvs : List (String × Value)) (k : String) :
    (dict kvs).get k = .ok ((Dict.get kvs k).getD .none) := rfl

@[simp] theorem asStr_str (s : String) : (str s).asStr = .ok s := rfl

/-- `v.get(k)` raises exactly on what is not a dictionary. -/
theorem get_isOk_iff (v : Value) (k : String) : (∃ w, v.get k = .ok w) ↔ v.IsDict := by
  refine ⟨?_, ?_⟩
  · intro h
    obtain ⟨w, h⟩ := h
    cases v with
    | dict kvs => exact ⟨kvs, rfl⟩
    | _ => simp [get] at h
  · intro hsome
    obtain ⟨kvs, rfl⟩ := hsome
    exact ⟨_, rfl⟩

theorem asStr_eq_ok {v : Value} {s : String} : v.asStr = .ok s ↔ v = .str s := by
  cases v <;> simp [asStr]

/-- Only a string has the key of a string. -/
theorem key_eq_str {v : Value} {s : String} : v.key = .ok (.str s) ↔ v = .str s := by
  cases v with
  | float r n => cases n <;> simp [key]
  | _ => simp [key]

theorem isStr_eq_true {v : Value} {s : String} : v.isStr s = true ↔ v = .str s := by
  cases v <;> simp [isStr]

end Value

end Py
