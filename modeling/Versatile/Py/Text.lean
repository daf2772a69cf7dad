import Versatile.Py.Value

/-!
# The texts Python makes of values

`str.format` pastes `str(v)`, and `str` of a list or a dictionary is made of the `repr` of
its parts. `unicode_escape` is the codec the managers apply to the strings of a list
before they paste it.
-/

namespace Py

/-- The apostrophe, which opens and closes a literal in Python and in SQL. -/
def apostrophe : Char := Char.ofNat 39

/-- `n` in hexadecimal, padded with zeros to a width. -/
def hex (width n : Nat) : List Char :=
  let ds := Nat.toDigits 16 n
  List.replicate (width - ds.length) '0' ++ ds

/-- One character under `unicode_escape`. -/
def escapeChar (c : Char) : List Char :=
  if c = '\\' then ['\\', '\\']
  else if c = '\t' then ['\\', 't']
  else if c = '\n' then ['\\', 'n']
  else if c = '\r' then ['\\', 'r']
  else if 32 ≤ c.toNat ∧ c.toNat < 127 then [c]
  else if c.toNat < 256 then '\\' :: 'x' :: hex 2 c.toNat
  else if c.toNat < 65536 then '\\' :: 'u' :: hex 4 c.toNat
  else '\\' :: 'U' :: hex 8 c.toNat

/-- `s.encode('unicode_escape')`, read as ASCII text. -/
def unicodeEscape (s : String) : String := String.ofList (s.toList.flatMap escapeChar)

/-- The quotes `repr` puts around a string: double ones only for a text that has an
apostrophe and no double quote. -/
def reprQuote (s : String) : Char :=
  if apostrophe ∈ s.toList ∧ '"' ∉ s.toList then '"' else apostrophe

/-- One character under `repr`, inside the quotes `q`. Characters beyond ASCII are taken as
printable. -/
def reprChar (q c : Char) : List Char :=
  if c = '\\' ∨ c = q then ['\\', c]
  else if c = '\t' then ['\\', 't']
  else if c = '\n' then ['\\', 'n']
  else if c = '\r' then ['\\', 'r']
  else if c.toNat < 32 ∨ c.toNat = 127 then '\\' :: 'x' :: hex 2 c.toNat
  else [c]

/-- `repr(s)` of a string. -/
def reprStr (s : String) : String :=
  let q := reprQuote s
  String.ofList (q :: s.toList.flatMap (reprChar q) ++ [q])

/-- `s.replace("'", "\\'")`. -/
def escapeQuotes (s : String) : String :=
  String.ofList (s.toList.flatMap fun c => if c = apostrophe then ['\\', c] else [c])

namespace Value

mutual

/-- `repr(v)`. -/
def repr : Value → String
  | .none => "None"
  | .bool b => if b then "True" else "False"
  | .int n => toString n
  | .float r _ => r
  | .str s => reprStr s
  | .list xs => "[" ++ ", ".intercalate (reprs xs) ++ "]"
  | .dict kvs => "\x7b" ++ ", ".intercalate (reprEntries kvs) ++ "\x7d"

/-- `repr` of each element of a list. -/
def reprs : List Value → List String
  | [] => []
  | x :: xs => repr x :: reprs xs

/-- `repr` of each entry of a dictionary. -/
def reprEntries : List (String × Value) → List String
  | [] => []
  | (k, v) :: kvs => (reprStr k ++ ": " ++ repr v) :: reprEntries kvs

end

/-- `str(v)`, what `format` pastes. -/
def text : Value → String
  | .str s => s
  | v => v.repr

/-- `v.encode('unicode_escape')`, under `repr`. -/
def encoded : Value → Except Exc String
  | .str s => .ok ("b" ++ reprStr (unicodeEscape s))
  | _ => .error .attributeError

end Value

end Py
