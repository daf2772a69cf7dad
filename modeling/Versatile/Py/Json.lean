import Versatile.Lib.Decimal
import Versatile.Py.Value

/-!
# `json.loads`

The decoder of Python 2: the text is read from the left, one value and nothing but space
after it. It takes `NaN` and the two infinities as numbers, refuses control characters inside
a string, and keeps the last of several members of one name. A pair of escaped surrogates is
one character. Python keeps a lone one in its text; a `String` holds none, so a text with a lone
surrogate is outside this model, and reading it ends with `loneSurrogate`.

Two things come from outside: `float`, which gives the `repr` of the float nearest to a
numeral and its integer value if it has one, and `limit`, how many levels of arrays and
objects the interpreter has room for.
-/

namespace Py.Json

/-- A reader of the front of a text: what it read, and what is left. -/
abbrev Scanner (α : Type) := List Char → Except Exc (α × List Char)

/-- The space between tokens. -/
def isWhitespace (c : Char) : Bool := c = ' ' || c = '\t' || c = '\n' || c = '\r'

/-- Skip space. -/
def skip (cs : List Char) : List Char := cs.dropWhile isWhitespace

/-! ## Strings -/

/-- The value of a hexadecimal digit. -/
def hexDigit (c : Char) : Except Exc Nat :=
  if c.isDigit then .ok (c.toNat - 48)
  else if 'a' ≤ c ∧ c ≤ 'f' then .ok (c.toNat - 87)
  else if 'A' ≤ c ∧ c ≤ 'F' then .ok (c.toNat - 55)
  else .error (.raised "Invalid \\uXXXX escape")

/-- The code unit of four hexadecimal digits. -/
def hexUnit (a b c d : Char) : Except Exc Nat := do
  return ((← hexDigit a) * 16 + (← hexDigit b)) * 256 + (← hexDigit c) * 16 + (← hexDigit d)

/-- The code unit of a character behind a backslash. -/
def escaped : Char → Except Exc Nat
  | '"' => .ok 34
  | '\\' => .ok 92
  | '/' => .ok 47
  | 'b' => .ok 8
  | 'f' => .ok 12
  | 'n' => .ok 10
  | 'r' => .ok 13
  | 't' => .ok 9
  | _ => .error (.raised "Invalid \\escape")

/-- The code units of a string, up to the quote that ends it. -/
def units : Scanner (List Nat)
  | [] => .error (.raised "Unterminated string")
  | '"' :: cs => .ok ([], cs)
  | '\\' :: 'u' :: a :: b :: c :: d :: cs => do
      let u ← hexUnit a b c d
      let (us, cs) ← units cs
      return (u :: us, cs)
  | '\\' :: c :: cs => do
      let u ← escaped c
      let (us, cs) ← units cs
      return (u :: us, cs)
  | c :: cs => do
      if c.toNat < 32 then throw (.raised "Invalid control character")
      let (us, cs) ← units cs
      return (c.toNat :: us, cs)

/-- The character of one code unit. -/
def ofUnit (u : Nat) : Except Exc Char :=
  if u.isValidChar then .ok (Char.ofNat u) else .error .loneSurrogate

/-- The characters of code units: a high surrogate and a low one make one character. -/
def ofUnits : List Nat → Except Exc (List Char)
  | hi :: lo :: us =>
    if 0xD800 ≤ hi ∧ hi < 0xDC00 ∧ 0xDC00 ≤ lo ∧ lo < 0xE000 then do
      let cs ← ofUnits us
      return Char.ofNat (0x10000 + (hi - 0xD800) * 0x400 + (lo - 0xDC00)) :: cs
    else do
      let c ← ofUnit hi
      let cs ← ofUnits (lo :: us)
      return c :: cs
  | [u] => do
      let c ← ofUnit u
      return [c]
  | [] => .ok []

/-- A string, behind the quote that opens it. -/
def scanstring (cs : List Char) : Except Exc (String × List Char) := do
  let (us, cs) ← units cs
  let chars ← ofUnits us
  return (String.ofList chars, cs)

/-! ## Numbers -/

/-- The digits at the front. -/
def digits (cs : List Char) : List Char × List Char :=
  (cs.takeWhile Char.isDigit, cs.dropWhile Char.isDigit)

/-- The digits of an integer: no zero in front of another digit. -/
def intDigits : List Char → List Char × List Char
  | '0' :: cs => (['0'], cs)
  | cs => digits cs

/-- A fraction, if there is one. -/
def fraction : List Char → List Char × List Char
  | '.' :: cs => match digits cs with
    | ([], _) => ([], '.' :: cs)
    | (ds, cs) => ('.' :: ds, cs)
  | cs => ([], cs)

/-- The sign of an exponent, if there is one. -/
def expSign : List Char → List Char × List Char
  | '-' :: cs => (['-'], cs)
  | '+' :: cs => (['+'], cs)
  | cs => ([], cs)

/-- An exponent, if there is one. -/
def exponent : List Char → List Char × List Char
  | [] => ([], [])
  | c :: cs =>
    if c = 'e' ∨ c = 'E' then
      let (sign, rest) := expSign cs
      match digits rest with
      | ([], _) => ([], c :: cs)
      | (ds, rest) => (c :: sign ++ ds, rest)
    else ([], c :: cs)

/-- A number, behind its sign. -/
def number (float : String → String × Option Int) (sign cs : List Char) :
    Except Exc (Value × List Char) :=
  match intDigits cs with
  | ([], _) => .error (.raised "No JSON object could be decoded")
  | (ds, cs) =>
    let (frac, cs) := fraction cs
    let (exp, cs) := exponent cs
    if frac = [] ∧ exp = [] then
      .ok (.int ((Decimal.readInt (sign ++ ds)).getD 0), cs)
    else
      let (repr, int?) := float (String.ofList (sign ++ ds ++ frac ++ exp))
      .ok (.float repr int?, cs)

/-! ## Values -/

/-- A value that contains no other. -/
def scanLeaf (float : String → String × Option Int) : Scanner Value
  | '"' :: cs => do
      let (s, cs) ← scanstring cs
      return (.str s, cs)
  | 'n' :: 'u' :: 'l' :: 'l' :: cs => .ok (.none, cs)
  | 't' :: 'r' :: 'u' :: 'e' :: cs => .ok (.bool true, cs)
  | 'f' :: 'a' :: 'l' :: 's' :: 'e' :: cs => .ok (.bool false, cs)
  | 'N' :: 'a' :: 'N' :: cs => .ok (.float "nan" Option.none, cs)
  | 'I' :: 'n' :: 'f' :: 'i' :: 'n' :: 'i' :: 't' :: 'y' :: cs => .ok (.float "inf" Option.none, cs)
  | '-' :: 'I' :: 'n' :: 'f' :: 'i' :: 'n' :: 'i' :: 't' :: 'y' :: cs =>
      .ok (.float "-inf" Option.none, cs)
  | '-' :: cs => number float ['-'] cs
  | cs => number float [] cs

/-- The items of an array, behind the bracket or a comma. A text has fewer items than
characters, so the rounds of the loop do not run out. -/
def arrayItems (scan : Scanner Value) : Nat → Scanner (List Value)
  | 0, _ => .error (.raised "No JSON object could be decoded")
  | rounds + 1, cs => do
      let (v, cs) ← scan (skip cs)
      match skip cs with
      | ']' :: cs => return ([v], cs)
      | ',' :: cs => do
          let (vs, cs) ← arrayItems scan rounds cs
          return (v :: vs, cs)
      | _ => throw (.raised "Expecting , delimiter")

/-- An array, behind its bracket. -/
def array (scan : Scanner Value) (cs : List Char) : Except Exc (Value × List Char) :=
  match skip cs with
  | ']' :: cs => .ok (.list [], cs)
  | cs => do
      let (vs, cs) ← arrayItems scan (cs.length + 1) cs
      return (.list vs, cs)

/-- The members of an object, behind the brace or a comma. -/
def members (scan : Scanner Value) : Nat → Dict String Value → Scanner (Dict String Value)
  | 0, _, _ => .error (.raised "No JSON object could be decoded")
  | rounds + 1, d, cs =>
    match skip cs with
    | '"' :: cs => do
        let (k, cs) ← scanstring cs
        match skip cs with
        | ':' :: cs => do
            let (v, cs) ← scan (skip cs)
            match skip cs with
            | '\x7d' :: cs => return (d.set k v, cs)
            | ',' :: cs => members scan rounds (d.set k v) cs
            | _ => throw (.raised "Expecting , delimiter")
        | _ => throw (.raised "Expecting : delimiter")
    | _ => .error (.raised "Expecting property name")

/-- An object, behind its brace. -/
def object (scan : Scanner Value) (cs : List Char) : Except Exc (Value × List Char) :=
  match skip cs with
  | '\x7d' :: cs => .ok (.dict [], cs)
  | cs => do
      let (d, cs) ← members scan (cs.length + 1) [] cs
      return (.dict d, cs)

/-- `scan_once`: the value at the front of a text. -/
def scan_once (float : String → String × Option Int) : Nat → Scanner Value
  | 0, '[' :: _ => .error .recursionError
  | 0, '\x7b' :: _ => .error .recursionError
  | limit + 1, '[' :: cs => array (scan_once float limit) cs
  | limit + 1, '\x7b' :: cs => object (scan_once float limit) cs
  | _, cs => scanLeaf float cs

/-- `json.loads`. -/
def loads (float : String → String × Option Int) (limit : Nat) (s : String) :
    Except Exc Value := do
  let (v, cs) ← scan_once float limit (skip s.toList)
  match skip cs with
  | [] => return v
  | _ => throw (.raised "Extra data")

/-- An empty text holds no value. -/
theorem loads_empty (float : String → String × Option Int) (limit : Nat) :
    loads float limit "" = .error (.raised "No JSON object could be decoded") := by
  cases limit <;> rfl

/-- Members, items, an escape and a number with space between them. -/
example (float : String → String × Option Int) :
    loads float 2 " \x7b\"a\": [1, -20], \"b\": \"\\u0041\" \x7d" =
      .ok (.dict [("a", .list [.int 1, .int (-20)]), ("b", .str "A")]) := by rfl

end Py.Json
