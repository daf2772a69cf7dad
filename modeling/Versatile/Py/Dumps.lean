import Mathlib.Data.List.Nodup
import Versatile.Py.Hex
import Versatile.Py.Json

/-!
# `json.dumps`

The encoder of the managers writes ASCII: every other character of a string goes out as an
escaped code unit, one beyond the basic plane as the two of its surrogate pair. Numbers are
written as Python writes them, members in the order of the dictionary, with a space behind each
comma and colon.

What stands in front of a delimiter is read back by the scanners of `json.loads`: strings by
their code units, numbers to the end of their numeral.
-/

namespace Py.Json

/-! ## The encoder -/

/-- A code unit as an escape. -/
def escapeUnit (u : Nat) : List Char := '\\' :: 'u' :: hex 4 u

/-- The code units of a character. -/
def charUnits (c : Char) : List Nat :=
  if c.toNat < 0x10000 then [c.toNat]
  else [0xD800 + (c.toNat - 0x10000) / 0x400, 0xDC00 + (c.toNat - 0x10000) % 0x400]

/-- One character inside a string. -/
def jsonChar (c : Char) : List Char :=
  if c = '"' then ['\\', '"']
  else if c = '\\' then ['\\', '\\']
  else if c = '\n' then ['\\', 'n']
  else if c = '\r' then ['\\', 'r']
  else if c = '\t' then ['\\', 't']
  else if c.toNat = 12 then ['\\', 'f']
  else if c.toNat = 8 then ['\\', 'b']
  else if 32 ≤ c.toNat ∧ c.toNat < 127 then [c]
  else (charUnits c).flatMap escapeUnit

/-- A string, with its quotes. -/
def encodeString (s : String) : List Char := '"' :: s.toList.flatMap jsonChar ++ ['"']

/-- A float: its `repr`, unless it is not a number or infinite. -/
def encodeFloat (r : String) : List Char :=
  if r = "nan" then "NaN".toList
  else if r = "inf" then "Infinity".toList
  else if r = "-inf" then "-Infinity".toList
  else r.toList

mutual

/-- The characters of a value. -/
def encode : Value → List Char
  | .none => "null".toList
  | .bool b => if b then "true".toList else "false".toList
  | .int n => (toString n).toList
  | .float r _ => encodeFloat r
  | .str s => encodeString s
  | .list xs => '[' :: encodeItems xs ++ [']']
  | .dict kvs => '\x7b' :: encodeMembers kvs ++ ['\x7d']

/-- The items of a list. -/
def encodeItems : List Value → List Char
  | [] => []
  | x :: xs => encode x ++ encodeMoreItems xs

/-- The items behind the first. -/
def encodeMoreItems : List Value → List Char
  | [] => []
  | x :: xs => ',' :: ' ' :: (encode x ++ encodeMoreItems xs)

/-- The members of a dictionary. -/
def encodeMembers : List (String × Value) → List Char
  | [] => []
  | (k, v) :: kvs => encodeString k ++ ':' :: ' ' :: (encode v ++ encodeMoreMembers kvs)

/-- The members behind the first. -/
def encodeMoreMembers : List (String × Value) → List Char
  | [] => []
  | (k, v) :: kvs =>
    ',' :: ' ' :: (encodeString k ++ ':' :: ' ' :: (encode v ++ encodeMoreMembers kvs))

end

/-- `json.dumps`. -/
def dumps (v : Value) : String := String.ofList (encode v)

example : dumps (.dict [("error:", .int 0), ("relay", .list [.str "a\"b", .none])]) =
    "\x7b\"error:\": 0, \"relay\": [\"a\\\"b\", null]\x7d" := by rfl

/-! ## Strings -/

theorem hexDigit_digitChar {n : Nat} (h : n < 16) : hexDigit n.digitChar = .ok n := by
  have hall : ∀ i : Fin 16, hexDigit (i : Nat).digitChar = .ok (i : Nat) := by
    decide
  exact hall ⟨n, h⟩

/-- The four digits of a code unit are read back. -/
theorem hexUnit_hex {u : Nat} (h : u < 0x10000) :
    hexUnit (u / 4096).digitChar (u / 256 % 16).digitChar (u / 16 % 16).digitChar
      (u % 16).digitChar = .ok u := by
  have hsum : (u / 4096 * 16 + u / 256 % 16) * 256 + u / 16 % 16 * 16 + u % 16 = u := by omega
  rw [hexUnit, hexDigit_digitChar (by omega), hexDigit_digitChar (by omega),
    hexDigit_digitChar (by omega), hexDigit_digitChar (by omega)]
  exact congrArg Except.ok hsum

/-- An escaped code unit is read as that unit. -/
theorem units_escapeUnit {u : Nat} (h : u < 0x10000) {cs : List Char} {us : List Nat}
    {rest : List Char} (hcs : units cs = .ok (us, rest)) :
    units (escapeUnit u ++ cs) = .ok (u :: us, rest) := by
  rw [escapeUnit, hex_four h]
  show units ('\\' :: 'u' :: _ :: _ :: _ :: _ :: cs) = _
  rw [units, hexUnit_hex h]
  show (units cs >>= fun r => pure (u :: r.1, r.2)) = _
  rw [hcs]
  rfl

/-- A character is no surrogate. -/
theorem char_valid (c : Char) :
    c.toNat < 0xD800 ∨ (0xDFFF < c.toNat ∧ c.toNat < 0x110000) := c.valid

theorem charUnits_lt {c : Char} {u : Nat} (h : u ∈ charUnits c) : u < 0x10000 := by
  have hvalid := char_valid c
  unfold charUnits at h
  split at h
  · rw [List.mem_singleton] at h
    omega
  · rw [List.mem_cons, List.mem_singleton] at h
    omega

/-- Escaped code units, one after the other. -/
theorem units_escapeUnits {vs : List Nat} (h : ∀ u ∈ vs, u < 0x10000) {cs : List Char}
    {us : List Nat} {rest : List Char} (hcs : units cs = .ok (us, rest)) :
    units (vs.flatMap escapeUnit ++ cs) = .ok (vs ++ us, rest) := by
  induction vs with
  | nil => exact hcs
  | cons v vs ih =>
    rw [List.flatMap_cons, List.append_assoc]
    exact units_escapeUnit (h v List.mem_cons_self)
      (ih fun u hu => h u (List.mem_cons_of_mem _ hu))

/-- A character behind a backslash. -/
theorem units_escaped {c : Char} {u : Nat} (hc : c ≠ 'u') (hu : escaped c = .ok u)
    {cs : List Char} {us : List Nat} {rest : List Char} (hcs : units cs = .ok (us, rest)) :
    units ('\\' :: c :: cs) = .ok (u :: us, rest) := by
  rw [units, hu]
  · show (units cs >>= fun r => pure (u :: r.1, r.2)) = _
    rw [hcs]
    rfl
  · intro a b c' d cs' heq
    exact absurd heq hc

/-- A character as it is. -/
theorem units_plain {c : Char} (hquote : c ≠ '"') (hback : c ≠ '\\') (hlow : 32 ≤ c.toNat)
    {cs : List Char} {us : List Nat} {rest : List Char} (hcs : units cs = .ok (us, rest)) :
    units (c :: cs) = .ok (c.toNat :: us, rest) := by
  rw [units]
  · rw [if_neg (by omega)]
    show (units cs >>= fun r => pure (c.toNat :: r.1, r.2)) = _
    rw [hcs]
    rfl
  · exact hquote
  · intro a b c' d cs' heq
    exact absurd heq hback
  · intro c' cs' heq
    exact absurd heq hback

/-- **A character is read back as its code units**, however it was written. -/
theorem units_jsonChar (c : Char) {cs : List Char} {us : List Nat} {rest : List Char}
    (hcs : units cs = .ok (us, rest)) :
    units (jsonChar c ++ cs) = .ok (charUnits c ++ us, rest) := by
  have hascii : ∀ n, c.toNat = n → n < 0x10000 → charUnits c = [n] := by
    intro n hn hlt
    rw [charUnits, hn, if_pos hlt]
  unfold jsonChar
  split_ifs with hquote hback hn hr ht hf hb hplain
  · rw [hascii 34 (by rw [hquote]; rfl) (by omega)]
    exact units_escaped (by decide) rfl hcs
  · rw [hascii 92 (by rw [hback]; rfl) (by omega)]
    exact units_escaped (by decide) rfl hcs
  · rw [hascii 10 (by rw [hn]; rfl) (by omega)]
    exact units_escaped (by decide) rfl hcs
  · rw [hascii 13 (by rw [hr]; rfl) (by omega)]
    exact units_escaped (by decide) rfl hcs
  · rw [hascii 9 (by rw [ht]; rfl) (by omega)]
    exact units_escaped (by decide) rfl hcs
  · rw [hascii 12 hf (by omega)]
    exact units_escaped (by decide) rfl hcs
  · rw [hascii 8 hb (by omega)]
    exact units_escaped (by decide) rfl hcs
  · rw [hascii c.toNat rfl (by omega)]
    exact units_plain hquote hback hplain.1 hcs
  · exact units_escapeUnits (fun u hu => charUnits_lt hu) hcs

/-- The text of a string, up to the quote behind it. -/
theorem units_encode (l rest : List Char) :
    units (l.flatMap jsonChar ++ '"' :: rest) = .ok (l.flatMap charUnits, rest) := by
  induction l with
  | nil => rfl
  | cons c l ih =>
    rw [List.flatMap_cons, List.append_assoc, List.flatMap_cons]
    exact units_jsonChar c ih

/-- The code units of a character make that character. -/
theorem ofUnits_charUnits (c : Char) {us : List Nat} {cs : List Char} (h : ofUnits us = .ok cs) :
    ofUnits (charUnits c ++ us) = .ok (c :: cs) := by
  have hvalid := char_valid c
  unfold charUnits
  by_cases hlt : c.toNat < 0x10000
  · rw [if_pos hlt]
    have hunit : ofUnit c.toNat = .ok c := by
      rw [ofUnit, if_pos hvalid, Char.ofNat_toNat]
    cases us with
    | nil =>
      obtain rfl := Except.ok.inj h
      rw [List.append_nil, ofUnits, hunit]
      rfl
    | cons lo us =>
      -- no character is the first half of a pair
      show ofUnits (c.toNat :: lo :: us) = _
      rw [ofUnits, if_neg (by omega), hunit, h]
      rfl
  · rw [if_neg hlt]
    show ofUnits (_ :: _ :: us) = _
    rw [ofUnits, if_pos (by omega)]
    have hsum : 0x10000 + (0xD800 + (c.toNat - 0x10000) / 0x400 - 0xD800) * 0x400 +
        (0xDC00 + (c.toNat - 0x10000) % 0x400 - 0xDC00) = c.toNat := by omega
    rw [hsum, Char.ofNat_toNat, h]
    rfl

/-- **A string is read back.** -/
theorem scanstring_encode (s : String) (rest : List Char) :
    scanstring (s.toList.flatMap jsonChar ++ '"' :: rest) = .ok (s, rest) := by
  have hchars : ∀ l : List Char, ofUnits (l.flatMap charUnits) = .ok l := by
    intro l
    induction l with
    | nil => rfl
    | cons c l ih =>
      rw [List.flatMap_cons]
      exact ofUnits_charUnits c ih
  refine Except.bind_eq_ok.mpr ⟨_, units_encode s.toList rest, ?_⟩
  refine Except.bind_eq_ok.mpr ⟨_, hchars s.toList, ?_⟩
  rw [String.ofList_toList]
  rfl

/-! ## Numbers -/

/-- What can stand behind a value: the end of the text, or what goes on with an array or an
object. -/
def Delimited (cs : List Char) : Prop :=
  ∀ c rest, cs = c :: rest → c = ',' ∨ c = ']' ∨ c = '\x7d'

theorem delimited_cons {c : Char} {cs : List Char} (h : c = ',' ∨ c = ']' ∨ c = '\x7d') :
    Delimited (c :: cs) := by
  intro c' rest heq
  rwa [← (List.cons.inj heq).1]

/-- No digit comes first. -/
def NoDigit (cs : List Char) : Prop := ∀ c rest, cs = c :: rest → c.isDigit = false

theorem Delimited.noDigit {cs : List Char} (h : Delimited cs) : NoDigit cs := by
  intro c rest heq
  rcases h c rest heq with rfl | rfl | rfl <;> rfl

/-- Digits, up to what is none. -/
theorem digits_append {ds cs : List Char} (hds : ∀ c ∈ ds, c.isDigit = true) (hcs : NoDigit cs) :
    digits (ds ++ cs) = (ds, cs) := by
  have hstop : cs.takeWhile Char.isDigit = [] ∧ cs.dropWhile Char.isDigit = cs := by
    cases cs with
    | nil => exact ⟨rfl, rfl⟩
    | cons c rest =>
      have hc := hcs c rest rfl
      exact ⟨by rw [List.takeWhile_cons, hc]; rfl, by rw [List.dropWhile_cons, hc]; rfl⟩
  rw [digits, List.takeWhile_append_of_pos hds, List.dropWhile_append_of_pos hds, hstop.1,
    hstop.2, List.append_nil]

/-- The digits of an integer. -/
structure IntText (ds : List Char) : Prop where
  nonempty : ds ≠ []
  digits : ∀ c ∈ ds, c.isDigit = true
  /-- A zero in front is all there is. -/
  zero : ∀ rest, ds = '0' :: rest → rest = []

theorem intDigits_append {ds cs : List Char} (h : IntText ds) (hcs : NoDigit cs) :
    intDigits (ds ++ cs) = (ds, cs) := by
  cases ds with
  | nil => exact absurd rfl h.nonempty
  | cons d ds =>
    by_cases hd : d = '0'
    · subst hd
      obtain rfl := h.zero ds rfl
      rfl
    · show intDigits (d :: (ds ++ cs)) = _
      rw [intDigits]
      · exact digits_append h.digits hcs
      · intro cs' heq
        exact hd (List.cons.inj heq).1

/-- A number is written without a zero in front. -/
theorem intText_toDigits (n : Nat) : IntText (Nat.toDigits 10 n) := by
  refine ⟨Nat.toDigits_ne_nil, ?_, ?_⟩
  · exact fun c hc => Nat.isDigit_of_mem_toDigits (by decide) (by decide) hc
  · induction n using Nat.strongRecOn with
    | _ n ih =>
      intro rest heq
      by_cases hlt : n < 10
      · rw [Nat.toDigits_of_lt_base hlt] at heq
        exact (List.cons.inj heq).2.symm
      · -- the front of the text is that of the number without its last digit
        have hpos : 0 < n / 10 := by omega
        rw [Decimal.toDigits_div hpos] at heq
        rcases hfront : Nat.toDigits 10 (n / 10) with _ | ⟨c, cs⟩
        · exact absurd hfront Nat.toDigits_ne_nil
        · rw [hfront, List.cons_append] at heq
          obtain ⟨rfl, _⟩ := List.cons.inj heq
          obtain rfl := ih (n / 10) (by omega) cs hfront
          have hzero : n / 10 = 0 := Decimal.toDigits_injective hfront
          omega

/-- A fraction. -/
def FracText (cs : List Char) : Prop :=
  cs = [] ∨ ∃ ds, cs = '.' :: ds ∧ ds ≠ [] ∧ ∀ c ∈ ds, c.isDigit = true

/-- An exponent. -/
def ExpText (cs : List Char) : Prop :=
  cs = [] ∨ ∃ e sign ds, cs = e :: (sign ++ ds) ∧ (e = 'e' ∨ e = 'E') ∧
    (sign = [] ∨ sign = ['-'] ∨ sign = ['+']) ∧ ds ≠ [] ∧ ∀ c ∈ ds, c.isDigit = true

theorem fraction_append {frac cs : List Char} (h : FracText frac) (hcs : NoDigit cs)
    (hdot : ∀ rest, cs ≠ '.' :: rest) : fraction (frac ++ cs) = (frac, cs) := by
  rcases h with rfl | ⟨ds, rfl, hne, hds⟩
  · show fraction cs = _
    rw [fraction]
    exact hdot
  · show fraction ('.' :: (ds ++ cs)) = _
    rw [fraction, digits_append hds hcs]
    cases ds with
    | nil => exact absurd rfl hne
    | cons d ds => rfl

theorem expSign_append {sign ds cs : List Char} (h : sign = [] ∨ sign = ['-'] ∨ sign = ['+'])
    (hne : ds ≠ []) (hds : ∀ c ∈ ds, c.isDigit = true) :
    expSign (sign ++ (ds ++ cs)) = (sign, ds ++ cs) := by
  rcases h with rfl | rfl | rfl
  · cases ds with
    | nil => exact absurd rfl hne
    | cons d ds =>
      have hd := hds d List.mem_cons_self
      show expSign (d :: (ds ++ cs)) = _
      rw [expSign]
      · rfl
      · intro cs' heq
        rw [(List.cons.inj heq).1] at hd
        exact absurd hd (by decide)
      · intro cs' heq
        rw [(List.cons.inj heq).1] at hd
        exact absurd hd (by decide)
  · rfl
  · rfl

theorem exponent_append {exp cs : List Char} (h : ExpText exp) (hcs : Delimited cs) :
    exponent (exp ++ cs) = (exp, cs) := by
  rcases h with rfl | ⟨e, sign, ds, rfl, he, hsign, hne, hds⟩
  · cases cs with
    | nil => rfl
    | cons c cs =>
      show exponent (c :: cs) = _
      have hc : ¬ (c = 'e' ∨ c = 'E') := by
        rcases hcs c cs rfl with rfl | rfl | rfl <;> decide
      rw [exponent, if_neg hc]
  · show exponent (e :: (sign ++ ds ++ cs)) = _
    rw [exponent, if_pos he, List.append_assoc, expSign_append hsign hne hds]
    simp only [digits_append hds hcs.noDigit]
    cases ds with
    | nil => exact absurd rfl hne
    | cons d ds => rfl

theorem expText_noDigit {exp cs : List Char} (h : ExpText exp) (hcs : Delimited cs) :
    NoDigit (exp ++ cs) ∧ ∀ rest, exp ++ cs ≠ '.' :: rest := by
  rcases h with rfl | ⟨e, sign, ds, rfl, he, _⟩
  · refine ⟨hcs.noDigit, ?_⟩
    intro rest heq
    rcases hcs '.' rest heq with h | h | h <;> exact absurd h (by decide)
  · refine ⟨?_, ?_⟩
    · intro c rest heq
      rw [← (List.cons.inj heq).1]
      rcases he with rfl | rfl <;> rfl
    · intro rest heq
      have hdot := (List.cons.inj heq).1
      rcases he with rfl | rfl <;> exact absurd hdot (by decide)

theorem fracText_noDigit {frac cs : List Char} (h : FracText frac) (hcs : NoDigit cs) :
    NoDigit (frac ++ cs) := by
  rcases h with rfl | ⟨ds, rfl, _⟩
  · exact hcs
  · intro c rest heq
    rw [← (List.cons.inj heq).1]
    rfl

/-- **A numeral is read to its end**, as an integer if it has neither a fraction nor an
exponent. -/
theorem number_append (float : String → String × Option Int) (sign : List Char)
    {ds frac exp cs : List Char} (hds : IntText ds) (hfrac : FracText frac) (hexp : ExpText exp)
    (hcs : Delimited cs) :
    number float sign (ds ++ (frac ++ (exp ++ cs))) =
      if frac = [] ∧ exp = [] then .ok (.int ((Decimal.readInt (sign ++ ds)).getD 0), cs)
      else .ok (.float (float (String.ofList (sign ++ ds ++ frac ++ exp))).1
        (float (String.ofList (sign ++ ds ++ frac ++ exp))).2, cs) := by
  obtain ⟨hnodigit, hdot⟩ := expText_noDigit hexp hcs
  rw [number, intDigits_append hds (fracText_noDigit hfrac hnodigit)]
  cases ds with
  | nil => exact absurd rfl hds.nonempty
  | cons d ds =>
    simp only [fraction_append hfrac hnodigit hdot, exponent_append hexp hcs]

/-- A digit opens a number. -/
theorem scanLeaf_digit (float : String → String × Option Int) {c : Char} (h : c.isDigit = true)
    (cs : List Char) : scanLeaf float (c :: cs) = number float [] (c :: cs) := by
  have hne : ∀ d : Char, d.isDigit = false → c ≠ d := by
    intro d hd heq
    rw [heq, hd] at h
    exact absurd h (by simp)
  rw [scanLeaf]
  all_goals
    intro cs' heq
    exact absurd (List.cons.inj heq).1 (hne _ rfl)

/-- So does a digit behind a sign. -/
theorem scanLeaf_minus (float : String → String × Option Int) {c : Char} (h : c.isDigit = true)
    (cs : List Char) : scanLeaf float ('-' :: c :: cs) = number float ['-'] (c :: cs) := by
  rw [scanLeaf]
  intro cs' heq
  rw [(List.cons.inj heq).1] at h
  exact absurd h (by decide)

/-- A sign, or none. -/
def SignText (cs : List Char) : Prop := cs = [] ∨ cs = ['-']

theorem scanLeaf_append (float : String → String × Option Int) {sign ds : List Char}
    (hsign : SignText sign) (hds : IntText ds) (cs : List Char) :
    scanLeaf float (sign ++ (ds ++ cs)) = number float sign (ds ++ cs) := by
  cases ds with
  | nil => exact absurd rfl hds.nonempty
  | cons d ds =>
    have hd := hds.digits d List.mem_cons_self
    rcases hsign with rfl | rfl
    · exact scanLeaf_digit float hd (ds ++ cs)
    · exact scanLeaf_minus float hd (ds ++ cs)

/-- The text of an integer: its sign and its digits. -/
theorem int_text (n : Int) : ∃ sign ds, (toString n).toList = sign ++ ds ∧ SignText sign ∧
    IntText ds := by
  cases n with
  | ofNat m =>
    refine ⟨[], Nat.toDigits 10 m, ?_, Or.inl rfl, intText_toDigits m⟩
    have hnat : toString (Int.ofNat m) = toString m := rfl
    rw [hnat, Nat.toString_eq_ofList_toDigits, String.toList_ofList]
    rfl
  | negSucc m =>
    refine ⟨['-'], Nat.toDigits 10 (m + 1), ?_, Or.inr rfl, intText_toDigits (m + 1)⟩
    have hneg : toString (Int.negSucc m) = "-" ++ toString (m + 1) := rfl
    rw [hneg, String.toList_append, Nat.toString_eq_ofList_toDigits, String.toList_ofList,
      String.toList_ofList]

/-- **An integer is read back.** -/
theorem scanLeaf_int (float : String → String × Option Int) (n : Int) {cs : List Char}
    (hcs : Delimited cs) : scanLeaf float ((toString n).toList ++ cs) = .ok (.int n, cs) := by
  obtain ⟨sign, ds, htext, hsign, hds⟩ := int_text n
  have hread : Decimal.readInt (sign ++ ds) = some n := by
    rw [← htext]
    exact Decimal.readInt_toString n
  have hnumber := number_append float sign hds (Or.inl rfl) (Or.inl rfl) hcs
  rw [List.nil_append, List.nil_append, if_pos ⟨rfl, rfl⟩, hread] at hnumber
  rw [htext, List.append_assoc, scanLeaf_append float hsign hds]
  exact hnumber

/-- What Python shows of a float: it is not a number or infinite, or its `repr` is a numeral that
`float` reads as the same. -/
def ReadsFloat (float : String → String × Option Int) (r : String) (int? : Option Int) : Prop :=
  ((r = "nan" ∨ r = "inf" ∨ r = "-inf") ∧ int? = none) ∨
    ∃ sign ds frac exp, r.toList = sign ++ ds ++ frac ++ exp ∧ SignText sign ∧ IntText ds ∧
      FracText frac ∧ ExpText exp ∧ ¬ (frac = [] ∧ exp = []) ∧ float r = (r, int?)

/-- A numeral begins with a digit, behind its sign; so it is none of the three other texts. -/
theorem encodeFloat_numeral {r : String} {sign ds cs : List Char}
    (hr : r.toList = sign ++ ds ++ cs) (hsign : SignText sign) (hds : IntText ds) :
    encodeFloat r = r.toList := by
  obtain ⟨d, ds', rfl⟩ := List.exists_cons_of_ne_nil hds.nonempty
  have hd := hds.digits d List.mem_cons_self
  have hletter : ∀ c : Char, c.isDigit = false → c ≠ d := by
    intro c hc heq
    rw [← heq, hc] at hd
    exact absurd hd (by simp)
  have hhead : ∀ c c' rest, r.toList = c :: c' :: rest → c.isDigit = false →
      c'.isDigit = false → False := by
    intro c c' rest htext hc hc'
    rw [htext] at hr
    rcases hsign with rfl | rfl
    · exact hletter c hc (List.cons.inj hr).1
    · exact hletter c' hc' (List.cons.inj (List.cons.inj hr).2).1
  have hnan : r ≠ "nan" := by
    rintro rfl
    exact hhead 'n' 'a' ['n'] rfl rfl rfl
  have hinf : r ≠ "inf" := by
    rintro rfl
    exact hhead 'i' 'n' ['f'] rfl rfl rfl
  have hminus : r ≠ "-inf" := by
    rintro rfl
    exact hhead '-' 'i' ['n', 'f'] rfl rfl rfl
  rw [encodeFloat, if_neg hnan, if_neg hinf, if_neg hminus]

/-- **A float is read back.** -/
theorem scanLeaf_float {float : String → String × Option Int} {r : String} {int? : Option Int}
    (h : ReadsFloat float r int?) {cs : List Char} (hcs : Delimited cs) :
    scanLeaf float (encodeFloat r ++ cs) = .ok (.float r int?, cs) := by
  rcases h with ⟨hspecial, rfl⟩ | ⟨sign, ds, frac, exp, htext, hsign, hds, hfrac, hexp, hne, hback⟩
  · rcases hspecial with rfl | rfl | rfl <;> rfl
  · have hsplit : r.toList = sign ++ ds ++ (frac ++ exp) := by rw [htext, List.append_assoc]
    have hencode := encodeFloat_numeral hsplit hsign hds
    have hr : String.ofList (sign ++ ds ++ frac ++ exp) = r := by
      rw [← htext, String.ofList_toList]
    have hnumber := number_append float sign hds hfrac hexp hcs
    rw [if_neg hne, hr, hback] at hnumber
    rw [hencode, htext]
    simp only [List.append_assoc]
    rw [scanLeaf_append float hsign hds]
    exact hnumber

end Py.Json
