import Versatile.Lib.Decimal
import Versatile.Lib.Dict
import Versatile.Lib.Quoted

/-!
# The literals of a statement

The programs of this repository build a statement by pasting texts between quotes. The server
reads the literals back, and what it works on is the value of a literal, not the text that was
pasted. A text without apostrophes and backslashes is its own value; any other may stand for
another value, or break its literal and run on into the rest of the statement.
-/

namespace Versatile

open Quoted

/-- The value of the literal that pasting a text between quotes makes; none, if the literal does
not end where it should. -/
def readText (text : String) : Option String :=
  match readLiteral (text.toList ++ [quote]) with
  | some (w, []) => some (String.ofList w)
  | _ => none

/-- A text without apostrophes and backslashes. -/
def Plain (text : String) : Prop := quote ∉ text.toList ∧ '\\' ∉ text.toList

instance (text : String) : Decidable (Plain text) := inferInstanceAs (Decidable (_ ∧ _))

/-- A text whose literal ends where it should. -/
def Unbroken (text : String) : Prop := ∃ value, readText text = some value

instance (text : String) : Decidable (Unbroken text) :=
  decidable_of_iff _ Option.isSome_iff_exists

/-- A text has the value its body stands for. -/
theorem readText_eq_some {text value : String} :
    readText text = some value ↔ Body text.toList value.toList := by
  unfold readText
  refine ⟨?_, ?_⟩
  · intro h
    split at h
    · rename_i w hread
      obtain rfl : String.ofList w = value := Option.some.inj h
      obtain ⟨t, hsplit, hbody, _⟩ := readLiteral_eq_some.mp hread
      obtain ⟨rfl, _⟩ := List.append_inj' hsplit rfl
      rwa [String.toList_ofList]
    · exact absurd h (by simp)
  · intro hbody
    rw [hbody.readLiteral (by simp)]
    exact congrArg some String.ofList_toList

/-- **A plain text is its own value.** -/
theorem readText_plain {text : String} (h : Plain text) : readText text = some text :=
  readText_eq_some.mpr (body_self h.1 h.2)

theorem Plain.unbroken {text : String} (h : Plain text) : Unbroken text :=
  ⟨text, readText_plain h⟩

theorem Plain.append {a b : String} (ha : Plain a) (hb : Plain b) : Plain (a ++ b) := by
  unfold Plain at ha hb ⊢
  simp only [String.toList_append, List.mem_append, not_or]
  exact ⟨⟨ha.1, hb.1⟩, ha.2, hb.2⟩

/-- Digits, with a sign or without, are plain. -/
theorem plain_of_digits {text : String} (h : ∀ c ∈ text.toList, c.isDigit = true ∨ c = '-') :
    Plain text := by
  have hother : ∀ c : Char, c.isDigit = false → c ≠ '-' → c ∉ text.toList := by
    intro c hdigit hsign hmem
    rcases h c hmem with hc | hc
    · rw [hdigit] at hc
      exact absurd hc (by simp)
    · exact hsign hc
  exact ⟨hother _ (by decide) (by decide), hother _ (by decide) (by decide)⟩

theorem plain_toString_nat (n : Nat) : Plain (toString n) := by
  refine plain_of_digits fun c hc => Or.inl ?_
  rw [Nat.toString_eq_ofList_toDigits, String.toList_ofList] at hc
  exact Nat.isDigit_of_mem_toDigits (by decide) (by decide) hc

theorem plain_toString_int (n : Int) : Plain (toString n) := by
  cases n with
  | ofNat m => exact plain_toString_nat m
  | negSucc m => exact Plain.append (by decide : Plain "-") (plain_toString_nat (m + 1))

/-- A backslash in front of a letter is read as another character, and an apostrophe breaks the
literal. -/
example : readText "a\\b" = some "a\x08" ∧ readText "a'b" = none := by decide

/-! ## Several literals -/

/-- The values of some texts with their columns; none, if one of them breaks its literal. -/
def readTexts : List (String × String) → Option (List (String × String))
  | [] => some []
  | (column, text) :: row => do
      let value ← readText text
      let values ← readTexts row
      return (column, value) :: values

theorem readTexts_cons_eq_some {column text : String} {row r : List (String × String)} :
    readTexts ((column, text) :: row) = some r ↔ ∃ value values, readText text = some value ∧
      readTexts row = some values ∧ r = (column, value) :: values := by
  simp only [readTexts, Option.bind_eq_bind, Option.bind_eq_some_iff, Option.pure_def,
    Option.some.injEq, eq_comm (a := r)]
  refine ⟨?_, ?_⟩
  · intro hsome
    obtain ⟨value, hvalue, values, hvalues, hr⟩ := hsome
    exact ⟨value, values, hvalue, hvalues, hr⟩
  · intro hsome
    obtain ⟨value, values, hvalue, hvalues, hr⟩ := hsome
    exact ⟨value, hvalue, values, hvalues, hr⟩

/-- **Plain texts are their own values.** -/
theorem readTexts_plain {row : List (String × String)} (h : ∀ c ∈ row, Plain c.2) :
    readTexts row = some row := by
  induction row with
  | nil => rfl
  | cons c row ih =>
    obtain ⟨hfirst, hrest⟩ := List.forall_mem_cons.mp h
    exact readTexts_cons_eq_some.mpr ⟨c.2, row, readText_plain hfirst, ih hrest, rfl⟩

/-- Texts that do not break their literals have values. -/
theorem exists_readTexts {row : List (String × String)} :
    (∃ r, readTexts row = some r) ↔ ∀ c ∈ row, Unbroken c.2 := by
  induction row with
  | nil => simp [readTexts]
  | cons c row ih =>
    obtain ⟨column, text⟩ := c
    rw [List.forall_mem_cons, ← ih]
    refine ⟨?_, ?_⟩
    · intro hsome
      obtain ⟨r, hr⟩ := hsome
      obtain ⟨value, values, hvalue, hvalues, _⟩ := readTexts_cons_eq_some.mp hr
      exact ⟨⟨value, hvalue⟩, values, hvalues⟩
    · intro hboth
      obtain ⟨⟨value, hvalue⟩, values, hvalues⟩ := hboth
      exact ⟨_, readTexts_cons_eq_some.mpr ⟨value, values, hvalue, hvalues, rfl⟩⟩

/-- **Texts are read as they are** exactly if each of them is. -/
theorem readTexts_self_iff {row : List (String × String)} :
    readTexts row = some row ↔ ∀ c ∈ row, readText c.2 = some c.2 := by
  induction row with
  | nil => simp [readTexts]
  | cons c row ih =>
    obtain ⟨column, text⟩ := c
    rw [List.forall_mem_cons, ← ih, readTexts_cons_eq_some]
    refine ⟨?_, ?_⟩
    · intro hsome
      obtain ⟨value, values, hvalue, hvalues, heq⟩ := hsome
      obtain ⟨hc, rfl⟩ := List.cons.inj heq
      obtain rfl := (Prod.mk.inj hc).2
      exact ⟨hvalue, hvalues⟩
    · intro hboth
      exact ⟨text, row, hboth.1, hboth.2, rfl⟩

/-- The columns are those of the texts. -/
theorem readTexts_columns {row r : List (String × String)} (h : readTexts row = some r) :
    r.map Prod.fst = row.map Prod.fst := by
  induction row generalizing r with
  | nil =>
    obtain rfl : [] = r := Option.some.inj h
    rfl
  | cons c row ih =>
    obtain ⟨value, values, _, hvalues, rfl⟩ := readTexts_cons_eq_some.mp h
    rw [List.map_cons, List.map_cons, ih hvalues]

/-- A column has the value of its text. -/
theorem readTexts_get {row r : List (String × String)} (h : readTexts row = some r)
    (column : String) : Dict.get r column = (Dict.get row column).bind readText := by
  induction row generalizing r with
  | nil =>
    obtain rfl : [] = r := Option.some.inj h
    rfl
  | cons c row ih =>
    obtain ⟨value, values, hvalue, hvalues, rfl⟩ := readTexts_cons_eq_some.mp h
    rw [Dict.get_cons, Dict.get_cons]
    split
    · exact hvalue.symm
    · exact ih hvalues

end Versatile
