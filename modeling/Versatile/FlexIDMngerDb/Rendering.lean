import Versatile.Lib.Quoted
import Versatile.Py.Escapes
import Versatile.FlexIDMngerDb.DbProc

/-!
# The texts `db_proc` pastes into a statement

A statement is text, and what the server makes of a value is what the rules of quoted literals
make of the text pasted for it. A string is pasted as it is. The strings of a list are escaped
for an `INSERT`, written by Python with quotes of its own, and these quotes are escaped; in a
`SELECT` a list is pasted with the quotes Python writes. Each is read back as it was meant only
where none of its characters is special to the reader (`faithful_iff`).
-/

namespace Versatile.FlexIDMngerDb

open Py Quoted

/-! ## Reading a statement -/

/-- Read a statement: its table, its columns and the texts its literals stand for. -/
def readStatement (verb clause sep text : String) : Option (String × List (String × String)) := do
  let s ← verb.toList.isPrefixOf? text.toList
  let assigned ← clause.toList.isPrefixOf? (s.dropWhile isName)
  let pairs ← readAll sep.toList assigned
  return (String.ofList (s.takeWhile isName),
    pairs.map fun p => (String.ofList p.1, String.ofList p.2))

/-- The two statements `db_proc` builds from columns and values. -/
inductive Verb where
  | insert
  | select
  deriving DecidableEq, Repr

namespace Verb

/-- What stands in front of the table. -/
def head : Verb → String
  | insert => "INSERT INTO "
  | select => "SELECT * FROM "

/-- What stands behind it. -/
def clause : Verb → String
  | insert => " SET "
  | select => " WHERE "

/-- What stands between two columns. -/
def sep : Verb → String
  | insert => ", "
  | select => " and "

/-- The cells `db_proc` builds from columns and values. -/
def cells : Verb → Fields → Except Exc (List Cell)
  | insert, row => row.mapM insertCell
  | select, row => .ok (row.map whereCell)

/-- The statement it executes with them. -/
def statement : Verb → Table → List Cell → Statement
  | insert, t, cells => .insert t cells
  | select, t, cells => .select t cells

end Verb

/-- The text `db_proc` builds for a statement. It builds none for a selection of sensors, which
it answers before. -/
def builtText (verb : Verb) (t : Table) (row : Fields) : Except Exc String := do
  let cells ← verb.cells row
  return (verb.statement t cells).text

/-! ## Columns and values -/

/-- The name of a column. -/
structure Column where
  name : String
  chars : ∀ c ∈ name.toList, isName c = true

/-- A string, or a list of strings. -/
inductive Datum where
  | text (s : String)
  | texts (ss : List String)

namespace Datum

/-- The value a handler passes on. -/
def value : Datum → Value
  | text s => .str s
  | texts ss => .list (ss.map .str)

/-- The text of the list of the escaped strings. -/
def escapedTexts (ss : List String) : String :=
  "[" ++ ", ".intercalate (ss.map fun s => "b" ++ Py.reprStr (unicodeEscape s)) ++ "]"

/-- The text the literal is meant for: the string itself, the text of the list of the escaped
strings in an `INSERT`, the text of the list in a `SELECT`. -/
def meant : Verb → Datum → String
  | .insert, texts ss => escapedTexts ss
  | _, d => d.value.text

end Datum

/-- The columns and values of one statement. -/
abbrev Row := List (Column × Datum)

/-- The row as the handlers build it. -/
def Row.fields (row : Row) : Fields := row.map fun c => (c.1.name, c.2.value)

/-- The text built for a row reads as its columns, in order, each with the text it was meant
for, and as nothing else. -/
def Faithful (verb : Verb) (t : Table) (row : Row) : Prop :=
  ∃ text, builtText verb t row.fields = .ok text ∧
    readStatement verb.head verb.clause verb.sep text =
      some (t.name, row.map fun c => (c.1.name, c.2.meant verb))

/-! ## What each value is pasted as -/

/-- The literal pasted for a value. -/
def Datum.literal : Verb → Datum → String
  | .insert, .texts ss => Py.escapeQuotes (escapedTexts ss)
  | _, d => d.value.text

/-- The assignment of one column. -/
def assignment (verb : Verb) (c : Column × Datum) : Assignment :=
  ⟨c.1.name.toList, (c.2.literal verb).toList, (c.2.meant verb).toList⟩

theorem mapM_encoded (ss : List String) :
    (ss.map Value.str).mapM Value.encoded =
      .ok (ss.map fun s => "b" ++ Py.reprStr (unicodeEscape s)) := by
  induction ss with
  | nil => rfl
  | cons s ss ih => exact Except.mapM_cons_eq_ok.mpr ⟨_, _, rfl, ih, rfl⟩

/-- The cell of a column, for either statement. -/
theorem insertCell_datum (c : Column × Datum) :
    insertCell (c.1.name, c.2.value) =
      .ok ⟨c.1.name, c.2.literal .insert⟩ := by
  obtain ⟨col, s | ss⟩ := c
  · rfl
  · rw [Datum.value, insertCell]
    simp only [mapM_encoded]
    rfl

theorem cells_fields (verb : Verb) (row : Row) :
    verb.cells row.fields =
      .ok (row.map fun c => ⟨c.1.name, c.2.literal verb⟩) := by
  cases verb with
  | insert =>
    induction row with
    | nil => rfl
    | cons c row ih => exact Except.mapM_cons_eq_ok.mpr ⟨_, _, insertCell_datum c, ih, rfl⟩
  | select =>
    rw [Verb.cells, Row.fields, List.map_map]
    refine congrArg Except.ok (List.map_congr_left fun c _ => ?_)
    obtain ⟨col, s | ss⟩ := c <;> rfl

/-- The characters of one `column = 'literal'`. -/
theorem cell_text (verb : Verb) (c : Column × Datum) :
    (Cell.text ⟨c.1.name, c.2.literal verb⟩).toList =
      (assignment verb c).text := by
  simp only [Cell.text, String.toList_append, assignment, Assignment.text]
  rfl

/-- The characters of the text built for a row. -/
theorem statement_text (verb : Verb) (t : Table) (row : Row) :
    (verb.statement t (row.map fun c =>
        ⟨c.1.name, c.2.literal verb⟩)).text.toList =
      verb.head.toList ++ (t.name.toList ++ (verb.clause.toList ++
        renderAll verb.sep.toList (row.map (assignment verb)))) := by
  have hcells : ((row.map fun c =>
      Cell.mk c.1.name (c.2.literal verb)).map Cell.text).map String.toList =
        (row.map (assignment verb)).map Assignment.text := by
    rw [List.map_map, List.map_map, List.map_map]
    exact List.map_congr_left fun c _ => cell_text verb c
  have hstatement : ∀ cells : List Cell, (verb.statement t cells).text =
      verb.head ++ t.name ++ verb.clause ++ verb.sep.intercalate (cells.map Cell.text) := by
    intro cells
    cases verb <;> rfl
  rw [hstatement, String.toList_append, String.toList_append, String.toList_append,
    String.toList_intercalate, hcells, renderAll, List.append_assoc, List.append_assoc]

/-- The literal pasted for a value hides no equality sign, and is longer than the text it is
meant for by no more than its quotes. -/
theorem assignment_written (verb : Verb) (c : Column × Datum) : (assignment verb c).Written := by
  have hself : ∀ (name v : List Char), (⟨name, v, v⟩ : Assignment).Written := fun name v =>
    ⟨rfl, Nat.le_add_right _ _⟩
  obtain ⟨col, s | ss⟩ := c
  · cases verb <;> exact hself _ _
  · cases verb with
    | select => exact hself _ _
    | insert =>
      have hlit : (Py.escapeQuotes (Datum.escapedTexts ss)).toList =
          Quoted.escapeQuotes (Datum.escapedTexts ss).toList := String.toList_ofList
      refine ⟨?_, ?_⟩
      · rw [assignment, Datum.literal, hlit]
        exact count_escapeQuotes (by decide) _
      · rw [assignment, Datum.literal, hlit]
        exact Nat.le_of_eq (length_escapeQuotes _)

/-- **Reading the text of a row back** is reading its assignments back. -/
theorem readStatement_text (verb : Verb) (t : Table) (row : Row) :
    readStatement verb.head verb.clause verb.sep
        (verb.statement t (row.map fun c =>
          ⟨c.1.name, c.2.literal verb⟩)).text =
      (readAll verb.sep.toList (renderAll verb.sep.toList (row.map (assignment verb)))).map
        fun pairs => (t.name, pairs.map fun p => (String.ofList p.1, String.ofList p.2)) := by
  have hname : ∀ c ∈ t.name.toList, isName c = true :=
    List.all_eq_true.mp (by cases t <;> decide)
  have hstop : isName ' ' = false := by decide
  have hclause : ∃ u, verb.clause.toList = ' ' :: u := by cases verb <;> exact ⟨_, rfl⟩
  have hdrop : ∀ x, (verb.clause.toList ++ x).dropWhile isName = verb.clause.toList ++ x := by
    obtain ⟨u, hu⟩ := hclause
    intro x
    rw [hu, List.cons_append, List.dropWhile_cons, hstop]
    rfl
  have htake : ∀ x, (verb.clause.toList ++ x).takeWhile isName = [] := by
    obtain ⟨u, hu⟩ := hclause
    intro x
    rw [hu, List.cons_append, List.takeWhile_cons, hstop]
    rfl
  have hhead := List.isPrefixOf?_eq_some_iff_append_eq.mpr (statement_text verb t row).symm
  have hbehind : ∀ x, verb.clause.toList.isPrefixOf? (verb.clause.toList ++ x) = some x :=
    fun x => List.isPrefixOf?_eq_some_iff_append_eq.mpr rfl
  rw [readStatement, hhead, Option.bind_eq_bind, Option.bind_some,
    List.takeWhile_append_of_pos hname, List.dropWhile_append_of_pos hname, htake, hdrop, hbehind,
    Option.bind_eq_bind, Option.bind_some, List.append_nil, String.ofList_toList]
  exact Option.map_eq_bind.symm

/-- **A row is rendered faithfully** exactly if the literal of each column stands for its text. -/
theorem faithful_iff_body (verb : Verb) (t : Table) {row : Row} (hne : row ≠ []) :
    Faithful verb t row ↔
      ∀ c ∈ row, Body (c.2.literal verb).toList (c.2.meant verb).toList := by
  have hbuilt : builtText verb t row.fields = .ok (verb.statement t (row.map fun c =>
      ⟨c.1.name, c.2.literal verb⟩)).text := by
    rw [builtText, cells_fields]
    rfl
  have hread := @readAll_iff verb.sep.toList (row.map (assignment verb))
    (by simpa using hne) (by cases verb <;> decide) (by cases verb <;> decide)
    (by
      intro a ha
      obtain ⟨c, _, rfl⟩ := List.mem_map.mp ha
      exact c.1.chars)
    (by
      intro a ha
      obtain ⟨c, _, rfl⟩ := List.mem_map.mp ha
      exact assignment_written verb c)
  rw [List.forall_mem_map, List.map_map] at hread
  have hinj : Function.Injective fun p : List Char × List Char =>
      (String.ofList p.1, String.ofList p.2) := by
    intro p q h
    obtain ⟨h1, h2⟩ := Prod.mk.inj h
    exact Prod.ext (String.ofList_inj.mp h1) (String.ofList_inj.mp h2)
  have hmeant : (t.name, row.map fun c => (c.1.name, c.2.meant verb)) =
      (t.name, (row.map ((fun a : Assignment => (a.name, a.value)) ∘ assignment verb)).map
        fun p => (String.ofList p.1, String.ofList p.2)) := by
    rw [List.map_map]
    refine congrArg (Prod.mk t.name) (List.map_congr_left fun c _ => ?_)
    simp only [assignment, Function.comp_apply, String.ofList_toList]
  refine Iff.trans ?_ hread
  refine ⟨?_, ?_⟩
  · intro h
    obtain ⟨text, htext, h⟩ := h
    obtain rfl := Except.ok.inj (hbuilt.symm.trans htext)
    rw [readStatement_text, hmeant] at h
    obtain ⟨pairs, hpairs, h⟩ := Option.map_eq_some_iff.mp h
    rw [hpairs, List.map_injective_iff.mpr hinj (Prod.mk.inj h).2]
  · intro h
    exact ⟨_, hbuilt, by rw [readStatement_text, h, hmeant]; rfl⟩

/-! ## Which values are read back -/

/-- A value that the reader takes as it was meant: a string without an apostrophe whose
backslashes stand before wildcards; in an `INSERT`, a list of plain strings; in a `SELECT`, the
empty list. -/
def Safe : Verb → Datum → Prop
  | _, .text s => apostrophe ∉ s.toList ∧ OnlyWildcards s.toList
  | .insert, .texts ss => ∀ s ∈ ss, PlainText s
  | .select, .texts ss => ss = []

/-- An element of a list is a part of its text. -/
theorem infix_intercalate (sep : List Char) {ls : List (List Char)} {l : List Char}
    (h : l ∈ ls) : l <:+: sep.intercalate ls := by
  induction ls with
  | nil => exact absurd h (by simp)
  | cons l' ls ih =>
    cases ls with
    | nil =>
      obtain rfl : l = l' := by simpa using h
      simp
    | cons l'' ls =>
      rw [List.intercalate_cons_cons]
      rcases List.mem_cons.mp h with rfl | h
      · exact ⟨[], sep ++ sep.intercalate (l'' :: ls), by simp⟩
      · exact (ih h).trans ⟨l' ++ sep, [], by simp⟩

/-- A character of the text of a list is one of the separator or of an element. -/
theorem mem_intercalate {sep : List Char} {ls : List (List Char)} {c : Char}
    (h : c ∈ sep.intercalate ls) : c ∈ sep ∨ ∃ l ∈ ls, c ∈ l := by
  induction ls with
  | nil => exact absurd h (by simp)
  | cons l ls ih =>
    cases ls with
    | nil => exact Or.inr ⟨l, by simp, by simpa using h⟩
    | cons l' ls =>
      rw [List.intercalate_cons_cons] at h
      simp only [List.mem_append] at h
      rcases h with (h | h) | h
      · exact Or.inr ⟨l, by simp, h⟩
      · exact Or.inl h
      · rcases ih h with h | ⟨l₂, hl, h⟩
        · exact Or.inl h
        · exact Or.inr ⟨l₂, List.mem_cons_of_mem _ hl, h⟩

/-- The characters of the text of a list of escaped strings. -/
theorem escapedTexts_toList (ss : List String) :
    (Datum.escapedTexts ss).toList = '[' :: [',', ' '].intercalate
      (ss.map fun s => 'b' :: (Py.reprStr (unicodeEscape s)).toList) ++ [']'] := by
  have helem : ∀ s, ("b" ++ Py.reprStr (unicodeEscape s)).toList =
      'b' :: (Py.reprStr (unicodeEscape s)).toList := by
    intro s
    rw [String.toList_append]
    rfl
  have helems : (ss.map fun s => "b" ++ Py.reprStr (unicodeEscape s)).map String.toList =
      ss.map fun s => 'b' :: (Py.reprStr (unicodeEscape s)).toList := by
    rw [List.map_map]
    exact List.map_congr_left fun s _ => helem s
  rw [Datum.escapedTexts, String.toList_append, String.toList_append, String.toList_intercalate,
    helems]
  rfl

/-- An element of a list of escaped strings is a part of its text. -/
theorem infix_escapedTexts {ss : List String} {s : String} (h : s ∈ ss) :
    (Py.reprStr (unicodeEscape s)).toList <:+: (Datum.escapedTexts ss).toList := by
  have hmem := infix_intercalate [',', ' ']
    (List.mem_map_of_mem (f := fun s => 'b' :: (Py.reprStr (unicodeEscape s)).toList) h)
  rw [escapedTexts_toList]
  exact (List.suffix_cons _ _).isInfix.trans (hmem.trans ⟨['['], [']'], rfl⟩)

/-- No backslash of Python's stands before a wildcard. -/
theorem no_backslash_of_onlyWildcards {s : String} {v : List Char}
    (hin : (Py.reprStr s).toList <:+: v) (h : OnlyWildcards v) :
    '\\' ∉ (Py.reprStr s).toList := by
  intro hmem
  obtain ⟨c, hc, hb⟩ := (backslash_mem_reprStr s).mp hmem
  obtain ⟨d, rest, hrepr, hd⟩ := reprChar_backslash hb
  -- the text has the escape of this character somewhere
  obtain ⟨pre, post, hsplit⟩ := List.append_of_mem hc
  obtain ⟨u, w, hv⟩ := hin
  have hsite : v = (u ++ (reprQuote s :: pre.flatMap (reprChar (reprQuote s)))) ++
      '\\' :: (d :: rest ++ post.flatMap (reprChar (reprQuote s)) ++ [reprQuote s] ++ w) := by
    rw [← hv, reprStr_toList, hsplit, List.flatMap_append, List.flatMap_cons, hrepr]
    simp
  obtain ⟨d', s', hs', hwild⟩ := h _ _ hsite
  obtain rfl : d = d' := (List.cons.inj hs').1
  have hq : reprQuote s = '"' ∨ reprQuote s = apostrophe := by
    unfold reprQuote
    split
    · exact Or.inl rfl
    · exact Or.inr rfl
  rcases hd with rfl | rfl | hd
  · exact absurd hwild (by decide)
  · rcases hq with hq | hq
    · rw [hq] at hwild; exact absurd hwild (by decide)
    · rw [hq] at hwild; exact absurd hwild (by decide)
  · have hall : ∀ d ∈ ['t', 'n', 'r', 'x'], isWildcard d = false := by
      simp [isWildcard]
    rw [hall d hd] at hwild
    exact absurd hwild (by simp)

/-- **The text of a list of escaped strings is read back** exactly if every string is plain. -/
theorem onlyWildcards_escapedTexts (ss : List String) :
    OnlyWildcards (Datum.escapedTexts ss).toList ↔ ∀ s ∈ ss, PlainText s := by
  refine ⟨?_, ?_⟩
  · intro h s hs
    exact (backslash_not_mem_escaped s).mp
      (no_backslash_of_onlyWildcards (infix_escapedTexts hs) h)
  · -- no string has a backslash, and nothing between them
    intro h u w hw
    exfalso
    have hmem : '\\' ∈ (Datum.escapedTexts ss).toList := by rw [hw]; simp
    rw [escapedTexts_toList] at hmem
    have hin : '\\' ∈ [',', ' '].intercalate
        (ss.map fun s => 'b' :: (Py.reprStr (unicodeEscape s)).toList) := by simpa using hmem
    rcases mem_intercalate hin with hsep | ⟨l, hl, hb⟩
    · exact absurd hsep (by decide)
    · obtain ⟨s, hs, rfl⟩ := List.mem_map.mp hl
      have hb' : '\\' ∈ (Py.reprStr (unicodeEscape s)).toList := by simpa using hb
      exact (backslash_not_mem_escaped s).mpr (h s hs) hb'

/-- The characters of the text of a list of strings. -/
theorem listText_toList (ss : List String) :
    (Datum.texts ss).value.text.toList =
      '[' :: [',', ' '].intercalate (ss.map fun s => (Py.reprStr s).toList) ++ [']'] := by
  have htext : (Datum.texts ss).value.text =
      "[" ++ ", ".intercalate (ss.map Py.reprStr) ++ "]" := by
    rw [← reprs_map_str]
    rfl
  rw [htext, String.toList_append, String.toList_append, String.toList_intercalate, List.map_map]
  rfl

/-- **Which literals stand for their text.** -/
theorem body_iff_safe (verb : Verb) (d : Datum) :
    Body (d.literal verb).toList (d.meant verb).toList ↔ Safe verb d := by
  cases d with
  | text s => cases verb <;> exact body_self_iff
  | texts ss =>
    cases verb with
    | insert =>
      have hlit : (Datum.literal .insert (.texts ss)).toList =
          Quoted.escapeQuotes (Datum.escapedTexts ss).toList := String.toList_ofList
      rw [hlit, Safe, ← onlyWildcards_escapedTexts]
      exact body_escapeQuotes_iff
    | select =>
      refine ⟨?_, ?_⟩
      · intro h
        obtain ⟨hno, _⟩ := body_self_iff.mp h
        cases ss with
        | nil => rfl
        | cons s ss =>
          -- the quotes of the first string are not escaped
          have hin := infix_intercalate [',', ' ']
            (List.mem_map_of_mem (f := fun s => (Py.reprStr s).toList) (List.mem_cons_self (a := s)
              (l := ss)))
          refine absurd ?_ hno
          have hlit : Datum.literal .select (.texts (s :: ss)) =
              (Datum.texts (s :: ss)).value.text := rfl
          rw [hlit, listText_toList]
          have hmem := hin.subset (apostrophe_mem_reprStr s)
          exact List.mem_append_left _ (List.mem_cons_of_mem _ hmem)
      · intro heq
        obtain rfl := heq
        refine body_self_iff.mpr ⟨by decide, ?_⟩
        intro u w hw
        have hno : '\\' ∉ ((Datum.texts []).literal .select).toList := by decide
        exact absurd (by rw [hw]; simp) hno

/-- **Which rows `db_proc` renders faithfully**: those whose values are all safe. -/
theorem faithful_iff (verb : Verb) (t : Table) {row : Row} (hne : row ≠ []) :
    Faithful verb t row ↔ ∀ c ∈ row, Safe verb c.2 := by
  rw [faithful_iff_body verb t hne]
  exact forall₂_congr fun c _ => body_iff_safe verb c.2

/-- The column of a device identifier. -/
def deviceIdColumn : Column := ⟨"deviceId", List.all_eq_true.mp (by decide)⟩

/-- A row with one plain list is inserted as it was meant. -/
theorem faithful_list : Faithful .insert .Device [(deviceIdColumn, .texts ["a's", "b"])] := by
  refine (faithful_iff .insert .Device (by simp)).mpr ?_
  have hplain : ∀ s ∈ ["a's", "b"], PlainText s := by
    simp only [PlainText, ← List.all_eq_true]
    decide
  simpa [Safe] using hplain

/-- A string with an apostrophe is not, in either statement; nor is a list with a string of
both kinds of quotes. -/
theorem unfaithful :
    ¬ Faithful .insert .Device [(deviceIdColumn, .text "a'b")] ∧
      ¬ Faithful .select .Device [(deviceIdColumn, .text "a'b")] ∧
      ¬ Faithful .insert .Device [(deviceIdColumn, .texts ["a'b\"c"])] := by
  refine ⟨?_, ?_, ?_⟩
  · rw [faithful_iff_body .insert .Device (by simp), List.forall_mem_singleton, body_iff_safe]
    exact fun h => absurd h.1 (by decide)
  · rw [faithful_iff_body .select .Device (by simp), List.forall_mem_singleton, body_iff_safe]
    exact fun h => absurd h.1 (by decide)
  · rw [faithful_iff_body .insert .Device (by simp), List.forall_mem_singleton, body_iff_safe]
    exact fun h => absurd (h _ (List.mem_singleton.mpr rfl)).2 (by decide)

end Versatile.FlexIDMngerDb
