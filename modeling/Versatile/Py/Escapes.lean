import Versatile.Py.Text

/-!
# Where Python's texts have backslashes

`unicode_escape` leaves printable ASCII as it is and puts a backslash in front of everything
else; `repr` doubles backslashes and escapes its own quotes. So the text of an escaped string
has a backslash exactly where the string has a character that is not plain, or both kinds of
quotes.
-/

namespace Py

/-- A printable ASCII character other than the backslash. -/
def isPlain (c : Char) : Bool := c != '\\' && 32 ≤ c.toNat && c.toNat < 127

/-- A plain string without a mix of quotes. -/
def PlainText (s : String) : Prop :=
  (∀ c ∈ s.toList, isPlain c = true) ∧ ¬ (apostrophe ∈ s.toList ∧ '"' ∈ s.toList)

/-- A plain character is not escaped. -/
theorem escapeChar_plain {c : Char} (h : isPlain c = true) : escapeChar c = [c] := by
  simp only [isPlain, Bool.and_eq_true, bne_iff_ne, decide_eq_true_eq] at h
  obtain ⟨⟨hb, hlo⟩, hhi⟩ := h
  have hne : ∀ d : Char, d.toNat < 32 → c ≠ d := by
    intro d hd heq
    obtain rfl := heq
    omega
  rw [escapeChar, if_neg hb, if_neg (hne '\t' (by decide)), if_neg (hne '\n' (by decide)),
    if_neg (hne '\r' (by decide)), if_pos ⟨hlo, hhi⟩]

/-- Any other character is written behind a backslash. -/
theorem escapeChar_not_plain {c : Char} (h : isPlain c = false) : '\\' ∈ escapeChar c := by
  unfold escapeChar
  split_ifs with hb ht hn hr hp
  · simp
  · simp
  · simp
  · simp
  · rw [isPlain] at h
    simp [hb, hp] at h
  all_goals simp

/-- `repr` writes a backslash only in front of a letter, a quote or a backslash. -/
theorem reprChar_backslash {q c : Char} (h : '\\' ∈ reprChar q c) :
    ∃ d rest, reprChar q c = '\\' :: d :: rest ∧ (d = '\\' ∨ d = q ∨ d ∈ ['t', 'n', 'r', 'x']) := by
  unfold reprChar at h ⊢
  split_ifs at h ⊢ with hc ht hn hr hx
  · rcases hc with rfl | rfl
    · exact ⟨'\\', [], rfl, Or.inl rfl⟩
    · exact ⟨c, [], rfl, Or.inr (Or.inl rfl)⟩
  · exact ⟨'t', [], rfl, by simp⟩
  · exact ⟨'n', [], rfl, by simp⟩
  · exact ⟨'r', [], rfl, by simp⟩
  · exact ⟨'x', _, rfl, by simp⟩
  · exact absurd (Or.inl (List.mem_singleton.mp h).symm) hc

/-- A plain character is escaped by `repr` only if it is the quote. -/
theorem reprChar_plain {q c : Char} (h : isPlain c = true) :
    '\\' ∈ reprChar q c ↔ c = q := by
  simp only [isPlain, Bool.and_eq_true, bne_iff_ne, decide_eq_true_eq] at h
  obtain ⟨⟨hb, hlo⟩, hhi⟩ := h
  have hne : ∀ d : Char, d.toNat < 32 → c ≠ d := by
    intro d hd heq
    obtain rfl := heq
    omega
  by_cases hq : c = q
  · rw [reprChar, if_pos (Or.inr hq)]
    simp [hq]
  · rw [reprChar, if_neg (by simp [hb, hq]), if_neg (hne '\t' (by decide)),
      if_neg (hne '\n' (by decide)), if_neg (hne '\r' (by decide)), if_neg (by omega)]
    simp [hq, Ne.symm hb]

/-- The quotes around a text are its own only if it has both kinds. -/
theorem reprQuote_mem_iff (s : String) :
    reprQuote s ∈ s.toList ↔ apostrophe ∈ s.toList ∧ '"' ∈ s.toList := by
  unfold reprQuote
  split
  · rename_i h
    exact ⟨fun hq => absurd hq h.2, fun hq => absurd hq.2 h.2⟩
  · rename_i h
    refine ⟨?_, ?_⟩
    · intro ha
      refine ⟨ha, ?_⟩
      by_contra hd
      exact h ⟨ha, hd⟩
    · exact fun h => h.1

/-- The characters between the quotes of `repr`. -/
theorem reprStr_toList (s : String) :
    (reprStr s).toList =
      reprQuote s :: s.toList.flatMap (reprChar (reprQuote s)) ++ [reprQuote s] :=
  String.toList_ofList

theorem backslash_mem_reprStr (s : String) :
    '\\' ∈ (reprStr s).toList ↔ ∃ c ∈ s.toList, '\\' ∈ reprChar (reprQuote s) c := by
  have hq : ('\\' : Char) ≠ reprQuote s := by
    unfold reprQuote
    split <;> decide
  rw [reprStr_toList]
  simp [hq]

/-- **The text of an escaped string has no backslash** exactly if the string is plain. -/
theorem backslash_not_mem_escaped (s : String) :
    '\\' ∉ (reprStr (unicodeEscape s)).toList ↔ PlainText s := by
  rw [backslash_mem_reprStr]
  by_cases hplain : ∀ c ∈ s.toList, isPlain c = true
  · have hsame : unicodeEscape s = s := by
      have hflat : s.toList.flatMap escapeChar = s.toList.flatMap fun c => [c] :=
        List.flatMap_congr fun c hc => escapeChar_plain (hplain c hc)
      rw [unicodeEscape, hflat, List.flatMap_singleton', String.ofList_toList]
    rw [hsame, PlainText, ← reprQuote_mem_iff]
    refine ⟨?_, ?_⟩
    · intro h
      exact ⟨hplain, fun hq => h ⟨_, hq, (reprChar_plain (hplain _ hq)).mpr rfl⟩⟩
    · intro hsome hgiven
      obtain ⟨_, hq⟩ := hsome
      obtain ⟨c, hc, hb⟩ := hgiven
      rw [(reprChar_plain (hplain c hc)).mp hb] at hc
      exact hq hc
  · refine ⟨fun h => absurd ?_ h, fun h => absurd h.1 hplain⟩
    -- the backslash of an escaped character is doubled
    obtain ⟨c, hc, hnot⟩ : ∃ c ∈ s.toList, isPlain c = false := by simpa using hplain
    refine ⟨'\\', ?_, by simp [reprChar]⟩
    rw [unicodeEscape, String.toList_ofList]
    exact List.mem_flatMap.mpr ⟨c, hc, escapeChar_not_plain hnot⟩

/-- The text of a string has an apostrophe: one of its quotes, or one of its characters. -/
theorem apostrophe_mem_reprStr (s : String) : apostrophe ∈ (reprStr s).toList := by
  rw [reprStr_toList]
  by_cases h : apostrophe ∈ s.toList ∧ '"' ∉ s.toList
  · have hq : reprQuote s = '"' := by rw [reprQuote, if_pos h]
    have hmem : apostrophe ∈ s.toList.flatMap (reprChar '"') :=
      List.mem_flatMap.mpr ⟨apostrophe, h.1, by decide⟩
    rw [hq]
    simp [hmem]
  · have hq : reprQuote s = apostrophe := by rw [reprQuote, if_neg h]
    rw [hq]
    simp

/-- The texts of some strings. -/
theorem reprs_map_str (ss : List String) : Value.reprs (ss.map .str) = ss.map reprStr := by
  induction ss with
  | nil => rfl
  | cons s ss ih => rw [List.map_cons, Value.reprs, ih]; rfl

end Py
