import Mathlib.Algebra.Group.Nat.Defs
import Mathlib.Data.List.Basic
import Versatile.Py.Text

/-!
# Hexadecimal texts of a width

A number that fits a width is written with exactly so many digits, the last of them its
remainder, so the text tells the number (`hex_injective`). Query identifiers are such texts,
and so are the escapes of JSON.
-/

namespace Py

/-- A single digit. -/
theorem hex_one {n : Nat} (h : n < 16) : hex 1 n = [n.digitChar] := by
  rw [hex, Nat.toDigits_of_lt_base h]
  rfl

/-- **The last digit splits off.** -/
theorem hex_succ {width n : Nat} (hw : 0 < width) (h : n < 16 ^ (width + 1)) :
    hex (width + 1) n = hex width (n / 16) ++ [(n % 16).digitChar] := by
  by_cases hlt : n < 16
  · -- the digits in front are all zero
    have hdiv : n / 16 = 0 := by omega
    have hmod : n % 16 = n := by omega
    rw [hex, hex, hdiv, hmod, Nat.toDigits_of_lt_base hlt, Nat.toDigits_zero]
    obtain ⟨k, rfl⟩ : ∃ k, width = k + 1 := ⟨width - 1, by omega⟩
    simp [List.replicate_succ']
  · have hdigits : Nat.toDigits 16 n = Nat.toDigits 16 (n / 16) ++ [(n % 16).digitChar] :=
      Nat.toDigits_of_base_le (by decide) (by omega)
    simp only [hex, hdigits, List.length_append, List.length_singleton, Nat.add_sub_add_right,
      List.append_assoc]

/-- Different digits are different characters. -/
theorem digitChar_injective {n m : Nat} (hn : n < 16) (hm : m < 16)
    (h : n.digitChar = m.digitChar) : n = m := by
  have hall : ∀ i j : Fin 16, (i : Nat).digitChar = (j : Nat).digitChar → i = j := by decide
  exact congrArg Fin.val (hall ⟨n, hn⟩ ⟨m, hm⟩ h)

/-- **Numbers that fit the width have different texts.** -/
theorem hex_injective {width : Nat} : 0 < width → ∀ {n m : Nat}, n < 16 ^ width →
    m < 16 ^ width → hex width n = hex width m → n = m := by
  induction width with
  | zero => exact fun h => absurd h (by omega)
  | succ width ih =>
    intro _ n m hn hm h
    by_cases hw : width = 0
    · subst hw
      rw [Nat.zero_add, Nat.pow_one] at hn hm
      rw [hex_one hn, hex_one hm] at h
      exact digitChar_injective hn hm (List.singleton_inj.mp h)
    · have hpow : 16 ^ (width + 1) = 16 * 16 ^ width := Nat.pow_succ'
      rw [hex_succ (by omega) hn, hex_succ (by omega) hm] at h
      obtain ⟨hfront, hlast⟩ := List.append_inj' h rfl
      have hdiv : n / 16 = m / 16 := ih (by omega) (by omega) (by omega) hfront
      have hmod : n % 16 = m % 16 :=
        digitChar_injective (by omega) (by omega) (List.singleton_inj.mp hlast)
      omega

/-- The four digits of a code unit. -/
theorem hex_four {n : Nat} (h : n < 65536) : hex 4 n =
    [(n / 4096).digitChar, (n / 256 % 16).digitChar, (n / 16 % 16).digitChar,
      (n % 16).digitChar] := by
  have h256 : n / 16 / 16 = n / 256 := Nat.div_div_eq_div_mul ..
  have h4096 : n / 256 / 16 = n / 4096 := Nat.div_div_eq_div_mul ..
  rw [hex_succ (by omega) (by omega), hex_succ (by omega) (by omega),
    hex_succ (by omega) (by omega), h256, h4096, hex_one (by omega)]
  rfl

end Py
