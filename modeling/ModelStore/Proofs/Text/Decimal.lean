import Mathlib
import ModelStore.Text.Decimal

/-! Fixed-width digits are read back as the number that they were written for. -/

namespace ModelStore.Text

theorem length_padded (width n : Nat) : (padded width n).length = width := by
  induction width generalizing n with
  | zero => rfl
  | succ width ih => rw [padded, List.length_append, ih, List.length_singleton]

theorem isDigit_digitChar {n : Nat} (bound : n < 10) : (Nat.digitChar n).isDigit = true := by
  have cases : ∀ n : Fin 10, (Nat.digitChar n).isDigit = true := by decide
  exact cases ⟨n, bound⟩

theorem toNat_digitChar {n : Nat} (bound : n < 10) : (Nat.digitChar n).toNat = 48 + n := by
  have cases : ∀ n : Fin 10, (Nat.digitChar n).toNat = 48 + n := by decide
  exact cases ⟨n, bound⟩

theorem all_isDigit_padded (width n : Nat) : (padded width n).all Char.isDigit = true := by
  induction width generalizing n with
  | zero => rfl
  | succ width ih =>
    have last := isDigit_digitChar (Nat.mod_lt n (by decide : 0 < 10))
    rw [padded, List.all_append, ih, List.all_cons, last]
    rfl

/-- The number that digits denote. -/
def digitsNumber (ds : List Char) : Nat := ds.foldl (fun n c => 10 * n + (c.toNat - 48)) 0

theorem digitsNumber_padded {width n : Nat} (bound : n < 10 ^ width) :
    digitsNumber (padded width n) = n := by
  induction width generalizing n with
  | zero =>
    have zero : n = 0 := by simpa using bound
    rw [zero]
    rfl
  | succ width ih =>
    have front : n / 10 < 10 ^ width := by
      rw [Nat.pow_succ] at bound
      omega
    have before := ih front
    have last := toNat_digitChar (Nat.mod_lt n (by decide : 0 < 10))
    rw [digitsNumber] at before
    rw [padded, digitsNumber, List.foldl_append, before, List.foldl_cons, List.foldl_nil, last]
    omega

theorem readDigits_padded {width n : Nat} (bound : n < 10 ^ width) (rest : List Char) :
    readDigits width (padded width n ++ rest) = some (n, rest) := by
  have length := length_padded width n
  have front : (padded width n ++ rest).take width = padded width n := by
    rw [List.take_append_of_le_length (Nat.le_of_eq length.symm), List.take_of_length_le]
    exact Nat.le_of_eq length
  have back : (padded width n ++ rest).drop width = rest := by
    rw [List.drop_append_of_le_length (Nat.le_of_eq length.symm), List.drop_of_length_le]
    · rfl
    · exact Nat.le_of_eq length
  have number := digitsNumber_padded bound
  rw [digitsNumber] at number
  rw [readDigits, front, back, length, all_isDigit_padded, number]
  simp only [beq_self_eq_true, Bool.and_self, if_true]

end ModelStore.Text
