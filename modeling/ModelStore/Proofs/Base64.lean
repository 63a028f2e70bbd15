import Mathlib
import ModelStore.Base64

/-! Base 64 text is decoded to the bytes that it was encoded from. -/

namespace ModelStore.Base64

theorem digitValue?_digit {n : Nat} (bound : n < 64) : digitValue? (digit n) = some n := by
  have cases : ∀ n : Fin 64, digitValue? (digit n) = some n.val := by decide
  exact cases ⟨n, bound⟩

theorem digit_ne_pad {n : Nat} (bound : n < 64) : (digit n == '=') = false := by
  have cases : ∀ n : Fin 64, (digit n == '=') = false := by decide
  exact cases ⟨n, bound⟩

theorem toNat_digit_lt {n : Nat} (bound : n < 64) : (digit n).toNat < 128 := by
  have cases : ∀ n : Fin 64, (digit n).toNat < 128 := by decide
  exact cases ⟨n, bound⟩

theorem ofNat_eq {a : UInt8} {n : Nat} (same : n = a.toNat) : UInt8.ofNat n = a := by
  rw [same]
  exact UInt8.ofNat_toNat

theorem decodeFrom_encode (bs : List UInt8) (pads written : Nat) :
    decodeFrom .first pads written (encode bs) = .ok bs := by
  induction bs using encode.induct generalizing pads written with
  | case1 => rfl
  | case2 a =>
    have byte := a.toNat_lt
    have first : a.toNat / 4 < 64 := by omega
    have second : a.toNat % 4 * 16 < 64 := by omega
    have value : a.toNat / 4 * 4 + a.toNat % 4 * 16 / 16 = a.toNat := by omega
    simp only [encode, decodeFrom, digit_ne_pad first, digit_ne_pad second, digitValue?_digit first,
      digitValue?_digit second, Bool.false_eq_true, if_false, beq_self_eq_true, if_true]
    rw [ofNat_eq value]
    rfl
  | case3 a b =>
    have byte := a.toNat_lt
    have byte' := b.toNat_lt
    have first : a.toNat / 4 < 64 := by omega
    have second : a.toNat % 4 * 16 + b.toNat / 16 < 64 := by omega
    have third : b.toNat % 16 * 4 < 64 := by omega
    have value : a.toNat / 4 * 4 + (a.toNat % 4 * 16 + b.toNat / 16) / 16 = a.toNat := by omega
    have value' : (a.toNat % 4 * 16 + b.toNat / 16) % 16 * 16 + b.toNat % 16 * 4 / 4 = b.toNat := by
      omega
    simp only [encode, decodeFrom, digit_ne_pad first, digit_ne_pad second, digit_ne_pad third,
      digitValue?_digit first, digitValue?_digit second, digitValue?_digit third, Bool.false_eq_true,
      if_false, beq_self_eq_true, if_true]
    rw [ofNat_eq value, ofNat_eq value']
    rfl
  | case4 a b c rest ih =>
    have byte := a.toNat_lt
    have byte' := b.toNat_lt
    have byte'' := c.toNat_lt
    have first : a.toNat / 4 < 64 := by omega
    have second : a.toNat % 4 * 16 + b.toNat / 16 < 64 := by omega
    have third : b.toNat % 16 * 4 + c.toNat / 64 < 64 := by omega
    have fourth : c.toNat % 64 < 64 := by omega
    have value : a.toNat / 4 * 4 + (a.toNat % 4 * 16 + b.toNat / 16) / 16 = a.toNat := by omega
    have value' : (a.toNat % 4 * 16 + b.toNat / 16) % 16 * 16 + (b.toNat % 16 * 4 + c.toNat / 64) / 4 =
        b.toNat := by omega
    have value'' : (b.toNat % 16 * 4 + c.toNat / 64) % 4 * 64 + c.toNat % 64 = c.toNat := by omega
    simp only [encode, decodeFrom, digit_ne_pad first, digit_ne_pad second, digit_ne_pad third,
      digit_ne_pad fourth, digitValue?_digit first, digitValue?_digit second, digitValue?_digit third,
      digitValue?_digit fourth, Bool.false_eq_true, if_false, ih]
    rw [ofNat_eq value, ofNat_eq value', ofNat_eq value'']
    rfl

theorem decode_encode (bs : List UInt8) : decode (encode bs) = .ok bs := decodeFrom_encode bs 0 0

theorem encode_ascii (bs : List UInt8) : ∀ c ∈ encode bs, c.toNat < 128 := by
  induction bs using encode.induct with
  | case1 => exact fun _ member => nomatch member
  | case2 a =>
    have byte := a.toNat_lt
    intro c member
    simp only [encode, List.mem_cons, List.not_mem_nil, or_false] at member
    rcases member with rfl | rfl | rfl | rfl
    · exact toNat_digit_lt (by omega)
    · exact toNat_digit_lt (by omega)
    · decide
    · decide
  | case3 a b =>
    have byte := a.toNat_lt
    have byte' := b.toNat_lt
    intro c member
    simp only [encode, List.mem_cons, List.not_mem_nil, or_false] at member
    rcases member with rfl | rfl | rfl | rfl
    · exact toNat_digit_lt (by omega)
    · exact toNat_digit_lt (by omega)
    · exact toNat_digit_lt (by omega)
    · decide
  | case4 a b c rest ih =>
    have byte := a.toNat_lt
    have byte' := b.toNat_lt
    have byte'' := c.toNat_lt
    intro x member
    simp only [encode, List.mem_cons] at member
    rcases member with rfl | rfl | rfl | rfl | later
    · exact toNat_digit_lt (by omega)
    · exact toNat_digit_lt (by omega)
    · exact toNat_digit_lt (by omega)
    · exact toNat_digit_lt (by omega)
    · exact ih x later

end ModelStore.Base64
