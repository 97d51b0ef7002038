import Mathlib.Algebra.Group.Nat.Defs
import Mathlib.Data.List.Basic
import LatexSnippets.Text.Numeral

/-!
Integers written in decimal, and their digits read back.
-/

namespace LatexSnippets.Numeral

variable {c : Char} {n : Nat}

theorem isDigit_of_mem_ofNat (h : c ∈ ofNat n) : c.isDigit = true :=
  Nat.isDigit_of_mem_toDigits (by decide) (by decide) h

theorem ofNat_ne_nil (n : Nat) : ofNat n ≠ [] := Nat.toDigits_ne_nil

theorem exists_ofNat (n : Nat) : ∃ c ds, ofNat n = c :: ds ∧ c.isDigit = true := by
  obtain ⟨c, ds, h⟩ := List.exists_cons_of_ne_nil (ofNat_ne_nil n)
  exact ⟨c, ds, h, isDigit_of_mem_ofNat (h ▸ List.mem_cons_self)⟩

theorem digit?_of_isDigit (h : c.isDigit = true) :
    Unicode.digit? c = some (c.toNat - '0'.toNat) := by
  have hlt : c.toNat < 128 := by
    simp only [Char.isDigit, Bool.and_eq_true, decide_eq_true_eq, UInt32.le_iff_toNat_le] at h
    exact Nat.lt_of_le_of_lt h.2 (by decide)
  rw [Unicode.digit?, if_pos hlt, if_pos h]

theorem isDecimal_of_isDigit (h : c.isDigit = true) : Unicode.isDecimal c = true := by
  rw [Unicode.isDecimal, digit?_of_isDigit h]
  rfl

theorem ofDigits_ofNat (n : Nat) : ofDigits ((ofNat n).map fun c => c.toNat - '0'.toNat) = n := by
  rw [ofDigits, List.foldl_map, ← Nat.ofDigitChars_eq_foldl, ofNat, Nat.ofDigitChars_ten_toDigits]

/-- A number is read as it is written, unless that takes too many digits. -/
theorem readDigits_ofNat (h : (ofNat n).length ≤ maxDigits) : readDigits (ofNat n) = .ok n := by
  have hd : (ofNat n).filterMap Unicode.digit? = (ofNat n).map fun c => c.toNat - '0'.toNat := by
    rw [← List.filterMap_eq_map]
    exact List.filterMap_congr fun c hc => digit?_of_isDigit (isDigit_of_mem_ofNat hc)
  rw [readDigits, if_neg (Nat.not_lt.2 h), hd, ofDigits_ofNat]

/-- Only zero is written with a zero in front. -/
theorem eq_zero_of_head?_ofNat (h : (ofNat n).head? = some '0') : n = 0 := by
  induction n using Nat.strongRecOn with
  | ind n ih =>
    by_cases hn : n < 10
    · rw [ofNat, Nat.toDigits_of_lt_base hn, List.head?_singleton, Option.some.injEq] at h
      exact Nat.digitChar_eq_zero.1 h
    · rw [ofNat, Nat.toDigits_of_base_le (by decide) (by omega), List.head?_append,
        Option.or_of_isSome (List.isSome_head?.2 Nat.toDigits_ne_nil)] at h
      have := ih (n / 10) (by omega) h
      omega

theorem length_ofNat_pow (n : Nat) : (ofNat (10 ^ n)).length = n + 1 := by
  induction n with
  | zero => rfl
  | succ n ih =>
    have h : 10 ≤ 10 ^ (n + 1) := Nat.le_self_pow (Nat.succ_ne_zero n) 10
    rw [ofNat, Nat.toDigits_of_base_le (by decide) h, List.length_append, List.length_singleton,
      Nat.pow_succ, Nat.mul_div_cancel _ (by decide)]
    exact congrArg (· + 1) ih

theorem foldl_digits_lt {ds : List Nat} (h : ∀ d ∈ ds, d < 10) (a : Nat) :
    ds.foldl (fun n d => 10 * n + d) a < (a + 1) * 10 ^ ds.length := by
  induction ds generalizing a with
  | nil => simp
  | cons d ds ih =>
    rw [List.forall_mem_cons] at h
    calc ds.foldl (fun n d => 10 * n + d) (10 * a + d)
      _ < (10 * a + d + 1) * 10 ^ ds.length := ih h.2 _
      _ ≤ (a + 1) * 10 * 10 ^ ds.length := Nat.mul_le_mul_right _ (by omega)
      _ = (a + 1) * 10 ^ (d :: ds).length := by
        rw [List.length_cons, Nat.pow_succ', Nat.mul_assoc]

theorem le_foldl_digits (ds : List Nat) (a : Nat) :
    a * 10 ^ ds.length ≤ ds.foldl (fun n d => 10 * n + d) a := by
  induction ds generalizing a with
  | nil => simp
  | cons d ds ih =>
    calc a * 10 ^ (d :: ds).length
      _ = 10 * a * 10 ^ ds.length := by
        rw [List.length_cons, Nat.pow_succ', ← Nat.mul_assoc, Nat.mul_comm a]
      _ ≤ (10 * a + d) * 10 ^ ds.length := Nat.mul_le_mul_right _ (Nat.le_add_right _ d)
      _ ≤ ds.foldl (fun n d => 10 * n + d) (10 * a + d) := ih _

variable {t : Text} {m : Int}

theorem write_eq_ok : write m = .ok t ↔ m.natAbs < 10 ^ maxDigits ∧ ofInt m = t := by
  rw [write, Nat.pow_eq]
  by_cases h : 10 ^ maxDigits ≤ m.natAbs
  · rw [if_pos h]
    exact ⟨nofun, fun h' => absurd h'.1 (Nat.not_lt.2 h)⟩
  · rw [if_neg h, Except.ok.injEq]
    exact ⟨fun h' => ⟨Nat.lt_of_not_le h, h'⟩, fun h' => h'.2⟩

theorem natAbs_sign (negative : Bool) (n : Nat) :
    (if negative then -(n : Int) else n).natAbs = n := by
  cases negative
  · exact Int.natAbs_natCast n
  · rw [if_pos rfl, Int.natAbs_neg, Int.natAbs_natCast]

/-- A number read from so few digits can be written. -/
theorem length_ofNat_ofDigits_le {ds : Text} (hd : ∀ c ∈ ds, c.isDigit = true)
    (hl : ds.length ≤ maxDigits) :
    (ofNat (ofDigits (ds.map fun c => c.toNat - '0'.toNat))).length ≤ maxDigits := by
  have hv : ∀ d ∈ ds.map fun c => c.toNat - '0'.toNat, d < 10 := by
    rw [List.forall_mem_map]
    intro c hc
    have hc := Char.isDigit_iff_toNat.1 (hd c hc)
    have h₉ : '9'.toNat = '0'.toNat + 9 := rfl
    omega
  refine (Nat.length_toDigits_le_iff (by decide) (by decide)).2 ?_
  calc ofDigits (ds.map fun c => c.toNat - '0'.toNat)
    _ < (0 + 1) * 10 ^ (ds.map fun c => c.toNat - '0'.toNat).length := foldl_digits_lt hv 0
    _ = 10 ^ ds.length := by rw [List.length_map, Nat.zero_add, Nat.one_mul]
    _ ≤ 10 ^ maxDigits := Nat.pow_le_pow_right (by decide) hl

/-- The digits and the sign. -/
theorem length_write_le (h : write m = .ok t) : t.length ≤ maxDigits + 1 := by
  obtain ⟨hm, rfl⟩ := write_eq_ok.1 h
  have hl {n : Nat} (hn : n < 10 ^ maxDigits) : (ofNat n).length ≤ maxDigits :=
    (Nat.length_toDigits_le_iff (by decide) (by decide)).2 hn
  cases m with
  | ofNat n => exact Nat.le_succ_of_le (hl hm)
  | negSucc n => exact Nat.succ_le_succ (hl hm)

end LatexSnippets.Numeral
