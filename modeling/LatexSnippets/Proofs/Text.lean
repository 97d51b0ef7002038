import LatexSnippets.Text.Line

/-!
Offsets that lie in a text, and what replacing a part of a text does to its length and to its
ends.
-/

namespace LatexSnippets.Text

variable {t w : Text} {i j k : Int}

theorem place_le (n : Nat) (i : Int) : place n i ≤ n := by
  unfold place
  split <;> omega

theorem place_eq {n : Nat} (h₀ : 0 ≤ i) (h : i ≤ n) : (place n i : Int) = i := by
  unfold place
  split <;> omega

theorem place_natCast {n l : Nat} (h : l ≤ n) : place n l = l :=
  Int.ofNat_inj.1 (place_eq (Int.natCast_nonneg l) (by omega))

@[simp] theorem length_upTo (t : Text) (i : Int) : (t.upTo i).length = place t.length i := by
  simp [upTo, place_le]

@[simp] theorem length_onward (t : Text) (i : Int) :
    (t.onward i).length = t.length - place t.length i := by
  simp [onward]

theorem upTo_natCast (t : Text) (n : Nat) : t.upTo n = t.take n := by
  rw [upTo, place, if_neg (by omega), Int.toNat_natCast, List.take_eq_take_iff]
  omega

@[simp] theorem upTo_append_onward (t : Text) (i : Int) : t.upTo i ++ t.onward i = t :=
  List.take_append_drop _ t

theorem place_left (x y : Text) : place (x ++ y).length x.length = x.length := by
  rw [List.length_append]
  have := place_eq (n := x.length + y.length) (i := x.length) (by omega) (by omega)
  omega

theorem upTo_left (x y : Text) : (x ++ y).upTo x.length = x := by
  rw [upTo, place_left, List.take_left]

theorem onward_left (x y : Text) : (x ++ y).onward x.length = y := by
  rw [onward, place_left, List.drop_left]

theorem splice_middle (x y z w : Text) :
    (x ++ (y ++ z)).splice x.length (x.length + y.length) w = x ++ (w ++ z) := by
  rw [splice, upTo_left, ← List.append_assoc x y z, ← Int.natCast_add, ← List.length_append,
    onward_left, List.append_assoc]

theorem slice_middle (x y z : Text) :
    (x ++ (y ++ z)).slice x.length (x.length + y.length) = y := by
  rw [slice, place_left, ← List.append_assoc, ← Int.natCast_add, ← List.length_append, upTo_left,
    List.drop_left]

/-- What stands before an offset, in two parts, and the rest of the text. -/
theorem exists_of_upTo_eq {x y : Text} (h₀ : 0 ≤ i) (h : i ≤ t.length) (ht : t.upTo i = x ++ y) :
    ∃ z, t = x ++ (y ++ z) ∧ i = x.length + y.length := by
  refine ⟨t.onward i, by rw [← List.append_assoc, ← ht, upTo_append_onward], ?_⟩
  rw [← place_eq h₀ h, ← length_upTo, ht, List.length_append, Int.natCast_add]

theorem length_splice (h₀ : 0 ≤ i) (hij : i ≤ j) (hj : j ≤ t.length) :
    ((t.splice i j w).length : Int) = t.length + w.length - (j - i) := by
  have hi := place_eq h₀ (Int.le_trans hij hj)
  have hj' := place_eq (Int.le_trans h₀ hij) hj
  simp only [splice, List.length_append, length_upTo, length_onward]
  omega

theorem place_splice (h₀ : 0 ≤ i) (hij : i ≤ j) (hj : j ≤ t.length) :
    place (t.splice i j w).length (i + w.length) = (t.upTo i ++ w).length := by
  have hi := place_eq h₀ (Int.le_trans hij hj)
  have hl := length_splice (w := w) h₀ hij hj
  have := place_eq (n := (t.splice i j w).length) (i := i + w.length) (by omega) (by omega)
  simp only [List.length_append, length_upTo]
  omega

theorem upTo_splice (h₀ : 0 ≤ i) (hij : i ≤ j) (hj : j ≤ t.length) :
    (t.splice i j w).upTo (i + w.length) = t.upTo i ++ w := by
  rw [upTo, place_splice h₀ hij hj, splice, List.take_left]

theorem onward_splice (h₀ : 0 ≤ i) (hij : i ≤ j) (hj : j ≤ t.length) :
    (t.splice i j w).onward (i + w.length) = t.onward j := by
  rw [onward, place_splice h₀ hij hj, splice, List.drop_left]

theorem upTo_upTo (h₀ : 0 ≤ k) (hki : k ≤ i) (hi : i ≤ t.length) :
    (t.upTo i).upTo k = t.upTo k := by
  have hp := place_eq (Int.le_trans h₀ hki) hi
  have hk := place_eq h₀ (Int.le_trans hki hi)
  have hk' := place_eq (n := place t.length i) h₀ (by omega)
  rw [upTo, length_upTo, upTo, List.take_take, upTo]
  congr 1
  omega

theorem upTo_append_slice (h₀ : 0 ≤ i) (hij : i ≤ j) (hj : j ≤ t.length) :
    t.upTo i ++ t.slice i j = t.upTo j := by
  have hi := place_eq h₀ (Int.le_trans hij hj)
  have ht : t.upTo i = (t.upTo j).take (place t.length i) := by
    rw [← upTo_natCast, hi, upTo_upTo h₀ hij hj]
  rw [ht, slice, List.take_append_drop]

theorem slice_splice (h₀ : 0 ≤ i) (hij : i ≤ j) (hj : j ≤ t.length) :
    (t.splice i j w).slice i ((t.splice i j w).length - (t.length - j)) = w := by
  have hl := length_splice (w := w) h₀ hij hj
  have hi := place_eq h₀ (Int.le_trans hij hj)
  have hi' := place_eq (n := (t.splice i j w).length) h₀ (by omega)
  rw [slice, show ((t.splice i j w).length : Int) - (t.length - j) = i + w.length by omega,
    upTo_splice h₀ hij hj]
  apply List.drop_left'
  rw [length_upTo]
  omega

/-- Replacing once more, from any place up to the end of what was put in, is replacing once. -/
theorem splice_splice {x : Text} (h₀ : 0 ≤ i) (hij : i ≤ j) (hj : j ≤ t.length) (hk : 0 ≤ k)
    (hki : k ≤ i + w.length) :
    (t.splice i j w).splice k (i + w.length) x =
      t.splice (min i k) j (w.take (k - i).toNat ++ x) := by
  have hl := length_splice (w := w) h₀ hij hj
  have hp := place_eq h₀ (Int.le_trans hij hj)
  have hpk := place_eq (n := place t.length i + w.length) hk (by omega)
  have before : (t.splice i j w).upTo k = t.upTo (min i k) ++ w.take (k - i).toNat := by
    rw [← upTo_upTo hk hki (by omega), upTo_splice h₀ hij hj]
    by_cases h : k ≤ i
    · have hn : (k - i).toNat = 0 := by omega
      rw [upTo, List.length_append, length_upTo, List.take_append_of_le_length (by simp; omega),
        show place (place t.length i + w.length) k = place (t.upTo i).length k by
          have := place_eq (n := (t.upTo i).length) hk (by simp; omega)
          omega,
        ← upTo, upTo_upTo hk h (Int.le_trans hij hj), hn, show min i k = k by omega]
      simp
    · have hn : place (place t.length i + w.length) k - place t.length i = (k - i).toNat := by
        omega
      rw [upTo, List.length_append, length_upTo, List.take_append, length_upTo, hn,
        List.take_of_length_le (by simp; omega), show min i k = i by omega]
  rw [splice, before, onward_splice h₀ hij hj, splice]
  simp

theorem bounds_findFrom {n m : Nat} (h : findFrom w n t = some m) : n ≤ m ∧ m ≤ n + t.length := by
  induction t generalizing n with
  | nil =>
    rw [findFrom] at h
    split at h
    · obtain rfl := Option.some.inj h
      simp
    · contradiction
  | cons c t ih =>
    rw [findFrom] at h
    split at h
    · obtain rfl := Option.some.inj h
      simp
    · have := ih h
      simp only [List.length_cons]
      omega

theorem isSome_findFrom {n : Nat} : (findFrom w n t).isSome ↔ w <:+: t := by
  induction t generalizing n with
  | nil => cases w <;> simp [findFrom]
  | cons c t ih =>
    rw [findFrom, List.infix_cons_iff]
    by_cases h : w.isPrefixOf (c :: t)
    · simp [h, List.isPrefixOf_iff_prefix.1 h]
    · rw [if_neg h, ih, or_iff_right]
      rwa [List.isPrefixOf_iff_prefix] at h

theorem exists_of_findFrom {n m : Nat} (h : findFrom w n t = some m) :
    ∃ x y, t = x ++ (w ++ y) ∧ m = n + x.length := by
  induction t generalizing n with
  | nil =>
    rw [findFrom] at h
    split at h
    · next hw =>
      cases h
      exact ⟨[], [], by simp [List.isEmpty_iff.1 hw], rfl⟩
    · contradiction
  | cons c t ih =>
    rw [findFrom] at h
    split at h
    · next hp =>
      cases h
      obtain ⟨y, hy⟩ := List.isPrefixOf_iff_prefix.1 hp
      exact ⟨[], y, hy.symm, rfl⟩
    · obtain ⟨x, y, rfl, rfl⟩ := ih h
      exact ⟨c :: x, y, rfl, by simp [Nat.add_assoc, Nat.add_comm 1]⟩

/-- The first occurrence is found at the latest where one is known. -/
theorem findFrom_le (x y : Text) (n : Nat) :
    ∃ m, findFrom w n (x ++ (w ++ y)) = some m ∧ m ≤ n + x.length := by
  induction x generalizing n with
  | nil =>
    cases hw : w ++ y with
    | nil =>
      obtain ⟨rfl, rfl⟩ := List.append_eq_nil_iff.1 hw
      exact ⟨n, rfl, Nat.le_refl n⟩
    | cons c t =>
      have hp : w.isPrefixOf (c :: t) = true := List.isPrefixOf_iff_prefix.2 ⟨y, hw⟩
      exact ⟨n, by rw [List.nil_append, findFrom, if_pos hp], Nat.le_refl n⟩
  | cons c x ih =>
    rw [List.cons_append, findFrom]
    split
    · exact ⟨n, rfl, Nat.le_add_right n _⟩
    · obtain ⟨m, hm, hle⟩ := ih (n + 1)
      exact ⟨m, hm, by rw [List.length_cons]; omega⟩

section Finding

variable {l m : Nat}

theorem find?_eq_some (h : t.find? w l = some m) :
    ∃ x y, t = x ++ (w ++ y) ∧ m = x.length ∧ l ≤ m := by
  rw [find?] at h
  split at h
  · contradiction
  · next hl =>
    have hl : l ≤ t.length := by omega
    rw [onward, place_natCast hl] at h
    obtain ⟨x, y, hx, rfl⟩ := exists_of_findFrom h
    refine ⟨t.take l ++ x, y, ?_, ?_, Nat.le_add_right l _⟩
    · rw [List.append_assoc, ← hx, List.take_append_drop]
    · rw [List.length_append, List.length_take, Nat.min_eq_left hl]

theorem find?_le {x : Text} (y : Text) (hl : l ≤ x.length) :
    ∃ m, Text.find? (x ++ (w ++ y)) w l = some m ∧ m ≤ x.length := by
  have hl' : l ≤ (x ++ (w ++ y)).length := by
    rw [List.length_append]
    omega
  obtain ⟨m, hm, hle⟩ := findFrom_le (w := w) (x.drop l) y l
  refine ⟨m, ?_, ?_⟩
  · rw [find?, if_neg (by omega), onward, place_natCast hl', List.drop_append_of_le_length hl, hm]
  · rw [List.length_drop] at hle
    omega

end Finding

/-- What does not begin in the first part of a text lies in the second. -/
theorem infix_of_infix_append {c : Char} {x y : Text} (hc : c ∉ x) (h : c :: w <:+: x ++ y) :
    c :: w <:+: y := by
  induction x with
  | nil => exact h
  | cons d x ih =>
    rw [List.mem_cons, not_or] at hc
    rcases List.infix_cons_iff.1 h with h | h
    · exact absurd (List.cons_prefix_cons.1 h).1 hc.1
    · exact ih hc.2 h

/-- What does not end in the second part of a text lies in the first. -/
theorem infix_of_append_infix {c : Char} {x y : Text} (hc : c ∉ y) (h : w ++ [c] <:+: x ++ y) :
    w ++ [c] <:+: x := by
  rw [← List.reverse_infix, List.reverse_append, List.reverse_append] at h
  rw [← List.reverse_infix, List.reverse_append]
  exact infix_of_infix_append (by simpa using hc) h

section Splitting

variable {sep : Char} {x : Text}

theorem splitAt_append (h : sep ∉ x) (y : Text) :
    splitAt sep (x ++ sep :: y) = x :: splitAt sep y := by
  induction x with
  | nil => simp [splitAt]
  | cons c x ih =>
    rw [List.mem_cons, not_or] at h
    rw [List.cons_append, splitAt, if_neg (Ne.symm h.1), ih h.2]

theorem splitAt_of_not_mem (h : sep ∉ x) : splitAt sep x = [x] := by
  induction x with
  | nil => rfl
  | cons c x ih =>
    rw [List.mem_cons, not_or] at h
    rw [splitAt, if_neg (Ne.symm h.1), ih h.2]

theorem splitAt_joinWith {pieces : List Text} (hn : pieces ≠ []) (h : ∀ p ∈ pieces, sep ∉ p) :
    splitAt sep (joinWith [sep] pieces) = pieces := by
  induction pieces with
  | nil => contradiction
  | cons p pieces ih =>
    rw [List.forall_mem_cons] at h
    cases pieces with
    | nil => rw [joinWith, List.intercalate_singleton, splitAt_of_not_mem h.1]
    | cons q pieces =>
      rw [joinWith, List.intercalate_cons_cons, List.append_assoc, List.singleton_append,
        splitAt_append h.1]
      exact congrArg (p :: ·) (ih (List.cons_ne_nil q pieces) h.2)

end Splitting

theorem lineStart_le (h₀ : 0 ≤ i) (h : i ≤ t.length) : (t.lineStart i : Int) ≤ i := by
  have := place_eq h₀ h
  simp only [lineStart, length_upTo]
  omega

theorem le_lineEnd (h₀ : 0 ≤ i) (h : i ≤ t.length) :
    i ≤ t.lineEnd i ∧ t.lineEnd i ≤ t.length := by
  have hp := place_eq h₀ h
  simp only [lineEnd, find?, if_neg (Int.not_lt.2 h)]
  cases hf : findFrom ['\n'] (place t.length i) (t.onward i) with
  | none => simp [h]
  | some m =>
    have := bounds_findFrom hf
    rw [length_onward] at this
    simp only [Option.getD_some]
    omega

end LatexSnippets.Text
