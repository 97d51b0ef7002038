import LatexSnippets.Unicode.Blank
import LatexSnippets.Unicode.Case

/-!
Lower case is settled: what a text becomes is its own lower case, and no character turns into a
blank or a plus sign on the way.
-/

namespace LatexSnippets.Unicode

theorem Ranges.mem_eq_false {rs : Ranges} {n : Nat} (h : ∀ r ∈ rs, ¬ (r.1 ≤ n ∧ n ≤ r.2)) :
    rs.mem n = false := by
  induction rs with
  | nil => rfl
  | cons r rs ih =>
    rw [List.forall_mem_cons] at h
    rw [mem, ih h.2, Bool.or_false]
    split
    · rfl
    · exact decide_eq_false fun hn => h.1 ⟨Nat.le_of_not_lt ‹_›, hn⟩

theorem Ranges.exists_of_mem {rs : Ranges} {n : Nat} (h : rs.mem n = true) :
    ∃ r ∈ rs, r.1 ≤ n ∧ n ≤ r.2 := by
  refine Classical.byContradiction fun hn => ?_
  rw [mem_eq_false fun r hr hb => hn ⟨r, hr, hb⟩] at h
  contradiction

/-- What can be checked for each character of the ranges holds of every blank. -/
theorem forall_isBlank {P : Char → Prop}
    (h : ∀ r ∈ blankRanges, ∀ i < r.2 + 1 - r.1, P (Char.ofNat (r.1 + i))) {c : Char}
    (hc : isBlank c = true) : P c := by
  obtain ⟨r, hr, hl, hu⟩ := Ranges.exists_of_mem hc
  have := h r hr (c.toNat - r.1) (by omega)
  rwa [Nat.add_sub_cancel' hl, Char.ofNat_toNat] at this

section Table

/-- Whether the images of a run keep off `first, first + step, …, last`: they lie apart, or they
have the other parity. -/
def CaseSpan.misses (s : CaseSpan) (first last step : Nat) : Bool :=
  (s.target + (s.last - s.first)).blt first || last.blt s.target ||
    (step % 2 == 0 && (s.step % 2 == 0 || s.first == s.last) && (s.target + first) % 2 == 1)

/-- What no character turns into: a plus sign, the two letters that are mapped apart, halves of
surrogate pairs, and blanks. -/
def excluded : Ranges :=
  (0x2B, 0x2B) :: (0x130, 0x130) :: (0x3A3, 0x3A3) :: (0xD800, 0xDFFF) :: blankRanges

theorem misses_lowerSpans :
    (lowerSpans.all fun s => lowerSpans.all fun r => s.misses r.first r.last r.step) = true := by
  decide +kernel

theorem misses_excluded :
    (lowerSpans.all fun s => (s.target + (s.last - s.first)).blt 0x110000 &&
      excluded.all fun r => s.misses r.1 r.2 1) = true := by
  decide +kernel

variable {s : CaseSpan} {c d first last step : Nat}

theorem CaseSpan.image?_eq_some : s.image? c = some d ↔
    (s.first ≤ c ∧ c ≤ s.last ∧ (c - s.first) % s.step = 0) ∧ s.target + (c - s.first) = d := by
  simp [image?, and_assoc]

theorem CaseSpan.image?_eq_none :
    s.image? c = none ↔ ¬ (s.first ≤ c ∧ c ≤ s.last ∧ (c - s.first) % s.step = 0) := by
  simp [image?]

theorem CaseSpan.not_mem_of_misses (hm : s.misses first last step = true)
    (h : s.image? c = some d) : ¬ (first ≤ d ∧ d ≤ last ∧ (d - first) % step = 0) := by
  obtain ⟨⟨h₁, h₂, h₃⟩, rfl⟩ := image?_eq_some.1 h
  rintro ⟨h₄, h₅, h₆⟩
  simp only [misses, Bool.or_eq_true, Bool.and_eq_true, beq_iff_eq, Nat.blt_eq] at hm
  obtain (hm | hm) | ⟨⟨hs, he⟩, hp⟩ := hm
  · omega
  · omega
  · have hd : (s.target + (c - s.first) - first) % 2 = 0 :=
      Nat.mod_eq_zero_of_dvd
        (Nat.dvd_trans (Nat.dvd_of_mod_eq_zero hs) (Nat.dvd_of_mod_eq_zero h₆))
    have hc : (c - s.first) % 2 = 0 := by
      rcases he with he | he
      · exact Nat.mod_eq_zero_of_dvd
          (Nat.dvd_trans (Nat.dvd_of_mod_eq_zero he) (Nat.dvd_of_mod_eq_zero h₃))
      · omega
    omega

theorem lowerCode_image (hs : s ∈ lowerSpans) (h : s.image? c = some d) : lowerCode d = d := by
  have ho : ∀ r ∈ lowerSpans, r.image? d = none := fun r hr =>
    CaseSpan.image?_eq_none.2 (CaseSpan.not_mem_of_misses
      (List.all_eq_true.1 (List.all_eq_true.1 misses_lowerSpans s hs) r hr) h)
  rw [lowerCode, List.findSome?_eq_none_iff.2 ho, Option.getD_none]
  have := CaseSpan.image?_eq_none.1 (ho ⟨0x41, 0x5A, 1, 0x61⟩ (.head _))
  grind

theorem excluded_image (hs : s ∈ lowerSpans) (h : s.image? c = some d) :
    d < 0x110000 ∧ ∀ r ∈ excluded, ¬ (r.1 ≤ d ∧ d ≤ r.2) := by
  have ht := List.all_eq_true.1 misses_excluded s hs
  rw [Bool.and_eq_true, List.all_eq_true, Nat.blt_eq] at ht
  constructor
  · obtain ⟨⟨_, _, -⟩, rfl⟩ := CaseSpan.image?_eq_some.1 h
    omega
  · intro r hr hd
    exact CaseSpan.not_mem_of_misses (ht.2 r hr) h ⟨hd.1, hd.2, Nat.mod_one _⟩

theorem lowerCode_eq_or_image (n : Nat) :
    lowerCode n = n ∨ ∃ s ∈ lowerSpans, s.image? n = some (lowerCode n) := by
  rw [lowerCode]
  split
  · split
    · next h =>
      simp only [Bool.and_eq_true, decide_eq_true_eq] at h
      refine .inr ⟨⟨0x41, 0x5A, 1, 0x61⟩, .head _, CaseSpan.image?_eq_some.2 ?_⟩
      dsimp only
      omega
    · exact .inl rfl
  · cases h : lowerSpans.findSome? (·.image? n) with
    | none => exact .inl rfl
    | some d => exact .inr (List.exists_of_findSome?_eq_some h)

end Table

/-- A character that is its own lower case wherever it stands. -/
def IsLower (c : Char) : Prop := lowerChar c = [c] ∧ c.toNat ≠ 0x3A3

/-- A character that is neither blank nor a plus sign. -/
def IsSolid (c : Char) : Prop := isBlank c = false ∧ c ≠ '+'

instance (c : Char) : Decidable (IsLower c) := inferInstanceAs (Decidable (_ ∧ _))

instance (c : Char) : Decidable (IsSolid c) := inferInstanceAs (Decidable (_ ∧ _))

theorem toNat_ofNat {n : Nat} (h : n < 0x110000) (hs : ¬ (0xD800 ≤ n ∧ n ≤ 0xDFFF)) :
    (Char.ofNat n).toNat = n := by
  have hv : n.isValidChar := by
    simp only [Nat.isValidChar]
    omega
  rw [Char.ofNat, dif_pos hv]
  rfl

theorem isLower_image {s : CaseSpan} {n d : Nat} (hs : s ∈ lowerSpans) (h : s.image? n = some d) :
    IsLower (Char.ofNat d) ∧ IsSolid (Char.ofNat d) := by
  obtain ⟨ht, he⟩ := excluded_image hs h
  have hd : (Char.ofNat d).toNat = d := toNat_ofNat ht (he (0xD800, 0xDFFF) (by decide))
  have h130 : d ≠ 0x130 := fun h => he (0x130, 0x130) (by decide) ⟨by omega, by omega⟩
  have h3A3 : d ≠ 0x3A3 := fun h => he (0x3A3, 0x3A3) (by decide) ⟨by omega, by omega⟩
  have hplus : d ≠ 0x2B := fun h => he (0x2B, 0x2B) (by decide) ⟨by omega, by omega⟩
  refine ⟨⟨?_, hd.symm ▸ h3A3⟩, ?_, ?_⟩
  · rw [lowerChar, hd, if_neg h130, lowerCode_image hs h]
  · rw [isBlank, hd]
    exact Ranges.mem_eq_false fun r hr => he r (by simp [excluded, hr])
  · rintro hc
    rw [hc] at hd
    exact hplus hd.symm

/-- What a character becomes, wherever it stands: at least one character, each of them either the
character itself or solid. -/
structure Lowers (c : Char) (piece : List Char) : Prop where
  ne_nil : piece ≠ []
  isLower : ∀ d ∈ piece, IsLower d
  eq_or_isSolid : ∀ d ∈ piece, d = c ∨ IsSolid d

theorem lowers_lowerChar {c : Char} (h : c.toNat ≠ 0x3A3) : Lowers c (lowerChar c) := by
  rw [lowerChar]
  split
  · have hl : IsLower 'i' ∧ IsLower '\u0307' := by decide +kernel
    have hs : IsSolid 'i' ∧ IsSolid '\u0307' := by decide +kernel
    refine ⟨by decide, ?_, ?_⟩ <;> rw [List.forall_mem_cons, List.forall_mem_singleton]
    · exact hl
    · exact ⟨.inr hs.1, .inr hs.2⟩
  · next h130 =>
    refine ⟨by simp, ?_, ?_⟩ <;> rw [List.forall_mem_singleton]
    all_goals rcases lowerCode_eq_or_image c.toNat with he | ⟨s, hs, hi⟩
    · rw [he, Char.ofNat_toNat, IsLower, lowerChar, if_neg h130, he, Char.ofNat_toNat]
      exact ⟨rfl, h⟩
    · exact (isLower_image hs hi).1
    · rw [he, Char.ofNat_toNat]
      exact .inl rfl
    · exact .inr (isLower_image hs hi).2

theorem lowerFrom_cons (before : List Char) (c : Char) (rest : List Char) :
    ∃ piece, Lowers c piece ∧
      lowerFrom before (c :: rest) = piece ++ lowerFrom (c :: before) rest := by
  refine ⟨_, ?_, rfl⟩
  split
  · split
    all_goals
      exact ⟨by simp, by rw [List.forall_mem_singleton]; decide +kernel,
        fun d hd => .inr (by rw [List.mem_singleton.1 hd]; decide +kernel)⟩
  · exact lowers_lowerChar ‹_›

variable {t before : List Char} {c : Char}

theorem isLower_of_mem_lowerFrom (h : c ∈ lowerFrom before t) : IsLower c := by
  induction t generalizing before with
  | nil => cases h
  | cons d t ih =>
    obtain ⟨piece, hp, he⟩ := lowerFrom_cons before d t
    rw [he, List.mem_append] at h
    exact h.elim (hp.isLower c) ih

theorem mem_or_isSolid_of_mem_lowerFrom (h : c ∈ lowerFrom before t) : c ∈ t ∨ IsSolid c := by
  induction t generalizing before with
  | nil => cases h
  | cons d t ih =>
    obtain ⟨piece, hp, he⟩ := lowerFrom_cons before d t
    rw [he, List.mem_append] at h
    rcases h with h | h
    · exact (hp.eq_or_isSolid c h).imp_left fun hc => by simp [hc]
    · exact (ih h).imp_left (.tail d)

theorem lowerFrom_of_isLower (h : ∀ c ∈ t, IsLower c) : lowerFrom before t = t := by
  induction t generalizing before with
  | nil => rfl
  | cons d t ih =>
    rw [List.forall_mem_cons] at h
    rw [lowerFrom, if_neg h.1.2, h.1.1, ih h.2, List.singleton_append]

theorem lowerFrom_cons_of_isLower (h : IsLower c) (before t : List Char) :
    lowerFrom before (c :: t) = c :: lowerFrom (c :: before) t := by
  rw [lowerFrom, if_neg h.2, h.1, List.singleton_append]

theorem mem_lowerFrom (hc : IsLower c) (h : c ∈ t) : c ∈ lowerFrom before t := by
  induction t generalizing before with
  | nil => cases h
  | cons d t ih =>
    rcases List.mem_cons.1 h with rfl | h
    · rw [lowerFrom_cons_of_isLower hc]
      exact List.mem_cons_self
    · obtain ⟨piece, -, he⟩ := lowerFrom_cons before d t
      rw [he]
      exact List.mem_append_right _ (ih h)

theorem isLower_of_isBlank (h : isBlank c = true) : IsLower c :=
  forall_isBlank (P := IsLower) (by decide +kernel) h

theorem lower_lower (t : List Char) : lower (lower t) = lower t :=
  lowerFrom_of_isLower fun _ => isLower_of_mem_lowerFrom

theorem length_le_lowerFrom (before t : List Char) : t.length ≤ (lowerFrom before t).length := by
  induction t generalizing before with
  | nil => simp
  | cons c t ih =>
    obtain ⟨piece, hp, he⟩ := lowerFrom_cons before c t
    have hl := List.length_pos_iff.2 hp.ne_nil
    have := ih (c :: before)
    rw [he, List.length_append, List.length_cons]
    omega

theorem plus_not_mem_lower (h : '+' ∉ t) : '+' ∉ lower t := fun hm =>
  (mem_or_isSolid_of_mem_lowerFrom hm).elim h fun hs => hs.2 rfl

theorem head?_lowerFrom (h : c ∈ (lowerFrom before t).head?) : c ∈ t.head? ∨ IsSolid c := by
  cases t with
  | nil => cases h
  | cons d t =>
    obtain ⟨piece, hp, he⟩ := lowerFrom_cons before d t
    rw [he, List.head?_append, Option.or_of_isSome (List.isSome_head?.2 hp.ne_nil)] at h
    exact (hp.eq_or_isSolid c (List.mem_of_mem_head? h)).imp_left fun hc => by simp [hc]

theorem getLast?_lowerFrom (h : c ∈ (lowerFrom before t).getLast?) :
    c ∈ t.getLast? ∨ IsSolid c := by
  induction t generalizing before with
  | nil => cases h
  | cons d t ih =>
    obtain ⟨piece, hp, he⟩ := lowerFrom_cons before d t
    cases t with
    | nil =>
      rw [he, lowerFrom, List.append_nil] at h
      exact (hp.eq_or_isSolid c (List.mem_of_mem_getLast? h)).imp_left fun hc => by simp [hc]
    | cons d' t =>
      have hn : lowerFrom (d :: before) (d' :: t) ≠ [] := List.ne_nil_of_length_pos
        (Nat.lt_of_lt_of_le (by simp) (length_le_lowerFrom (d :: before) (d' :: t)))
      rw [he, List.getLast?_append, Option.or_of_isSome (by simpa using hn)] at h
      rw [List.getLast?_cons_cons]
      exact ih h

end LatexSnippets.Unicode
