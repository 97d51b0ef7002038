import LatexSnippets.Proofs.Json.Grammar

/-!
What is read fits: its integers are short, and it is nested no deeper than the dialect allows.
-/

namespace LatexSnippets.Json

open Reader

variable {d : Dialect} {fuel depth : Nat} {t u : Text} {v : Json}

section Scalars

variable {negative : Bool}

theorem fits_numberOf {w ds : Text} {x : Option Int} (hw : IsDigits w)
    (hl : ds = [] → x = none → w.length ≤ Numeral.maxDigits) :
    (numberOf negative w ds x).Fits depth := by
  cases x with
  | some e => exact .decimal negative _ _
  | none =>
    rw [numberOf]
    split
    · next hd =>
      refine .int ?_
      rw [Numeral.natAbs_sign]
      exact Numeral.length_ofNat_ofDigits_le hw.isDigit (hl (List.isEmpty_iff.1 hd) rfl)
    · exact .decimal negative _ _

theorem fits_unsigned (h : unsigned negative t = .ok (v, u)) : v.Fits depth := by
  obtain hn | ⟨w, t₁, ds, t₂, x, t₃, hw, -, -, hn⟩ := unsigned_cases negative t
  · exact nomatch hn.symm.trans h
  · rw [hn] at h
    split at h
    · contradiction
    · next hl =>
      obtain ⟨rfl, -⟩ := Prod.mk.inj (Except.ok.inj h)
      refine fits_numberOf (whole?_sound hw).2.1.isDigits ?_
      rintro rfl rfl
      simpa using hl

theorem fits_scalar (h : scalar d t = .ok (v, u)) : v.Fits depth := by
  rw [scalar.eq_def] at h
  split at h
  · obtain ⟨⟨s, u'⟩, -, h⟩ := map_eq_ok.1 h
    obtain ⟨rfl, -⟩ := Prod.mk.inj h
    exact .text s
  · split at h
    · next r hr =>
      obtain ⟨⟨w, v'⟩, hm, hw⟩ := List.exists_of_findSome?_eq_some hr
      obtain ⟨u', -, rfl⟩ : ∃ u', word? w t = some u' ∧ (v', u') = r :=
        Option.map_eq_some_iff.1 hw
      obtain ⟨rfl, -⟩ := Prod.mk.inj (Except.ok.inj h)
      simp only [words, List.mem_cons, Prod.mk.injEq, List.not_mem_nil, or_false] at hm
      rcases hm with ⟨-, rfl⟩ | ⟨-, rfl⟩ | ⟨-, rfl⟩ | ⟨-, rfl⟩ | ⟨-, rfl⟩ | ⟨-, rfl⟩
      · exact .null
      · exact .bool true
      · exact .bool false
      all_goals exact .notFinite
    · obtain ⟨negative, rest, -, hn⟩ := number_cases t
      exact fits_unsigned (hn.symm.trans h)

end Scalars

section Parts

/-- What is read with so much fuel fits into the levels that were allowed. -/
structure Bounded (d : Dialect) (fuel : Nat) : Prop where
  value : ∀ {depth t v u}, Reader.value d fuel depth t = .ok (v, u) → v.Fits depth
  items : ∀ {depth t vs u}, Reader.items d fuel depth t = .ok (vs, u) → ∀ v ∈ vs, Fits depth v
  members : ∀ {depth t ms u}, Reader.members d fuel depth t = .ok (ms, u) →
    ∀ m ∈ ms, Fits depth m.2

theorem Bounded.value_succ (ih : Bounded d fuel)
    (h : Reader.value d (fuel + 1) depth t = .ok (v, u)) : v.Fits depth := by
  rw [Reader.value.eq_def] at h
  dsimp only at h
  split at h
  · split at h
    · obtain ⟨rfl, -⟩ := Prod.mk.inj (Except.ok.inj h)
      exact .array (List.forall_mem_nil _)
    · obtain ⟨⟨vs, u'⟩, hi, h⟩ := map_eq_ok.1 h
      obtain ⟨rfl, -⟩ := Prod.mk.inj h
      exact .array (ih.items hi)
  · split at h
    · obtain ⟨rfl, -⟩ := Prod.mk.inj (Except.ok.inj h)
      exact .object (List.forall_mem_nil _)
    · obtain ⟨⟨ms, u'⟩, hi, h⟩ := map_eq_ok.1 h
      obtain ⟨rfl, -⟩ := Prod.mk.inj h
      exact .object (ih.members hi)
  · contradiction
  · contradiction
  · exact fits_scalar h

theorem Bounded.items_succ (ih : Bounded d fuel) {vs : List Json}
    (h : Reader.items d (fuel + 1) depth t = .ok (vs, u)) : ∀ v ∈ vs, Fits depth v := by
  rw [Reader.items] at h
  obtain ⟨⟨v, t₁⟩, hv, h⟩ := bind_eq_ok.1 h
  dsimp only at h
  split at h
  · obtain ⟨rfl, -⟩ := Prod.mk.inj (Except.ok.inj h)
    exact List.forall_mem_singleton.2 (ih.value hv)
  · obtain ⟨⟨vs, u'⟩, hi, h⟩ := bind_eq_ok.1 h
    obtain ⟨rfl, -⟩ := Prod.mk.inj (Except.ok.inj h)
    exact List.forall_mem_cons.2 ⟨ih.value hv, ih.items hi⟩
  · contradiction

theorem Bounded.members_succ (ih : Bounded d fuel) {ms : List (Text × Json)}
    (h : Reader.members d (fuel + 1) depth t = .ok (ms, u)) : ∀ m ∈ ms, Fits depth m.2 := by
  rw [Reader.members] at h
  obtain ⟨⟨s, t₁⟩, -, h⟩ := bind_eq_ok.1 h
  obtain ⟨⟨v, t₂⟩, hv, h⟩ := bind_eq_ok.1 h
  dsimp only at h
  split at h
  · obtain ⟨rfl, -⟩ := Prod.mk.inj (Except.ok.inj h)
    exact List.forall_mem_singleton.2 (ih.value hv)
  · obtain ⟨⟨ms, u'⟩, hi, h⟩ := bind_eq_ok.1 h
    obtain ⟨rfl, -⟩ := Prod.mk.inj (Except.ok.inj h)
    exact List.forall_mem_cons.2 ⟨ih.value hv, ih.members hi⟩
  · contradiction

theorem bounded (d : Dialect) (fuel : Nat) : Bounded d fuel := by
  induction fuel with
  | zero =>
    refine ⟨fun h => ?_, fun h => ?_, fun h => ?_⟩
    · rw [Reader.value] at h
      contradiction
    · rw [Reader.items] at h
      contradiction
    · rw [Reader.members] at h
      contradiction
  | succ fuel ih => exact ⟨ih.value_succ, ih.items_succ, ih.members_succ⟩

/-- A document that is read fits the dialect. -/
theorem fits_of_read (h : read d t = .ok v) : v.Fits d.depth := by
  rw [read] at h
  obtain ⟨⟨v', u⟩, hv, h⟩ := bind_eq_ok.1 h
  dsimp only at h
  split at h
  · obtain rfl := Except.ok.inj h
    exact (bounded d _).value hv
  · contradiction

end Parts

end LatexSnippets.Json
