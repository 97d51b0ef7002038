import LatexSnippets.Proofs.Latex.Operand

/-!
Where the scan for an operand stops. Nothing behind the caret counts, and a scan from the start of
an operand stays there. Letters of a relation have the form of a unit but belong to no operand; with
that one exception, an operand reaches back over everything that has the form of a unit.
-/

namespace LatexSnippets.Latex

namespace Operand

/-- What has the form of a unit, with no regard to a backslash that makes letters a command: a unit,
letters that reach as far back as letters go, or a single character of a word. -/
inductive UnitLike (before : Text) : Text → Prop
  | unit {w} : FormsUnit before w → UnitLike before w
  | letters {w} : w ≠ [] → (∀ c ∈ w, Unicode.isAlpha c = true) →
      (∀ c ∈ before.getLast?, Unicode.isAlpha c = false) → UnitLike before w
  | char {c} : isUnit c = true → UnitLike before [c]

/-- The text behind `before` is the name of a relation or an end of it. -/
def InRelation (before w : Text) : Prop :=
  ∃ x name, before ++ w = x ++ '\\' :: name ∧ isRelation name = true ∧ w <:+ name

variable {c : Char} {t before w : Text}

/-- A character of a word ends a unit, unless it ends the name of a relation. -/
theorem exists_relation (hc : isUnit c = true) (h : unitLength? (c :: t.reverse) = none) :
    ∃ x name, t ++ [c] = x ++ '\\' :: name ∧ isRelation name = true := by
  by_cases ha : Unicode.isAlpha c = true
  · obtain ⟨name, rest, ht, hn, hname, hrest⟩ := exists_letters t.reverse ha
    rw [ht, unitLength?_letters rest hn hname hrest] at h
    split at h
    · next hb =>
      obtain ⟨rest, rfl⟩ := List.head?_eq_some_iff.1 hb
      refine ⟨rest.reverse, name, ?_, by simpa using h⟩
      simpa using congrArg List.reverse ht
    · contradiction
  · simp [unitLength?, opener?_of_isUnit hc, ha, hc] at h

theorem inRelation_of_isUnit (hw : w ≠ []) (hu : ∀ c ∈ w, isUnit c = true)
    (h : unitLength? (before ++ w).reverse = none) : InRelation before w := by
  obtain ⟨v, c, rfl⟩ := (List.eq_nil_or_concat' w).resolve_left hw
  rw [← List.append_assoc, List.reverse_concat] at h
  obtain ⟨x, name, ht, hr⟩ := exists_relation (hu c (by simp)) h
  rw [List.append_assoc] at ht
  refine ⟨x, name, ht, hr, ?_⟩
  -- Else the backslash before the name would be one of the characters of the word.
  obtain hs | hs := List.suffix_or_suffix_of_suffix (List.suffix_append before (v ++ [c]))
    (ht ▸ List.suffix_append x ('\\' :: name))
  · obtain hs | hs := List.suffix_cons_iff.1 hs
    · exact absurd (hu '\\' (hs ▸ List.mem_cons_self)) (by decide)
    · exact hs
  · exact absurd (hu '\\' (hs.subset List.mem_cons_self)) (by decide)

theorem UnitLike.inRelation (h : UnitLike before w)
    (hn : unitLength? (before ++ w).reverse = none) : InRelation before w := by
  cases h with
  | unit h => exact absurd h (unitLength?_eq_none hn)
  | letters hw ha => exact inRelation_of_isUnit hw (fun c hc => isUnit_of_isAlpha (ha c hc)) hn
  | char hc => exact inRelation_of_isUnit (by simp) (by simpa using hc) hn

/-- An operand starts where no unit ends. -/
theorem exists_start (t : Text) : ∃ before w, t = before ++ w ∧ start t = before.length ∧
    Chain before w ∧ unitLength? before.reverse = none := by
  obtain ⟨before, w, ht, hl, hc, hm⟩ := exists_chain (Nat.le_refl t.length)
  refine ⟨before, w, ht, ?_, hc, ?_⟩
  · rw [start, hl, ht, List.length_append, Nat.add_sub_cancel]
  · by_contra hn
    obtain ⟨n, hn⟩ := Option.ne_none_iff_exists'.1 hn
    obtain ⟨x, u, hx, -, hu⟩ := formsUnit_of_unitLength? hn
    exact hm x u (List.reverse_injective hx) hu

theorem start_of_unitLength? (h : unitLength? t.reverse = none) : start t = t.length := by
  obtain ⟨before, w, rfl, hs, hc, -⟩ := exists_start t
  rw [hs]
  cases hc with
  | nil => rw [List.append_nil]
  | snoc hc hu =>
    rw [← List.append_assoc] at h
    exact absurd hu (unitLength?_eq_none h)

end Operand

variable {t : Text} {caret : Int}

/-- The operand before the caret is a chain of units and depends on nothing else. Scanned again from
its start, it has no further unit there, and only letters of a relation have the form of one. -/
theorem operandStart_scans (h₀ : 0 ≤ caret) (h₁ : caret ≤ t.length) :
    ∃ s : Nat, operandStart t caret = .ok (s : Int) ∧ (s : Int) ≤ caret ∧
      (∀ t' : Text, caret ≤ t'.length → t'.upTo caret = t.upTo caret →
        operandStart t' caret = .ok (s : Int)) ∧
      operandStart t s = .ok (s : Int) ∧
      Operand.Chain (t.upTo s) (t.slice s caret) ∧
      ∀ before w, t.upTo s = before ++ w → Operand.UnitLike before w →
        Operand.InRelation before w := by
  obtain ⟨before, w, hb, hs, hc, hn⟩ := Operand.exists_start (t.upTo caret)
  obtain ⟨after, rfl, hcaret⟩ := Text.exists_of_upTo_eq h₀ h₁ hb
  refine ⟨before.length, ?_, by omega, ?_, ?_, ?_, ?_⟩
  · rw [operandStart_eq h₀ h₁, hs]
  · intro t' h₁' ht'
    rw [operandStart_eq h₀ h₁', ht', hs]
  · rw [operandStart_eq (Int.natCast_nonneg _) (by omega), Text.upTo_left,
      Operand.start_of_unitLength? hn]
  · rwa [hcaret, Text.upTo_left, Text.slice_middle]
  · rw [Text.upTo_left]
    rintro x u rfl hu
    exact hu.inRelation hn

/-- A group and a letter behind a relation. -/
theorem operandStart_scans_behind_relation :
    operandStart "\\le(a+b)x" 9 = .ok 3 ∧ operandStart "\\le(a+b)x" 3 = .ok 3 ∧
      Operand.Chain "\\le" "(a+b)x" := by
  have h : operandStart "\\le(a+b)x" 9 = .ok 3 := by decide +kernel
  obtain ⟨s, hs, -, -, hfix, hc, -⟩ := operandStart_scans (t := "\\le(a+b)x")
    (by decide : (0 : Int) ≤ 9) (by decide)
  obtain rfl : s = 3 := by
    rw [h] at hs
    exact (Int.ofNat.inj (Except.ok.inj hs)).symm
  exact ⟨h, hfix, hc⟩

/-- The letters of a relation have the form of a unit, but no operand takes them. -/
theorem operand_leaves_relation :
    ¬∀ (t : Text) (caret : Int) (s : Nat), 0 ≤ caret → caret ≤ t.length →
      operandStart t caret = .ok (s : Int) →
      ∀ before w, t.upTo s = before ++ w → ¬Operand.UnitLike before w := by
  intro h
  refine h "\\le" 3 3 (by decide) (by decide) (by decide +kernel) ['\\'] ['l', 'e'] rfl ?_
  refine .letters nofun (List.forall_mem_cons.2 ⟨by decide, List.forall_mem_singleton.2 ?_⟩) ?_
  · decide
  · intro c hc
    obtain rfl := Option.some.inj hc
    decide

end LatexSnippets.Latex
