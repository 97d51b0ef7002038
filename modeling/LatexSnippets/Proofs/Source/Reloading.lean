import LatexSnippets.Proofs.Assoc
import LatexSnippets.Proofs.Json.Fitting
import LatexSnippets.Proofs.Source.Rules

/-!
Rules that were read from a source. A priority that is read can be written, so that what is read can
be kept, and written and read again it is as it was.
-/

namespace LatexSnippets.Source

variable {path : List Text} {α β : Type}

section Integers

variable {t ds : Text} {n : Int} {v : Json} {depth : Nat}

theorem isDigit_of_plainDigits (h : plainDigits t = some ds) : ∀ c ∈ ds, c.isDigit = true := by
  obtain ⟨hg, h⟩ := Option.ite_none_right_eq_some.1 h
  obtain rfl := Option.some.inj h
  intro c hc
  obtain ⟨g, hm, hc⟩ := List.mem_flatten.1 hc
  have hg := List.all_eq_true.1 hg g hm
  rw [Bool.and_eq_true] at hg
  exact List.all_eq_true.1 hg.2 c hc

theorem length_of_integerOfText (h : integerOfText t = .ok n) :
    (Numeral.ofNat n.natAbs).length ≤ Numeral.maxDigits := by
  rw [integerOfText] at h
  split at h
  dsimp only at h
  split at h
  · contradiction
  · next ds hd =>
    obtain ⟨t', -, hd⟩ := Option.bind_eq_some_iff.1 hd
    split at h
    · contradiction
    · next hl =>
      rw [← Except.ok.inj h, Numeral.natAbs_sign]
      exact Numeral.length_ofNat_ofDigits_le (isDigit_of_plainDigits hd) (Nat.le_of_not_lt hl)

/-- A number that is taken as a floating-point number has 20 digits at most. -/
theorem length_of_integerOfDecimal {negative : Bool} {digits : Nat} {exponent : Int}
    (h : integerOfDecimal negative digits exponent = .ok n) :
    (Numeral.ofNat n.natAbs).length ≤ Numeral.maxDigits := by
  have hl (x : Float) : (Numeral.ofNat x.toUInt64.toNat).length ≤ 20 := by
    have := x.toUInt64.toNat_lt
    exact (Nat.length_toDigits_le_iff (by decide) (by decide)).2 (by omega)
  rw [integerOfDecimal] at h
  dsimp only at h
  split at h
  · contradiction
  split at h
  · contradiction
  split at h
  · rw [← Except.ok.inj h, Numeral.natAbs_sign]
    exact Nat.le_trans (hl _) (by decide)
  · contradiction

/-- An integer that is read can be written. -/
theorem length_of_integer (hv : v.Fits depth) (h : integer path v = .ok n) :
    (Numeral.ofNat n.natAbs).length ≤ Numeral.maxDigits := by
  replace h := mapError_eq_ok.1 h
  cases hv with
  | int hn =>
    rw [← Except.ok.inj h]
    exact hn
  | bool b =>
    rw [← Except.ok.inj h]
    cases b <;> decide
  | decimal => exact length_of_integerOfDecimal h
  | text => exact length_of_integerOfText h
  | null | notFinite | array | object => contradiction

end Integers

section Records

variable {check : List Text → Json → Checked α} {ms : Assoc Json} {name : Text} {v : Json} {a : α}
  {depth : Nat}

theorem and_eq_ok {x : Checked α} {y : Checked β} {a : α} {b : β} :
    x.and y = .ok (a, b) ↔ x = .ok a ∧ y = .ok b := by
  cases x <;> cases y <;> simp [Checked.and]

theorem record_eq_ok {check : List Text → Assoc Json → Checked α}
    (h : record check path v = .ok a) :
    ∃ ms, v = .object ms ∧ check path (Json.members ms) = .ok a := by
  rw [record.eq_def] at h
  split at h
  · exact ⟨_, rfl, h⟩
  · contradiction

theorem optional_eq_ok {default : α} (h : optional path ms name check default = .ok a) :
    a = default ∨ ∃ v, ms.get? name = some v ∧ check (path ++ [name]) v = .ok a := by
  rw [optional] at h
  split at h
  · exact .inl (Except.ok.inj h).symm
  · next v hv => exact .inr ⟨v, hv, h⟩

theorem fits_of_get?_members {ms : List (Text × Json)} (hm : ∀ m ∈ ms, m.2.Fits depth)
    (h : (Json.members ms).get? name = some v) : v.Fits depth := by
  rw [Json.members, Assoc.get?_ofEntries] at h
  obtain ⟨m, hf, rfl⟩ := Option.map_eq_some_iff.1 h
  exact hm m (List.mem_reverse.1 (List.mem_of_find?_eq_some hf))

theorem itemsFrom_eq_ok {i : Nat} {vs : List Json} {as : List α}
    (h : itemsFrom check i vs = .ok as) :
    ∀ a ∈ as, ∃ v ∈ vs, ∃ path, check path v = .ok a := by
  induction vs generalizing i as with
  | nil =>
    rw [← Except.ok.inj h]
    exact nofun
  | cons v vs ih =>
    obtain ⟨⟨a, as⟩, hc, rfl⟩ := map_eq_ok.1 h
    obtain ⟨ha, has⟩ := and_eq_ok.1 hc
    refine List.forall_mem_cons.2 ⟨⟨v, List.mem_cons_self, _, ha⟩, fun b hb => ?_⟩
    obtain ⟨w, hw, hc⟩ := ih has b hb
    exact ⟨w, List.mem_cons_of_mem v hw, hc⟩

/-- Every record of a source was read from a value that fits below the array it stands in. -/
theorem records_eq_ok {source : Text} {as : List α} (h : records check source = .ok as) :
    ∀ a ∈ as, ∃ v path, v.Fits 199 ∧ check path v = .ok a := by
  rw [records] at h
  split at h
  · contradiction
  · next vs hr =>
    obtain hf : ∀ v ∈ vs, Json.Fits 199 v := by
      cases Json.fits_of_read hr with
      | array hf => exact hf
    intro a ha
    obtain ⟨v, hv, path, hc⟩ := itemsFrom_eq_ok h a ha
    exact ⟨v, path, hf v hv, hc⟩
  · contradiction

/-- The priority of a record that is read can be written. -/
theorem length_priority {r : RuleRecord} (hv : v.Fits depth) (h : ruleRecord path v = .ok r) :
    (Numeral.ofNat r.priority.natAbs).length ≤ Numeral.maxDigits := by
  obtain ⟨ms, rfl, hc⟩ := record_eq_ok h
  obtain ⟨⟨trigger, template, options, priority, description⟩, hf, rfl⟩ := map_eq_ok.1 hc
  simp only [and_eq_ok] at hf
  obtain ⟨-, -, -, hp, -⟩ := hf
  show (Numeral.ofNat priority.natAbs).length ≤ Numeral.maxDigits
  obtain rfl | ⟨w, hw, hi⟩ := optional_eq_ok hp
  · decide
  · cases hv with
    | object hm => exact length_of_integer (fits_of_get?_members hm hw) hi

end Records

section Rules

variable {source : Text} {rules : List Rule}

theorem exists_of_buildFrom {i : Nat} {rs : List RuleRecord} (h : buildFrom i rs = .ok rules) :
    ∀ rule ∈ rules, ∃ r ∈ rs, r.build = .ok rule := by
  induction rs generalizing i rules with
  | nil =>
    rw [← Except.ok.inj h]
    exact nofun
  | cons r rs ih =>
    obtain ⟨rule, hb, h⟩ := bind_eq_ok.1 h
    obtain ⟨rest, hr, h⟩ := bind_eq_ok.1 h
    rw [← Except.ok.inj h]
    refine List.forall_mem_cons.2 ⟨⟨r, List.mem_cons_self, mapError_eq_ok.1 hb⟩, fun b hb => ?_⟩
    obtain ⟨r', hr', hb'⟩ := ih hr b hb
    exact ⟨r', List.mem_cons_of_mem r hr', hb'⟩

/-- What is read from a source can be kept. -/
theorem storable_of_readRules (h : readRules source = .ok rules) : ∀ r ∈ rules, r.Storable := by
  rw [readRules] at h
  split at h
  · contradiction
  · next rs hr =>
    intro rule hm
    obtain ⟨r, hr', hb⟩ := exists_of_buildFrom h rule hm
    obtain ⟨v, path, hv, hc⟩ := records_eq_ok hr r hr'
    obtain ⟨trigger, template, ht, hu, rfl⟩ := build_eq_ok hb
    exact ⟨storable_of_buildTrigger ht, storable_of_buildTemplate hu, length_priority hv hc⟩

/-- What is read from a source is written, and read again as it was. -/
theorem exists_writeRules_of_readRules (h : readRules source = .ok rules) :
    ∃ t, writeRules rules = .ok t ∧ readRules t = .ok rules := by
  obtain ⟨vs, rs, hw, hf, hr, hb⟩ := exists_ruleJsonFrom (storable_of_readRules h) 0
  have hread : Json.read dialect (Json.write false (.array vs)) = .ok (.array vs) :=
    Json.read_write false (.array fun v hv => hf v hv 197)
  refine ⟨Json.write false (.array vs), ?_, ?_⟩
  · rw [writeRules, hw]
    rfl
  · rw [readRules, records, hread]
    simp only [hr]
    exact hb 0

end Rules

end LatexSnippets.Source
