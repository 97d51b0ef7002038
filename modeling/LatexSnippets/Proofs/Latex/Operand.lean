import Mathlib.Data.List.Infix
import Mathlib.Data.List.TakeWhile
import LatexSnippets.Latex.Operand
import LatexSnippets.Proofs.Text

/-!
The operand of a fraction is the longest chain of units that ends at the caret. Letters take the
backslash before them along, or stop at it together; so a backslash that stands right before an
operand is followed by something else: a bracket group, a single character of a word, or another
backslash.
-/

namespace LatexSnippets.Latex

namespace Operand

/-- As many opening as closing brackets, and at no end of the text more opening ones. -/
structure Balanced (opening closing : Char) (inner : Text) : Prop where
  count_eq : List.count opening inner = List.count closing inner
  suffix_le : ∀ u, u <:+ inner → List.count opening u ≤ List.count closing u

/-- What counts as one unit behind `before`. -/
inductive FormsUnit (before : Text) : Text → Prop
  | group {opening closing inner} : opener? closing = some opening →
      Balanced opening closing inner → FormsUnit before (opening :: (inner ++ [closing]))
  | command {name} : name ≠ [] → (∀ c ∈ name, Unicode.isAlpha c = true) →
      isRelation name = false → FormsUnit before ('\\' :: name)
  | letters {w} : w ≠ [] → (∀ c ∈ w, Unicode.isAlpha c = true) →
      (∀ c ∈ before.getLast?, Unicode.isAlpha c = false ∧ c ≠ '\\') → FormsUnit before w
  | char {c} : opener? c = none → Unicode.isAlpha c = false → isUnit c = true →
      FormsUnit before [c]

/-- Units that follow each other behind `before`. -/
inductive Chain (before : Text) : Text → Prop
  | nil : Chain before []
  | snoc {w u} : Chain before w → FormsUnit (before ++ w) u → Chain before (w ++ u)

/-- Read backwards, the text between `d` closing brackets and the opening one that leaves none of
them open. -/
structure Closes (opening closing : Char) (d : Nat) (v : Text) : Prop where
  count_eq : List.count opening v + 1 = List.count closing v + d
  prefix_lt : ∀ u, u <+: v → List.count opening u < List.count closing u + d

variable {opening closing c : Char} {t before v w : Text} {n d : Nat}

theorem Closes.pos (h : Closes opening closing d v) : 0 < d := by
  simpa using h.prefix_lt [] List.nil_prefix

theorem closes_nil : Closes opening closing d [] ↔ d = 1 := by
  constructor
  · intro h
    simpa using h.count_eq.symm
  · rintro rfl
    exact ⟨rfl, fun u hu => by simp [List.prefix_nil.1 hu]⟩

theorem closes_cons : Closes opening closing d (c :: v) ↔ 0 < d ∧
    ∃ d', d' + (if c = opening then 1 else 0) = d + (if c = closing then 1 else 0) ∧
      Closes opening closing d' v := by
  have hone : (if c = opening then 1 else 0) ≤ 1 := by split <;> decide
  constructor
  · intro h
    refine ⟨h.pos, d + (if c = closing then 1 else 0) - (if c = opening then 1 else 0), ?_, ?_,
      fun u hu => ?_⟩
    · have := h.pos
      omega
    · have := h.pos
      have := h.count_eq
      simp only [List.count_cons, beq_iff_eq] at this
      omega
    · have := h.pos
      have := h.prefix_lt (c :: u) (List.cons_prefix_cons.2 ⟨rfl, hu⟩)
      simp only [List.count_cons, beq_iff_eq] at this
      omega
  · rintro ⟨hd, d', hd', h⟩
    refine ⟨?_, fun u hu => ?_⟩
    · have := h.count_eq
      simp only [List.count_cons, beq_iff_eq]
      omega
    · obtain rfl | ⟨u, rfl, hv⟩ := List.prefix_cons_iff.1 hu
      · simpa using hd
      · have := h.prefix_lt u hv
        simp only [List.count_cons, beq_iff_eq]
        omega

theorem groupLength?_cons : groupLength? opening closing d (c :: t) =
    if c = closing then (groupLength? opening closing (d + 1) t).map (· + 1)
    else if c = opening then
      if d ≤ 1 then some 1 else (groupLength? opening closing (d - 1) t).map (· + 1)
    else (groupLength? opening closing d t).map (· + 1) := by
  match d with
  | 0 => rfl
  | 1 => rfl
  | _ + 2 => rfl

theorem groupLength?_of_closes (hb : opening ≠ closing) (h : Closes opening closing d v)
    (rest : Text) :
    groupLength? opening closing d (v ++ opening :: rest) = some (v.length + 1) := by
  induction v generalizing d with
  | nil =>
    obtain rfl := closes_nil.1 h
    simp [groupLength?_cons, hb]
  | cons c v ih =>
    obtain ⟨-, d', hd, hv⟩ := closes_cons.1 h
    rw [List.cons_append, groupLength?_cons]
    by_cases hc : c = closing
    · obtain rfl : d' = d + 1 := by simpa [hc, hb.symm] using hd
      rw [if_pos hc, ih hv]
      rfl
    · by_cases ho : c = opening
      · obtain rfl : d' + 1 = d := by simpa [ho, hb] using hd
        rw [if_neg hc, if_pos ho, if_neg (by have := hv.pos; omega), Nat.add_sub_cancel, ih hv]
        rfl
      · obtain rfl : d' = d := by simpa [hc, ho] using hd
        rw [if_neg hc, if_neg ho, ih hv]
        rfl

theorem closes_of_groupLength? (hb : opening ≠ closing) (hd : 0 < d)
    (h : groupLength? opening closing d t = some n) :
    ∃ v rest, t = v ++ opening :: rest ∧ n = v.length + 1 ∧ Closes opening closing d v := by
  induction t generalizing d n with
  | nil => simp [groupLength?] at h
  | cons c t ih =>
    have further {d'} (hd' : 0 < d') (h : (groupLength? opening closing d' t).map (· + 1) = some n)
        (hn : d' + (if c = opening then 1 else 0) = d + (if c = closing then 1 else 0)) :
        ∃ v rest, c :: t = v ++ opening :: rest ∧ n = v.length + 1 ∧
          Closes opening closing d v := by
      obtain ⟨m, hm, rfl⟩ := Option.map_eq_some_iff.1 h
      obtain ⟨v, rest, rfl, rfl, hv⟩ := ih hd' hm
      exact ⟨c :: v, rest, rfl, rfl, closes_cons.2 ⟨hd, d', hn, hv⟩⟩
    rw [groupLength?_cons] at h
    by_cases hc : c = closing
    · rw [if_pos hc] at h
      exact further (by omega) h (by simp [hc, hb.symm])
    · rw [if_neg hc] at h
      by_cases ho : c = opening
      · rw [if_pos ho] at h
        by_cases h1 : d ≤ 1
        · rw [if_pos h1] at h
          exact ⟨[], t, by rw [ho]; rfl, (Option.some.inj h).symm, closes_nil.2 (by omega)⟩
        · rw [if_neg h1] at h
          exact further (by omega) h (by simp [ho, hb]; omega)
      · rw [if_neg ho] at h
        exact further hd h (by simp [hc, ho])

theorem closes_one : Closes opening closing 1 w.reverse ↔ Balanced opening closing w := by
  constructor
  · intro h
    refine ⟨by simpa using h.count_eq, fun u hu => ?_⟩
    have := h.prefix_lt u.reverse (List.reverse_prefix.2 hu)
    simp only [List.count_reverse] at this
    omega
  · intro h
    refine ⟨by simpa using h.count_eq, fun u hu => ?_⟩
    have := h.suffix_le u.reverse (by simpa using List.reverse_suffix.2 hu)
    simp only [List.count_reverse] at this
    omega

theorem groupLength?_eq_some (hb : opening ≠ closing) :
    groupLength? opening closing 1 t = some n ↔ ∃ before inner,
      t = inner.reverse ++ opening :: before ∧ n = inner.length + 1 ∧
        Balanced opening closing inner := by
  constructor
  · intro h
    obtain ⟨v, rest, rfl, rfl, hv⟩ := closes_of_groupLength? hb (by decide) h
    exact ⟨rest, v.reverse, by simp, by simp, closes_one.1 (by simpa using hv)⟩
  · rintro ⟨before, inner, rfl, rfl, h⟩
    simpa using groupLength?_of_closes hb (closes_one.2 h) before

theorem ne_of_opener? (h : opener? closing = some opening) : opening ≠ closing := by
  rintro rfl
  unfold opener? at h
  split at h <;> simp_all

theorem isUnit_of_isAlpha (h : Unicode.isAlpha c = true) : isUnit c = true := by
  simp [isUnit, Unicode.isAlnum, h]

theorem opener?_of_isUnit (h : isUnit c = true) : opener? c = none := by
  unfold opener?
  split
  case h_4 => rfl
  all_goals exact absurd h (by decide)

theorem exists_letters (t : Text) (ha : Unicode.isAlpha c = true) :
    ∃ name rest, c :: t = name.reverse ++ rest ∧ name ≠ [] ∧
      (∀ a ∈ name, Unicode.isAlpha a = true) ∧ ∀ a ∈ rest.head?, Unicode.isAlpha a = false := by
  refine ⟨((c :: t).takeWhile Unicode.isAlpha).reverse, (c :: t).dropWhile Unicode.isAlpha,
    ?_, ?_, ?_, ?_⟩
  · rw [List.reverse_reverse, List.takeWhile_append_dropWhile]
  · simp [ha]
  · intro a hm
    exact List.mem_takeWhile_imp (List.mem_reverse.1 hm)
  · intro a hm
    have := List.head?_dropWhile_not Unicode.isAlpha (c :: t)
    rw [hm] at this
    simpa using this

theorem unitLength?_letters {name : Text} (rest : Text) (hn : name ≠ [])
    (ha : ∀ c ∈ name, Unicode.isAlpha c = true)
    (hr : ∀ c ∈ rest.head?, Unicode.isAlpha c = false) :
    unitLength? (name.reverse ++ rest) =
      if rest.head? = some '\\' then if isRelation name then none else some (name.length + 1)
      else some name.length := by
  have hrun : rest.takeWhile Unicode.isAlpha = [] ∧ rest.dropWhile Unicode.isAlpha = rest := by
    cases rest with
    | nil => exact ⟨rfl, rfl⟩
    | cons c rest => simp [hr c rfl]
  obtain ⟨m, c, rfl⟩ := List.eq_nil_or_concat' name |>.resolve_left hn
  have hm : ∀ a ∈ c :: m.reverse, Unicode.isAlpha a = true := by
    intro a h
    exact ha a (by simpa [or_comm] using h)
  have hc : Unicode.isAlpha c = true := hm c (List.mem_cons_self ..)
  rw [List.reverse_concat, List.cons_append, unitLength?, opener?_of_isUnit (isUnit_of_isAlpha hc)]
  simp only [hc, if_true, ← List.cons_append, List.takeWhile_append_of_pos hm,
    List.dropWhile_append_of_pos hm, hrun.1, hrun.2, List.append_nil]
  cases rest with
  | nil => simp
  | cons d rest => by_cases hd : d = '\\' <;> simp [hd]

theorem FormsUnit.length_pos (h : FormsUnit before w) : 0 < w.length := by
  cases h with
  | letters hw => exact List.length_pos_iff.2 hw
  | group | command | char => simp

theorem unitLength?_of_formsUnit (h : FormsUnit before w) :
    unitLength? (before ++ w).reverse = some w.length := by
  rw [List.reverse_append]
  cases h with
  | @group opening closing inner hb hi =>
    have hg := (groupLength?_eq_some (ne_of_opener? hb)).2
      ⟨before.reverse, inner, rfl, rfl, hi⟩
    simp [unitLength?, hb, hg]
  | @command name hn ha hr =>
    have hu := unitLength?_letters ('\\' :: before.reverse) hn ha
      (fun c hc => by obtain rfl := Option.some.inj hc; decide)
    simpa [hr] using hu
  | letters hn ha hb =>
    rw [unitLength?_letters _ hn ha fun c hc => (hb c (by simpa using hc)).1, if_neg]
    intro hc
    exact (hb '\\' (by simpa using hc)).2 rfl
  | char ho ha hu => simp [unitLength?, ho, ha, hu]

theorem formsUnit_of_unitLength? (h : unitLength? t = some n) :
    ∃ before w, t = (before ++ w).reverse ∧ n = w.length ∧ FormsUnit before w := by
  match t with
  | [] => cases h
  | c :: t =>
    cases ho : opener? c with
    | some opening =>
      obtain ⟨m, hm, rfl⟩ : ∃ m, groupLength? opening c 1 t = some m ∧ m + 1 = n := by
        simpa [unitLength?, ho] using h
      obtain ⟨before, inner, rfl, rfl, hi⟩ := (groupLength?_eq_some (ne_of_opener? ho)).1 hm
      exact ⟨before.reverse, opening :: (inner ++ [c]), by simp, by simp, .group ho hi⟩
    | none =>
      by_cases ha : Unicode.isAlpha c = true
      · obtain ⟨name, rest, ht, hn, hname, hrest⟩ := exists_letters t ha
        rw [ht, unitLength?_letters rest hn hname hrest] at h
        rw [ht]
        by_cases hb : rest.head? = some '\\'
        · obtain ⟨rest, rfl⟩ := List.head?_eq_some_iff.1 hb
          rw [if_pos hb] at h
          obtain ⟨hr, rfl⟩ : isRelation name = false ∧ name.length + 1 = n := by
            simpa using h
          exact ⟨rest.reverse, '\\' :: name, by simp, rfl, .command hn hname hr⟩
        · rw [if_neg hb] at h
          refine ⟨rest.reverse, name, by simp, (Option.some.inj h).symm,
            .letters hn hname fun a hm => ?_⟩
          rw [List.getLast?_reverse] at hm
          refine ⟨hrest a hm, ?_⟩
          rintro rfl
          exact hb hm
      · obtain ⟨hu, rfl⟩ : isUnit c = true ∧ 1 = n := by
          simpa [unitLength?, ho, ha] using h
        exact ⟨t.reverse, [c], by simp, rfl, .char ho (by simpa using ha) hu⟩

theorem unitLength?_eq_none (h : unitLength? (before ++ w).reverse = none) :
    ¬FormsUnit before w := by
  intro hw
  rw [unitLength?_of_formsUnit hw] at h
  cases h

/-- Units are taken off as long as there is one, for which the length of the text is fuel enough. -/
theorem exists_chain (hf : t.length ≤ n) : ∃ before w, t = before ++ w ∧
    length n t.reverse = w.length ∧ Chain before w ∧ ∀ x u, before = x ++ u → ¬FormsUnit x u := by
  induction n generalizing t with
  | zero =>
    obtain rfl := List.length_eq_zero_iff.1 (Nat.le_zero.1 hf)
    refine ⟨[], [], rfl, rfl, .nil, ?_⟩
    rintro x u hx
    obtain ⟨rfl, rfl⟩ := List.append_eq_nil_iff.1 hx.symm
    exact fun hu => absurd hu.length_pos (by simp)
  | succ n ih =>
    cases hu : unitLength? t.reverse with
    | none =>
      refine ⟨t, [], by simp, by simp [length, hu], .nil, ?_⟩
      rintro x u rfl
      exact unitLength?_eq_none hu
    | some m =>
      obtain ⟨x, u, ht, rfl, hx⟩ := formsUnit_of_unitLength? hu
      obtain rfl := List.reverse_injective ht
      -- A unit is not empty, so there is fuel enough for what stands before it.
      have hfuel : x.length ≤ n := by
        have := hx.length_pos
        rw [List.length_append] at hf
        omega
      obtain ⟨before, w, rfl, hl, hc, hm⟩ := ih hfuel
      refine ⟨before, w ++ u, by simp, ?_, .snoc hc hx, hm⟩
      have hd : (before ++ w ++ u).reverse.drop u.length = (before ++ w).reverse := by
        rw [List.reverse_append, List.drop_left' (List.length_reverse ..)]
      simp only [length, hu]
      rw [hd, hl, List.length_append, Nat.add_comm]

theorem Chain.exists_first (h : Chain before w) (hw : w ≠ []) :
    ∃ u rest, w = u ++ rest ∧ FormsUnit before u := by
  induction h with
  | nil => exact absurd rfl hw
  | @snoc w u hc hu ih =>
    by_cases h : w = []
    · subst h
      exact ⟨u, [], by simp, by simpa using hu⟩
    · obtain ⟨v, rest, rfl, hv⟩ := ih h
      exact ⟨v, rest ++ u, by simp, hv⟩

/-- What an operand may begin with although a backslash stands right before it. -/
def Escapable (c : Char) : Prop :=
  c = '\\' ∨ (∃ closing, opener? closing = some c) ∨ Unicode.isAlpha c = false ∧ isUnit c = true

theorem FormsUnit.escapable (h : FormsUnit before w) (hb : before.getLast? = some '\\') :
    ∃ c, w.head? = some c ∧ Escapable c := by
  cases h with
  | group ho => exact ⟨_, rfl, .inr (.inl ⟨_, ho⟩)⟩
  | command => exact ⟨_, rfl, .inl rfl⟩
  | letters _ _ hl => exact absurd rfl (hl '\\' hb).2
  | char _ ha hu => exact ⟨_, rfl, .inr (.inr ⟨ha, hu⟩)⟩

end Operand

variable {t : Text} {caret : Int}

theorem operandStart_eq (h₀ : 0 ≤ caret) (h₁ : caret ≤ t.length) :
    operandStart t caret = .ok (Operand.start (t.upTo caret)) := by
  rw [operandStart]
  split
  · obtain rfl : caret = 0 := by omega
    rfl
  · rw [if_neg (by omega), Text.upTo]
    congr 4
    have := Text.place_eq h₀ h₁
    omega

/-- The operand is the longest chain of units that ends at the caret. Behind a backslash it begins
only with a bracket, with a character of a word that is no letter, or with another backslash. -/
theorem operand_begins_whole (h₀ : 0 ≤ caret) (h₁ : caret ≤ t.length) :
    ∃ s : Nat, operandStart t caret = .ok (s : Int) ∧ (s : Int) ≤ caret ∧
      Operand.Chain (t.upTo s) (t.slice s caret) ∧
      (∀ before w, t.upTo s = before ++ w → ¬Operand.FormsUnit before w) ∧
      ((s : Int) < caret →
        s = 0 ∨ t[s - 1]? ≠ some '\\' ∨ ∃ c, t[s]? = some c ∧ Operand.Escapable c) := by
  obtain ⟨before, w, hb, hl, hc, hm⟩ := Operand.exists_chain (t := t.upTo caret) (Nat.le_refl _)
  have hcaret : caret = before.length + w.length := by
    have := congrArg List.length hb
    rw [Text.length_upTo, List.length_append] at this
    have := Text.place_eq h₀ h₁
    omega
  obtain ⟨after, rfl⟩ : ∃ after, t = before ++ (w ++ after) :=
    ⟨t.onward caret, by rw [← List.append_assoc, ← hb, Text.upTo_append_onward]⟩
  have hs : Operand.start ((before ++ (w ++ after)).upTo caret) = before.length := by
    rw [Operand.start, hl, hb, List.length_append, Nat.add_sub_cancel]
  refine ⟨before.length, by rw [operandStart_eq h₀ h₁, hs], by omega, ?_, ?_, fun hlt => ?_⟩
  · rwa [hcaret, Text.upTo_left, Text.slice_middle]
  · rwa [Text.upTo_left]
  · obtain ⟨u, rest, rfl, hu⟩ := hc.exists_first (by rintro rfl; simp at hcaret; omega)
    by_cases hne : before = []
    · exact .inl (by rw [hne]; rfl)
    by_cases hb : before.getLast? = some '\\'
    · obtain ⟨c, hc, he⟩ := hu.escapable hb
      refine .inr (.inr ⟨c, ?_, he⟩)
      obtain ⟨u, rfl⟩ := List.head?_eq_some_iff.1 hc
      simp
    · refine .inr (.inl fun h => hb ?_)
      have : 0 < before.length := List.length_pos_iff.2 hne
      rwa [List.getElem?_append_left (by omega), ← List.getLast?_eq_getElem?] at h

/-- A command and its two groups form one operand. -/
theorem operand_begins_whole_command :
    operandStart "a+\\frac\x7bb\x7d\x7bc\x7d" 13 = .ok 2 ∧
      Operand.Chain "a+" "\\frac\x7bb\x7d\x7bc\x7d" := by
  have h : operandStart "a+\\frac\x7bb\x7d\x7bc\x7d" 13 = .ok 2 := by decide +kernel
  obtain ⟨s, hs, -, hc, -⟩ := operand_begins_whole (t := "a+\\frac\x7bb\x7d\x7bc\x7d")
    (by decide : (0 : Int) ≤ 13) (by decide)
  obtain rfl : s = 2 := by
    rw [h] at hs
    exact (Int.ofNat.inj (Except.ok.inj hs)).symm
  exact ⟨h, hc⟩

/-- A group in escaped brackets begins with its bracket, without the backslash that escapes it. -/
theorem operand_parts_escaped_bracket :
    ¬∀ (t : Text) (caret : Int) (s : Nat), 0 ≤ caret → caret ≤ t.length →
      operandStart t caret = .ok (s : Int) → (s : Int) < caret → s = 0 ∨ t[s - 1]? ≠ some '\\' := by
  intro h
  have := h "\\\x7ba\\\x7d" 5 1 (by decide) (by decide) (by decide +kernel) (by decide)
  revert this
  decide

end LatexSnippets.Latex
