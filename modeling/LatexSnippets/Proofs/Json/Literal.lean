import Mathlib.Algebra.Group.Nat.Defs
import LatexSnippets.Json.Reader
import LatexSnippets.Proofs.Except
import LatexSnippets.Proofs.Numeral

/-!
Words, numbers and strings of JSON by their grammar. Each is read as the grammar has it, and what is
wrong with one is its form, unless it is an integer of too many digits.
-/

namespace LatexSnippets.Json

open Reader

section Strings

/-- The code units of a string up to its closing quote, and what follows that. -/
inductive Units : Text → List Nat → Text → Prop
  | quote : Units ('"' :: t) [] t
  | plain (hq : c ≠ '"') (hb : c ≠ '\\') (hc : 0x20 ≤ c.toNat) (h : Units t ns u) :
    Units (c :: t) (c.toNat :: ns) u
  | escape (he : escaped? e = some c) (h : Units t ns u) : Units ('\\' :: e :: t) (c.toNat :: ns) u
  | unit (hn : unit? a b c d = some n) (h : Units t ns u) :
    Units ('\\' :: 'u' :: a :: b :: c :: d :: t) (n :: ns) u

/-- A string behind its opening quote: `s`, and what follows its closing one. -/
def Quoted (d : Dialect) (t s u : Text) : Prop :=
  ∃ ns, Units t ns u ∧ joinHalves d.acceptsHalves ns = some s

variable {d : Dialect} {c e : Char} {t s u : Text} {ns : List Nat} {x : Error}

theorem units_plain (hq : c ≠ '"') (hb : c ≠ '\\') (hc : 0x20 ≤ c.toNat) (t : Text) :
    units (c :: t) = (units t).map fun (ns, after) => (c.toNat :: ns, after) := by
  rw [units]
  · rw [if_neg (by simp [hb]; omega)]
  all_goals simp [hq, hb]

theorem units_escape (he : escaped? e = some c) (t : Text) :
    units ('\\' :: e :: t) = (units t).map fun (ns, after) => (c.toNat :: ns, after) := by
  have hu : e ≠ 'u' := by
    rintro rfl
    contradiction
  rw [units]
  · simp only [he, Option.bind_eq_bind, Option.bind_some]
    cases units t <;> rfl
  · simp [hu]

theorem units_unit {a b c d : Char} {n : Nat} (hn : unit? a b c d = some n) (t : Text) :
    units ('\\' :: 'u' :: a :: b :: c :: d :: t) =
      (units t).map fun (ns, after) => (n :: ns, after) := by
  rw [units]
  simp only [hn, Option.bind_eq_bind, Option.bind_some]
  cases units t <;> rfl

theorem Units.units_eq (h : Units t ns u) : units t = some (ns, u) := by
  induction h with
  | quote => rfl
  | plain hq hb hc _ ih => rw [units_plain hq hb hc, ih, Option.map_some]
  | escape he _ ih => rw [units_escape he, ih, Option.map_some]
  | unit hn _ ih => rw [units_unit hn, ih, Option.map_some]

theorem units_sound (h : units t = some (ns, u)) : Units t ns u := by
  fun_induction units t generalizing ns with
  | case1 => contradiction
  | case2 t =>
    obtain ⟨rfl, rfl⟩ := Prod.mk.inj (Option.some.inj h)
    exact .quote
  | case3 a b c d t ih =>
    obtain ⟨n, hn, h⟩ := Option.bind_eq_some_iff.1 h
    obtain ⟨⟨ns', u'⟩, ht, h⟩ := Option.bind_eq_some_iff.1 h
    obtain ⟨rfl, rfl⟩ := Prod.mk.inj (Option.some.inj h)
    exact .unit hn (ih ht)
  | case4 c t _ ih =>
    obtain ⟨c, hc, h⟩ := Option.bind_eq_some_iff.1 h
    obtain ⟨⟨ns', u'⟩, ht, h⟩ := Option.bind_eq_some_iff.1 h
    obtain ⟨rfl, rfl⟩ := Prod.mk.inj (Option.some.inj h)
    exact .escape hc (ih ht)
  | case5 => contradiction
  | case6 c t hq _ _ hc ih =>
    obtain ⟨⟨ns', u'⟩, ht, h⟩ := Option.map_eq_some_iff.1 h
    obtain ⟨rfl, rfl⟩ := Prod.mk.inj h
    simp only [Bool.or_eq_true, decide_eq_true_eq, not_or, Nat.not_lt] at hc
    exact .plain hq hc.2 hc.1 (ih ht)

theorem string_eq_ok : string d t = .ok (s, u) ↔ Quoted d t s u := by
  rw [string]
  constructor
  · intro h
    split at h
    · contradiction
    · next ns u' hu =>
      split at h
      · contradiction
      · next s' hs =>
        obtain ⟨rfl, rfl⟩ := Prod.mk.inj (Except.ok.inj h)
        exact ⟨ns, units_sound hu, hs⟩
  · rintro ⟨ns, hu, hs⟩
    simp only [hu.units_eq, hs]

theorem string_eq_error (h : string d t = .error x) : x = .malformed := by
  rw [string] at h
  split at h
  · exact (Except.error.inj h).symm
  · split at h
    · exact (Except.error.inj h).symm
    · contradiction

theorem Units.length_lt (h : Units t ns u) : u.length < t.length := by
  induction h <;> (simp only [List.length_cons]; omega)

theorem Quoted.length_lt (h : Quoted d t s u) : u.length < t.length :=
  h.choose_spec.1.length_lt

end Strings

section Numbers

/-- One digit or more. -/
structure IsDigits (ds : Text) : Prop where
  ne_nil : ds ≠ []
  isDigit : ∀ c ∈ ds, c.isDigit = true

/-- The digits before the point: a zero alone, or digits without a zero in front. -/
def IsWhole (ds : Text) : Prop := ds = ['0'] ∨ IsDigits ds ∧ ds.head? ≠ some '0'

/-- A point and digits, or nothing. -/
inductive Fraction : Text → Text → Prop
  | nothing : Fraction [] []
  | point (h : IsDigits ds) : Fraction ('.' :: ds) ds

/-- Digits with an optional sign. -/
inductive Signed : Text → Int → Prop
  | plain (h : IsDigits ds) : Signed ds (valueOf ds)
  | plus (h : IsDigits ds) : Signed ('+' :: ds) (valueOf ds)
  | minus (h : IsDigits ds) : Signed ('-' :: ds) (-(valueOf ds : Int))

inductive Exponent : Text → Option Int → Prop
  | nothing : Exponent [] none
  | power (hc : c = 'e' ∨ c = 'E') (h : Signed t n) : Exponent (c :: t) (some n)

def sign (negative : Bool) : Text := if negative then ['-'] else []

inductive Number : Text → Json → Prop
  | mk (negative : Bool) (hw : IsWhole w) (hf : Fraction f ds) (he : Exponent e x) :
    Number (sign negative ++ w ++ f ++ e) (numberOf negative w ds x)

/-- Whether a text begins with no digit. -/
def EndsDigits (u : Text) : Prop := ∀ c ∈ u.head?, c.isDigit = false

/-- Whether a number in front of a text ends there: no digit, fraction or exponent follows. -/
structure EndsNumber (u : Text) : Prop where
  noDigit : EndsDigits u
  noFraction : ∀ f ds, Fraction f ds → f <+: u → f = []
  noExponent : ∀ e x, Exponent e x → e <+: u → e = []

/-- Whether a text begins with an integer of more digits than are read. -/
def LongInteger (t : Text) : Prop :=
  ∃ negative w u, t = sign negative ++ (w ++ u) ∧ IsWhole w ∧ Numeral.maxDigits < w.length ∧
    EndsNumber u

variable {c : Char} {ds w f e s t u : Text} {n : Int} {x : Option Int} {negative : Bool}

theorem IsDigits.exists_cons (h : IsDigits ds) : ∃ c cs, ds = c :: cs ∧ c.isDigit = true := by
  obtain ⟨c, cs, rfl⟩ := List.exists_cons_of_ne_nil h.ne_nil
  exact ⟨c, cs, rfl, h.isDigit c List.mem_cons_self⟩

theorem ne_of_isDigit {a : Char} (hc : c.isDigit = true) (ha : a.isDigit = false) : c ≠ a := by
  rintro rfl
  exact Bool.false_ne_true (ha.symm.trans hc)

theorem IsWhole.isDigits (h : IsWhole ds) : IsDigits ds := by
  rcases h with rfl | ⟨h, -⟩
  · exact ⟨List.cons_ne_nil _ _, by simp⟩
  · exact h

theorem digits?_append (h : IsDigits ds) (hu : EndsDigits u) :
    digits? (ds ++ u) = some (ds, u) := by
  have ht : u.takeWhile Char.isDigit = [] ∧ u.dropWhile Char.isDigit = u := by
    cases u with
    | nil => exact ⟨rfl, rfl⟩
    | cons c u => simp [hu c rfl]
  rw [digits?, List.takeWhile_append_of_pos h.isDigit, List.dropWhile_append_of_pos h.isDigit, ht.1,
    ht.2, List.append_nil]
  obtain ⟨c, cs, rfl, -⟩ := h.exists_cons
  rfl

theorem digits?_sound (h : digits? t = some (ds, u)) :
    t = ds ++ u ∧ IsDigits ds ∧ EndsDigits u := by
  rw [digits?] at h
  split at h
  · contradiction
  · next hn =>
    obtain ⟨rfl, rfl⟩ := Prod.mk.inj (Option.some.inj h)
    refine ⟨List.takeWhile_append_dropWhile.symm, ⟨hn, fun c hc => ?_⟩, fun c hc => ?_⟩
    · exact (List.all_eq_true.1 List.all_takeWhile c hc)
    · have := List.head?_dropWhile_not Char.isDigit t
      rw [Option.mem_def.1 hc] at this
      simpa using this

theorem endsDigits_append (hu : EndsDigits u) (ht : EndsDigits t) : EndsDigits (t ++ u) := by
  cases t with
  | nil => exact hu
  | cons c t => exact ht

theorem Fraction.endsDigits (h : Fraction f ds) : EndsDigits f := by
  cases h with
  | nothing => exact nofun
  | point _ =>
    intro c hc
    obtain rfl : '.' = c := Option.some.inj hc
    rfl

theorem Exponent.endsDigits (h : Exponent e x) : EndsDigits e := by
  cases h with
  | nothing => exact nofun
  | @power c _ _ hc _ =>
    intro a ha
    obtain rfl : c = a := Option.some.inj ha
    rcases hc with rfl | rfl <;> rfl

theorem whole?_append (h : IsWhole w) (hu : EndsDigits u) : whole? (w ++ u) = some (w, u) := by
  rcases h with rfl | ⟨h, h₀⟩
  · rfl
  · obtain ⟨c, cs, rfl, -⟩ := h.exists_cons
    rw [whole?]
    · exact digits?_append h hu
    · rintro t ht
      obtain ⟨rfl, -⟩ := List.cons.inj ht
      exact h₀ rfl

theorem whole?_sound (h : whole? t = some (w, u)) :
    t = w ++ u ∧ IsWhole w ∧ (w = ['0'] ∨ EndsDigits u) := by
  rw [whole?.eq_def] at h
  split at h
  · next t =>
    obtain ⟨rfl, rfl⟩ := Prod.mk.inj (Option.some.inj h)
    exact ⟨rfl, .inl rfl, .inl rfl⟩
  · next h₀ =>
    obtain ⟨rfl, hw, hu⟩ := digits?_sound h
    refine ⟨rfl, .inr ⟨hw, fun hh => ?_⟩, .inr hu⟩
    obtain ⟨c, cs, rfl, -⟩ := hw.exists_cons
    exact h₀ (cs ++ u) (by rw [Option.some.inj hh]; rfl)

theorem fraction_append (h : Fraction f ds) (hu : EndsDigits u) (hn : fraction u = ([], u)) :
    fraction (f ++ u) = (ds, u) := by
  cases h with
  | nothing => exact hn
  | point h =>
    rw [List.cons_append, fraction, digits?_append h hu]
    rfl

theorem fraction_sound (h : fraction t = (ds, u)) : ∃ f, t = f ++ u ∧ Fraction f ds := by
  rw [fraction.eq_def] at h
  split at h
  · next t =>
    cases hd : digits? t with
    | none =>
      rw [hd] at h
      obtain ⟨rfl, rfl⟩ := Prod.mk.inj h
      exact ⟨[], rfl, .nothing⟩
    | some r =>
      obtain ⟨ds', u'⟩ := r
      rw [hd] at h
      obtain ⟨rfl, rfl⟩ := Prod.mk.inj h
      obtain ⟨rfl, hd, -⟩ := digits?_sound hd
      exact ⟨_, rfl, .point hd⟩
  · obtain ⟨rfl, rfl⟩ := Prod.mk.inj h
    exact ⟨[], rfl, .nothing⟩

theorem signed?_digits (h : IsDigits ds) (u : Text) :
    signed? (ds ++ u) = (digits? (ds ++ u)).map fun (ds, after) => ((valueOf ds : Int), after) := by
  obtain ⟨c, cs, rfl, hc⟩ := h.exists_cons
  rw [List.cons_append, signed?]
  · exact fun t ht => ne_of_isDigit hc rfl (List.cons.inj ht).1
  · exact fun t ht => ne_of_isDigit hc rfl (List.cons.inj ht).1

theorem signed?_append (h : Signed t n) (hu : EndsDigits u) : signed? (t ++ u) = some (n, u) := by
  cases h with
  | plain h => rw [signed?_digits h, digits?_append h hu, Option.map_some]
  | plus h => rw [List.cons_append, signed?, digits?_append h hu, Option.map_some]
  | minus h => rw [List.cons_append, signed?, digits?_append h hu, Option.map_some]

theorem signed?_sound (h : signed? t = some (n, u)) : ∃ s, t = s ++ u ∧ Signed s n := by
  have digits {t : Text} (v : Text → Int)
      (h : (digits? t).map (fun r => (v r.1, r.2)) = some (n, u)) :
      ∃ ds, t = ds ++ u ∧ IsDigits ds ∧ v ds = n := by
    obtain ⟨⟨ds, u'⟩, hd, h⟩ := Option.map_eq_some_iff.1 h
    obtain ⟨hv, rfl⟩ := Prod.mk.inj h
    obtain ⟨ht, hd, -⟩ := digits?_sound hd
    exact ⟨ds, ht, hd, hv⟩
  rw [signed?.eq_def] at h
  split at h
  · obtain ⟨ds, rfl, hd, rfl⟩ := digits (fun ds => -(valueOf ds : Int)) h
    exact ⟨_, rfl, .minus hd⟩
  · obtain ⟨ds, rfl, hd, rfl⟩ := digits (valueOf ·) h
    exact ⟨_, rfl, .plus hd⟩
  · obtain ⟨ds, rfl, hd, rfl⟩ := digits (valueOf ·) h
    exact ⟨_, rfl, .plain hd⟩

theorem exponent_append (h : Exponent e x) (hu : EndsDigits u) (hn : exponent u = (none, u)) :
    exponent (e ++ u) = (x, u) := by
  cases h with
  | nothing => exact hn
  | power hc h => rw [List.cons_append, exponent, if_pos (by simpa using hc), signed?_append h hu]

theorem exponent_sound (h : exponent t = (x, u)) : ∃ e, t = e ++ u ∧ Exponent e x := by
  rw [exponent.eq_def] at h
  split at h
  · next c t =>
    split at h
    · next hc =>
      split at h
      · next n u' hs =>
        obtain ⟨rfl, rfl⟩ := Prod.mk.inj h
        obtain ⟨s, rfl, hn⟩ := signed?_sound hs
        exact ⟨c :: s, rfl, .power (by simpa using hc) hn⟩
      · obtain ⟨rfl, rfl⟩ := Prod.mk.inj h
        exact ⟨[], rfl, .nothing⟩
    · obtain ⟨rfl, rfl⟩ := Prod.mk.inj h
      exact ⟨[], rfl, .nothing⟩
  · obtain ⟨rfl, rfl⟩ := Prod.mk.inj h
    exact ⟨[], rfl, .nothing⟩

variable {v : Json} {z : Error}

theorem EndsNumber.fraction_eq (h : EndsNumber u) : fraction u = ([], u) := by
  obtain ⟨ds, u', hr⟩ : ∃ ds u', fraction u = (ds, u') := ⟨_, _, rfl⟩
  obtain ⟨f, rfl, hf⟩ := fraction_sound hr
  obtain rfl := h.noFraction f ds hf (List.prefix_append f u')
  cases hf
  exact hr

theorem EndsNumber.exponent_eq (h : EndsNumber u) : exponent u = (none, u) := by
  obtain ⟨x, u', hr⟩ : ∃ x u', exponent u = (x, u') := ⟨_, _, rfl⟩
  obtain ⟨e, rfl, he⟩ := exponent_sound hr
  obtain rfl := h.noExponent e x he (List.prefix_append e u')
  cases he
  exact hr

/-- Where digits stand, some are read. -/
theorem IsDigits.exists_digits? (h : IsDigits ds) (u : Text) :
    ∃ ds' u', digits? (ds ++ u) = some (ds', u') ∧ ds' ≠ [] := by
  obtain ⟨c, cs, rfl, hc⟩ := h.exists_cons
  exact ⟨_, _, by rw [digits?, List.cons_append, List.takeWhile_cons_of_pos hc],
    List.cons_ne_nil _ _⟩

theorem Signed.isSome_signed? (h : Signed t n) (u : Text) : (signed? (t ++ u)).isSome := by
  cases h with
  | plain h =>
    obtain ⟨ds', u', hd, -⟩ := h.exists_digits? u
    rw [signed?_digits h, hd]
    rfl
  | plus h | minus h =>
    obtain ⟨ds', u', hd, -⟩ := h.exists_digits? u
    rw [List.cons_append, signed?, hd]
    rfl

theorem endsNumber_of_eq (hd : EndsDigits u) (hf : fraction u = ([], u))
    (he : exponent u = (none, u)) : EndsNumber u where
  noDigit := hd
  noFraction f ds h hp := by
    obtain ⟨t, rfl⟩ := hp
    cases h with
    | nothing => rfl
    | point h =>
      obtain ⟨ds', u', hr, hn⟩ := h.exists_digits? t
      rw [List.cons_append, fraction, hr] at hf
      exact absurd (congrArg Prod.fst hf) hn
  noExponent e x h hp := by
    obtain ⟨t, rfl⟩ := hp
    cases h with
    | nothing => rfl
    | power hc h =>
      obtain ⟨r, hr⟩ := Option.isSome_iff_exists.1 (h.isSome_signed? t)
      rw [List.cons_append, exponent, if_pos (by simpa using hc), hr] at he
      exact nomatch congrArg Prod.fst he

/-- In front of an exponent a fraction ends. -/
theorem fraction_exponent (h : Exponent e x) (hu : EndsNumber u) :
    fraction (e ++ u) = ([], e ++ u) := by
  cases h with
  | nothing => exact hu.fraction_eq
  | power hc _ =>
    rw [List.cons_append, fraction]
    rintro t ht
    obtain ⟨rfl, -⟩ := List.cons.inj ht
    rcases hc with h | h <;> contradiction

theorem unsigned_append (hw : IsWhole w) (hf : Fraction f ds) (he : Exponent e x)
    (hu : EndsNumber u) : unsigned negative (w ++ (f ++ (e ++ u))) =
      if ds.isEmpty && x.isNone && Numeral.maxDigits < w.length then .error (.longNumber w.length)
      else .ok (numberOf negative w ds x, u) := by
  have hd : EndsDigits (e ++ u) := endsDigits_append hu.noDigit he.endsDigits
  simp only [unsigned, whole?_append hw (endsDigits_append hd hf.endsDigits),
    fraction_append hf hd (fraction_exponent he hu), exponent_append he hu.noDigit hu.exponent_eq]

theorem Fraction.eq_nil (h : Fraction f []) : f = [] := by
  cases h with
  | nothing => rfl
  | point h => exact absurd rfl h.ne_nil

theorem Exponent.eq_nil (h : Exponent e none) : e = [] := by
  cases h
  rfl

/-- A number is read part after part, and refused by its form or by its length. -/
theorem unsigned_cases (negative : Bool) (t : Text) :
    unsigned negative t = .error .malformed ∨
      ∃ w t₁ ds t₂ x u, whole? t = some (w, t₁) ∧ fraction t₁ = (ds, t₂) ∧ exponent t₂ = (x, u) ∧
        unsigned negative t =
          if ds.isEmpty && x.isNone && Numeral.maxDigits < w.length then
            .error (.longNumber w.length)
          else .ok (numberOf negative w ds x, u) := by
  rw [unsigned]
  split
  · exact .inl rfl
  · next w t₁ hw => exact .inr ⟨w, t₁, _, _, _, _, hw, rfl, rfl, rfl⟩

theorem unsigned_sound (h : unsigned negative t = .ok (v, u)) :
    ∃ s, t = s ++ u ∧ Number (sign negative ++ s) v := by
  obtain hn | ⟨w, t₁, ds, t₂, x, t₃, hw, hf, he, hn⟩ := unsigned_cases negative t
  · exact nomatch hn.symm.trans h
  · obtain ⟨rfl, hs, -⟩ := whole?_sound hw
    obtain ⟨f, rfl, hf'⟩ := fraction_sound hf
    obtain ⟨e, rfl, he'⟩ := exponent_sound he
    rw [hn] at h
    split at h
    · contradiction
    · obtain ⟨rfl, rfl⟩ := Prod.mk.inj (Except.ok.inj h)
      refine ⟨w ++ (f ++ e), by simp only [List.append_assoc], ?_⟩
      rw [← List.append_assoc, ← List.append_assoc]
      exact .mk negative hs hf' he'

theorem unsigned_error (h : unsigned negative t = .error z) :
    z = .malformed ∨ ∃ w u, t = w ++ u ∧ IsWhole w ∧ Numeral.maxDigits < w.length ∧
      EndsNumber u := by
  obtain hn | ⟨w, t₁, ds, t₂, x, t₃, hw, hf, he, hn⟩ := unsigned_cases negative t
  · exact .inl (Except.error.inj (hn.symm.trans h)).symm
  · rw [hn] at h
    split at h
    · next hl =>
      simp only [Bool.and_eq_true, List.isEmpty_iff, Option.isNone_iff_eq_none,
        decide_eq_true_eq] at hl
      obtain ⟨⟨rfl, rfl⟩, hl⟩ := hl
      obtain ⟨rfl, hs, hd⟩ := whole?_sound hw
      -- Nothing was taken for a fraction or an exponent.
      obtain ⟨f, rfl, hf'⟩ := fraction_sound hf
      obtain rfl := hf'.eq_nil
      obtain ⟨e, rfl, he'⟩ := exponent_sound he
      obtain rfl := he'.eq_nil
      have hd : EndsDigits t₃ := hd.resolve_left fun h => by
        subst h
        contradiction
      exact .inr ⟨w, t₃, rfl, hs, hl, endsNumber_of_eq hd hf he⟩
    · contradiction

theorem number_sign (negative : Bool) (hw : IsWhole w) (t : Text) :
    number (sign negative ++ (w ++ t)) = unsigned negative (w ++ t) := by
  cases negative with
  | true => rfl
  | false =>
    obtain ⟨c, cs, rfl, hc⟩ := hw.isDigits.exists_cons
    rw [sign, if_neg (by decide), List.nil_append, number]
    exact fun t' ht => ne_of_isDigit hc rfl (List.cons.inj ht).1

theorem number_cases (t : Text) :
    ∃ negative rest, t = sign negative ++ rest ∧ number t = unsigned negative rest := by
  rw [number.eq_def]
  split
  · exact ⟨true, _, rfl, rfl⟩
  · exact ⟨false, _, rfl, rfl⟩

theorem number_sound (h : number t = .ok (v, u)) : ∃ s, t = s ++ u ∧ Number s v := by
  obtain ⟨negative, rest, rfl, hn⟩ := number_cases t
  obtain ⟨s, rfl, hs⟩ := unsigned_sound (hn.symm.trans h)
  exact ⟨sign negative ++ s, (List.append_assoc ..).symm, hs⟩

theorem number_error (h : number t = .error z) : z = .malformed ∨ LongInteger t := by
  obtain ⟨negative, rest, rfl, hn⟩ := number_cases t
  refine (unsigned_error (hn.symm.trans h)).imp_right fun ⟨w, u, hr, hw, hl, hu⟩ => ?_
  exact ⟨negative, w, u, by rw [hr], hw, hl, hu⟩

theorem LongInteger.number_eq (h : LongInteger t) : ∃ k, number t = .error (.longNumber k) := by
  obtain ⟨negative, w, u, rfl, hw, hl, hu⟩ := h
  refine ⟨w.length, ?_⟩
  rw [number_sign negative hw]
  exact (unsigned_append hw .nothing .nothing hu).trans (if_pos (by simpa using hl))

/-- Digits without a zero in front are those of their value. -/
theorem IsWhole.length_le (hw : IsWhole w) : w.length ≤ (Numeral.ofNat (valueOf w)).length := by
  rcases hw with rfl | ⟨h, h₀⟩
  · decide
  · obtain ⟨c, cs, rfl, hc⟩ := h.exists_cons
    have hp : 1 ≤ c.toNat - '0'.toNat := by
      have hc := Char.isDigit_iff_toNat.1 hc
      have : c.toNat ≠ '0'.toNat := fun hn => h₀ (congrArg some (Char.toNat_inj.1 hn))
      omega
    have hv : 10 ^ cs.length ≤ valueOf (c :: cs) := by
      calc 10 ^ cs.length
        _ ≤ (10 * 0 + (c.toNat - '0'.toNat)) *
            10 ^ (cs.map fun c => c.toNat - '0'.toNat).length := by
          rw [List.length_map]
          exact Nat.le_mul_of_pos_left _ (by omega)
        _ ≤ valueOf (c :: cs) := Numeral.le_foldl_digits _ _
    by_contra hl
    rw [List.length_cons, Nat.not_le, Nat.lt_succ_iff] at hl
    have hn : 0 < (Numeral.ofNat (valueOf (c :: cs))).length :=
      List.length_pos_of_ne_nil (Numeral.ofNat_ne_nil _)
    have := (Nat.length_toDigits_le_iff (by decide) (Nat.lt_of_lt_of_le hn hl)).1 hl
    omega

/-- A number is read, unless it is an integer of too many digits. -/
theorem number_append (h : Number s v) (hu : EndsNumber u) :
    number (s ++ u) = .ok (v, u) ∨
      ∃ n k, v = .int n ∧ Numeral.maxDigits < (Numeral.ofNat n.natAbs).length ∧
        number (s ++ u) = .error (.longNumber k) := by
  obtain @⟨w, f, ds, e, x, negative, hw, hf, he⟩ := h
  have hn : unsigned negative (w ++ (f ++ (e ++ u))) = _ := unsigned_append hw hf he hu
  rw [List.append_assoc, List.append_assoc, List.append_assoc, number_sign negative hw, hn]
  split
  · next hl =>
    simp only [Bool.and_eq_true, List.isEmpty_iff, Option.isNone_iff_eq_none,
      decide_eq_true_eq] at hl
    obtain ⟨⟨rfl, rfl⟩, hl⟩ := hl
    refine .inr ⟨_, _, rfl, ?_, rfl⟩
    have := hw.length_le
    cases negative <;> simp <;> omega
  · exact .inl rfl

end Numbers

section Scalars

/-- A value without parts: a string, one of the words or a number. -/
inductive Scalar (d : Dialect) : Text → Json → Text → Prop
  | string (h : Quoted d t s u) : Scalar d ('"' :: t) (.text s) u
  | word (h : (w, v) ∈ words) : Scalar d (w ++ u) v u
  | number (h : Number s v) : Scalar d (s ++ u) v u

variable {d : Dialect} {c : Char} {s t u w : Text} {v : Json} {z : Error}

theorem word?_eq_some {w : Text} : word? w t = some u ↔ t = w ++ u := by
  rw [word?]
  split
  · next h =>
    obtain ⟨r, rfl⟩ := List.isPrefixOf_iff_prefix.1 h
    simp
  · next h =>
    refine ⟨nofun, ?_⟩
    rintro rfl
    exact absurd (List.isPrefixOf_iff_prefix.2 (List.prefix_append w u)) h

theorem scalar_of_ne (h : c ≠ '"') (t : Text) : scalar d (c :: t) =
    match words.findSome? fun (w, v) => (word? w (c :: t)).map (v, ·) with
    | some r => .ok r
    | none => number (c :: t) := by
  rw [scalar.eq_def]
  split
  · next ht => exact absurd (List.cons.inj ht).1 h
  · rfl

theorem scalar_sound (h : scalar d t = .ok (v, u)) : Scalar d t v u := by
  rw [scalar.eq_def] at h
  split at h
  · next t =>
    obtain ⟨⟨s, u'⟩, hs, h⟩ := map_eq_ok.1 h
    obtain ⟨rfl, rfl⟩ := Prod.mk.inj h
    exact .string (string_eq_ok.1 hs)
  · split at h
    · next r hr =>
      obtain ⟨⟨w, v'⟩, hm, hw⟩ := List.exists_of_findSome?_eq_some hr
      obtain ⟨u', ht, rfl⟩ : ∃ u', word? w t = some u' ∧ (v', u') = r :=
        Option.map_eq_some_iff.1 hw
      obtain ⟨rfl, rfl⟩ := Prod.mk.inj (Except.ok.inj h)
      rw [word?_eq_some.1 ht]
      exact .word hm
    · obtain ⟨s, rfl, hs⟩ := number_sound h
      exact .number hs

theorem scalar_error (h : scalar d t = .error z) : z = .malformed ∨ LongInteger t := by
  rw [scalar.eq_def] at h
  split at h
  · exact .inl (string_eq_error (map_eq_error.1 h))
  · split at h
    · contradiction
    · exact number_error h

theorem scalar_word (h : (w, v) ∈ words) (u : Text) : scalar d (w ++ u) = .ok (v, u) := by
  simp only [words, List.mem_cons, Prod.mk.injEq, List.not_mem_nil, or_false] at h
  rcases h with ⟨rfl, rfl⟩ | ⟨rfl, rfl⟩ | ⟨rfl, rfl⟩ | ⟨rfl, rfl⟩ | ⟨rfl, rfl⟩ | ⟨rfl, rfl⟩ <;> rfl

/-- What a number begins with begins no word. -/
theorem scalar_number (hw : IsDigits w) (negative : Bool) (t : Text) :
    scalar d (sign negative ++ (w ++ t)) = number (sign negative ++ (w ++ t)) := by
  obtain ⟨c, cs, rfl, hc⟩ := hw.exists_cons
  have ne : ∀ {a : Char}, a.isDigit = false → c ≠ a := ne_of_isDigit hc
  cases negative with
  | true =>
    rw [sign, if_pos rfl, List.singleton_append, scalar_of_ne (by decide)]
    simp [words, word?, (ne (a := 'I') rfl).symm]
  | false =>
    rw [sign, if_neg (by decide), List.nil_append, List.cons_append, scalar_of_ne (ne rfl)]
    simp [words, word?, (ne (a := 'n') rfl).symm, (ne (a := 't') rfl).symm,
      (ne (a := 'f') rfl).symm, (ne (a := 'N') rfl).symm, (ne (a := 'I') rfl).symm,
      (ne (a := '-') rfl).symm]

theorem Scalar.scalar_eq (h : Scalar d t v u) (hu : EndsNumber u) : scalar d t = .ok (v, u) ∨
    ∃ n k, v = .int n ∧ Numeral.maxDigits < (Numeral.ofNat n.natAbs).length ∧
      scalar d t = .error (.longNumber k) := by
  cases h with
  | string h =>
    rw [scalar, string_eq_ok.2 h]
    exact .inl rfl
  | word h => exact .inl (scalar_word h u)
  | number h =>
    have hn := number_append h hu
    obtain @⟨w, f, ds, e, x, negative, hw, hf, he⟩ := h
    have hs := scalar_number (d := d) hw.isDigits negative (f ++ (e ++ u))
    simp only [List.append_assoc] at hn ⊢
    rwa [hs]

theorem LongInteger.scalar_eq (h : LongInteger t) :
    ∃ k, scalar d t = .error (.longNumber k) := by
  have hn := h.number_eq
  obtain ⟨negative, w, u, rfl, hw, -, -⟩ := h
  rwa [scalar_number hw.isDigits]

end Scalars

end LatexSnippets.Json
