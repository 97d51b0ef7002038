import LatexSnippets.Proofs.Json.Literal

/-!
The grammar of JSON documents, and that reading goes by it: what is read is written so, and what is
written so is read, unless it goes beyond the dialect.
-/

namespace LatexSnippets.Json

open Reader

/-- What follows the blanks at the beginning of a text, or some of them. -/
def Blanks (t u : Text) : Prop := ∃ b, t = b ++ u ∧ ∀ c ∈ b, isBlank c = true

/-- The name of a member with its colon, and what follows that. -/
def Named (d : Dialect) (t s u : Text) : Prop :=
  ∃ t₁ t₂, Blanks t ('"' :: t₁) ∧ Quoted d t₁ s t₂ ∧ Blanks t₂ (':' :: u)

/-- The parts of a document: a value, and what stands between the brackets of an array or an object
that is not empty. -/
inductive Part
  | value (v : Json)
  | items (vs : List Json)
  | members (ms : List (Text × Json))

/-- A part at the beginning of a text, its closing bracket included, and what follows it. -/
inductive Spells (d : Dialect) : Part → Text → Text → Prop
  | scalar (h : Scalar d t v u) : Spells d (.value v) t u
  | emptyArray (h : Blanks t (']' :: u)) : Spells d (.value (.array [])) ('[' :: t) u
  | array (h : Spells d (.items vs) t u) : Spells d (.value (.array vs)) ('[' :: t) u
  | emptyObject (h : Blanks t ('\x7d' :: u)) : Spells d (.value (.object [])) ('\x7b' :: t) u
  | object (h : Spells d (.members ms) t u) : Spells d (.value (.object ms)) ('\x7b' :: t) u
  | lastItem (hb : Blanks t t₁) (hv : Spells d (.value v) t₁ t₂) (hc : Blanks t₂ (']' :: u)) :
    Spells d (.items [v]) t u
  | item (hb : Blanks t t₁) (hv : Spells d (.value v) t₁ t₂) (hc : Blanks t₂ (',' :: t₃))
    (h : Spells d (.items vs) t₃ u) : Spells d (.items (v :: vs)) t u
  | lastMember (hn : Named d t s t₁) (hb : Blanks t₁ t₂) (hv : Spells d (.value v) t₂ t₃)
    (hc : Blanks t₃ ('\x7d' :: u)) : Spells d (.members [(s, v)]) t u
  | member (hn : Named d t s t₁) (hb : Blanks t₁ t₂) (hv : Spells d (.value v) t₂ t₃)
    (hc : Blanks t₃ (',' :: t₄)) (h : Spells d (.members ms) t₄ u) :
    Spells d (.members ((s, v) :: ms)) t u

/-- A value with nothing but blanks around it. -/
def IsDocument (d : Dialect) (s : Text) (v : Json) : Prop :=
  ∃ t u, Blanks s t ∧ Spells d (.value v) t u ∧ Blanks u []

/-- A value that can be read: its integers are short, and it is nested no deeper than said. -/
inductive Fits : Nat → Json → Prop
  | null : Fits depth .null
  | bool (b : Bool) : Fits depth (.bool b)
  | int {n : Int} (h : (Numeral.ofNat n.natAbs).length ≤ Numeral.maxDigits) : Fits depth (.int n)
  | decimal (negative : Bool) (digits : Nat) (exponent : Int) :
    Fits depth (.decimal negative digits exponent)
  | notFinite : Fits depth .notFinite
  | text (t : Text) : Fits depth (.text t)
  | array {vs : List Json} (h : ∀ v ∈ vs, Fits depth v) : Fits (depth + 1) (.array vs)
  | object {ms : List (Text × Json)} (h : ∀ m ∈ ms, Fits depth m.2) :
    Fits (depth + 1) (.object ms)

section Blanks

variable {d : Dialect} {c : Char} {s t u : Text}

theorem Blanks.refl (t : Text) : Blanks t t := ⟨[], rfl, nofun⟩

theorem Blanks.length_le (h : Blanks t u) : u.length ≤ t.length := by
  obtain ⟨b, rfl, -⟩ := h
  simp

theorem Blanks.skipBlanks_eq (h : Blanks t u) : skipBlanks t = skipBlanks u := by
  obtain ⟨b, rfl, hb⟩ := h
  exact List.dropWhile_append_of_pos hb

theorem skipBlanks_cons (h : isBlank c = false) (t : Text) : skipBlanks (c :: t) = c :: t :=
  List.dropWhile_cons_of_neg (by simp [h])

theorem Blanks.skipBlanks_cons (h : Blanks t (c :: u)) (hc : isBlank c = false) :
    skipBlanks t = c :: u :=
  h.skipBlanks_eq.trans (Json.skipBlanks_cons hc u)

theorem blanks_skipBlanks (t : Text) : Blanks t (skipBlanks t) :=
  ⟨t.takeWhile isBlank, List.takeWhile_append_dropWhile.symm,
    List.all_eq_true.1 List.all_takeWhile⟩

theorem blanks_of_skipBlanks (h : skipBlanks t = u) : Blanks t u := h ▸ blanks_skipBlanks t

end Blanks

section Sound

variable {d : Dialect} {s t u : Text} {fuel depth : Nat} {v : Json}

theorem name_sound (h : name d t = .ok (s, u)) : Named d t s u := by
  rw [name] at h
  split at h
  · next t₁ ht =>
    obtain ⟨⟨s', t₂⟩, hs, h⟩ := bind_eq_ok.1 h
    dsimp only at h
    split at h
    · next hr =>
      obtain ⟨rfl, rfl⟩ := Prod.mk.inj (Except.ok.inj h)
      exact ⟨t₁, t₂, blanks_of_skipBlanks ht, string_eq_ok.1 hs, blanks_of_skipBlanks hr⟩
    · contradiction
  · contradiction

/-- What is read with so much fuel is written so. -/
structure Sound (d : Dialect) (fuel : Nat) : Prop where
  value : ∀ {depth t v u}, value d fuel depth t = .ok (v, u) →
    ∃ s, Blanks t s ∧ Spells d (.value v) s u
  items : ∀ {depth t vs u}, items d fuel depth t = .ok (vs, u) → Spells d (.items vs) t u
  members : ∀ {depth t ms u}, Reader.members d fuel depth t = .ok (ms, u) →
    Spells d (.members ms) t u

theorem Sound.value_succ (ih : Sound d fuel) (h : Reader.value d (fuel + 1) depth t = .ok (v, u)) :
    ∃ s, Blanks t s ∧ Spells d (.value v) s u := by
  refine ⟨skipBlanks t, blanks_skipBlanks t, ?_⟩
  rw [Reader.value.eq_def] at h
  dsimp only at h
  split at h
  · next ht =>
    rw [ht]
    split at h
    · next hr =>
      obtain ⟨rfl, rfl⟩ := Prod.mk.inj (Except.ok.inj h)
      exact .emptyArray (blanks_of_skipBlanks hr)
    · obtain ⟨⟨vs, u'⟩, hi, h⟩ := map_eq_ok.1 h
      obtain ⟨rfl, rfl⟩ := Prod.mk.inj h
      exact .array (ih.items hi)
  · next ht =>
    rw [ht]
    split at h
    · next hr =>
      obtain ⟨rfl, rfl⟩ := Prod.mk.inj (Except.ok.inj h)
      exact .emptyObject (blanks_of_skipBlanks hr)
    · obtain ⟨⟨vs, u'⟩, hi, h⟩ := map_eq_ok.1 h
      obtain ⟨rfl, rfl⟩ := Prod.mk.inj h
      exact .object (ih.members hi)
  · contradiction
  · contradiction
  · exact .scalar (scalar_sound h)

theorem Sound.items_succ (ih : Sound d fuel) {vs : List Json}
    (h : Reader.items d (fuel + 1) depth t = .ok (vs, u)) : Spells d (.items vs) t u := by
  rw [Reader.items] at h
  obtain ⟨⟨v, t₂⟩, hv, h⟩ := bind_eq_ok.1 h
  obtain ⟨t₁, hb, hv⟩ := ih.value hv
  dsimp only at h
  split at h
  · next hr =>
    obtain ⟨rfl, rfl⟩ := Prod.mk.inj (Except.ok.inj h)
    exact .lastItem hb hv (blanks_of_skipBlanks hr)
  · next t₃ hr =>
    obtain ⟨⟨vs, u'⟩, hi, h⟩ := bind_eq_ok.1 h
    obtain ⟨rfl, rfl⟩ := Prod.mk.inj (Except.ok.inj h)
    exact .item hb hv (blanks_of_skipBlanks hr) (ih.items hi)
  · contradiction

theorem Sound.members_succ (ih : Sound d fuel) {ms : List (Text × Json)}
    (h : Reader.members d (fuel + 1) depth t = .ok (ms, u)) : Spells d (.members ms) t u := by
  rw [Reader.members] at h
  obtain ⟨⟨s, t₁⟩, hn, h⟩ := bind_eq_ok.1 h
  obtain ⟨⟨v, t₃⟩, hv, h⟩ := bind_eq_ok.1 h
  obtain ⟨t₂, hb, hv⟩ := ih.value hv
  dsimp only at h
  split at h
  · next hr =>
    obtain ⟨rfl, rfl⟩ := Prod.mk.inj (Except.ok.inj h)
    exact .lastMember (name_sound hn) hb hv (blanks_of_skipBlanks hr)
  · next t₄ hr =>
    obtain ⟨⟨ms, u'⟩, hi, h⟩ := bind_eq_ok.1 h
    obtain ⟨rfl, rfl⟩ := Prod.mk.inj (Except.ok.inj h)
    exact .member (name_sound hn) hb hv (blanks_of_skipBlanks hr) (ih.members hi)
  · contradiction

theorem sound (d : Dialect) (fuel : Nat) : Sound d fuel := by
  induction fuel with
  | zero =>
    refine ⟨fun h => ?_, fun h => ?_, fun h => ?_⟩
    · rw [Reader.value] at h
      contradiction
    · rw [Reader.items] at h
      contradiction
    · rw [Reader.members] at h
      contradiction
  | succ fuel ih => exact ⟨ih.value_succ, ih.items_succ, ih.members_succ⟩

end Sound

section Beginnings

variable {d : Dialect} {c : Char} {s t u : Text} {v : Json}

/-- A value without parts begins with a quote, a letter, a minus sign or a digit. -/
theorem Scalar.exists_cons (h : Scalar d t v u) :
    ∃ c t', t = c :: t' ∧ isBlank c = false ∧ c ≠ '[' ∧ c ≠ '{' ∧ c ≠ ']' := by
  cases h with
  | string => exact ⟨_, _, rfl, by decide⟩
  | word h =>
    simp only [words, List.mem_cons, Prod.mk.injEq, List.not_mem_nil, or_false] at h
    rcases h with ⟨rfl, -⟩ | ⟨rfl, -⟩ | ⟨rfl, -⟩ | ⟨rfl, -⟩ | ⟨rfl, -⟩ | ⟨rfl, -⟩ <;>
      exact ⟨_, _, rfl, by decide⟩
  | number h =>
    obtain @⟨w, f, ds, e, x, negative, hw, hf, he⟩ := h
    cases negative with
    | true => exact ⟨_, _, rfl, by decide⟩
    | false =>
      obtain ⟨c, cs, rfl, hc⟩ := hw.isDigits.exists_cons
      have ne : ∀ {a : Char}, a.isDigit = false → c ≠ a := ne_of_isDigit hc
      refine ⟨c, _, rfl, ?_, ne rfl, ne rfl, ne rfl⟩
      simp [isBlank, ne (a := ' ') rfl, ne (a := '\t') rfl, ne (a := '\n') rfl,
        ne (a := '\r') rfl]

theorem Scalar.length_lt (h : Scalar d t v u) : u.length < t.length := by
  cases h with
  | string h => exact Nat.lt_succ_of_lt h.length_lt
  | @word w _ _ h =>
    have hn : ∀ e ∈ words, 0 < e.1.length := by decide
    have : 0 < w.length := hn _ h
    rw [List.length_append]
    omega
  | number h =>
    obtain @⟨w, f, ds, e, x, negative, hw, hf, he⟩ := h
    have := List.length_pos_of_ne_nil hw.isDigits.ne_nil
    simp only [List.length_append]
    omega

theorem Spells.exists_cons (h : Spells d (.value v) t u) :
    ∃ c t', t = c :: t' ∧ isBlank c = false ∧ c ≠ ']' := by
  cases h with
  | scalar h =>
    obtain ⟨c, t', rfl, hb, -, -, hc⟩ := h.exists_cons
    exact ⟨c, t', rfl, hb, hc⟩
  | _ => exact ⟨_, _, rfl, by decide⟩

/-- The items of an array do not begin with its end. -/
theorem Spells.skipBlanks_items {vs : List Json} (h : Spells d (.items vs) t u) (t' : Text) :
    skipBlanks t ≠ ']' :: t' := by
  have first : ∀ {v t₁ t₂}, Blanks t t₁ → Spells d (.value v) t₁ t₂ →
      skipBlanks t ≠ ']' :: t' := by
    intro v t₁ t₂ hb hv hs
    obtain ⟨c, t₁, rfl, hc, hn⟩ := hv.exists_cons
    exact hn (List.cons.inj ((hb.skipBlanks_cons hc).symm.trans hs)).1
  cases h with
  | lastItem hb hv => exact first hb hv
  | item hb hv => exact first hb hv

theorem Named.skipBlanks_eq (h : Named d t s u) : ∃ t', skipBlanks t = '"' :: t' := by
  obtain ⟨t₁, t₂, hb, -, -⟩ := h
  exact ⟨t₁, hb.skipBlanks_cons rfl⟩

theorem Spells.skipBlanks_members {ms : List (Text × Json)} (h : Spells d (.members ms) t u) :
    ∃ t', skipBlanks t = '"' :: t' := by
  cases h with
  | lastMember hn => exact hn.skipBlanks_eq
  | member hn => exact hn.skipBlanks_eq

theorem Named.length_lt (h : Named d t s u) : u.length < t.length := by
  obtain ⟨t₁, t₂, hb, hq, hc⟩ := h
  have h₁ := hb.length_le
  have h₂ := hq.length_lt
  have h₃ := hc.length_le
  simp only [List.length_cons] at h₁ h₃
  omega

theorem Spells.length_lt {part : Part} (h : Spells d part t u) : u.length < t.length := by
  induction h with
  | scalar h => exact h.length_lt
  | emptyArray h | emptyObject h =>
    have := h.length_le
    simp only [List.length_cons] at this ⊢
    omega
  | array _ ih | object _ ih => exact Nat.lt_succ_of_lt ih
  | lastItem hb _ hc ih | item hb _ hc _ ih =>
    have h₁ := hb.length_le
    have h₂ := hc.length_le
    simp only [List.length_cons] at h₂
    omega
  | lastMember hn hb _ hc ih | member hn hb _ hc _ ih =>
    have h₁ := hn.length_lt
    have h₂ := hb.length_le
    have h₃ := hc.length_le
    simp only [List.length_cons] at h₃
    omega

end Beginnings

section Complete

variable {d : Dialect} {c : Char} {s t u : Text} {fuel depth : Nat} {v : Json}

/-- What may follow a value: nothing, a blank, a comma or a closing bracket. -/
def EndsValue (u : Text) : Prop :=
  ∀ c ∈ u.head?, isBlank c = true ∨ c = ',' ∨ c = ']' ∨ c = '}'

theorem EndsValue.head_ne (h : EndsValue u) (hc : c ∈ u.head?) :
    c.isDigit = false ∧ c ≠ '.' ∧ c ≠ 'e' ∧ c ≠ 'E' := by
  have hc := h c hc
  simp only [isBlank, Bool.or_eq_true, decide_eq_true_eq] at hc
  rcases hc with (((rfl | rfl) | rfl) | rfl) | rfl | rfl | rfl <;> decide

theorem EndsValue.endsNumber (h : EndsValue u) : EndsNumber u where
  noDigit _ hc := (h.head_ne hc).1
  noFraction f ds hf hp := by
    obtain ⟨t, rfl⟩ := hp
    cases hf with
    | nothing => rfl
    | point _ => exact absurd rfl (h.head_ne rfl).2.1
  noExponent e x he hp := by
    obtain ⟨t, rfl⟩ := hp
    cases he with
    | nothing => rfl
    | power hc _ =>
      have hn := (h.head_ne rfl).2.2
      exact absurd hc (not_or.2 hn)

theorem Blanks.endsValue (h : Blanks t u) (hu : EndsValue u) : EndsValue t := by
  obtain ⟨b, rfl, hb⟩ := h
  cases b with
  | nil => exact hu
  | cons a b =>
    intro c hc
    obtain rfl : a = c := Option.some.inj hc
    exact .inl (hb a List.mem_cons_self)

theorem Blanks.endsValue_cons (h : Blanks t (c :: u)) (hc : c = ',' ∨ c = ']' ∨ c = '\x7d') :
    EndsValue t :=
  h.endsValue fun _ ha => .inr (Option.some.inj ha ▸ hc)

theorem name_eq (h : Named d t s u) : name d t = .ok (s, u) := by
  obtain ⟨t₁, t₂, hb, hq, hc⟩ := h
  rw [name, hb.skipBlanks_cons rfl]
  simp only [string_eq_ok.2 hq, bind, Except.bind, hc.skipBlanks_cons rfl]
  rfl

theorem value_scalar (hb : Blanks s (c :: t)) (hc : isBlank c = false) (h₁ : c ≠ '[')
    (h₂ : c ≠ '\x7b') : value d (fuel + 1) depth s = scalar d (c :: t) := by
  rw [value.eq_def]
  simp only [hb.skipBlanks_cons hc]
  split <;> simp_all

theorem value_array (hb : Blanks s ('[' :: t)) (ht : ∀ u, skipBlanks t ≠ ']' :: u) :
    value d (fuel + 1) (depth + 1) s =
      (items d fuel depth t).map fun (vs, after) => (.array vs, after) := by
  rw [value.eq_def]
  simp only [hb.skipBlanks_cons rfl]

theorem value_object (hb : Blanks s ('\x7b' :: t)) (ht : ∀ u, skipBlanks t ≠ '\x7d' :: u) :
    value d (fuel + 1) (depth + 1) s =
      (Reader.members d fuel depth t).map fun (ms, after) => (.object ms, after) := by
  rw [value.eq_def]
  simp only [hb.skipBlanks_cons rfl]

theorem value_tooDeep (hb : Blanks s (c :: t)) (hc : c = '[' ∨ c = '\x7b') :
    value d (fuel + 1) 0 s = .error (.tooDeep (c = '[')) := by
  rw [value.eq_def]
  rcases hc with rfl | rfl <;> simp only [hb.skipBlanks_cons rfl] <;> rfl

/-- What reading gives for a part that fits, or does not: the part itself, or an error that is not
about its form. -/
def Gives (fits : Prop) (r : Except Error α) (a : α) : Prop :=
  r = .ok a ∨ ¬fits ∧ ∃ e, r = .error e ∧ e ≠ .malformed

theorem Gives.eq_ok {p : Prop} {r : Except Error α} {a : α} (h : Gives p r a) (hp : p) :
    r = .ok a :=
  h.resolve_right fun hn => hn.1 hp

theorem Gives.bind {p q : Prop} {r : Except Error α} {a : α} {f : α → Except Error β} {b : β}
    (h : Gives p r a) (hf : Gives q (f a) b) (hp : q → p) : Gives q (r >>= f) b := by
  rcases h with rfl | ⟨hn, e, rfl, he⟩
  · exact hf
  · exact .inr ⟨fun hq => hn (hp hq), e, rfl, he⟩

theorem Gives.map {p q : Prop} {r : Except Error α} {a : α} (h : Gives p r a) (f : α → β)
    (hp : q → p) : Gives q (r.map f) (f a) := by
  rcases h with rfl | ⟨hn, e, rfl, he⟩
  · exact .inl rfl
  · exact .inr ⟨fun hq => hn (hp hq), e, rfl, he⟩

/-- That a part is read as it is written. -/
def Part.Reads (d : Dialect) (t u : Text) : Part → Prop
  | .value v => EndsValue u → ∀ fuel depth s, Blanks s t → 2 * t.length < fuel →
    Gives (Fits depth v) (Reader.value d fuel depth s) (v, u)
  | .items vs => ∀ fuel depth, 2 * t.length + 1 < fuel →
    Gives (∀ v ∈ vs, Fits depth v) (Reader.items d fuel depth t) (vs, u)
  | .members ms => ∀ fuel depth, 2 * t.length + 1 < fuel →
    Gives (∀ m ∈ ms, Fits depth m.2) (Reader.members d fuel depth t) (ms, u)

theorem Part.reads_scalar (h : Scalar d t v u) : (Part.value v).Reads d t u := by
  rintro hu (_ | fuel) depth s hb hf
  · contradiction
  · obtain ⟨c, t', rfl, hc, h₁, h₂, -⟩ := h.exists_cons
    rw [value_scalar hb hc h₁ h₂]
    rcases h.scalar_eq hu.endsNumber with hs | ⟨n, k, rfl, hl, hs⟩
    · exact .inl hs
    · refine .inr ⟨?_, _, hs, nofun⟩
      rintro ⟨⟩
      omega

theorem Part.reads_emptyArray (h : Blanks t (']' :: u)) :
    (Part.value (.array [])).Reads d ('[' :: t) u := by
  rintro - (_ | fuel) (_ | depth) s hb hf
  · contradiction
  · contradiction
  · exact .inr ⟨nofun, _, value_tooDeep hb (.inl rfl), nofun⟩
  · refine .inl ?_
    rw [value.eq_def]
    simp only [hb.skipBlanks_cons rfl, h.skipBlanks_cons rfl]

theorem Part.reads_emptyObject (h : Blanks t ('\x7d' :: u)) :
    (Part.value (.object [])).Reads d ('\x7b' :: t) u := by
  rintro - (_ | fuel) (_ | depth) s hb hf
  · contradiction
  · contradiction
  · exact .inr ⟨nofun, _, value_tooDeep hb (.inr rfl), nofun⟩
  · refine .inl ?_
    rw [value.eq_def]
    simp only [hb.skipBlanks_cons rfl, h.skipBlanks_cons rfl]

theorem Part.reads_array {vs : List Json} (h : Spells d (.items vs) t u)
    (ih : (Part.items vs).Reads d t u) : (Part.value (.array vs)).Reads d ('[' :: t) u := by
  rintro - (_ | fuel) (_ | depth) s hb hf
  · contradiction
  · contradiction
  · exact .inr ⟨nofun, _, value_tooDeep hb (.inl rfl), nofun⟩
  · rw [value_array hb h.skipBlanks_items]
    rw [List.length_cons] at hf
    exact (ih fuel depth (by omega)).map _ fun | .array h => h

theorem Part.reads_object {ms : List (Text × Json)} (h : Spells d (.members ms) t u)
    (ih : (Part.members ms).Reads d t u) : (Part.value (.object ms)).Reads d ('\x7b' :: t) u := by
  rintro - (_ | fuel) (_ | depth) s hb hf
  · contradiction
  · contradiction
  · exact .inr ⟨nofun, _, value_tooDeep hb (.inr rfl), nofun⟩
  · obtain ⟨t', ht⟩ := h.skipBlanks_members
    rw [value_object hb (by simp [ht])]
    rw [List.length_cons] at hf
    exact (ih fuel depth (by omega)).map _ fun | .object h => h

theorem Part.reads_lastItem {t₁ t₂ : Text} (hb : Blanks t t₁) (hc : Blanks t₂ (']' :: u))
    (ih : (Part.value v).Reads d t₁ t₂) : (Part.items [v]).Reads d t u := by
  rintro (_ | fuel) depth hf
  · contradiction
  · have := hb.length_le
    rw [Reader.items]
    have hu := hc.endsValue_cons (.inr (.inl rfl))
    refine (ih hu fuel depth t hb (by omega)).bind ?_ fun h => h v (by simp)
    simp only [hc.skipBlanks_cons rfl]
    exact .inl rfl

theorem Part.reads_item {vs : List Json} {t₁ t₂ t₃ : Text} (hb : Blanks t t₁)
    (hv : Spells d (.value v) t₁ t₂) (hc : Blanks t₂ (',' :: t₃))
    (ih : (Part.value v).Reads d t₁ t₂) (ih' : (Part.items vs).Reads d t₃ u) :
    (Part.items (v :: vs)).Reads d t u := by
  rintro (_ | fuel) depth hf
  · contradiction
  · have h₁ := hb.length_le
    have h₂ := hv.length_lt
    have h₃ := hc.length_le
    rw [List.length_cons] at h₃
    rw [Reader.items]
    have hu := hc.endsValue_cons (.inl rfl)
    refine (ih hu fuel depth t hb (by omega)).bind ?_ fun h => h v (by simp)
    simp only [hc.skipBlanks_cons rfl]
    exact (ih' fuel depth (by omega)).bind (.inl rfl) fun h w hw => h w (.tail _ hw)

theorem Part.reads_lastMember {t₁ t₂ t₃ : Text} (hn : Named d t s t₁) (hb : Blanks t₁ t₂)
    (hc : Blanks t₃ ('\x7d' :: u)) (ih : (Part.value v).Reads d t₂ t₃) :
    (Part.members [(s, v)]).Reads d t u := by
  rintro (_ | fuel) depth hf
  · contradiction
  · have h₁ := hn.length_lt
    have h₂ := hb.length_le
    rw [Reader.members, name_eq hn]
    have hu := hc.endsValue_cons (.inr (.inr rfl))
    refine (ih hu fuel depth t₁ hb (by omega)).bind ?_ fun h => h (s, v) (by simp)
    simp only [hc.skipBlanks_cons rfl]
    exact .inl rfl

theorem Part.reads_member {ms : List (Text × Json)} {t₁ t₂ t₃ t₄ : Text} (hn : Named d t s t₁)
    (hb : Blanks t₁ t₂) (hv : Spells d (.value v) t₂ t₃) (hc : Blanks t₃ (',' :: t₄))
    (ih : (Part.value v).Reads d t₂ t₃) (ih' : (Part.members ms).Reads d t₄ u) :
    (Part.members ((s, v) :: ms)).Reads d t u := by
  rintro (_ | fuel) depth hf
  · contradiction
  · have h₁ := hn.length_lt
    have h₂ := hb.length_le
    have h₃ := hv.length_lt
    have h₄ := hc.length_le
    rw [List.length_cons] at h₄
    rw [Reader.members, name_eq hn]
    have hu := hc.endsValue_cons (.inl rfl)
    refine (ih hu fuel depth t₁ hb (by omega)).bind ?_ fun h => h (s, v) (by simp)
    simp only [hc.skipBlanks_cons rfl]
    exact (ih' fuel depth (by omega)).bind (.inl rfl) fun h m hm => h m (.tail _ hm)

/-- What is written for a part is read as it: the induction is on how it is written, so that each
case is one step of the reader. -/
theorem Spells.reads {part : Part} (h : Spells d part t u) : part.Reads d t u := by
  induction h with
  | scalar h => exact Part.reads_scalar h
  | emptyArray h => exact Part.reads_emptyArray h
  | array h ih => exact Part.reads_array h ih
  | emptyObject h => exact Part.reads_emptyObject h
  | object h ih => exact Part.reads_object h ih
  | lastItem hb _ hc ih => exact Part.reads_lastItem hb hc ih
  | item hb hv hc _ ih ih' => exact Part.reads_item hb hv hc ih ih'
  | lastMember hn hb _ hc ih => exact Part.reads_lastMember hn hb hc ih
  | member hn hb hv hc _ ih ih' => exact Part.reads_member hn hb hv hc ih ih'

/-- A document is read, unless its value does not fit; then it is not its form that is wrong. -/
theorem IsDocument.gives (h : IsDocument d s v) : Gives (Fits d.depth v) (read d s) v := by
  obtain ⟨t, u, hb, hv, hu⟩ := h
  have := hb.length_le
  refine (hv.reads (hu.endsValue nofun) _ _ s hb (by omega)).bind ?_ id
  simp only [hu.skipBlanks_eq]
  exact .inl rfl

end Complete

end LatexSnippets.Json
