import LatexSnippets.Proofs.Json.Grammar

/-!
Texts that go beyond a dialect: well formed as far as they are read, they come to a value that is
nested too deep or an integer of too many digits. For any other text, what is not read is no
document.
-/

namespace LatexSnippets.Json

open Reader

/-- The kinds of parts that are read one inside another. -/
inductive Kind
  | value
  | items
  | members

/-- Reading a part from `t` on comes to a place `n` levels further in where a value is to begin with
`u`: all that stands before it is well formed. -/
inductive Reaches (d : Dialect) : Kind → Nat → Text → Text → Prop
  | here (hb : Blanks t u) : Reaches d .value 0 t u
  | array (hb : Blanks t ('[' :: t₁)) (h : Reaches d .items n t₁ u) : Reaches d .value (n + 1) t u
  | object (hb : Blanks t ('\x7b' :: t₁)) (h : Reaches d .members n t₁ u) :
    Reaches d .value (n + 1) t u
  | item (h : Reaches d .value n t u) : Reaches d .items n t u
  | laterItem (hb : Blanks t t₁) (hv : Spells d (.value v) t₁ t₂) (hc : Blanks t₂ (',' :: t₃))
    (h : Reaches d .items n t₃ u) : Reaches d .items n t u
  | member (hn : Named d t s t₁) (h : Reaches d .value n t₁ u) : Reaches d .members n t u
  | laterMember (hn : Named d t s t₁) (hb : Blanks t₁ t₂) (hv : Spells d (.value v) t₂ t₃)
    (hc : Blanks t₃ (',' :: t₄)) (h : Reaches d .members n t₄ u) : Reaches d .members n t u

/-- Whether an array or an object begins a text. -/
def Opens (u : Text) : Prop := ∃ c t, u = c :: t ∧ (c = '[' ∨ c = '\x7b')

/-- A part is well formed up to a value that is not read with so many levels allowed. -/
def Kind.Exceeds (d : Dialect) (depth : Nat) (t : Text) (kind : Kind) : Prop :=
  ∃ n u, Reaches d kind n t u ∧ (depth ≤ n ∧ Opens u ∨ LongInteger u)

/-- A text is well formed up to a value that the dialect does not take. -/
def Exceeds (d : Dialect) (t : Text) : Prop := Kind.value.Exceeds d d.depth t

section Failing

variable {d : Dialect} {fuel depth : Nat} {s t : Text} {e : Error}

theorem Kind.Exceeds.array {t₁ : Text} (hb : Blanks t ('[' :: t₁))
    (h : Kind.items.Exceeds d depth t₁) : Kind.value.Exceeds d (depth + 1) t := by
  obtain ⟨n, u, hr, hu⟩ := h
  exact ⟨n + 1, u, .array hb hr, hu.imp_left (And.imp_left Nat.succ_le_succ)⟩

theorem Kind.Exceeds.object {t₁ : Text} (hb : Blanks t ('\x7b' :: t₁))
    (h : Kind.members.Exceeds d depth t₁) : Kind.value.Exceeds d (depth + 1) t := by
  obtain ⟨n, u, hr, hu⟩ := h
  exact ⟨n + 1, u, .object hb hr, hu.imp_left (And.imp_left Nat.succ_le_succ)⟩

theorem name_error (h : name d t = .error e) : e = .malformed := by
  rw [name] at h
  split at h
  · next t₁ ht =>
    rcases bind_eq_error.1 h with h | ⟨⟨s, t₂⟩, -, h⟩
    · exact string_eq_error h
    · dsimp only at h
      split at h
      · contradiction
      · exact (Except.error.inj h).symm
  · exact (Except.error.inj h).symm

/-- What is not read with so much fuel, and is not malformed, goes beyond the dialect. -/
structure Complains (d : Dialect) (fuel : Nat) : Prop where
  value : ∀ {depth t e}, value d fuel depth t = .error e → e ≠ .malformed →
    Kind.value.Exceeds d depth t
  items : ∀ {depth t e}, items d fuel depth t = .error e → e ≠ .malformed →
    Kind.items.Exceeds d depth t
  members : ∀ {depth t e}, Reader.members d fuel depth t = .error e → e ≠ .malformed →
    Kind.members.Exceeds d depth t

theorem Complains.value_succ (ih : Complains d fuel)
    (h : Reader.value d (fuel + 1) depth t = .error e) (he : e ≠ .malformed) :
    Kind.value.Exceeds d depth t := by
  have hb := blanks_skipBlanks t
  rw [Reader.value.eq_def] at h
  dsimp only at h
  split at h
  · next ht =>
    rw [ht] at hb
    split at h
    · contradiction
    · exact .array hb (ih.items (map_eq_error.1 h) he)
  · next ht =>
    rw [ht] at hb
    split at h
    · contradiction
    · exact .object hb (ih.members (map_eq_error.1 h) he)
  · next ht => exact ⟨0, _, .here hb, .inl ⟨Nat.le_refl 0, _, _, ht, .inl rfl⟩⟩
  · next ht => exact ⟨0, _, .here hb, .inl ⟨Nat.le_refl 0, _, _, ht, .inr rfl⟩⟩
  · exact ⟨0, _, .here hb, .inr ((scalar_error h).resolve_left he)⟩

theorem Complains.items_succ (ih : Complains d fuel)
    (h : Reader.items d (fuel + 1) depth t = .error e) (he : e ≠ .malformed) :
    Kind.items.Exceeds d depth t := by
  rw [Reader.items] at h
  rcases bind_eq_error.1 h with h | ⟨⟨v, t₂⟩, hv, h⟩
  · obtain ⟨n, u, hr, hu⟩ := ih.value h he
    exact ⟨n, u, .item hr, hu⟩
  · obtain ⟨t₁, hb, hv⟩ := (sound d fuel).value hv
    dsimp only at h
    split at h
    · contradiction
    · next t₃ ht =>
      rcases bind_eq_error.1 h with h | ⟨_, _, h⟩
      · obtain ⟨n, u, hr, hu⟩ := ih.items h he
        exact ⟨n, u, .laterItem hb hv (blanks_of_skipBlanks ht) hr, hu⟩
      · contradiction
    · exact absurd (Except.error.inj h).symm he

theorem Complains.members_succ (ih : Complains d fuel)
    (h : Reader.members d (fuel + 1) depth t = .error e) (he : e ≠ .malformed) :
    Kind.members.Exceeds d depth t := by
  rw [Reader.members] at h
  rcases bind_eq_error.1 h with h | ⟨⟨s, t₁⟩, hn, h⟩
  · exact absurd (name_error h) he
  replace hn := name_sound hn
  rcases bind_eq_error.1 h with h | ⟨⟨v, t₃⟩, hv, h⟩
  · obtain ⟨n, u, hr, hu⟩ := ih.value h he
    exact ⟨n, u, .member hn hr, hu⟩
  · obtain ⟨t₂, hb, hv⟩ := (sound d fuel).value hv
    dsimp only at h
    split at h
    · contradiction
    · next t₄ ht =>
      rcases bind_eq_error.1 h with h | ⟨_, _, h⟩
      · obtain ⟨n, u, hr, hu⟩ := ih.members h he
        exact ⟨n, u, .laterMember hn hb hv (blanks_of_skipBlanks ht) hr, hu⟩
      · contradiction
    · exact absurd (Except.error.inj h).symm he

theorem complains (d : Dialect) (fuel : Nat) : Complains d fuel := by
  induction fuel with
  | zero =>
    refine ⟨fun h he => ?_, fun h he => ?_, fun h he => ?_⟩
    · rw [Reader.value] at h
      exact absurd (Except.error.inj h).symm he
    · rw [Reader.items] at h
      exact absurd (Except.error.inj h).symm he
    · rw [Reader.members] at h
      exact absurd (Except.error.inj h).symm he
  | succ fuel ih => exact ⟨ih.value_succ, ih.items_succ, ih.members_succ⟩

theorem exceeds_of_read (h : read d t = .error e) (he : e ≠ .malformed) : Exceeds d t := by
  rw [read] at h
  rcases bind_eq_error.1 h with h | ⟨⟨v, u⟩, -, h⟩
  · exact (complains d _).value h he
  · dsimp only at h
    split at h
    · contradiction
    · exact absurd (Except.error.inj h).symm he

end Failing

section Refused

variable {d : Dialect} {kind : Kind} {n fuel depth : Nat} {t u : Text}

theorem LongInteger.exists_cons (h : LongInteger u) :
    ∃ c u', u = c :: u' ∧ isBlank c = false ∧ c ≠ '[' ∧ c ≠ '\x7b' ∧ c ≠ ']' := by
  obtain ⟨negative, w, u', rfl, hw, -, -⟩ := h
  have hs : Scalar ⟨0, true⟩ _ _ u' := .number (.mk negative hw .nothing .nothing)
  obtain ⟨c, t', ht, hc⟩ := hs.exists_cons
  simp only [List.append_nil, List.append_assoc] at ht
  exact ⟨c, t', ht, hc⟩

/-- What is not read does not look like the end of an array. -/
theorem exists_cons_of_exceeding (h : depth ≤ n ∧ Opens u ∨ LongInteger u) :
    ∃ c u', u = c :: u' ∧ isBlank c = false ∧ c ≠ ']' := by
  rcases h with ⟨-, c, u', rfl, rfl | rfl⟩ | h
  · exact ⟨_, _, rfl, by decide⟩
  · exact ⟨_, _, rfl, by decide⟩
  · obtain ⟨c, u', rfl, hb, -, -, hc⟩ := h.exists_cons
    exact ⟨c, u', rfl, hb, hc⟩

theorem Reaches.skipBlanks_ne (h : Reaches d kind n t u)
    (hu : ∃ c u', u = c :: u' ∧ isBlank c = false ∧ c ≠ ']') (hk : kind ≠ .members) (t' : Text) :
    skipBlanks t ≠ ']' :: t' := by
  have first : ∀ {c t t₁}, Blanks t (c :: t₁) → isBlank c = false → c ≠ ']' →
      skipBlanks t ≠ ']' :: t' := fun hb hc hn hs =>
    hn (List.cons.inj ((hb.skipBlanks_cons hc).symm.trans hs)).1
  induction h with
  | here hb =>
    obtain ⟨c, u', rfl, hc, hn⟩ := hu
    exact first hb hc hn
  | array hb => exact first hb rfl (by decide)
  | object hb => exact first hb rfl (by decide)
  | item _ ih => exact ih hu nofun
  | laterItem hb hv =>
    obtain ⟨c, t₁, rfl, hc, hn⟩ := hv.exists_cons
    exact first hb hc hn
  | member | laterMember => contradiction

theorem Reaches.skipBlanks_members (h : Reaches d .members n t u) :
    ∃ t', skipBlanks t = '"' :: t' := by
  cases h with
  | member hn => exact hn.skipBlanks_eq
  | laterMember hn => exact hn.skipBlanks_eq

/-- An error that is not about the form of what is read. -/
def Refused (r : Except Error α) : Prop := ∃ e, r = .error e ∧ e ≠ .malformed

theorem Refused.bind {r : Except Error α} (h : Refused r) (f : α → Except Error β) :
    Refused (r >>= f) := by
  obtain ⟨e, rfl, he⟩ := h
  exact ⟨e, rfl, he⟩

theorem Refused.map {r : Except Error α} (h : Refused r) (f : α → β) : Refused (r.map f) := by
  obtain ⟨e, rfl, he⟩ := h
  exact ⟨e, rfl, he⟩

/-- Refused now or later. -/
theorem Gives.refused_bind {p : Prop} {r : Except Error α} {a : α} {f : α → Except Error β}
    (h : Gives p r a) (hf : Refused (f a)) : Refused (r >>= f) := by
  rcases h with rfl | ⟨-, h⟩
  · exact hf
  · exact Refused.bind h f

/-- That a part is refused with so many levels allowed. -/
def Kind.Refuses (d : Dialect) (depth : Nat) (t : Text) : Kind → Prop
  | .value => ∀ fuel, 2 * t.length < fuel → Refused (Reader.value d fuel depth t)
  | .items => ∀ fuel, 2 * t.length + 1 < fuel → Refused (Reader.items d fuel depth t)
  | .members => ∀ fuel, 2 * t.length + 1 < fuel → Refused (Reader.members d fuel depth t)

theorem Kind.refuses_here (hb : Blanks t u) (h : depth = 0 ∧ Opens u ∨ LongInteger u) :
    Kind.value.Refuses d depth t := by
  rintro (_ | fuel) hf
  · contradiction
  rcases h with ⟨rfl, c, u', rfl, hc⟩ | h
  · exact ⟨_, value_tooDeep hb hc, nofun⟩
  · obtain ⟨k, hk⟩ := h.scalar_eq (d := d)
    obtain ⟨c, u', rfl, hc, h₁, h₂, -⟩ := h.exists_cons
    exact ⟨_, (value_scalar hb hc h₁ h₂).trans hk, nofun⟩

theorem Kind.refuses_array {t₁ : Text} (hb : Blanks t ('[' :: t₁))
    (ht : ∀ t', skipBlanks t₁ ≠ ']' :: t')
    (ih : ∀ levels, depth = levels + 1 → Kind.items.Refuses d levels t₁) :
    Kind.value.Refuses d depth t := by
  rintro (_ | fuel) hf
  · contradiction
  have hl := hb.length_le
  rw [List.length_cons] at hl
  cases depth with
  | zero => exact ⟨_, value_tooDeep hb (.inl rfl), nofun⟩
  | succ levels =>
    rw [value_array hb ht]
    exact (ih levels rfl fuel (by omega)).map _

theorem Kind.refuses_object {t₁ : Text} (hb : Blanks t ('\x7b' :: t₁))
    (ht : ∀ t', skipBlanks t₁ ≠ '\x7d' :: t')
    (ih : ∀ levels, depth = levels + 1 → Kind.members.Refuses d levels t₁) :
    Kind.value.Refuses d depth t := by
  rintro (_ | fuel) hf
  · contradiction
  have hl := hb.length_le
  rw [List.length_cons] at hl
  cases depth with
  | zero => exact ⟨_, value_tooDeep hb (.inr rfl), nofun⟩
  | succ levels =>
    rw [value_object hb ht]
    exact (ih levels rfl fuel (by omega)).map _

theorem Kind.refuses_item (ih : Kind.value.Refuses d depth t) : Kind.items.Refuses d depth t := by
  rintro (_ | fuel) hf
  · contradiction
  · rw [Reader.items]
    exact (ih fuel (by omega)).bind _

theorem Kind.refuses_laterItem {v : Json} {t₁ t₂ t₃ : Text} (hb : Blanks t t₁)
    (hv : Spells d (.value v) t₁ t₂) (hc : Blanks t₂ (',' :: t₃))
    (ih : Kind.items.Refuses d depth t₃) : Kind.items.Refuses d depth t := by
  rintro (_ | fuel) hf
  · contradiction
  · have h₁ := hb.length_le
    have h₂ := hv.length_lt
    have h₃ := hc.length_le
    rw [List.length_cons] at h₃
    rw [Reader.items]
    refine (hv.reads (hc.endsValue_cons (.inl rfl)) fuel depth t hb (by omega)).refused_bind ?_
    simp only [hc.skipBlanks_cons rfl]
    exact (ih fuel (by omega)).bind _

theorem Kind.refuses_member {s t₁ : Text} (hn : Named d t s t₁)
    (ih : Kind.value.Refuses d depth t₁) : Kind.members.Refuses d depth t := by
  rintro (_ | fuel) hf
  · contradiction
  · have h₁ := hn.length_lt
    rw [Reader.members, name_eq hn]
    exact (ih fuel (by omega)).bind _

theorem Kind.refuses_laterMember {v : Json} {s t₁ t₂ t₃ t₄ : Text} (hn : Named d t s t₁)
    (hb : Blanks t₁ t₂) (hv : Spells d (.value v) t₂ t₃) (hc : Blanks t₃ (',' :: t₄))
    (ih : Kind.members.Refuses d depth t₄) : Kind.members.Refuses d depth t := by
  rintro (_ | fuel) hf
  · contradiction
  · have h₁ := hn.length_lt
    have h₂ := hb.length_le
    have h₃ := hv.length_lt
    have h₄ := hc.length_le
    rw [List.length_cons] at h₄
    rw [Reader.members, name_eq hn]
    refine (hv.reads (hc.endsValue_cons (.inl rfl)) fuel depth t₁ hb (by omega)).refused_bind ?_
    simp only [hc.skipBlanks_cons rfl]
    exact (ih fuel (by omega)).bind _

theorem Reaches.refuses (h : Reaches d kind n t u) (hu : depth ≤ n ∧ Opens u ∨ LongInteger u) :
    kind.Refuses d depth t := by
  induction h generalizing depth with
  | here hb => exact Kind.refuses_here hb (hu.imp_left (And.imp_left Nat.le_zero.1))
  | array hb h ih =>
    refine Kind.refuses_array hb (h.skipBlanks_ne (exists_cons_of_exceeding hu) nofun) ?_
    rintro levels rfl
    exact ih (hu.imp_left (And.imp_left Nat.le_of_succ_le_succ))
  | object hb h ih =>
    obtain ⟨t', ht⟩ := h.skipBlanks_members
    refine Kind.refuses_object hb (by simp [ht]) ?_
    rintro levels rfl
    exact ih (hu.imp_left (And.imp_left Nat.le_of_succ_le_succ))
  | item _ ih => exact Kind.refuses_item (ih hu)
  | laterItem hb hv hc _ ih => exact Kind.refuses_laterItem hb hv hc (ih hu)
  | member hn _ ih => exact Kind.refuses_member hn (ih hu)
  | laterMember hn hb hv hc _ ih => exact Kind.refuses_laterMember hn hb hv hc (ih hu)

/-- The texts that are refused, though nothing in them is known to be malformed, are those that go
beyond the dialect. -/
theorem refused_iff : Refused (read d t) ↔ Exceeds d t := by
  constructor
  · rintro ⟨e, h, he⟩
    exact exceeds_of_read h he
  · rintro ⟨n, u, hr, hu⟩
    exact (hr.refuses hu _ (Nat.lt_succ_self _)).bind _

end Refused

end LatexSnippets.Json
