import LatexSnippets.Proofs.Template.Reading

/-!
Templates with values put in. The field syntax is read from the whole text, so a value keeps to
itself only where the template does not stop in the midst of that syntax. An outline shows the
template with gaps for the values, and tells by itself which fields there will be.
-/

namespace LatexSnippets

namespace Template

inductive Outline.Item
  | char (c : Char)
  /-- A place for a value. A `sealed` value closes no default, a `plain` one begins with an ordinary
  character. -/
  | gap (sealed plain : Bool)
  deriving DecidableEq, Repr

abbrev Outline := List Outline.Item

namespace Outline

/-- What follows the closing brace of a default, if there is one. There is no answer where a value
has a part in it. -/
def afterDefault : Outline → Option (Option Outline)
  | [] => some none
  | .char '\x7d' :: rest => some (some rest)
  | .char '\\' :: .char c :: rest =>
    if Piece.isEscapable c then afterDefault rest else afterDefault (.char c :: rest)
  | .char '\\' :: .gap sealed plain :: rest => if sealed && plain then afterDefault rest else none
  | .gap sealed _ :: rest => if sealed then afterDefault rest else none
  | .char _ :: rest => afterDefault rest

/-- The number of the field that begins with a dollar sign already taken, and what follows it.
There is no answer where a value has a part in it. -/
def field? : Outline → Option (Option (Nat × Outline))
  | .gap _ plain :: _ => if plain then some none else none
  | .char '\x7b' :: .gap _ plain :: _ => if plain then some none else none
  | .char '\x7b' :: .char d :: .gap _ plain :: _ =>
    if plain || !Unicode.isDecimal d then some none else none
  | .char '\x7b' :: .char d :: .char ':' :: rest =>
    match Unicode.digit? d with
    | none => some none
    | some id => (afterDefault rest).map (·.map (id, ·))
  | .char d :: rest => some (if d.isDigit then some (d.toNat - '0'.toNat, rest) else none)
  | [] => some none

theorem length_afterDefault {o after : Outline} (h : afterDefault o = some (some after)) :
    after.length < o.length := by
  fun_induction afterDefault o with
  | case1 => simp at h
  | case2 rest =>
    simp only [Option.some.injEq] at h
    simp [← h]
  | case3 c rest _ ih | case4 c rest _ ih | case5 _ _ rest _ ih | case7 _ rest ih
  | case9 c rest _ _ _ ih =>
    have := ih h
    simp only [List.length_cons] at *
    omega
  | case6 | case8 => simp at h

theorem length_field? {o after : Outline} {d : Nat} (h : field? o = some (some (d, after))) :
    after.length < o.length := by
  unfold field? at h
  split at h
  · split at h <;> simp at h
  · split at h <;> simp at h
  · split at h <;> simp at h
  · split at h
    · simp at h
    · simp only [Option.map_eq_some_iff, Prod.mk.injEq] at h
      obtain ⟨_, hr, r, rfl, -, rfl⟩ := h
      have := length_afterDefault hr
      simp only [List.length_cons]
      omega
  · split at h
    · simp only [Option.some.injEq, Prod.mk.injEq] at h
      simp [← h.2]
    · simp at h
  · simp at h

/-- The numbers of the fields of a template, the same for all values. There is no answer where a
value could have a part in the field syntax. -/
def ids? : Outline → Option (List Nat)
  | [] => some []
  | .char '\\' :: .char c :: rest =>
    if Piece.isEscapable c then ids? rest else ids? (.char c :: rest)
  | .char '\\' :: .gap _ plain :: rest => if plain then ids? rest else none
  | .char '$' :: rest =>
    match _h : field? rest with
    | none => none
    | some none => ids? rest
    | some (some (id, after)) => (ids? after).map (id :: ·)
  | _ :: rest => ids? rest
termination_by o => o.length
decreasing_by
  all_goals simp only [List.length_cons]
  all_goals try omega
  have := length_field? ‹_›
  omega

end Outline

/-- A value, as it is written into a template and as it is read there. -/
structure Insertion where
  written : Text
  text : Text
  sealed : Bool
  plain : Bool
  reads : ∀ rest, Piece.readAll (written ++ rest) = text.map .char ++ Piece.readAll rest
  closesNone : sealed = true → ∀ rest, Piece.readDefault (written ++ rest) =
    (Piece.readDefault rest).map fun (t, after) => (text ++ t, after)
  begins : plain = true → ∃ c w, written = c :: w ∧ Piece.isOrdinary c = true

namespace Insertion

/-- Escaped, a text can stand wherever the template does not stop in the midst of field syntax. -/
def escaped (t : Text) : Insertion where
  written := Piece.escape t
  text := t
  sealed := true
  plain := false
  reads := Piece.readAll_escape t
  closesNone _ := Piece.readDefault_escape_append t
  begins := by simp

/-- An inert text can stand as it is; in a default only if it has no closing brace. -/
def inert (t : Text) (h : Piece.isInert t = true) (sealed plain : Bool)
    (hs : sealed = true → '\x7d' ∉ t) (hp : plain = true → Piece.opensPlainly t = true) :
    Insertion where
  written := t
  text := t
  sealed := sealed
  plain := plain
  reads := Piece.readAll_inert h
  closesNone hc := Piece.readDefault_inert h (hs hc)
  begins hb := by
    match t, hp hb with
    | c :: w, hc => exact ⟨c, w, rfl, by simpa [Piece.opensPlainly] using hc⟩

end Insertion

inductive Part
  | char (c : Char)
  | value (v : Insertion)

namespace Part

def item : Part → Outline.Item
  | char c => .char c
  | value v => .gap v.sealed v.plain

def written : Part → Text
  | char c => [c]
  | value v => v.written

def write (ps : List Part) : Text := ps.flatMap written

@[simp] theorem write_nil : write [] = [] := rfl

@[simp] theorem write_char (c : Char) (ps : List Part) : write (char c :: ps) = c :: write ps := rfl

@[simp] theorem write_value (v : Insertion) (ps : List Part) :
    write (value v :: ps) = v.written ++ write ps := rfl

theorem write_append (ps qs : List Part) : write (ps ++ qs) = write ps ++ write qs :=
  List.flatMap_append

end Part

namespace Outline

variable {ps : List Part} {o : Outline}

theorem map_item_char {c : Char} (h : ps.map Part.item = .char c :: o) :
    ∃ qs, ps = .char c :: qs ∧ qs.map Part.item = o := by
  obtain ⟨p, qs, rfl, hp, hq⟩ := List.map_eq_cons_iff.1 h
  cases p with
  | char d =>
    cases hp
    exact ⟨qs, rfl, hq⟩
  | value v => contradiction

theorem map_item_gap {s p : Bool} (h : ps.map Part.item = .gap s p :: o) :
    ∃ v qs, ps = .value v :: qs ∧ v.sealed = s ∧ v.plain = p ∧ qs.map Part.item = o := by
  obtain ⟨q, qs, rfl, hp, hq⟩ := List.map_eq_cons_iff.1 h
  cases q with
  | char d => contradiction
  | value v =>
    cases hp
    exact ⟨v, qs, rfl, rfl, rfl, hq⟩

/-- What is read of a default in a template with values, given what its outline shows to follow. -/
inductive ReadsDefault (ps : List Part) : Option Outline → Prop
  | unclosed (h : Piece.readDefault (Part.write ps) = none) : ReadsDefault ps none
  | closed (used : List Part) {after : List Part} {t : Text} (hps : ps = used ++ after)
      (h : Piece.readDefault (Part.write ps) = some (t, Part.write after))
      (hv : ∀ v, .value v ∈ used → v.text <:+: t) :
      ReadsDefault ps (some (after.map Part.item))

theorem ReadsDefault.extend {r : Option Outline} (h : ReadsDefault ps r) (new : List Part)
    {w : Text} (hr : Piece.readDefault (Part.write (new ++ ps)) =
      (Piece.readDefault (Part.write ps)).map fun (t, after) => (w ++ t, after))
    (hw : ∀ v, .value v ∈ new → v.text <:+: w) : ReadsDefault (new ++ ps) r := by
  cases h with
  | unclosed h => exact .unclosed (by rw [hr, h, Option.map_none])
  | @closed used after t hps h hv =>
    refine .closed (new ++ used) (t := w ++ t) (by rw [hps, List.append_assoc]) ?_ ?_
    · rw [hr, h, Option.map_some]
    · intro v hm
      rcases List.mem_append.1 hm with hm | hm
      · exact (hw v hm).trans (List.prefix_append w t).isInfix
      · exact (hv v hm).trans (List.suffix_append w t).isInfix

theorem readsDefault {r : Option Outline} (h : afterDefault o = some r)
    (ho : ps.map Part.item = o) : ReadsDefault ps r := by
  fun_induction afterDefault o generalizing ps with
  | case1 =>
    obtain rfl := List.map_eq_nil_iff.1 ho
    obtain rfl := Option.some.inj h
    exact .unclosed rfl
  | case2 rest =>
    obtain ⟨qs, rfl, rfl⟩ := map_item_char ho
    obtain rfl := Option.some.inj h
    exact .closed [.char '\x7d'] (t := []) rfl rfl (by simp)
  | case3 c rest hc ih =>
    obtain ⟨_, rfl, ho₁⟩ := map_item_char ho
    obtain ⟨qs, rfl, ho₂⟩ := map_item_char ho₁
    exact (ih h ho₂).extend [.char '\\', .char c] (w := [c]) (Piece.readDefault_escaped hc _)
      (by simp)
  | case4 c rest hc ih =>
    obtain ⟨_, rfl, ho₁⟩ := map_item_char ho
    obtain ⟨qs, rfl, -⟩ := map_item_char ho₁
    exact (ih h ho₁).extend [.char '\\'] (w := ['\\'])
      (Piece.readDefault_backslash (by simpa using hc) _) (by simp)
  | case5 s p rest hb ih =>
    obtain ⟨_, rfl, ho₁⟩ := map_item_char ho
    obtain ⟨v, qs, rfl, hs, hp, ho₂⟩ := map_item_gap ho₁
    rw [Bool.and_eq_true, ← hs, ← hp] at hb
    refine (ih h ho₂).extend (w := '\\' :: v.text) [.char '\\', .value v] ?_ ?_
    · obtain ⟨c, w, hw, hc⟩ := v.begins hb.2
      have hv := v.closesNone hb.1 (Part.write qs)
      simp only [List.cons_append, List.nil_append, Part.write_char, Part.write_value, hw] at hv ⊢
      rw [Piece.readDefault_backslash (Piece.isOrdinary_iff.1 hc).1, hv, Option.map_map]
      rfl
    · intro u hu
      obtain rfl : u = v := by simpa using hu
      exact (List.suffix_cons '\\' u.text).isInfix
  | case6 => contradiction
  | case7 p rest ih =>
    obtain ⟨v, qs, rfl, hs, -, ho₁⟩ := map_item_gap ho
    refine (ih h ho₁).extend [.value v] (v.closesNone hs _) ?_
    intro u hu
    obtain rfl : u = v := by simpa using hu
    exact List.infix_rfl
  | case8 => contradiction
  | case9 c rest h₁ h₂ h₃ ih =>
    obtain ⟨qs, rfl, ho₁⟩ := map_item_char ho
    refine (ih h ho₁).extend [.char c] (w := [c]) ?_ (by simp)
    by_cases hc : c = '\\'
    · rcases qs with _ | ⟨d | v, qs⟩
      · subst hc
        simp [Piece.readDefault]
      · exact (h₂ d _ ho₁.symm hc).elim
      · exact (h₃ v.sealed v.plain _ ho₁.symm hc).elim
    · exact Piece.readDefault_cons h₁ hc _

/-- A template with values defines the fields `ids` and shows each value as it is. -/
structure Shows (ps : List Part) (ids : List Nat) : Prop where
  ids : (Piece.readAll (Part.write ps)).filterMap Piece.id? = ids
  texts : ∀ v, .value v ∈ ps →
    v.text <:+: (Piece.readAll (Part.write ps)).flatMap Piece.text

theorem Shows.chars {ids : List Nat} (h : Shows ps ids) (new : List Part) {w : Text}
    (hr : Piece.readAll (Part.write (new ++ ps)) = w.map .char ++ Piece.readAll (Part.write ps))
    (hv : ∀ v, .value v ∈ new → v.text <:+: w) : Shows (new ++ ps) ids := by
  have hids : (w.map Piece.char).filterMap Piece.id? = [] := by
    simp [List.filterMap_map, Piece.id?]
  have htext : (w.map Piece.char).flatMap Piece.text = w := by
    simp [List.flatMap_map, Piece.text]
  constructor
  · rw [hr, List.filterMap_append, h.ids, hids, List.nil_append]
  · intro v hm
    rw [hr, List.flatMap_append, htext]
    rcases List.mem_append.1 hm with hm | hm
    · exact (hv v hm).trans (List.prefix_append ..).isInfix
    · exact (h.texts v hm).trans (List.suffix_append ..).isInfix

theorem Shows.field {ids : List Nat} (h : Shows ps ids) (new : List Part) {p : Piece} {id : Nat}
    (hr : Piece.readAll (Part.write (new ++ ps)) = p :: Piece.readAll (Part.write ps))
    (hid : p.id? = some id) (hv : ∀ v, .value v ∈ new → v.text <:+: p.text) :
    Shows (new ++ ps) (id :: ids) := by
  constructor
  · rw [hr, List.filterMap_cons_some hid, h.ids]
  · intro v hm
    rw [hr, List.flatMap_cons]
    rcases List.mem_append.1 hm with hm | hm
    · exact (hv v hm).trans (List.prefix_append ..).isInfix
    · exact (h.texts v hm).trans (List.suffix_append ..).isInfix

/-- What is read of a field in a template with values, the dollar sign already taken. -/
inductive ReadsField (ps : List Part) : Option (Nat × Outline) → Prop
  | nothing (h : Piece.readField (Part.write ps) = none) : ReadsField ps none
  | field (used : List Part) {after : List Part} {p : Piece} {id : Nat} (hps : ps = used ++ after)
      (h : Piece.readField (Part.write ps) = some (p, Part.write after))
      (hid : p.id? = some id) (hv : ∀ v, .value v ∈ used → v.text <:+: p.text) :
      ReadsField ps (some (id, after.map Part.item))

theorem readsField_default {d : Char} {id : Nat} {r : Option Outline}
    (hd : Unicode.digit? d = some id) (h : ReadsDefault ps r) :
    ReadsField (.char '\x7b' :: .char d :: .char ':' :: ps) (r.map (id, ·)) := by
  have hread : Piece.readField (Part.write (.char '\x7b' :: .char d :: .char ':' :: ps)) =
      (Piece.readDefault (Part.write ps)).map fun (t, after) => (.filled id t, after) := by
    rw [Part.write_char, Part.write_char, Part.write_char, Piece.readField, hd]
  cases h with
  | unclosed hn => exact .nothing (by rw [hread, hn, Option.map_none])
  | @closed used after t hps ht hv =>
    refine .field (.char '\x7b' :: .char d :: .char ':' :: used) (p := .filled id t) ?_ ?_ rfl ?_
    · rw [hps]
      rfl
    · rw [hread, ht, Option.map_some]
    · intro v hm
      exact hv v (by simpa using hm)

/-- Where no default begins there may be a stop. -/
theorem readsField_stop {d : Char}
    (h : ∀ e after, d = '\x7b' → Part.write ps = e :: ':' :: after → False) :
    ReadsField (.char d :: ps)
      (if d.isDigit then some (d.toNat - '0'.toNat, ps.map Part.item) else none) := by
  have hread := Piece.readField_cons h
  by_cases hd : d.isDigit = true
  · rw [if_pos hd] at hread ⊢
    exact .field [.char d] rfl hread rfl (by simp)
  · rw [if_neg hd] at hread ⊢
    exact .nothing hread

theorem readsField {r : Option (Nat × Outline)} (h : field? o = some r)
    (ho : ps.map Part.item = o) : ReadsField ps r := by
  unfold field? at h
  split at h
  · obtain ⟨v, qs, rfl, -, rfl, -⟩ := map_item_gap ho
    split at h
    · next hp =>
      obtain ⟨c, w, hw, hc⟩ := v.begins hp
      obtain rfl := Option.some.inj h
      refine .nothing ?_
      rw [Part.write_value, hw]
      exact Piece.readField_ordinary hc _
    · contradiction
  · obtain ⟨_, rfl, ho₁⟩ := map_item_char ho
    obtain ⟨v, qs, rfl, -, rfl, -⟩ := map_item_gap ho₁
    split at h
    · next hp =>
      obtain ⟨c, w, hw, hc⟩ := v.begins hp
      obtain rfl := Option.some.inj h
      refine .nothing ?_
      rw [Part.write_char, Part.write_value, hw]
      exact Piece.readField_brace (.inl (Piece.isOrdinary_iff.1 hc).2.2.2)
    · contradiction
  · obtain ⟨_, rfl, ho₁⟩ := map_item_char ho
    obtain ⟨_, rfl, ho₂⟩ := map_item_char ho₁
    obtain ⟨v, qs, rfl, -, rfl, -⟩ := map_item_gap ho₂
    split at h
    · next hp =>
      obtain rfl := Option.some.inj h
      refine .nothing ?_
      rw [Part.write_char, Part.write_char, Part.write_value]
      refine Piece.readField_brace ?_
      rw [Bool.or_eq_true] at hp
      rcases hp with hp | hp
      · obtain ⟨c, w, hw, hc⟩ := v.begins hp
        refine .inr ?_
        rw [hw]
        simpa using (Piece.isOrdinary_iff.1 hc).2.2.1
      · exact .inl (by simpa [Unicode.isDecimal] using hp)
    · contradiction
  · next d rest =>
    obtain ⟨_, rfl, ho₁⟩ := map_item_char ho
    obtain ⟨_, rfl, ho₂⟩ := map_item_char ho₁
    obtain ⟨qs, rfl, ho₃⟩ := map_item_char ho₂
    cases hd : Unicode.digit? d with
    | none =>
      rw [hd] at h
      obtain rfl := Option.some.inj h
      exact .nothing (Piece.readField_brace (.inl hd))
    | some id =>
      rw [hd] at h
      obtain ⟨r, hr, rfl⟩ := Option.map_eq_some_iff.1 h
      exact readsField_default hd (readsDefault hr ho₃)
  · next d rest hb hg hc =>
    obtain ⟨qs, rfl, ho₁⟩ := map_item_char ho
    obtain rfl := Option.some.inj h
    rw [← ho₁]
    refine readsField_stop ?_
    intro e after hd hqs
    rcases qs with _ | ⟨c | v, qs⟩
    · contradiction
    · rcases qs with _ | ⟨c' | v, qs⟩
      · simp at hqs
      · simp only [Part.write_char, List.cons.injEq] at hqs
        obtain ⟨-, rfl, -⟩ := hqs
        exact hc _ _ ho₁.symm hd
      · exact hg _ _ _ _ ho₁.symm hd
    · exact hb _ _ _ ho₁.symm hd
  · obtain rfl := List.map_eq_nil_iff.1 ho
    obtain rfl := Option.some.inj h
    exact .nothing rfl

/-- The outline tells the fields, and the values are shown as they are. -/
theorem shows {ids : List Nat} (h : ids? o = some ids) (ho : ps.map Part.item = o) :
    Shows ps ids := by
  fun_induction ids? o generalizing ps ids with
  | case1 =>
    obtain rfl := List.map_eq_nil_iff.1 ho
    obtain rfl := Option.some.inj h
    exact ⟨by simp [Piece.readAll], by simp⟩
  | case2 c rest hc ih =>
    obtain ⟨_, rfl, ho₁⟩ := map_item_char ho
    obtain ⟨qs, rfl, ho₂⟩ := map_item_char ho₁
    exact (ih h ho₂).chars [.char '\\', .char c] (w := [c]) (Piece.readAll_escaped hc _) (by simp)
  | case3 c rest hc ih =>
    obtain ⟨_, rfl, ho₁⟩ := map_item_char ho
    have hs := ih h ho₁
    obtain ⟨qs, rfl, -⟩ := map_item_char ho₁
    exact hs.chars [.char '\\'] (w := ['\\']) (Piece.readAll_backslash (by simpa using hc) _)
      (by simp)
  | case4 s rest ih =>
    obtain ⟨_, rfl, ho₁⟩ := map_item_char ho
    obtain ⟨v, qs, rfl, -, hp, ho₂⟩ := map_item_gap ho₁
    refine (ih h ho₂).chars [.char '\\', .value v] (w := '\\' :: v.text) ?_ ?_
    · obtain ⟨c, w, hw, hc⟩ := v.begins hp
      have hv := v.reads (Part.write qs)
      simp only [List.cons_append, List.nil_append, Part.write_char, Part.write_value, hw] at hv ⊢
      rw [Piece.readAll_backslash (Piece.isOrdinary_iff.1 hc).1, hv]
      rfl
    · intro u hu
      obtain rfl : u = v := by simpa using hu
      exact (List.suffix_cons '\\' u.text).isInfix
  | case5 | case6 => contradiction
  | case7 rest hf ih =>
    obtain ⟨qs, rfl, ho₁⟩ := map_item_char ho
    cases readsField hf ho₁ with
    | nothing hn =>
      exact (ih h ho₁).chars [.char '$'] (w := ['$']) (Piece.readAll_dollar hn) (by simp)
  | case8 rest id after hf ih =>
    obtain ⟨qs, rfl, ho₁⟩ := map_item_char ho
    obtain ⟨ids, hids, rfl⟩ := Option.map_eq_some_iff.1 h
    cases readsField hf ho₁ with
    | @field used after p _ hps hr hid hv =>
      subst hps
      exact (ih hids rfl).field (.char '$' :: used) (Node.readAll_field hr) hid (by simpa using hv)
  | case9 x rest h₁ h₂ h₃ ih =>
    cases x with
    | char c =>
      obtain ⟨qs, rfl, ho₁⟩ := map_item_char ho
      refine (ih h ho₁).chars [.char c] (w := [c]) ?_ (by simp)
      by_cases hc : c = '\\'
      · subst hc
        rcases qs with _ | ⟨d | v, qs⟩
        · simp [Piece.readAll]
        · exact (h₁ d _ rfl ho₁.symm).elim
        · exact (h₂ v.sealed v.plain _ rfl ho₁.symm).elim
      · refine Piece.readAll_cons hc ?_ _
        rintro rfl
        exact h₃ rfl
    | gap s p =>
      obtain ⟨v, qs, rfl, -, -, ho₁⟩ := map_item_gap ho
      refine (ih h ho₁).chars [.value v] (v.reads _) ?_
      intro u hu
      obtain rfl : u = v := by simpa using hu
      exact List.infix_rfl

theorem Shows.mem_ids {ids : List Nat} (h : Shows ps ids) {j : Int} :
    j ∈ (Expansion.ofText (Part.write ps)).fields.ids ↔ ∃ d ∈ ids, (d : Int) = j := by
  rw [← h.ids]
  exact Fields.mem_ids_ofPieces

/-- Templates with the same outline have the same fields. -/
theorem Shows.ids_eq {qs : List Part} {ids : List Nat} (h : Shows ps ids) (h' : Shows qs ids) :
    (Expansion.ofText (Part.write ps)).fields.ids =
      (Expansion.ofText (Part.write qs)).fields.ids :=
  Fields.ids_congr fun _ => h.mem_ids.trans h'.mem_ids.symm

end Outline

end Template

end LatexSnippets
