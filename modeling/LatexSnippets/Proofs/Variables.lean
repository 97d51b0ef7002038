import LatexSnippets.Proofs.Text
import LatexSnippets.Rule.Variables

/-!
Variables in pattern sources. What stands for a variable joins with its neighbours to no reference,
so that one pass over the table leaves none, and a second one changes nothing.
-/

namespace LatexSnippets

namespace Text

variable {t w old new : Text} {k : Nat}

theorem contains_eq_false : t.contains w = false ↔ ¬ w <:+: t := by
  rw [contains, ← isSome_findFrom (n := 0), Bool.not_eq_true]

theorem replaceFrom_of_not_infix (h : ¬ old <:+: t) : replaceFrom old new 0 t = t := by
  induction t with
  | nil => rfl
  | cons c t ih =>
    rw [List.infix_cons_iff, not_or] at h
    rw [replaceFrom, if_neg (by simpa using h.1), ih h.2]

theorem replace_of_not_infix (h : ¬ old <:+: t) : t.replace old new = t :=
  replaceFrom_of_not_infix h

end Text

namespace Variables

variable {name new w t : Text} {k : Nat}

/-- A text that can join with its neighbours to no reference of a variable: it has nothing that a
reference begins or ends with, and something that no name has. -/
structure IsAlternatives (new : Text) : Prop where
  dollar : '$' ∉ new
  brace : '\x7d' ∉ new
  bar : '|' ∈ new

/-- A text that neither begins nor ends within what stands for a variable, nor holds it whole. -/
structure IsReference (w : Text) : Prop where
  head : ∃ rest, w = '$' :: rest
  last : w.getLast? = some '\x7d'
  bar : '|' ∉ w

theorem isReference_reference (h : '|' ∉ name) : IsReference (reference name) where
  head := ⟨_, rfl⟩
  last := by simp [reference, List.getLast?_cons]
  bar := by simpa [reference] using h

/-- The end of a reference cannot begin a text that begins with what stands for a variable. -/
theorem not_prefix_append (hn : IsAlternatives new) (hl : w.getLast? = some '\x7d')
    (hb : '|' ∉ w) (rest : Text) : ¬ w <+: new ++ rest := by
  intro h
  rcases List.prefix_or_prefix_of_prefix h (List.prefix_append new rest) with h | h
  · exact hn.brace (h.subset (List.mem_of_getLast? hl))
  · exact hb (h.subset hn.bar)

/-- The end of a reference at the beginning of a replaced text stood there before. -/
theorem prefix_of_prefix_replaceFrom {old : Text} (hn : IsAlternatives new)
    (hl : w ≠ [] → w.getLast? = some '\x7d') (hb : '|' ∉ w)
    (h : w <+: Text.replaceFrom old new 0 t) : w <+: t := by
  induction t generalizing w with
  | nil => exact h
  | cons c t ih =>
    cases w with
    | nil => exact List.nil_prefix
    | cons d w =>
      rw [Text.replaceFrom] at h
      split at h
      · exact absurd h (not_prefix_append hn (hl (by simp)) hb _)
      · obtain ⟨rfl, hw'⟩ := List.cons_prefix_cons.1 h
        rw [List.mem_cons, not_or] at hb
        refine List.cons_prefix_cons.2 ⟨rfl, ih (fun hw => ?_) hb.2 hw'⟩
        have := hl (by simp)
        rwa [List.getLast?_cons_of_ne_nil hw] at this

/-- A reference in a replaced text stood there before, and is another than the replaced one. -/
theorem infix_of_infix_replaceFrom {old : Text} (hn : IsAlternatives new) (hw : IsReference w)
    (h : w <:+: Text.replaceFrom old new k t) : w <:+: t ∧ w ≠ old := by
  induction t generalizing k with
  | nil =>
    obtain ⟨rest, rfl⟩ := hw.head
    cases k <;> simp [Text.replaceFrom] at h
  | cons c t ih =>
    cases k with
    | succ k =>
      obtain ⟨ht, he⟩ := ih h
      exact ⟨List.infix_cons ht, he⟩
    | zero =>
      rw [Text.replaceFrom] at h
      split at h
      -- Nothing that stands for a variable has the dollar sign that a reference begins with.
      · obtain ⟨rest, rfl⟩ := hw.head
        obtain ⟨ht, he⟩ := ih (Text.infix_of_infix_append hn.dollar h)
        exact ⟨List.infix_cons ht, he⟩
      · next hp =>
        rcases List.infix_cons_iff.1 h with h | h
        · have hp' : w <+: c :: t := by
            obtain ⟨rest, rfl⟩ := hw.head
            obtain ⟨hc, hr⟩ := List.cons_prefix_cons.1 h
            have hb := hw.bar
            rw [List.mem_cons, not_or] at hb
            refine List.cons_prefix_cons.2 ⟨hc, prefix_of_prefix_replaceFrom hn ?_ hb.2 hr⟩
            intro hne
            have := hw.last
            rwa [List.getLast?_cons_of_ne_nil hne] at this
          refine ⟨hp'.isInfix, ?_⟩
          rintro rfl
          exact hp (List.isPrefixOf_iff_prefix.2 hp')
        · obtain ⟨ht, he⟩ := ih h
          exact ⟨List.infix_cons ht, he⟩

section Table

variable {table : Assoc Text} {source : Text}

/-- Replacing leaves no reference that was not there, and none to a variable of the table. -/
theorem infix_of_infix_expand (ht : ∀ v ∈ table, IsAlternatives v.2) (hw : IsReference w)
    (h : w <:+: expand table source) : w <:+: source ∧ ∀ v ∈ table, w ≠ reference v.1 := by
  induction table generalizing source with
  | nil => exact ⟨h, fun _ hv => by cases hv⟩
  | cons v table ih =>
    rw [List.forall_mem_cons] at ht
    obtain ⟨hs, hn⟩ := ih ht.2 h
    obtain ⟨hs, hv⟩ := infix_of_infix_replaceFrom ht.1 hw hs
    exact ⟨hs, List.forall_mem_cons.2 ⟨hv, hn⟩⟩

theorem expand_of_not_infix (h : ∀ v ∈ table, ¬ reference v.1 <:+: source) :
    expand table source = source := by
  induction table with
  | nil => rfl
  | cons v table ih =>
    rw [List.forall_mem_cons] at h
    rw [expand, List.foldl_cons, Text.replace_of_not_infix h.1]
    exact ih h.2

end Table

/-- A source that refers to no standard variable. -/
def IsExpanded (source : Text) : Prop :=
  ∀ v ∈ standard, source.contains (reference v.1) = false

instance (source : Text) : Decidable (IsExpanded source) :=
  inferInstanceAs (Decidable (∀ v ∈ standard, _))

theorem isAlternatives_standard : ∀ v ∈ standard, IsAlternatives v.2 := by
  have h : ∀ v ∈ standard, '$' ∉ v.2 ∧ '\x7d' ∉ v.2 ∧ '|' ∈ v.2 := by decide +kernel
  exact fun v hv => ⟨(h v hv).1, (h v hv).2.1, (h v hv).2.2⟩

theorem isExpanded_expandStandard (source : Text) : IsExpanded (expandStandard source) := by
  have hb : ∀ v ∈ standard, '|' ∉ v.1 := by decide
  intro v hv
  rw [Text.contains_eq_false]
  intro h
  exact (infix_of_infix_expand isAlternatives_standard (isReference_reference (hb v hv)) h).2 v hv
    rfl

theorem expandStandard_of_isExpanded {source : Text} (h : IsExpanded source) :
    expandStandard source = source :=
  expand_of_not_infix fun v hv => Text.contains_eq_false.1 (h v hv)

end Variables

end LatexSnippets
