import LatexSnippets.Proofs.Latex.Nesting
import LatexSnippets.Proofs.Text

/-!
The environment around the caret as a part of the text, from its opening tag to the closing tag that
belongs to it. The opening tag is found by nesting. The closing tag is taken to be the next one of
that name behind the caret, which it is exactly where no environment of the same name follows inside
and the caret has not entered the closing tag.
-/

namespace LatexSnippets.Latex

/-- A text with an environment in it: what stands before the opening tag, between the tags, and
behind the closing tag. What is between is well nested, so that the two tags belong together. -/
structure Environment where
  front : Text
  name : Text
  inner : Text
  behind : Text
  named : Tag.Named ⟨true, name⟩
  nested : Tag.Nested (Tag.readAll inner)

namespace Environment

def text (E : Environment) : Text :=
  E.front ++ (Tag.text ⟨true, E.name⟩ ++ (E.inner ++ (Tag.text ⟨false, E.name⟩ ++ E.behind)))

/-- Where the opening tag ends. -/
def start (E : Environment) : Nat := (E.front ++ Tag.text ⟨true, E.name⟩).length

/-- Where the closing tag begins. -/
def stop (E : Environment) : Nat := E.start + E.inner.length

/-- Where the closing tag ends. -/
def closed (E : Environment) : Nat := E.stop + (Tag.text ⟨false, E.name⟩).length

/-- The tags inside that end before the caret. -/
def tagsBefore (E : Environment) (caret : Nat) : List Tag :=
  Tag.readAll (E.inner.take (caret - E.start))

/-- The tags inside that follow these, a tag with the caret in it included. -/
def tagsAfter (E : Environment) (caret : Nat) : List Tag :=
  (Tag.readAll E.inner).drop (E.tagsBefore caret).length

/-- The caret is behind the opening tag and not yet behind the closing one, and what has been opened
inside is closed again. -/
structure IsInnermost (E : Environment) (caret : Nat) : Prop where
  start_le : E.start ≤ caret
  lt_closed : caret < E.closed
  nested : Tag.Nested (E.tagsBefore caret)

variable {E : Environment} {caret : Nat} {t : Text}

theorem named_closing (E : Environment) : Tag.Named ⟨false, E.name⟩ := E.named

theorem text_eq_inner (E : Environment) : E.text =
    (E.front ++ Tag.text ⟨true, E.name⟩) ++ (E.inner ++ (Tag.text ⟨false, E.name⟩ ++ E.behind)) :=
  (List.append_assoc ..).symm

theorem text_eq_closing (E : Environment) : E.text =
    (E.front ++ (Tag.text ⟨true, E.name⟩ ++ E.inner)) ++
      (Tag.text ⟨false, E.name⟩ ++ E.behind) := by
  simp only [text, List.append_assoc]

theorem length_stop (E : Environment) :
    (E.front ++ (Tag.text ⟨true, E.name⟩ ++ E.inner)).length = E.stop := by
  simp only [stop, start, List.length_append, Nat.add_assoc]

theorem tagsBefore_append (E : Environment) (caret : Nat) :
    E.tagsBefore caret ++ E.tagsAfter caret = Tag.readAll E.inner := by
  have hp := Tag.readAll_prefix (E.inner.take (caret - E.start)) (E.inner.drop (caret - E.start))
  rw [List.take_append_drop] at hp
  exact List.prefix_iff_eq_append.1 hp

theorem readAll_take (hs : E.start ≤ caret) (ho : caret < E.closed) :
    Tag.readAll (E.text.take caret) =
      Tag.readAll E.front ++ ⟨true, E.name⟩ :: E.tagsBefore caret := by
  obtain ⟨k, rfl⟩ := Nat.exists_eq_add_of_le hs
  have hk : k < E.inner.length + (Tag.text ⟨false, E.name⟩).length := by
    simp only [closed, stop] at ho
    omega
  rw [text_eq_inner, start, List.take_length_add_append, List.append_assoc,
    Tag.readAll_append_text E.named, Tag.readAll_take E.named_closing hk, tagsBefore, start,
    Nat.add_sub_cancel_left]

/-- Before the opening tag ends, it has not been read. -/
theorem readAll_take_of_lt (h : caret < E.start) :
    Tag.readAll (E.text.take caret) <+: Tag.readAll E.front := by
  rw [text, Tag.readAll_take E.named (by rwa [start, List.length_append] at h)]
  have hp := Tag.readAll_prefix (E.front.take caret) (E.front.drop caret)
  rwa [List.take_append_drop] at hp

/-- Once the closing tag has ended, it has been read. -/
theorem readAll_take_of_le (h : E.closed ≤ caret) :
    Tag.readAll E.front ++ ⟨true, E.name⟩ :: (Tag.readAll E.inner ++ [⟨false, E.name⟩]) <+:
      Tag.readAll (E.text.take caret) := by
  obtain ⟨k, rfl⟩ := Nat.exists_eq_add_of_le h
  have ht : E.text = (E.front ++ (Tag.text ⟨true, E.name⟩ ++ (E.inner ++
      Tag.text ⟨false, E.name⟩))) ++ E.behind := by simp only [text, List.append_assoc]
  have hl : (E.front ++ (Tag.text ⟨true, E.name⟩ ++ (E.inner ++
      Tag.text ⟨false, E.name⟩))).length = E.closed := by
    simp only [closed, stop, start, List.length_append, Nat.add_assoc]
  rw [ht, ← hl, List.take_length_add_append, List.append_assoc, List.append_assoc,
    List.append_assoc, Tag.readAll_append_text E.named, Tag.readAll_append_text E.named_closing]
  exact ⟨Tag.readAll (E.behind.take k), by simp⟩

namespace IsInnermost

theorem innermost?_eq (h : E.IsInnermost caret) :
    Tag.innermost? [] (Tag.readAll (E.text.take caret)).reverse = some E.name := by
  rw [readAll_take h.start_le h.lt_closed, List.reverse_append, List.reverse_cons,
    List.append_assoc, h.nested.innermost?_reverse]
  rfl

theorem nested_after (h : E.IsInnermost caret) : Tag.Nested (E.tagsAfter caret) := by
  refine h.nested.of_append ?_
  rw [tagsBefore_append]
  exact E.nested

end IsInnermost

theorem exists_isInnermost {name : Text} (hn : Tag.Nested (Tag.readAll t))
    (h : Tag.innermost? [] (Tag.readAll (t.take caret)).reverse = some name) :
    ∃ E : Environment, E.text = t ∧ E.name = name ∧ E.IsInnermost caret := by
  obtain ⟨more, hmore⟩ := Tag.readAll_prefix (t.take caret) (t.drop caret)
  rw [List.take_append_drop] at hmore
  rw [← hmore] at hn
  obtain ⟨opened, ho⟩ := Tag.exists_leftOpen?_of_nested hn
  rw [Tag.innermost?_reverse ho List.nil_prefix] at h
  obtain ⟨outer, rfl⟩ := List.head?_eq_some_iff.1 h
  obtain ⟨before, inner, inner', after, hb, rfl, hi, hi'⟩ := Tag.exists_environment hn ho
  rw [hb, List.append_assoc, List.cons_append, ← List.append_assoc] at hmore
  obtain ⟨front, rest, ht, rfl, hrest, hnamed⟩ := Tag.exists_of_readAll_eq hmore.symm
  obtain ⟨w, behind, rfl, hw, rfl, -⟩ := Tag.exists_of_readAll_eq hrest
  let E : Environment := ⟨front, name, w, behind, hnamed, hw ▸ hi.append hi'⟩
  have hE : E.text = t := ht.symm
  -- The tags before the caret say on which side of the two tags it stands.
  have hs : E.start ≤ caret := Nat.le_of_not_lt fun hlt => by
    have hl := (readAll_take_of_lt hlt).length_le
    rw [hE, hb, List.length_append, List.length_cons] at hl
    simp only [E] at hl
    omega
  have hclosed : caret < E.closed := Nat.lt_of_not_le fun hle => by
    have hl := (readAll_take_of_le hle).length_le
    rw [hE, hb] at hl
    simp only [E, hw, List.length_append, List.length_cons, List.length_nil] at hl
    omega
  have heq := readAll_take hs hclosed
  rw [hE, hb, List.append_cancel_left_eq, List.cons.injEq] at heq
  exact ⟨E, hE, rfl, hs, hclosed, heq.2 ▸ hi⟩

section Closing

variable {x y u v : Text}

/-- A closing tag that begins inside ends inside. -/
theorem exists_inner (h : E.text = x ++ (Tag.text ⟨false, E.name⟩ ++ y)) (hs : E.start ≤ x.length)
    (hx : x.length < E.stop) :
    ∃ u v, E.inner = u ++ (Tag.text ⟨false, E.name⟩ ++ v) ∧ x.length = E.start + u.length := by
  have hp : E.front ++ Tag.text ⟨true, E.name⟩ <+: x := by
    refine List.prefix_of_prefix_length_le ?_ (h ▸ List.prefix_append x _) hs
    rw [text_eq_inner]
    exact List.prefix_append _ _
  obtain ⟨u, rfl⟩ := hp
  rw [text_eq_inner, List.append_assoc _ u, List.append_cancel_left_eq] at h
  rw [stop, List.length_append, start, Nat.add_lt_add_iff_left] at hx
  have hu : u <+: E.inner :=
    List.prefix_of_prefix_length_le (h ▸ List.prefix_append u _) (List.prefix_append _ _) hx.le
  obtain ⟨z, hz⟩ := hu
  cases z with
  | nil => simp [← hz] at hx
  | cons c z =>
    obtain ⟨w, hw, -⟩ := E.named_closing.exists_text
    rw [← hz, List.append_assoc, List.append_cancel_left_eq] at h
    have hcut : c :: (z ++ '\\' :: (w ++ E.behind)) = Tag.text ⟨false, E.name⟩ ++ y := by
      rw [← h, hw]
      rfl
    obtain ⟨v, hv, -⟩ := Tag.prefix_of_text_append E.named_closing hcut
    exact ⟨u, v, by rw [← hz, hv], by rw [List.length_append]; rfl⟩

/-- Where a closing tag of its name begins inside behind the caret, it is one of the tags there. -/
theorem mem_tagsAfter (h : E.inner = u ++ (Tag.text ⟨false, E.name⟩ ++ v))
    (hc : caret ≤ E.start + u.length) : ⟨false, E.name⟩ ∈ E.tagsAfter caret := by
  have hk : caret - E.start ≤ u.length := by omega
  have hp := Tag.readAll_prefix (u.take (caret - E.start)) (u.drop (caret - E.start))
  rw [List.take_append_drop] at hp
  rw [tagsAfter, tagsBefore, h, List.take_append_of_le_length hk,
    Tag.readAll_append_text E.named_closing, List.drop_append_of_le_length hp.length_le]
  simp

theorem IsInnermost.exists_closing (h : E.IsInnermost caret)
    (hm : ⟨false, E.name⟩ ∈ E.tagsAfter caret) :
    ∃ u v, E.inner = u ++ (Tag.text ⟨false, E.name⟩ ++ v) ∧ caret ≤ E.start + u.length := by
  obtain ⟨a, b, hab⟩ := List.append_of_mem hm
  have hr := E.tagsBefore_append caret
  rw [hab, ← List.append_assoc] at hr
  obtain ⟨u, v, hi, hu, -, -⟩ := Tag.exists_of_readAll_eq hr.symm
  refine ⟨u, v, hi, Nat.le_of_not_lt fun hlt => ?_⟩
  by_cases hcut : caret - E.start < u.length + (Tag.text ⟨false, E.name⟩).length
  · -- The caret is in the closing tag, which would then come first after it.
    have hb : E.tagsBefore caret = E.tagsBefore caret ++ a := by
      conv_lhs => rw [tagsBefore, hi, Tag.readAll_take E.named_closing hcut]
      rw [List.take_of_length_le (by omega), hu]
    have hn := h.nested_after
    rw [hab, List.self_eq_append_right.1 hb] at hn
    cases hn
  · obtain ⟨j, hj⟩ := Nat.exists_eq_add_of_le (Nat.le_of_not_lt hcut)
    have hb : E.tagsBefore caret =
        Tag.readAll u ++ ⟨false, E.name⟩ :: Tag.readAll (v.take j) := by
      rw [tagsBefore, hi, hj, ← List.length_append, ← List.append_assoc,
        List.take_length_add_append, List.append_assoc, Tag.readAll_append_text E.named_closing]
    have hl := congrArg List.length (hu.trans (congrArg (· ++ a) hb))
    simp only [List.length_append, List.length_cons] at hl
    omega

/-- The next closing tag behind the caret is that of the environment around it, unless the caret is
in that tag already or an environment of the same name follows inside. -/
theorem IsInnermost.tabularEnd?_eq_stop_iff (h : E.IsInnermost caret) :
    tabularEnd? E.text caret E.name = some E.stop ↔
      caret ≤ E.stop ∧ ⟨true, E.name⟩ ∉ E.tagsAfter caret := by
  have hend : endTag E.name = Tag.text ⟨false, E.name⟩ := by simp [endTag, Tag.text]
  rw [tabularEnd?, hend, ← h.nested_after.mem_closing_iff]
  constructor
  · intro hf
    obtain ⟨-, -, -, -, hc⟩ := Text.find?_eq_some hf
    refine ⟨hc, fun hm => ?_⟩
    obtain ⟨u, v, hi, hu⟩ := h.exists_closing hm
    have ht : E.text = (E.front ++ (Tag.text ⟨true, E.name⟩ ++ u)) ++
        (Tag.text ⟨false, E.name⟩ ++ (v ++ (Tag.text ⟨false, E.name⟩ ++ E.behind))) := by
      simp only [text, hi, List.append_assoc]
    have hl : (E.front ++ (Tag.text ⟨true, E.name⟩ ++ u)).length = E.start + u.length := by
      simp only [start, List.length_append, Nat.add_assoc]
    obtain ⟨m, hm, hle⟩ := Text.find?_le (v ++ (Tag.text ⟨false, E.name⟩ ++ E.behind))
      (Nat.le_trans hu (Nat.le_of_eq hl.symm))
    rw [← ht, hf] at hm
    obtain rfl := Option.some.inj hm
    have hlt := congrArg List.length hi
    obtain ⟨w, hw, -⟩ := E.named_closing.exists_text
    simp only [hw, List.length_append, List.length_cons] at hlt
    simp only [stop] at hle
    omega
  · rintro ⟨hc, hm⟩
    obtain ⟨m, hf, hle⟩ := Text.find?_le (w := Tag.text ⟨false, E.name⟩) E.behind
      (Nat.le_trans hc (Nat.le_of_eq E.length_stop.symm))
    rw [← text_eq_closing, length_stop] at *
    obtain ⟨x, y, ht, rfl, hx⟩ := Text.find?_eq_some hf
    rw [hf, Option.some.injEq]
    refine Nat.le_antisymm hle (Nat.le_of_not_lt fun hlt => hm ?_)
    obtain ⟨u, v, hi, hu⟩ := exists_inner ht (Nat.le_trans h.start_le hx) hlt
    exact mem_tagsAfter hi (hu ▸ hx)

end Closing

end Environment

/-- In a well nested text, the environment around the caret is the innermost one there, if it has
columns or rows. -/
theorem enclosingTabular?_eq_some_iff {t name : Text} {caret : Nat}
    (hn : Tag.Nested (Tag.readAll t)) :
    enclosingTabular? t caret = some name ↔
      isTabular name = true ∧
        ∃ E : Environment, E.text = t ∧ E.name = name ∧ E.IsInnermost caret := by
  rw [enclosingTabular?, Option.filter_eq_some_iff, and_comm, Int.toNat_natCast]
  refine and_congr_right fun _ => ⟨Environment.exists_isInnermost hn, ?_⟩
  rintro ⟨E, rfl, rfl, h⟩
  exact h.innermost?_eq

end LatexSnippets.Latex
