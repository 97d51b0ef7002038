import LatexSnippets.Proofs.Latex.Environment

/-!
Tags in the parts of a text. A tag has one backslash, at its beginning, so that no two tags overlap:
the tags of a text are those of its parts, except where a tag is cut. What is nested stays so when
a nested part is taken off, and the environments that are left open are closed from the innermost
one on.
-/

namespace LatexSnippets.Latex.Tag

section Texts

variable {t a b after : Text} {tag : Tag} {tags before rest : List Tag}

/-- A tag begins with a backslash and has no other. -/
theorem Named.exists_text (h : tag.Named) : ∃ w, tag.text = '\\' :: w ∧ '\\' ∉ w := by
  have hn : '\\' ∉ tag.name := fun hm => by
    have := h.2 _ hm
    revert this
    decide
  obtain ⟨opens, name⟩ := tag
  cases opens with
  | true => exact ⟨"begin\x7b".toList ++ (name ++ ['\x7d']), rfl, by simp [hn]⟩
  | false => exact ⟨"end\x7b".toList ++ (name ++ ['\x7d']), rfl, by simp [hn]⟩

theorem read?_text (h : tag.Named) (b : Text) : read? (tag.text ++ b) = some (tag, b) :=
  read?_eq_some.2 ⟨h, rfl⟩

theorem readAll_text (h : tag.Named) (b : Text) : readAll (tag.text ++ b) = tag :: readAll b :=
  readAll_of_read? (read?_text h b)

/-- Where a text begins with a tag, its beginning up to the next backslash has all of the tag. -/
theorem prefix_of_text_append (h : tag.Named) {c : Char}
    (he : c :: (a ++ '\\' :: b) = tag.text ++ after) :
    ∃ x, c :: a = tag.text ++ x ∧ after = x ++ '\\' :: b := by
  obtain ⟨w, hw, hb⟩ := h.exists_text
  rw [← List.cons_append, List.append_eq_append_iff] at he
  obtain ⟨x, hx, hr⟩ | ⟨x, hx, hr⟩ := he
  · cases x with
    | nil => exact ⟨[], by simpa using hx.symm, by simpa using hr.symm⟩
    | cons d x =>
      obtain ⟨rfl, -⟩ := List.cons.inj hr
      rw [hw, List.cons_append, List.cons.injEq] at hx
      exact absurd (by simp [hx.2]) hb
  · exact ⟨x, hx, hr⟩

/-- A tag does not go on over a backslash. -/
theorem readAll_append_backslash (a b : Text) :
    readAll (a ++ '\\' :: b) = readAll a ++ readAll ('\\' :: b) := by
  fun_induction readAll a with
  | case1 => rfl
  | case2 c a tag after hr ih =>
    obtain ⟨hn, ht⟩ := read?_eq_some.1 hr
    rw [ht, List.append_assoc, readAll_text hn, ih, List.cons_append]
  | case3 c a hr ih =>
    rw [List.cons_append, readAll_cons, ih]
    rw [Option.eq_none_iff_forall_ne_some]
    rintro ⟨tag, after⟩ hs
    obtain ⟨hn, ht⟩ := read?_eq_some.1 hs
    obtain ⟨x, hx, -⟩ := prefix_of_text_append hn ht
    rw [hx, read?_text hn] at hr
    contradiction

theorem readAll_append_text (h : tag.Named) (a b : Text) :
    readAll (a ++ (tag.text ++ b)) = readAll a ++ tag :: readAll b := by
  obtain ⟨w, hw, -⟩ := h.exists_text
  rw [← readAll_text h, hw, List.cons_append, readAll_append_backslash]

theorem readAll_of_not_mem (h : '\\' ∉ t) : readAll t = [] := by
  fun_induction readAll t with
  | case1 => rfl
  | case2 c t tag after hr =>
    obtain ⟨hn, ht⟩ := read?_eq_some.1 hr
    obtain ⟨w, hw, -⟩ := hn.exists_text
    rw [ht, hw] at h
    exact absurd List.mem_cons_self h
  | case3 c t hr ih => exact ih fun hm => h (List.mem_cons_of_mem c hm)

/-- A part of a tag is none. -/
theorem readAll_of_proper_prefix (h : tag.Named) (ha : a <+: tag.text) (hne : a ≠ tag.text) :
    readAll a = [] := by
  obtain ⟨b, hb⟩ := ha
  obtain ⟨w, hw, hm⟩ := h.exists_text
  cases a with
  | nil => simp [readAll]
  | cons c a =>
    have ha : '\\' ∉ a := by
      rw [hw, List.cons_append, List.cons.injEq] at hb
      exact fun hc => hm (hb.2 ▸ List.mem_append_left b hc)
    rw [readAll_cons, readAll_of_not_mem ha]
    rw [Option.eq_none_iff_forall_ne_some]
    rintro ⟨tag', after⟩ hr
    obtain ⟨hn, he⟩ := read?_eq_some.1 hr
    -- Read as a whole, the text gives `tag` with nothing behind it.
    have hs := read?_text h []
    rw [List.append_nil, ← hb, he, List.append_assoc, read?_text hn] at hs
    obtain ⟨rfl, hb'⟩ := Prod.mk.inj (Option.some.inj hs)
    obtain ⟨rfl, rfl⟩ := List.append_eq_nil_iff.1 hb'
    rw [List.append_nil] at he
    exact hne he

theorem readAll_prefix (a b : Text) : readAll a <+: readAll (a ++ b) := by
  fun_induction readAll a with
  | case1 => exact List.nil_prefix
  | case2 c a tag after hr ih =>
    obtain ⟨hn, ht⟩ := read?_eq_some.1 hr
    rw [ht, List.append_assoc, readAll_text hn]
    exact List.cons_prefix_cons.2 ⟨rfl, ih⟩
  | case3 c a hr ih =>
    cases hs : read? (c :: (a ++ b)) with
    | none => rwa [List.cons_append, readAll_cons hs]
    | some r =>
      -- The tag that begins here is cut.
      obtain ⟨hn, ht⟩ := read?_eq_some.1 hs
      rw [← List.cons_append, List.append_eq_append_iff] at ht
      obtain ⟨x, hx, -⟩ | ⟨x, hx, -⟩ := ht
      · obtain ⟨w, hw, hm⟩ := hn.exists_text
        rw [hw, List.cons_append, List.cons.injEq] at hx
        rw [readAll_of_not_mem fun hc => hm (hx.2 ▸ List.mem_append_left x hc)]
        exact List.nil_prefix
      · rw [hx, read?_text hn] at hr
        contradiction

/-- A tag that is cut does not count. -/
theorem readAll_take (h : tag.Named) {k : Nat} (hk : k < a.length + tag.text.length) :
    readAll ((a ++ (tag.text ++ b)).take k) = readAll (a.take k) := by
  rw [List.take_append]
  by_cases ha : k ≤ a.length
  · rw [Nat.sub_eq_zero_of_le ha, List.take_zero, List.append_nil]
  · have hcut : (tag.text ++ b).take (k - a.length) = tag.text.take (k - a.length) :=
      List.take_append_of_le_length (by omega)
    have hlen : (tag.text.take (k - a.length)).length ≠ tag.text.length := by
      rw [List.length_take]
      omega
    have hnone := readAll_of_proper_prefix h (List.take_prefix (k - a.length) tag.text)
      fun he => hlen (congrArg List.length he)
    obtain ⟨w, hw, -⟩ := h.exists_text
    obtain ⟨j, hj⟩ : ∃ j, k - a.length = j + 1 := ⟨k - a.length - 1, by omega⟩
    rw [hw, hj, List.take_succ_cons] at hnone
    rw [hcut, hw, hj, List.take_succ_cons, readAll_append_backslash, hnone, List.append_nil]

/-- A text is cut at each of its tags. -/
theorem exists_of_readAll_eq (h : readAll t = before ++ tag :: rest) :
    ∃ a b, t = a ++ (tag.text ++ b) ∧ readAll a = before ∧ readAll b = rest ∧ tag.Named := by
  fun_induction readAll t generalizing before with
  | case1 => simp at h
  | case2 c t tag' after hr ih =>
    obtain ⟨hn, ht⟩ := read?_eq_some.1 hr
    cases before with
    | nil =>
      obtain ⟨rfl, rfl⟩ := List.cons.inj h
      exact ⟨[], after, ht, by simp [readAll], rfl, hn⟩
    | cons first before =>
      obtain ⟨rfl, h'⟩ := List.cons.inj h
      obtain ⟨a, b, rfl, ha, hb, hnamed⟩ := ih h'
      exact ⟨tag'.text ++ a, b, by rw [ht, List.append_assoc], by rw [readAll_text hn, ha], hb,
        hnamed⟩
  | case3 c t hr ih =>
    obtain ⟨a, b, rfl, ha, hb, hn⟩ := ih h
    refine ⟨c :: a, b, rfl, ?_, hb, hn⟩
    rw [readAll_cons, ha]
    rw [Option.eq_none_iff_forall_ne_some]
    rintro ⟨tag', after⟩ hs
    obtain ⟨hn', hs⟩ := read?_eq_some.1 hs
    rw [← List.cons_append, hs, List.append_assoc, read?_text hn'] at hr
    contradiction

end Texts

section Nesting

variable {tags more : List Tag} {opened closed : List Text} {name : Text}

theorem Nested.append (h : Nested tags) (h' : Nested more) : Nested (tags ++ more) := by
  induction h with
  | nil => exact h'
  | @environment name inner rest hi _ _ ih =>
    rw [List.cons_append, List.append_assoc, List.cons_append]
    exact .environment hi ih

theorem Nested.mem_closing_iff (h : Nested tags) (name : Text) :
    ⟨false, name⟩ ∈ tags ↔ ⟨true, name⟩ ∈ tags := by
  induction h with
  | nil => simp
  | environment _ _ ihi ihr => simp [ihi, ihr, or_left_comm]

/-- Going back over a nested part changes nothing. -/
theorem Nested.innermost?_reverse (h : Nested tags) (closed : List Text) (more : List Tag) :
    innermost? closed (tags.reverse ++ more) = innermost? closed more := by
  induction h generalizing closed more with
  | nil => rfl
  | @environment name inner rest _ _ ihi ihr =>
    have he : (⟨true, name⟩ :: (inner ++ ⟨false, name⟩ :: rest) : List Tag).reverse ++ more =
        rest.reverse ++ (⟨false, name⟩ :: (inner.reverse ++ (⟨true, name⟩ :: more))) := by simp
    rw [he, ihr, innermost?, ihi, innermost?, if_pos rfl]

/-- The tags that close the open environments, from the innermost one on, with nested tags before
and behind each. -/
inductive Closes : List Text → List Tag → Prop
  | nil {tags : List Tag} (h : Nested tags) : Closes [] tags
  | cons {name : Text} {opened : List Text} {tags rest : List Tag} (h : Nested tags)
      (hr : Closes opened rest) : Closes (name :: opened) (tags ++ ⟨false, name⟩ :: rest)

theorem Closes.environment (h : Closes (name :: opened) tags) :
    Closes opened (⟨true, name⟩ :: tags) := by
  cases h with
  | cons hn hr =>
    cases hr with
    | nil h => exact .nil (.environment hn h)
    | @cons outer opened behind rest h hr =>
      have he : Nested (⟨true, name⟩ :: (_ ++ ⟨false, name⟩ :: behind)) := .environment hn h
      have hc : Closes (outer :: opened) _ := .cons he hr
      rwa [List.cons_append, List.append_assoc, List.cons_append] at hc

theorem closes_of_leftOpen? (h : leftOpen? opened tags = some []) : Closes opened tags := by
  fun_induction leftOpen? opened tags with
  | case1 =>
    obtain rfl := Option.some.inj h
    exact .nil .nil
  | case2 opened name after ih => exact (ih h).environment
  | case3 => contradiction
  | case4 inner opened after ih => exact .cons .nil (ih h)
  | case5 => contradiction

theorem nested_of_leftOpen? (h : leftOpen? [] tags = some []) : Nested tags := by
  cases closes_of_leftOpen? h with
  | nil h => exact h

theorem Nested.of_append (h : Nested tags) (h' : Nested (tags ++ more)) : Nested more := by
  have hs := h'.leftOpen?_eq []
  rw [leftOpen?_append, h.leftOpen?_eq, Option.bind_some] at hs
  exact nested_of_leftOpen? hs

/-- What is open before stays open below what is opened. -/
theorem leftOpen?_below (below : List Text) (h : leftOpen? closed tags = some opened) :
    leftOpen? (closed ++ below) tags = some (opened ++ below) := by
  fun_induction leftOpen? closed tags with
  | case1 =>
    obtain rfl := Option.some.inj h
    rfl
  | case2 closed name after ih => exact ih h
  | case3 => contradiction
  | case4 inner closed after ih => rw [List.cons_append, leftOpen?, if_pos rfl, ih h]
  | case5 => contradiction

/-- A list cut in two is cut before one of its items or behind it. -/
theorem append_eq_append_cons {α : Type} {x y u v : List α} {d : α} (h : x ++ y = u ++ d :: v) :
    (∃ z, u = x ++ z ∧ y = z ++ d :: v) ∨ ∃ z, x = u ++ d :: z ∧ v = z ++ y := by
  obtain h | ⟨z, hx, hz⟩ := List.append_eq_append_iff.1 h
  · exact .inl h
  · cases z with
    | nil => exact .inl ⟨[], by simpa using hx.symm, hz.symm⟩
    | cons e z =>
      obtain ⟨rfl, rfl⟩ := List.cons.inj hz
      exact .inr ⟨z, hx, rfl⟩

/-- Where nested tags are cut with an environment open, its opening tag and its closing tag are the
nearest ones that have only nested tags between them and the cut. -/
theorem exists_environment (h : Nested (tags ++ more))
    (ho : leftOpen? [] tags = some (name :: opened)) :
    ∃ before inner inner' after, tags = before ++ ⟨true, name⟩ :: inner ∧
      more = inner' ++ ⟨false, name⟩ :: after ∧ Nested inner ∧ Nested inner' := by
  generalize hall : tags ++ more = all at h
  induction h generalizing tags more opened with
  | nil =>
    obtain ⟨rfl, rfl⟩ := List.append_eq_nil_iff.1 hall
    cases ho
  | @environment outer inner rest hi hr ihi ihr =>
    cases tags with
    | nil => cases ho
    | cons first tags =>
      obtain ⟨rfl, hcut⟩ := List.cons.inj hall
      rw [leftOpen?] at ho
      obtain ⟨x, hx, rfl⟩ | ⟨x, rfl, rfl⟩ := append_eq_append_cons hcut
      · -- The cut is inside the environment.
        rw [hx] at hi
        obtain ⟨opened', ho'⟩ := exists_leftOpen?_of_nested hi
        have hb := Option.some.inj ((leftOpen?_below [outer] ho').symm.trans ho)
        cases opened' with
        | nil =>
          obtain ⟨rfl, rfl⟩ := List.cons.inj hb
          have ht := nested_of_leftOpen? ho'
          exact ⟨[], tags, x, rest, rfl, rfl, ht, ht.of_append hi⟩
        | cons name' opened' =>
          obtain ⟨rfl, -⟩ := List.cons.inj hb
          obtain ⟨before, i, i', after, rfl, rfl, hn, hn'⟩ := ihi ho' hx.symm
          exact ⟨⟨true, outer⟩ :: before, i, i', after ++ ⟨false, outer⟩ :: rest, rfl, by simp,
            hn, hn'⟩
      · rw [leftOpen?_append, hi.leftOpen?_eq, Option.bind_some, leftOpen?, if_pos rfl] at ho
        obtain ⟨before, i, i', after, rfl, rfl, hn, hn'⟩ := ihr ho rfl
        exact ⟨⟨true, outer⟩ :: (inner ++ ⟨false, outer⟩ :: before), i, i', after, by simp, rfl,
          hn, hn'⟩

end Nesting

end LatexSnippets.Latex.Tag
