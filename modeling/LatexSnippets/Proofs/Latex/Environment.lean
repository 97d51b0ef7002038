import Mathlib.Data.List.Induction
import Mathlib.Data.List.TakeWhile
import LatexSnippets.Latex.Environment

/-!
The environment around a place. Going back from the place, every closing tag waits for the opening
tag of its name; going forward from the start of the text, every opening tag waits on a stack for
the closing one. On tags that can be continued to well nested ones both find the same environment.
-/

namespace LatexSnippets.Latex

namespace Tag

/-- How a tag is written. -/
def text (tag : Tag) : Text :=
  (if tag.opens then "\\begin\x7b".toList else "\\end\x7b".toList) ++ (tag.name ++ ['\x7d'])

def Named (tag : Tag) : Prop := tag.name ≠ [] ∧ ∀ c ∈ tag.name, isNameChar c = true

/-- The tags that are written in a text, in order. -/
inductive Tagged : Text → List Tag → Prop
  | nil : Tagged [] []
  | skip {c : Char} {t : Text} {tags : List Tag}
      (h : ∀ (tag : Tag) (after : Text), tag.Named → c :: t ≠ tag.text ++ after)
      (ht : Tagged t tags) : Tagged (c :: t) tags
  | tag {tag : Tag} {t : Text} {tags : List Tag} (h : tag.Named) (ht : Tagged t tags) :
      Tagged (tag.text ++ t) (tag :: tags)

/-- Every tag that opens an environment has its closing tag, and what lies between them is nested in
the same way. -/
inductive Nested : List Tag → Prop
  | nil : Nested []
  | environment {name : Text} {inner rest : List Tag} (hi : Nested inner) (hr : Nested rest) :
      Nested (⟨true, name⟩ :: (inner ++ ⟨false, name⟩ :: rest))

/-- The environments that tags leave open, the innermost first; none if a closing tag is not that of
the innermost. `opened` holds those that are open before. -/
def leftOpen? : (opened : List Text) → List Tag → Option (List Text)
  | opened, [] => some opened
  | opened, ⟨true, name⟩ :: after => leftOpen? (name :: opened) after
  | [], ⟨false, _⟩ :: _ => none
  | inner :: opened, ⟨false, name⟩ :: after =>
    if inner = name then leftOpen? opened after else none

variable {t after name : Text} {tag : Tag} {tags rest : List Tag} {opened closed : List Text}

theorem readName_eq_some : readName t = some (name, after) ↔
    (name ≠ [] ∧ ∀ c ∈ name, isNameChar c = true) ∧ t = '\x7b' :: (name ++ '\x7d' :: after) := by
  have hb : isNameChar '\x7d' = false := by decide
  constructor
  · intro h
    unfold readName at h
    split at h
    · next rest =>
      split at h
      · next c name₀ after₀ hname hafter =>
        obtain ⟨rfl, rfl⟩ := Prod.mk.inj (Option.some.inj h)
        refine ⟨⟨by simp, fun d hd => ?_⟩, ?_⟩
        · rw [← hname] at hd
          exact List.mem_takeWhile_imp hd
        · rw [← hafter, ← hname, List.takeWhile_append_dropWhile]
      · contradiction
    · contradiction
  · rintro ⟨⟨hn, hc⟩, rfl⟩
    obtain ⟨c, name, rfl⟩ := List.exists_cons_of_ne_nil hn
    simp only [readName, List.takeWhile_append_of_pos hc, List.dropWhile_append_of_pos hc,
      List.takeWhile_cons_of_neg (show ¬isNameChar '\x7d' = true by simp [hb]),
      List.dropWhile_cons_of_neg (show ¬isNameChar '\x7d' = true by simp [hb]), List.append_nil]

theorem text_opening (name after : Text) : text ⟨true, name⟩ ++ after =
    '\\' :: 'b' :: 'e' :: 'g' :: 'i' :: 'n' :: '\x7b' :: (name ++ '\x7d' :: after) := by
  simp [text]

theorem text_closing (name after : Text) : text ⟨false, name⟩ ++ after =
    '\\' :: 'e' :: 'n' :: 'd' :: '\x7b' :: (name ++ '\x7d' :: after) := by
  simp [text]

theorem read?_eq_some : read? t = some (tag, after) ↔ tag.Named ∧ t = tag.text ++ after := by
  obtain ⟨opens, name⟩ := tag
  constructor
  · intro h
    unfold read? at h
    split at h
    · obtain ⟨⟨u, r⟩, hr, he⟩ := Option.map_eq_some_iff.1 h
      obtain ⟨hn, rfl⟩ := readName_eq_some.1 hr
      cases he
      exact ⟨hn, (text_opening ..).symm⟩
    · obtain ⟨⟨u, r⟩, hr, he⟩ := Option.map_eq_some_iff.1 h
      obtain ⟨hn, rfl⟩ := readName_eq_some.1 hr
      cases he
      exact ⟨hn, (text_closing ..).symm⟩
    · contradiction
  · rintro ⟨hn, rfl⟩
    have hr : readName ('\x7b' :: (name ++ '\x7d' :: after)) = some (name, after) :=
      readName_eq_some.2 ⟨hn, rfl⟩
    cases opens with
    | true =>
      rw [text_opening, read?, hr]
      rfl
    | false =>
      rw [text_closing, read?, hr]
      rfl

theorem readAll_of_read? (h : read? t = some (tag, after)) :
    readAll t = tag :: readAll after := by
  cases t with
  | nil => simp [read?] at h
  | cons c t => rw [readAll, h]

theorem readAll_cons {c : Char} (h : read? (c :: t) = none) : readAll (c :: t) = readAll t := by
  rw [readAll, h]

theorem tagged_readAll (t : Text) : Tagged t (readAll t) := by
  fun_induction readAll t with
  | case1 => exact .nil
  | case2 c rest tag after hr ih =>
    obtain ⟨hn, ht⟩ := read?_eq_some.1 hr
    rw [ht]
    exact .tag hn ih
  | case3 c rest hr ih =>
    refine .skip (fun tag after hn ht => ?_) ih
    rw [read?_eq_some.2 ⟨hn, ht⟩] at hr
    contradiction

/-- The reader finds all tags and no others. -/
theorem tagged_iff : Tagged t tags ↔ readAll t = tags := by
  constructor
  · intro h
    induction h with
    | nil => simp [readAll]
    | skip h _ ih =>
      rw [readAll_cons, ih]
      rw [Option.eq_none_iff_forall_ne_some]
      rintro ⟨tag, after⟩ hr
      obtain ⟨hn, ht⟩ := read?_eq_some.1 hr
      exact h tag after hn ht
    | tag h _ ih => rw [readAll_of_read? (read?_eq_some.2 ⟨h, rfl⟩), ih]
  · rintro rfl
    exact tagged_readAll t

theorem leftOpen?_append (opened : List Text) (tags rest : List Tag) :
    leftOpen? opened (tags ++ rest) = (leftOpen? opened tags).bind (leftOpen? · rest) := by
  fun_induction leftOpen? opened tags with
  | case1 => rfl
  | case2 opened name after ih => exact ih
  | case3 => rfl
  | case4 opened name after ih => simpa [leftOpen?] using ih
  | case5 inner opened name after h => simp [leftOpen?, h]

theorem Nested.leftOpen?_eq (h : Nested tags) (opened : List Text) :
    leftOpen? opened tags = some opened := by
  induction h generalizing opened with
  | nil => rfl
  | environment _ _ ihi ihr =>
    rw [leftOpen?, leftOpen?_append, ihi, Option.bind_some, leftOpen?, if_pos rfl, ihr]

theorem exists_leftOpen?_of_nested (h : Nested (tags ++ rest)) :
    ∃ opened, leftOpen? [] tags = some opened := by
  have hs := h.leftOpen?_eq []
  rw [leftOpen?_append] at hs
  obtain ⟨opened, ho, -⟩ := Option.bind_eq_some_iff.1 hs
  exact ⟨opened, ho⟩

/-- Backward, the closing tags that are waiting take off the innermost of the environments that are
open going forward. -/
theorem innermost?_reverse (h : leftOpen? [] tags = some opened) (hc : closed <+: opened) :
    innermost? closed tags.reverse = (opened.drop closed.length).head? := by
  induction tags using List.reverseRecOn generalizing opened closed with
  | nil =>
    obtain rfl : [] = opened := Option.some.inj h
    obtain rfl := List.prefix_nil.1 hc
    rfl
  | append_singleton tags tag ih =>
    rw [leftOpen?_append] at h
    obtain ⟨before, hb, ho⟩ := Option.bind_eq_some_iff.1 h
    rw [List.reverse_concat]
    match tag, before, ho with
    | ⟨true, name⟩, before, ho =>
      obtain rfl : name :: before = opened := Option.some.inj ho
      cases closed with
      | nil => rfl
      | cons other closed =>
        obtain ⟨rfl, hs⟩ := List.cons_prefix_cons.1 hc
        rw [innermost?, if_pos rfl, ih hb hs, List.length_cons, List.drop_succ_cons]
    | ⟨false, name⟩, inner :: before, ho =>
      simp only [leftOpen?, Option.ite_none_right_eq_some, Option.some.injEq] at ho
      obtain ⟨rfl, rfl⟩ := ho
      rw [innermost?, ih hb (List.cons_prefix_cons.2 ⟨rfl, hc⟩), List.length_cons,
        List.drop_succ_cons]

end Tag

variable {t : Text} {caret : Nat} {tags rest : List Tag}

/-- Where the tags before a place can be continued to well nested ones, the environment around the
place is the innermost of those that they leave open, if that is one with columns or rows. -/
theorem enclosingTabular?_of_nested (ht : Tag.Tagged (t.take caret) tags)
    (hn : Tag.Nested (tags ++ rest)) :
    ∃ opened, Tag.leftOpen? [] tags = some opened ∧
      enclosingTabular? t caret = opened.head?.filter (isTabular ·) := by
  obtain ⟨opened, ho⟩ := Tag.exists_leftOpen?_of_nested hn
  refine ⟨opened, ho, ?_⟩
  rw [enclosingTabular?, Int.toNat_natCast, Tag.tagged_iff.1 ht,
    Tag.innermost?_reverse ho (List.nil_prefix ..)]
  rfl

/-- Behind an environment that is closed again, with the caret in the middle of the closing tag of
the one around it. -/
theorem enclosingTabular?_of_nested_cut :
    let t : Text := "\\begin\x7bsplit\x7d\\begin\x7bcases\x7da\\end\x7bcases\x7db\\end\x7bsplit\x7d"
    let tags : List Tag := [⟨true, "split"⟩, ⟨true, "cases"⟩, ⟨false, "cases"⟩]
    Tag.Tagged (t.take 45) tags ∧ Tag.Nested (tags ++ [⟨false, "split"⟩]) ∧
      enclosingTabular? t 45 = some "split".toList := by
  intro t tags
  have ht : Tag.Tagged (t.take 45) tags := Tag.tagged_iff.2 (by decide +kernel)
  have hi : Tag.Nested [⟨true, "cases"⟩, ⟨false, "cases"⟩] := .environment .nil .nil
  have hn : Tag.Nested (tags ++ [⟨false, "split"⟩]) := .environment hi .nil
  obtain ⟨opened, ho, he⟩ := enclosingTabular?_of_nested ht hn
  obtain rfl : [_] = opened := Option.some.inj ho
  exact ⟨ht, hn, he.trans (by decide +kernel)⟩

end LatexSnippets.Latex
