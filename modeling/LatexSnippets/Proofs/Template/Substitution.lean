import LatexSnippets.Proofs.Template.Outline
import LatexSnippets.Proofs.Template.Placeholder

/-!
Templates with placeholders, as outlines. The selected text comes escaped, so that it can be any
text; a capture comes as it is.
-/

namespace LatexSnippets

open Template

namespace Placeholder

variable {captures : Captures} {visual t raw : Text} {ps : List Placeholder} {x : Expansion}

theorem infix_of_not_mem {c : Char} {u v w : Text} (hc : c ∉ u) (h : c :: w <:+: u ++ v) :
    c :: w <:+: v := by
  induction u with
  | nil => exact h
  | cons d u ih =>
    rw [List.mem_cons, not_or] at hc
    rcases List.infix_cons_iff.1 h with h | h
    · exact absurd (List.cons_prefix_cons.1 h).1 hc.1
    · exact ih hc.2 h

theorem not_mem_captureMark {c : Char} {digits : Text} (hd : digits.all Unicode.isDecimal = true)
    (hc : Unicode.isDecimal c = false) (ho : c ≠ '[') (hs : c ≠ ']') : c ∉ captureMark digits := by
  have : c ∉ digits := by
    intro hm
    simp [List.all_eq_true.1 hd c hm] at hc
  simp [captureMark, *]

theorem usesVisual_iff : usesVisual t = true ↔ .visual ∈ readAll t := by
  rw [usesVisual, Text.contains, Text.isSome_findFrom]
  constructor
  · intro h
    fun_induction readAll t with
    | case1 => exact List.mem_cons_self
    | case2 rest digits after hc ih =>
      obtain ⟨-, hd, rfl⟩ := readCapture_eq_some hc
      have hn := not_mem_captureMark (c := '$') hd (by decide) (by decide) (by decide)
      refine List.mem_cons_of_mem _ (ih (infix_of_not_mem hn ?_))
      rwa [captureMark, List.cons_append, List.cons_append, List.append_assoc]
    | case3 rest _ ih =>
      exact List.mem_cons_of_mem _ (ih (infix_of_not_mem (u := ['[']) (by decide) h))
    | case4 c rest hv _ ih =>
      rcases List.infix_cons_iff.1 h with ⟨v, h⟩ | h
      · obtain ⟨rfl, rfl⟩ := List.cons.inj h
        exact (hv _ rfl rfl).elim
      · exact List.mem_cons_of_mem _ (ih h)
    | case5 => simp [visualMark] at h
  · exact written_infix

/-- The text that stands in the place of a capture. -/
def captured (captures : Captures) (digits : Text) : Text :=
  ((Numeral.readDigits digits).map captures.text).toOption.getD []

theorem captured_eq {digits w : Text} (h : (capture digits).fill captures visual = .ok w) :
    captured captures digits = w := by
  rw [fill] at h
  rw [captured, h]
  rfl

@[simp] theorem captured_nil (digits : Text) : captured [] digits = [] := by
  cases h : Numeral.readDigits digits <;>
    simp [captured, h, Except.map, Except.toOption, Captures.text]

theorem map_item_flatMap {parts : Placeholder → List Part} {outline : Placeholder → Outline}
    (h : ∀ p ∈ ps, (parts p).map Part.item = outline p) :
    (ps.flatMap parts).map Part.item = ps.flatMap outline := by
  rw [List.map_flatMap]
  exact List.flatMap_congr h

/-- Filled in, a template is written by the parts that its placeholders give. -/
theorem write_flatMap {parts : Placeholder → List Part}
    (hp : ∀ p ∈ ps, ∀ w, p.fill captures visual = .ok w → Part.write (parts p) = w)
    (h : fillAll captures visual ps = .ok raw) : Part.write (ps.flatMap parts) = raw := by
  induction ps generalizing raw with
  | nil =>
    cases h
    rfl
  | cons p ps ih =>
    obtain ⟨w, rest, hw, hr, rfl⟩ := fillAll_cons_eq_ok.1 h
    rw [List.flatMap_cons, Part.write_append, hp p List.mem_cons_self w hw,
      ih (fun q hq => hp q (List.mem_cons_of_mem p hq)) hr]

section Selection

variable {v : Text} {ids : List Nat}

/-- A template around a selected text. There are no captures, and so their places stay empty. -/
def aroundSelection : Placeholder → Outline
  | .char c => [.char c]
  | .visual => [.gap true false]
  | .capture _ => []

def selectionParts (v : Text) : Placeholder → List Part
  | .char c => [.char c]
  | .visual => [.value (.escaped v)]
  | .capture _ => []

theorem map_item_selectionParts (v : Text) (ps : List Placeholder) :
    (ps.flatMap (selectionParts v)).map Part.item = ps.flatMap aroundSelection :=
  map_item_flatMap fun p _ => by cases p <;> rfl

theorem write_selectionParts (h : fillAll [] (Piece.escape v) ps = .ok raw) :
    Part.write (ps.flatMap (selectionParts v)) = raw := by
  refine write_flatMap ?_ h
  intro p _ w hw
  cases p with
  | char c | visual =>
    cases hw
    simp [selectionParts, Insertion.escaped]
  | capture digits =>
    rw [← captured_eq hw, captured_nil]
    rfl

/-- The numbers of the fields of a template that wraps a selected text, whatever it is. There is no
answer where the text could have a part in field syntax. -/
def idsAroundSelection? (t : Text) : Option (List Nat) :=
  Outline.ids? ((readAll t).flatMap aroundSelection)

theorem selection_shown (hi : idsAroundSelection? t = some ids) (ht : usesVisual t = true)
    (h : (Template.text t).compile [] (Piece.escape v) = .ok x) :
    v <:+: x.text ∧ ∀ j : Int, j ∈ x.fields.ids ↔ ∃ d ∈ ids, (d : Int) = j := by
  obtain ⟨raw, hraw, rfl⟩ := compile_eq_ok.1 h
  have hs := Outline.shows hi (map_item_selectionParts v (readAll t))
  obtain rfl := write_selectionParts hraw
  refine ⟨hs.texts (.escaped v) (List.mem_flatMap.2 ⟨.visual, ?_, List.mem_cons_self⟩),
    fun j => hs.mem_ids⟩
  exact usesVisual_iff.1 ht

end Selection

section Captures

variable {ids : List Nat}

/-- A template around captures. There is no selected text. -/
def aroundCaptures (captures : Captures) : Placeholder → Outline
  | .char c => [.char c]
  | .visual => []
  | .capture digits =>
    [.gap ('\x7d' ∉ captured captures digits) (Piece.opensPlainly (captured captures digits))]

/-- The numbers of the fields of a template with captures. There is no answer where a capture could
have a part in field syntax. -/
def idsAroundCaptures? (captures : Captures) (t : Text) : Option (List Nat) :=
  Outline.ids? ((readAll t).flatMap (aroundCaptures captures))

/-- Captures that are read as they are. -/
theorem captures_shown (hi : idsAroundCaptures? captures t = some ids)
    (hc : ∀ digits, .capture digits ∈ readAll t → Piece.isInert (captured captures digits) = true)
    (h : (Template.text t).compile captures [] = .ok x) :
    (∀ digits, .capture digits ∈ readAll t → captured captures digits <:+: x.text) ∧
      ∀ j : Int, j ∈ x.fields.ids ↔ ∃ d ∈ ids, (d : Int) = j := by
  obtain ⟨raw, hraw, rfl⟩ := compile_eq_ok.1 h
  have hparts : ∀ p ∈ readAll t, ∃ qs : List Part,
      qs.map Part.item = aroundCaptures captures p ∧
      (∀ w, p.fill captures [] = .ok w → Part.write qs = w) ∧
      ∀ digits, p = .capture digits → ∃ u, .value u ∈ qs ∧ u.text = captured captures digits := by
    intro p hp
    cases p with
    | char c => exact ⟨[.char c], rfl, by rintro w ⟨⟩; rfl, by simp⟩
    | visual => exact ⟨[], rfl, by rintro w ⟨⟩; rfl, by simp⟩
    | capture digits =>
      let u := Insertion.inert (captured captures digits) (hc digits hp)
        ('\x7d' ∉ captured captures digits) (Piece.opensPlainly (captured captures digits))
        of_decide_eq_true id
      refine ⟨[.value u], rfl, ?_, ?_⟩
      · intro w hw
        rw [← captured_eq hw]
        exact List.append_nil _
      · rintro _ ⟨⟩
        exact ⟨u, List.mem_cons_self, rfl⟩
  choose! parts hitem hwrite hvalue using hparts
  have hs := Outline.shows hi (map_item_flatMap hitem)
  obtain rfl := write_flatMap hwrite hraw
  refine ⟨?_, fun j => hs.mem_ids⟩
  intro digits hd
  obtain ⟨u, hu, ht⟩ := hvalue _ hd digits rfl
  exact ht ▸ hs.texts u (List.mem_flatMap.2 ⟨_, hd, hu⟩)

/-- The marks of captures are no field syntax, so that a template has the same fields without the
captures. -/
theorem marks_shown (hi : idsAroundCaptures? captures t = some ids) (hv : usesVisual t = false) :
    ∀ j : Int, j ∈ (Expansion.ofText t).fields.ids ↔ ∃ d ∈ ids, (d : Int) = j := by
  have hparts : ∀ p ∈ readAll t, ∃ qs : List Part,
      qs.map Part.item = aroundCaptures captures p ∧ Part.write qs = p.written := by
    intro p hp
    cases p with
    | char c => exact ⟨[.char c], rfl, rfl⟩
    | visual =>
      rw [usesVisual_iff.2 hp] at hv
      contradiction
    | capture digits =>
      have hd := all_isDecimal_of_mem hp
      have hi : Piece.isInert (captureMark digits) = true :=
        Piece.isInert_of_not_mem (not_mem_captureMark hd (by decide) (by decide) (by decide))
          (not_mem_captureMark hd (by decide) (by decide) (by decide))
      let u := Insertion.inert (captureMark digits) hi ('\x7d' ∉ captured captures digits)
        (Piece.opensPlainly (captured captures digits))
        (fun _ => not_mem_captureMark hd (by decide) (by decide) (by decide)) (fun _ => rfl)
      exact ⟨[.value u], rfl, List.append_nil _⟩
  choose! parts hitem hwrite using hparts
  have hs := Outline.shows hi (map_item_flatMap hitem)
  have ht : Part.write ((readAll t).flatMap parts) = t := by
    rw [Part.write, List.flatMap_assoc]
    exact (List.flatMap_congr hwrite).trans (flatMap_written t)
  exact fun j => ht ▸ hs.mem_ids

end Captures

end Placeholder

end LatexSnippets
