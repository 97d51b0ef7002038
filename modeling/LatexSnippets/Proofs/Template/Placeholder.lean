import LatexSnippets.Template.Basic
import LatexSnippets.Proofs.Text

/-!
How placeholders are read from a template, and template texts without any, which filling in leaves
as they are.
-/

namespace LatexSnippets

namespace Placeholder

def captureMark (digits : Text) : Text := '[' :: '[' :: (digits ++ [']', ']'])

/-- A text in which no placeholder stands for a capture. -/
def CaptureFree (t : Text) : Prop :=
  ∀ digits, digits ≠ [] → digits.all Unicode.isDecimal = true → ¬captureMark digits <:+: t

theorem readCapture_eq_some {t digits after : Text} (h : readCapture t = some (digits, after)) :
    digits ≠ [] ∧ digits.all Unicode.isDecimal = true ∧ t = digits ++ ']' :: ']' :: after := by
  unfold readCapture at h
  split at h
  · next d ds rest hd hr =>
    simp only [Option.some.injEq, Prod.mk.injEq] at h
    obtain ⟨rfl, rfl⟩ := h
    refine ⟨by simp, ?_, ?_⟩
    · rw [← hd]
      exact List.all_takeWhile
    · rw [← hd, ← hr, List.takeWhile_append_dropWhile]
  · contradiction

/-- How a placeholder is written in a template. -/
def written : Placeholder → Text
  | .char c => [c]
  | .visual => visualMark
  | .capture digits => captureMark digits

theorem flatMap_written (t : Text) : (readAll t).flatMap written = t := by
  fun_induction readAll t with
  | case1 rest ih =>
    rw [List.flatMap_cons, ih]
    rfl
  | case2 rest digits after h ih =>
    obtain ⟨-, -, rfl⟩ := readCapture_eq_some h
    rw [List.flatMap_cons, ih]
    simp [written, captureMark]
  | case3 rest _ ih =>
    rw [List.flatMap_cons, ih]
    rfl
  | case4 c rest _ _ ih =>
    rw [List.flatMap_cons, ih]
    rfl
  | case5 => rfl

theorem written_infix {t : Text} {p : Placeholder} (h : p ∈ readAll t) : p.written <:+: t := by
  obtain ⟨u, v, huv⟩ := List.append_of_mem h
  refine ⟨u.flatMap written, v.flatMap written, ?_⟩
  rw [← flatMap_written t, huv, List.flatMap_append, List.flatMap_cons, List.append_assoc]

theorem all_isDecimal_of_mem {t digits : Text} (h : .capture digits ∈ readAll t) :
    digits.all Unicode.isDecimal = true := by
  fun_induction readAll t with
  | case1 rest ih => exact ih (by simpa using h)
  | case2 rest ds after hc ih =>
    rcases List.mem_cons.1 h with h | h
    · obtain rfl := Placeholder.capture.inj h
      exact (readCapture_eq_some hc).2.1
    · exact ih h
  | case3 rest _ ih => exact ih (by simpa using h)
  | case4 c rest _ _ ih => exact ih (by simpa using h)
  | case5 => simp at h

theorem fillAll_cons_eq_ok {captures : Captures} {visual t : Text} {p : Placeholder}
    {ps : List Placeholder} : fillAll captures visual (p :: ps) = .ok t ↔
      ∃ w rest, p.fill captures visual = .ok w ∧ fillAll captures visual ps = .ok rest ∧
        w ++ rest = t := by
  rw [fillAll]
  cases p.fill captures visual with
  | error e => simp [bind, Except.bind]
  | ok w => cases fillAll captures visual ps <;> simp [bind, Except.bind, pure, Except.pure]

theorem exists_fill {captures : Captures} {visual : Text} {p : Placeholder} :
    (∃ w, p.fill captures visual = .ok w) ↔
      ∀ digits, p = .capture digits → digits.length ≤ Numeral.maxDigits := by
  cases p with
  | char | visual => simp [fill]
  | capture digits =>
    simp only [fill, Numeral.readDigits, capture.injEq, forall_eq']
    split <;> simp [Except.map] <;> omega

/-- Placeholders can be filled in if no number is too long to be read. -/
theorem exists_fillAll (captures : Captures) (visual : Text) {ps : List Placeholder} :
    (∃ t, fillAll captures visual ps = .ok t) ↔
      ∀ digits, .capture digits ∈ ps → digits.length ≤ Numeral.maxDigits := by
  induction ps with
  | nil => simp [fillAll]
  | cons p ps ih =>
    simp only [fillAll_cons_eq_ok, List.mem_cons]
    constructor
    · rintro ⟨_, w, rest, hw, hr, -⟩ digits (hd | hd)
      · exact exists_fill.1 ⟨w, hw⟩ digits hd.symm
      · exact ih.1 ⟨rest, hr⟩ digits hd
    · intro h
      obtain ⟨w, hw⟩ := exists_fill.2 fun digits hd => h digits (.inl hd.symm)
      obtain ⟨rest, hr⟩ := ih.2 fun digits hd => h digits (.inr hd)
      exact ⟨w ++ rest, w, rest, hw, hr, rfl⟩

theorem not_infix_tail {w t : Text} {c : Char} (h : ¬w <:+: c :: t) : ¬w <:+: t :=
  fun hi => h (hi.trans (List.suffix_cons c t).isInfix)

theorem CaptureFree.tail {c : Char} {t : Text} (h : CaptureFree (c :: t)) : CaptureFree t :=
  fun digits h₁ h₂ => not_infix_tail (h digits h₁ h₂)

theorem captureFree_of_not_mem {t : Text} (h : '[' ∉ t) : CaptureFree t :=
  fun _ _ _ hi => h (hi.subset List.mem_cons_self)

theorem readAll_plain {t : Text} (hv : ¬visualMark <:+: t) (hc : CaptureFree t) :
    readAll t = t.map .char := by
  fun_induction readAll t with
  | case1 rest => exact absurd (List.prefix_append visualMark rest).isInfix hv
  | case2 rest digits after h =>
    obtain ⟨h₁, h₂, rfl⟩ := readCapture_eq_some h
    refine absurd ⟨[], after, ?_⟩ (hc digits h₁ h₂)
    simp [captureMark]
  | case3 rest _ ih =>
    rw [ih (not_infix_tail hv) hc.tail]
    rfl
  | case4 c rest _ _ ih =>
    rw [ih (not_infix_tail hv) hc.tail]
    rfl
  | case5 => rfl

theorem fillAll_chars (captures : Captures) (visual t : Text) :
    fillAll captures visual (t.map .char) = .ok t := by
  induction t with
  | nil => rfl
  | cons c t ih =>
    rw [List.map_cons, fillAll, ih]
    rfl

theorem substitute_plain {t : Text} (hv : usesVisual t = false) (hc : CaptureFree t)
    (captures : Captures) (visual : Text) : substitute t captures visual = .ok t := by
  have hi : ¬visualMark <:+: t := by
    rw [← Text.isSome_findFrom (n := 0)]
    simpa [usesVisual, Text.contains] using hv
  rw [substitute, readAll_plain hi hc, fillAll_chars]

end Placeholder

namespace Template

variable {t visual : Text} {captures : Captures}

theorem compile_eq_ok {template : Template} {x : Expansion} :
    template.compile captures visual = .ok x ↔
      ∃ raw, template.render captures visual = .ok raw ∧ .ofText raw = x := by
  rw [compile]
  cases template.render captures visual <;> simp [Except.map]

/-- A capture is named by a number too long to be read. -/
def Unreadable : Template → Prop
  | .text t => ∃ digits, .capture digits ∈ Placeholder.readAll t ∧ Numeral.maxDigits < digits.length
  | _ => False

theorem exists_render {template : Template} (h : ¬template.Unreadable) (captures : Captures)
    (visual : Text) : ∃ raw, template.render captures visual = .ok raw := by
  cases template with
  | text t =>
    refine (Placeholder.exists_fillAll captures visual).2 fun digits hd => ?_
    exact Nat.le_of_not_lt fun hlt => h ⟨digits, hd, hlt⟩
  | interpolated i => exact ⟨_, rfl⟩
  | host f => exact ⟨_, rfl⟩

theorem exists_compile_text : (∃ x, (text t).compile captures visual = .ok x) ↔
    ∀ digits, .capture digits ∈ Placeholder.readAll t → digits.length ≤ Numeral.maxDigits := by
  rw [← Placeholder.exists_fillAll captures visual]
  constructor
  · rintro ⟨x, hx⟩
    obtain ⟨raw, hraw, -⟩ := compile_eq_ok.1 hx
    exact ⟨raw, hraw⟩
  · rintro ⟨raw, hraw⟩
    exact ⟨_, compile_eq_ok.2 ⟨raw, hraw, rfl⟩⟩

end Template

end LatexSnippets
