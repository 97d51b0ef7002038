import LatexSnippets.Proofs.Anchoring
import LatexSnippets.Proofs.Pattern.Running
import LatexSnippets.Proofs.Ranking
import LatexSnippets.Proofs.Template.Substitution
import LatexSnippets.Rule.Table

/-!
What becomes of captured text. A template takes captures as they are, and the field syntax is read
after that, so that a capture is kept if it is inert and the template does not stop in the midst of
field syntax before it.
-/

namespace LatexSnippets

theorem usesVisual_of_fire {t : Text} {caret : Int} {rules : List Rule}
    {forceMath auto manual : Bool} {f : Fired}
    (h : fire t caret rules forceMath auto manual = .ok (some f)) :
    f.rule.rule.usesVisual = false := by
  obtain ⟨hit, x, hh, -, -⟩ := exists_of_fire h
  have := (Ranked.mem_rank.1 (hit_of_firstHit hh).1).2
  simp only [Rule.isEligible, Bool.and_eq_true, Bool.not_eq_true'] at this
  exact this.2

section Parenthesized

open Pattern

/-- The pattern `\(([^)]+)\)/`, bound to the caret. -/
def parenthesized : Compiled where
  body := .seq
    (.scoped .nothing (.seq (.code 40) (.seq
      (.group 1 (.seq (.rounds 1 none .greedy (.oneOf true [.code 41])) .empty))
      (.seq (.code 41) (.seq (.code 47) .empty)))))
    (.seq (.anchor .textEnd) .empty)
  groups := 1
  options := .plain

theorem compile_parenthesized : Trigger.compile "\\(([^)]+)\\)/" [] = .ok parenthesized := by
  decide +kernel

variable {x w : Text}

theorem admitsCode_plain (a c : Char) : admitsCode .plain a.toNat c = decide (a = c) := by
  simp [admitsCode, Options.plain, Char.toNat_inj]

theorem run_parenthesized (hw₀ : w ≠ []) (hw : ')' ∉ w) (b : Text) :
    parenthesized.body.run parenthesized.options some (.between b ('(' :: (w ++ [')', '/'])) []) =
      some (.between ('/' :: ')' :: (w.reverse ++ '(' :: b)) [] [(1, w)]) := by
  simp only [parenthesized, run]
  rw [Point.step?_between (by decide), Option.bind_some]
  refine run_oneOf_rounds hw₀ ?_ (by decide) ?_
  · intro c hc
    have hne : ')' ≠ c := fun h => hw (h ▸ hc)
    have ha : admitsCode .plain 41 c = false := (admitsCode_plain ')' c).trans (by simpa using hne)
    show (ClassItem.admits .plain c (.code 41) || false) != true
    rw [ClassItem.admits, ha]
    rfl
  · rw [Point.upTo_between]
    rfl

theorem search_parenthesized (hx : '(' ∉ x) (hw₀ : w ≠ []) (hw : ')' ∉ w) :
    ∃ m, parenthesized.search (x ++ '(' :: (w ++ [')', '/'])) = some m ∧ m.start = x.length ∧
      m.start ≠ m.stop ∧ m.groups = [some w] := by
  have h : parenthesized.body.run parenthesized.options some
      (.between x.reverse ('(' :: (w ++ [')', '/'])) []) =
        some (.between (('(' :: (w ++ [')', '/'])).reverse ++ x.reverse) [] [(1, w)]) := by
    simpa using run_parenthesized hw₀ hw x.reverse
  refine ⟨_, Compiled.search_eq_some (q := ('(' = ·)) ?_ ?_ h, rfl, ?_, rfl⟩
  · intro s hs
    have hs : s.step? (admitsCode .plain '('.toNat) = none := by
      apply Point.step?_eq_none
      rw [funext (admitsCode_plain '(')]
      exact hs
    show ((s.step? (admitsCode .plain '('.toNat)).bind _).map _ = none
    rw [hs]
    rfl
  · intro c hc
    simpa using fun h : '(' = c => hx (h ▸ hc)
  · simp

/-- The template of a fraction whose numerator is captured. -/
def fractionTemplate : Text := "\\frac\x7b[[0]]\x7d\x7b$1\x7d$0"

theorem readAll_fractionTemplate : Placeholder.readAll fractionTemplate =
    "\\frac\x7b".toList.map .char ++ .capture ['0'] :: "\x7d\x7b$1\x7d$0".toList.map .char := by
  decide +kernel

theorem compile_fractionTemplate (hw : Piece.isInert (w ++ ['\x7d']) = true) :
    ∃ e, (Template.text fractionTemplate).compile [some w] [] = .ok e ∧
      e.text = "\\frac\x7b".toList ++ w ++ "\x7d\x7b\x7d".toList := by
  have hs : Placeholder.substitute fractionTemplate [some w] [] =
      .ok ("\\frac\x7b".toList ++ (w ++ "\x7d\x7b$1\x7d$0".toList)) := by
    rw [Placeholder.substitute, readAll_fractionTemplate]
    rfl
  have hp : Piece.readAll ("\\frac\x7b".toList ++ (w ++ "\x7d\x7b$1\x7d$0".toList)) =
      "\\frac\x7b".toList.map .char ++ ((w ++ ['\x7d']).map .char ++
        [.char '\x7b', .stop 1, .char '\x7d', .stop 0]) := by
    have hsplit : w ++ "\x7d\x7b$1\x7d$0".toList = w ++ ['\x7d'] ++ "\x7b$1\x7d$0".toList := by simp
    rw [hsplit, Piece.readAll_inert (by decide), Piece.readAll_inert hw]
    congr 2
    decide +kernel
  refine ⟨_, Template.compile_eq_ok.2 ⟨_, hs, rfl⟩, ?_⟩
  simp only [Expansion.ofText, Expansion.ofPieces, hp]
  simp [List.flatMap_map, Piece.text]

/-- The rule that makes a fraction of what stands in parentheses before a slash. -/
def parenthesizedFraction : Rule := .ofTexts "\\(([^)]+)\\)/" fractionTemplate "rmA"

theorem parenthesizedFraction_mem : parenthesizedFraction ∈ RuleTable.fractions :=
  List.mem_cons_of_mem _ List.mem_cons_self

theorem fire_parenthesizedFraction (hx : '(' ∉ x) (hw₀ : w ≠ []) (hw : ')' ∉ w)
    (hi : Piece.isInert (w ++ ['\x7d']) = true) {before : Text}
    (hb : before = x ++ '(' :: (w ++ [')', '/']))
    (after : Text) {forceMath : Bool}
    (hm : (forceMath || Latex.insideMath (before ++ after) before.length) = true) (auto : Bool) :
    ∃ f, fire (before ++ after) before.length [parenthesizedFraction] forceMath auto false =
        .ok (some f) ∧
      f.text = x ++ ("\\frac\x7b".toList ++ w ++ "\x7d\x7b\x7d".toList) ++ after := by
  obtain ⟨m, hs, hstart, hne, hg⟩ := search_parenthesized hx hw₀ hw
  obtain ⟨e, he, htext⟩ := compile_fractionTemplate hi
  have hs : parenthesized.search ((before ++ after).upTo before.length) = some m := by
    rw [Text.upTo_left, hb, hs]
  have hh : parenthesizedFraction.hit ((before ++ after).upTo before.length) =
      .ok (some ⟨x.length, [some w]⟩) := by
    rw [Rule.hit_of_search (by rfl) compile_parenthesized hs hne, hstart, ← hg]
    rfl
  have hel : parenthesizedFraction.isEligible
      ⟨forceMath || Latex.insideMath (before ++ after) before.length, auto, false⟩ = true := by
    rw [hm]
    cases auto <;> decide +kernel
  refine ⟨_, fire_singleton hel hh he, ?_⟩
  rw [Fired.ofExpansion, Text.upTo_left, Text.onward_left, htext, hb, List.take_left]

end Parenthesized

/-- Where a rule fires, captures that are inert are kept, and the fields are those of its template
alone, if that does not stop in the midst of field syntax before a capture. So what is written in
parentheses becomes the numerator of a fraction if it is inert with the brace that follows it. -/
theorem captures_survive_expansion (t : Text) (caret : Int) (forceMath auto : Bool) :
    (∀ {rules : List Rule} {manual : Bool} {f : Fired} {source flags template : Text}
      {p : Pattern.Compiled} {m : Pattern.Match} {ids : List Nat},
      fire t caret rules forceMath auto manual = .ok (some f) →
      f.rule.rule.trigger = .pattern source flags → f.rule.rule.template = .text template →
      Trigger.compile source flags = .ok p → p.search (t.upTo caret) = some m →
      (∀ digits, .capture digits ∈ Placeholder.readAll template →
        Piece.isInert (Placeholder.captured m.groups digits)) →
      Placeholder.idsAroundCaptures? m.groups template = some ids →
      ∃ x, f.rule.rule.template.compile m.groups [] = .ok x ∧
        f.text = (t.upTo caret).take m.start ++ x.text ++ t.onward caret ∧
        (∀ digits, .capture digits ∈ Placeholder.readAll template →
          Placeholder.captured m.groups digits <:+: x.text) ∧
        x.fields.ids = (Expansion.ofText template).fields.ids) ∧
    parenthesizedFraction ∈ RuleTable.fractions ∧
    ∀ {x w before after : Text}, t = before ++ after → caret = before.length →
      before = x ++ '(' :: (w ++ [')', '/']) → '(' ∉ x → w ≠ [] → ')' ∉ w →
      Piece.isInert (w ++ ['\x7d']) → (forceMath || Latex.insideMath t caret) →
      ∃ f, fire t caret [parenthesizedFraction] forceMath auto false = .ok (some f) ∧
        f.text = x ++ ("\\frac\x7b".toList ++ w ++ "\x7d\x7b\x7d".toList) ++ after := by
  refine ⟨?_, parenthesizedFraction_mem, ?_⟩
  · intro rules manual f source flags template p m ids h hr ht hp hm hc hi
    have hv : Placeholder.usesVisual template = false := by
      have := usesVisual_of_fire h
      rwa [Rule.usesVisual, ht] at this
    obtain ⟨hit, x, hh, hx, hf⟩ := givesAt_of_fire h
    obtain ⟨p', m', hp', hm', -, rfl⟩ := Rule.hit_pattern hr hh
    obtain rfl := Except.ok.inj (hp.symm.trans hp')
    obtain rfl := Option.some.inj (hm.symm.trans hm')
    rw [ht] at hx ⊢
    obtain ⟨hkept, hids⟩ := Placeholder.captures_shown hi hc hx
    refine ⟨x, hx, by rw [hf]; rfl, hkept, ?_⟩
    exact Fields.ids_congr fun j => (hids j).trans (Placeholder.marks_shown hi hv j).symm
  · intro x w before after ht hcaret hb hx hw₀ hw hi hm
    subst ht hcaret
    exact fire_parenthesizedFraction hx hw₀ hw hi hb after hm auto

/-- A backslash before a letter and a dollar sign before a letter are no field syntax. -/
theorem captures_survive_expansion_inert :
    ∃ f x, fire "x(\\pi$n)/" 9 [parenthesizedFraction] true true false = .ok (some f) ∧
      f.text = "x\\frac\x7b\\pi$n\x7d\x7b\x7d".toList ∧
      f.rule.rule.template.compile [some "\\pi$n"] [] = .ok x ∧ f.text = ['x'] ++ x.text ++ [] ∧
      "\\pi$n".toList <:+: x.text ∧
      x.fields.ids = (Expansion.ofText fractionTemplate).fields.ids := by
  obtain ⟨hkept, -, hfire⟩ := captures_survive_expansion "x(\\pi$n)/" 9 true true
  obtain ⟨f, hf, ht⟩ := hfire (x := ['x']) (w := "\\pi$n") (List.append_nil _).symm rfl rfl
    (by decide) (by decide) (by decide) (by decide) rfl
  have hrule : f.rule = ⟨parenthesizedFraction, 0⟩ := by
    obtain ⟨hit, x, hh, -, -⟩ := exists_of_fire hf
    have := Ranked.mem_rank.1 (hit_of_firstHit hh).1
    simpa [Ranked.all] using this.1
  have hm : parenthesized.search (Text.upTo "x(\\pi$n)/" 9) =
      some ⟨1, 9, "(\\pi$n)/", [some "\\pi$n"]⟩ := by
    decide +kernel
  have hc : ∀ digits, .capture digits ∈ Placeholder.readAll fractionTemplate →
      Piece.isInert (Placeholder.captured [some "\\pi$n"] digits) = true := by
    intro digits hd
    obtain rfl : digits = ['0'] := by simpa [readAll_fractionTemplate] using hd
    decide +kernel
  have hi : Placeholder.idsAroundCaptures? [some "\\pi$n"] fractionTemplate = some [1, 0] := by
    decide +kernel
  obtain ⟨x, hx, htext, hkept, hids⟩ := hkept hf (by rw [hrule]; rfl)
    (show f.rule.rule.template = .text fractionTemplate by rw [hrule]; rfl) compile_parenthesized
    hm hc hi
  exact ⟨f, x, hf, ht, hx, htext, hkept ['0'] (by simp [readAll_fractionTemplate]), hids⟩

/-- Before a brace, the backslash of a capture is taken as an escape and lost. A dollar sign before
a digit is taken as a field. -/
theorem captured_escape_lost :
    (∃ f m, fire "(\\\x7ba\\\x7d)/" 8 [parenthesizedFraction] true true false = .ok (some f) ∧
      parenthesized.search (Text.upTo "(\\\x7ba\\\x7d)/" 8) = some m ∧
      m.groups = [some "\\\x7ba\\\x7d".toList] ∧ ¬"\\\x7ba\\\x7d".toList <:+: f.text) ∧
    ∃ f m x, fire "($2)/" 5 [parenthesizedFraction] true true false = .ok (some f) ∧
      parenthesized.search (Text.upTo "($2)/" 5) = some m ∧ m.groups = [some "$2".toList] ∧
      f.rule.rule.template.compile m.groups [] = .ok x ∧
      x.fields.ids ≠ (Expansion.ofText fractionTemplate).fields.ids := by
  constructor
  · have hf : (fire "(\\\x7ba\\\x7d)/" 8 [parenthesizedFraction] true true false).toOption.join.map
        (·.text) = some "\\frac\x7b\\\x7ba\x7d\x7d\x7b\x7d".toList := by
      decide +kernel
    obtain ⟨f, hf, ht⟩ := Option.map_eq_some_iff.1 hf
    have hm : parenthesized.search (Text.upTo "(\\\x7ba\\\x7d)/" 8) =
        some ⟨0, 8, "(\\\x7ba\\\x7d)/", [some "\\\x7ba\\\x7d"]⟩ := by
      decide +kernel
    refine ⟨f, _, eq_ok_of_toOption (Option.join_eq_some_iff.1 hf), hm, rfl, ?_⟩
    rw [ht]
    decide +kernel
  · have hf : (fire "($2)/" 5 [parenthesizedFraction] true true false).toOption.join.bind
        (fun f => (f.rule.rule.template.compile [some "$2"] []).toOption.map
          (·.fields.ids)) = some [0, 1, 2] := by
      decide +kernel
    have hm : parenthesized.search (Text.upTo "($2)/" 5) =
        some ⟨0, 5, "($2)/", [some "$2"]⟩ := by
      decide +kernel
    obtain ⟨f, hf, hx⟩ := Option.bind_eq_some_iff.1 hf
    obtain ⟨x, hx, hids⟩ := Option.map_eq_some_iff.1 hx
    refine ⟨f, _, x, eq_ok_of_toOption (Option.join_eq_some_iff.1 hf), hm, rfl,
      eq_ok_of_toOption hx, ?_⟩
    rw [hids]
    decide +kernel

end LatexSnippets
