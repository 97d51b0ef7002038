import LatexSnippets.Proofs.Firing
import LatexSnippets.Proofs.Pattern.Enclosed

/-!
What a pattern rule replaces. The source of its trigger stands in `(?:…)\Z`, which binds it to the
caret if the source is a pattern by itself. A source that is one only in there may close the
parenthesis and have the anchor for one of its alternatives alone.
-/

namespace LatexSnippets

theorem eq_ok_of_toOption {ε α : Type} {x : Except ε α} {a : α} (h : x.toOption = some a) :
    x = .ok a := by
  cases x with
  | error e => contradiction
  | ok b =>
    cases h
    rfl

theorem Trigger.spaced_options {flags : Text} {o : Pattern.Options}
    (h : options flags = .ok o) : o.spaced = false := by
  induction flags generalizing o with
  | nil =>
    cases h
    rfl
  | cons c rest ih =>
    rw [options] at h
    split at h
    · next hc =>
      cases hr : options rest with
      | error e =>
        rw [hr] at h
        contradiction
      | ok o' =>
        rw [hr] at h
        cases h
        have hx : c ≠ 'x' := by
          rintro rfl
          revert hc
          decide
        simp [Pattern.Options.union, Pattern.Read.optionsOf, ih hr, hx.symm]
    · contradiction

/-- A rule whose pattern is one by itself matches up to the caret, and what it matched is all of the
text that it replaces. -/
theorem pattern_rule_replaces_match {t : Text} {caret : Int} {rules : List Rule}
    {forceMath auto manual : Bool} {f : Fired} {source flags : Text} {o : Pattern.Options}
    {q : Pattern.Compiled} (h : fire t caret rules forceMath auto manual = .ok (some f))
    (hr : f.rule.rule.trigger = .pattern source flags) (ho : Trigger.options flags = .ok o)
    (hq : Pattern.compile source o = .ok q) :
    ∃ p m w, Trigger.compile source flags = .ok p ∧ p.search (t.upTo caret) = some m ∧
      m.start = f.start ∧ m.stop = (t.upTo caret).length ∧ m.start < m.stop ∧
      m.matched = t.slice f.start caret ∧ f.stop = caret ∧
      f.text = t.upTo f.start ++ w ++ t.onward caret := by
  obtain ⟨hit, e, hh, -, hf⟩ := givesAt_of_fire h
  obtain ⟨p, m, hp, hm, hne, rfl⟩ := Rule.hit_pattern hr hh
  have hb : p.body = .seq (.scoped .nothing q.body) (.seq (.anchor .textEnd) .empty) := by
    have hp' := hp
    simp only [Trigger.compile, ho, bind, Except.bind] at hp'
    rw [Pattern.compile_anchored (Trigger.spaced_options ho) hq hp']
  obtain ⟨x, hx, hstart, hstop⟩ := Pattern.Compiled.text_eq_of_search_textEnd hb hm
  have ht : t = x ++ (m.matched ++ t.onward caret) := by
    rw [← List.append_assoc, ← hx, Text.upTo_append_onward]
  have hl : t.upTo x.length = x := by
    rw [ht, Text.upTo_left]
  rw [hf]
  refine ⟨p, m, e.text, hp, hm, rfl, hstop, ?_, ?_, rfl, ?_⟩
  · have : m.start ≤ m.stop := by rw [hstart, hstop, hx]; simp
    omega
  · simp only [Fired.ofExpansion, hstart, Text.slice]
    rw [show Text.place t.length x.length = x.length by rw [ht, Text.place_left], hx,
      List.drop_left]
  · simp only [Fired.ofExpansion, hstart, hl]
    rw [hx, List.take_left]

theorem pattern_rule_replaces_match_twice :
    let r : Rule := ⟨.pattern "(z)z" [], .text "y", [], 0, []⟩
    ∃ f p m, fire "azz" 3 [r] false false false = .ok (some f) ∧
      Trigger.compile "(z)z" [] = .ok p ∧ p.search (Text.upTo "azz" 3) = some m ∧ f.start = 1 ∧
      m.matched = Text.slice "azz" 1 3 := by
  intro r
  have hf : ((fire "azz" 3 [r] false false false).toOption.join.map
      fun f => (f.start, f.rule.rule.trigger)) = some (1, .pattern "(z)z" []) := by decide +kernel
  have hq : (Pattern.compile "(z)z" .plain).toOption.isSome := by decide +kernel
  obtain ⟨f, hf, he⟩ := Option.map_eq_some_iff.1 hf
  obtain ⟨q, hq⟩ := Option.isSome_iff_exists.1 hq
  have hf := eq_ok_of_toOption (Option.join_eq_some_iff.1 hf)
  simp only [Prod.mk.injEq] at he
  obtain ⟨p, m, w, hp, hm, -, -, -, hs, -⟩ :=
    pattern_rule_replaces_match hf he.2 rfl (eq_ok_of_toOption hq)
  exact ⟨f, p, m, hf, hp, hm, he.1, by rw [hs, he.1]⟩

/-- The source `a)|(?:b` leaves its parenthesis, and its first alternative matches where the text
goes on: the rule replaces a character that the pattern did not match. -/
theorem pattern_rule_replaces_more :
    let r : Rule := ⟨.pattern "a)|(?:b" [], .text "y", [], 0, []⟩
    ∃ f p m, fire "ax" 2 [r] false false false = .ok (some f) ∧
      Trigger.compile "a)|(?:b" [] = .ok p ∧ p.search (Text.upTo "ax" 2) = some m ∧
      m.matched ≠ Text.slice "ax" f.start 2 := by
  intro r
  have hf : ((fire "ax" 2 [r] false false false).toOption.join.map (·.start)) = some 0 := by
    decide +kernel
  have hm : (((Trigger.compile "a)|(?:b" []).toOption.bind (·.search (Text.upTo "ax" 2))).map
      (·.matched)) = some ['a'] := by decide +kernel
  obtain ⟨f, hf, hs⟩ := Option.map_eq_some_iff.1 hf
  obtain ⟨m, hm, hw⟩ := Option.map_eq_some_iff.1 hm
  obtain ⟨p, hp, hm⟩ := Option.bind_eq_some_iff.1 hm
  refine ⟨f, p, m, eq_ok_of_toOption (Option.join_eq_some_iff.1 hf),
    eq_ok_of_toOption hp, hm, ?_⟩
  rw [hw, hs]
  decide

end LatexSnippets
