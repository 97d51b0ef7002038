import LatexSnippets.Proofs.Editor.Surround
import LatexSnippets.Proofs.Mending

/-!
Rules that fail while a key is pressed. As long as no number in a rule is too large, every key press
is answered, a rule that fails does no more than not fire or give the mark of failure, and pending
stops are not moved unless the text is.
-/

namespace LatexSnippets

namespace Editor

def withRules (rules : List Rule) (e : Editor) : Editor := e.reload (some rules) none none

def Outcome.withRules {α : Type} (rules : List Rule) (o : Outcome α) : Outcome α :=
  ⟨o.editor.withRules rules, o.answer⟩

/-- What an operation leaves behind of `e`, and what it leaves behind of it under other rules: there
is an answer, what the editor goes by has not changed, and apart from the rules both are the same.
-/
structure Agrees {α : Type} (e : Editor) (rules : List Rule) (o o' : Outcome α) : Prop where
  answered : ∃ a, o.answer = .ok a
  config : o.editor.config = e.config
  same : o' = o.withRules rules

variable {e e' : Editor} {rules : List Rule}

section Changed

variable {text : Text} {caret : Int}

theorem changed_unfired (hf : e.fire text caret true false = .ok none) (changeStart : Int) :
    e.changed text caret changeStart true =
      ⟨(e.shiftFields (text.length - e.text.length) changeStart).record text caret false
        (.caret (inside text caret)), .ok none⟩ := by
  simp only [changed, if_true, hf]

theorem changed_fired {f : Fired} (hf : e.fire text caret true false = .ok (some f))
    (changeStart : Int) :
    e.changed text caret changeStart true =
      ⟨{ e.shiftFields (text.length - e.text.length) changeStart with text }.applyFired f,
        .ok (some f)⟩ := by
  simp only [changed, if_true, hf]

end Changed

section Agrees

variable {α β : Type} {a a' b b' : Outcome α}

theorem Agrees.ite {c : Prop} [Decidable c] (ha : Agrees e rules a a') (hb : Agrees e rules b b') :
    Agrees e rules (if c then a else b) (if c then a' else b') := by
  split <;> assumption

theorem rel_ite {α β : Type} {r : α → β → Prop} {a b : Option α} {a' b' : Option β} {c : Prop}
    [Decidable c] (ha : Option.Rel r a a') (hb : Option.Rel r b b') :
    Option.Rel r (if c then a else b) (if c then a' else b') := by
  split <;> assumption

theorem Agrees.map (f : α → β) (ha : Agrees e rules a a') :
    Agrees e rules (a.map f) (a'.map f) := by
  obtain ⟨⟨x, hx⟩, hc, rfl⟩ := ha
  exact ⟨⟨f x, by rw [Outcome.map, hx]; rfl⟩, hc, rfl⟩

theorem agrees_applyExpansion (i j : Int) (x : Expansion) (y : α) :
    Agrees e rules ⟨e.applyExpansion i j x, .ok y⟩
      ⟨(e.withRules rules).applyExpansion i j x, .ok y⟩ := by
  simp only [applyExpansion]
  split <;> exact ⟨⟨y, rfl⟩, rfl, rfl⟩

theorem agrees_applyFired (f : Fired) (r : Ranked) (y : α) :
    Agrees e rules ⟨e.applyFired f, .ok y⟩
      ⟨(e.withRules rules).applyFired { f with rule := r }, .ok y⟩ := by
  simp only [applyFired]
  split <;> exact ⟨⟨y, rfl⟩, rfl, rfl⟩

theorem agrees_restore (h : Option History) :
    Agrees e rules (done (e.restore h)) (done ((e.withRules rules).restore h)) := by
  cases h <;> exact ⟨⟨_, rfl⟩, rfl, rfl⟩

theorem agrees_smartFraction :
    Agrees e rules (done e.smartFraction) (done (e.withRules rules).smartFraction) := by
  simp only [smartFraction, apply_ite done]
  exact .ite ⟨⟨false, rfl⟩, rfl, rfl⟩ (agrees_applyExpansion ..)

theorem agrees_moveLine (up : Bool) :
    Agrees e rules (done (e.moveLine up)) (done ((e.withRules rules).moveLine up)) := by
  have hl : (e.withRules rules).selectedLines = e.selectedLines := rfl
  have ht : (e.withRules rules).text = e.text := rfl
  simp only [moveLine, hl, ht]
  generalize (if up then raise? _ _ _ else lower? _ _ _) = moved
  cases moved <;> exact ⟨⟨_, rfl⟩, rfl, rfl⟩

theorem agrees_deleteWord :
    Agrees e rules (done e.deleteWord) (done (e.withRules rules).deleteWord) := by
  simp only [deleteWord, apply_ite done]
  refine .ite ?_ (.ite ?_ ?_) <;> exact ⟨⟨_, rfl⟩, rfl, rfl⟩

theorem agrees_deleteLine :
    Agrees e rules (done e.deleteLine) (done (e.withRules rules).deleteLine) := by
  simp only [deleteLine, apply_ite done]
  refine .ite ?_ (.ite ?_ ?_) <;> exact ⟨⟨_, rfl⟩, rfl, rfl⟩

theorem agrees_tabInsert :
    Agrees e rules ⟨e.tabInsert, .ok true⟩ ⟨(e.withRules rules).tabInsert, .ok true⟩ := by
  simp only [tabInsert, apply_ite (Outcome.mk · (.ok true))]
  refine .ite ?_ (.ite ?_ ?_) <;> exact ⟨⟨_, rfl⟩, rfl, rfl⟩

theorem agrees_backspace : Agrees e rules e.backspace (e.withRules rules).backspace := by
  simp only [backspace]
  refine .ite ?_ (.ite ?_ (.ite ?_ ?_)) <;> exact ⟨⟨_, rfl⟩, rfl, rfl⟩

theorem agrees_deleteForward :
    Agrees e rules e.deleteForward (e.withRules rules).deleteForward := by
  simp only [deleteForward]
  refine .ite ?_ (.ite ?_ ?_) <;> exact ⟨⟨_, rfl⟩, rfl, rfl⟩

theorem agrees_pair? (c : Char) :
    Option.Rel (fun d d' => Agrees e rules ⟨d, .ok true⟩ ⟨d', .ok true⟩) (e.pair? c)
      ((e.withRules rules).pair? c) := by
  simp only [pair?]
  cases closer? c with
  | none => exact .none
  | some close => exact rel_ite .none (.some ⟨⟨true, rfl⟩, rfl, rfl⟩)

theorem agrees_overtype? (c : Char) :
    Option.Rel (fun d d' => Agrees e rules ⟨d, .ok true⟩ ⟨d', .ok true⟩) (e.overtype? c)
      ((e.withRules rules).overtype? c) :=
  rel_ite (.some ⟨⟨true, rfl⟩, rfl, rfl⟩) .none

section Alike

variable (h : Rule.Alike e.config.rules rules)

include h

theorem agrees_fire (t : Text) (caret : Int) (auto manual : Bool) :
    e.fire t caret auto manual = .ok none ∧
        (e.withRules rules).fire t caret auto manual = .ok none ∨
      ∃ f r, e.fire t caret auto manual = .ok (some f) ∧
        (e.withRules rules).fire t caret auto manual = .ok (some { f with rule := r }) :=
  h.fire t caret e.config.forceMath auto manual

theorem agrees_changed (text : Text) (caret changeStart : Int) (inserted : Bool) :
    Agrees e rules ((e.changed text caret changeStart inserted).map fun _ => true)
      (((e.withRules rules).changed text caret changeStart inserted).map fun _ => true) := by
  cases inserted with
  | false => exact ⟨⟨true, rfl⟩, rfl, rfl⟩
  | true =>
    rcases agrees_fire h text caret true false with ⟨hf, hf'⟩ | ⟨f, r, hf, hf'⟩
    · rw [changed_unfired hf, changed_unfired hf']
      exact ⟨⟨true, rfl⟩, rfl, rfl⟩
    · rw [changed_fired hf, changed_fired hf']
      have ha : Agrees { e.shiftFields (text.length - e.text.length) changeStart with text } rules
        ⟨_, .ok true⟩ ⟨_, .ok true⟩ := agrees_applyFired f r true
      exact ⟨ha.answered, ha.config, ha.same⟩

theorem agrees_insert (w : Text) :
    Agrees e rules (e.insert w) ((e.withRules rules).insert w) :=
  agrees_changed h ..

theorem agrees_tabExpand : Agrees e rules e.tabExpand (e.withRules rules).tabExpand := by
  have hs : (e.withRules rules).selection = e.selection := rfl
  have ht : (e.withRules rules).text = e.text := rfl
  simp only [tabExpand, hs, ht]
  refine .ite ?_ agrees_tabInsert
  rcases agrees_fire h e.text e.selection.start false true with ⟨hf, hf'⟩ | ⟨f, r, hf, hf'⟩
  · rw [hf, hf']
    exact agrees_tabInsert
  · rw [hf, hf']
    exact agrees_applyFired f r true

theorem agrees_nextField : Agrees e rules e.nextField (e.withRules rules).nextField := by
  have ha : (e.withRules rules).fields.advance (e.withRules rules).selection.start
      (some (e.withRules rules).text) = e.fields.advance e.selection.start (some e.text) := rfl
  rw [nextField, nextField, ha]
  obtain ⟨step, rest⟩ := e.fields.advance e.selection.start (some e.text)
  cases step with
  | stop s => exact ⟨⟨true, rfl⟩, rfl, rfl⟩
  | separator | nothing =>
    obtain ⟨ho, hc, hs⟩ := agrees_tabExpand (e := e.setFields rest) h
    exact ⟨ho, hc, hs⟩

theorem agrees_act (a : Action) : Agrees e rules (e.act a) ((e.withRules rules).act a) := by
  cases a with
  | undo | redo => exact agrees_restore _
  | smartFraction => exact agrees_smartFraction
  | moveLineUp | moveLineDown => exact agrees_moveLine _
  | nextField => exact agrees_nextField h
  | indent => exact ⟨⟨true, rfl⟩, rfl, rfl⟩
  | deleteWord => exact agrees_deleteWord
  | deleteLine => exact agrees_deleteLine

theorem agrees_surround? (c : Char) :
    Option.Rel (Agrees e rules) (e.surround? c) ((e.withRules rules).surround? c) := by
  have hi : (e.withRules rules).inMath = e.inMath := rfl
  have hr : (e.withRules rules).config.rules = rules := rfl
  have hw := h.wrap [c] e.inMath
  unfold surround?
  rw [hi, hr]
  refine rel_ite .none ?_
  revert hw
  generalize Ranked.surround? [c] e.config.rules e.inMath = o
  generalize Ranked.surround? [c] rules e.inMath = o'
  rintro (hx | -)
  · obtain ⟨x, hr, hr'⟩ := hx (Piece.escape (e.text.slice e.selection.start e.selection.stop))
    have ht : (e.withRules rules).text = e.text := rfl
    have hs : (e.withRules rules).selection = e.selection := rfl
    simp only [hr, ht, hs, hr']
    exact .some (agrees_applyExpansion ..)
  · exact .none

theorem agrees_type (c : Char) : Agrees e rules (e.type c) ((e.withRules rules).type c) := by
  have hp : Option.Rel _ (e.pair? c) ((e.withRules rules).pair? c) := agrees_pair? c
  have ho : Option.Rel _ (e.overtype? c) ((e.withRules rules).overtype? c) := agrees_overtype? c
  have hs := agrees_surround? h c
  unfold type
  revert hp ho hs
  generalize e.pair? c = p, (e.withRules rules).pair? c = p', e.overtype? c = o,
    (e.withRules rules).overtype? c = o', e.surround? c = s, (e.withRules rules).surround? c = s'
  intro hp ho hs
  cases hp with
  | some hp => exact hp
  | none =>
    cases ho with
    | some ho => exact ho
    | none =>
      cases hs with
      | some hs => exact hs
      | none => exact agrees_insert h [c]

theorem agrees_pressSpecial (k : KeyEvent) :
    Agrees e rules (e.pressSpecial k) ((e.withRules rules).pressSpecial k) := by
  unfold pressSpecial
  refine .ite ⟨⟨false, rfl⟩, rfl, rfl⟩ (.ite agrees_backspace (.ite agrees_deleteForward
    (.ite (agrees_insert h _) (.ite (agrees_insert h _) ⟨⟨false, rfl⟩, rfl, rfl⟩))))

/-- A key press is answered, and does the same under rules that fire and wrap alike. -/
theorem agrees_press (k : KeyEvent) : Agrees e rules (e.press k) ((e.withRules rules).press k) := by
  have hk : (e.withRules rules).config.keymap = e.config.keymap := rfl
  unfold press
  rw [hk]
  cases e.config.keymap.actionFor? k with
  | some a => exact (agrees_act h a).map _
  | none =>
    refine .ite ⟨⟨false, rfl⟩, rfl, rfl⟩ ?_
    cases k.char? with
    | some c => exact agrees_type h c
    | none => exact agrees_pressSpecial h k

omit h in
/-- Typing goes on to its end, and does the same with mended rules. -/
theorem pressAll_confines_failures (hr : ∀ r ∈ e.config.rules, r.Tractable) (ks : List KeyEvent) :
    Agrees e (Rule.mend e.config.rules) (e.pressAll ks)
      ((e.withRules (Rule.mend e.config.rules)).pressAll ks) := by
  induction ks generalizing e with
  | nil => exact ⟨⟨(), rfl⟩, rfl, rfl⟩
  | cons k ks ih =>
    obtain ⟨⟨b, hb⟩, hc, hs⟩ := agrees_press (Rule.alike_mend hr) k
    have hp : e.press k = ⟨(e.press k).editor, .ok b⟩ := by rw [← hb]
    have hi := ih (e := (e.press k).editor) (by rwa [hc])
    rw [hc] at hi
    rw [pressAll, pressAll, hs, hp]
    exact ⟨hi.answered, hi.config.trans hc, hi.same⟩

end Alike

end Agrees

section Stops

/-- A stop stands where it stood, or it stood inside the selection. -/
def Stands (e : Editor) (s : Span) : Prop :=
  s ∈ e.fields ∨ ∃ s₀ ∈ e.fields, e.selection.start ≤ s₀.start ∧ s₀.start < e.selection.stop ∧
    ∃ d, s = s₀.shift d

theorem TypedOver.stands (he : e.Sound) (h : e.TypedOver e') (ht : e'.text = e.text) :
    e'.Installed ∨ ∀ s ∈ e'.fields, e.Stands s := by
  obtain ⟨-, c, f, hf, rfl⟩ := h
  by_cases hq : f.fields = []
  · right
    have hr := Replaces.typedFired hf hq
    have hg : ((e.overSelection [c]).fired e.text f).growth = 0 := by
      rw [← hr.growth he, ht, Int.sub_self]
    have hfields := (hr.made he).fields
    intro s hs
    rw [hfields] at hs
    obtain ⟨s₀, hs₀, hgs⟩ := List.mem_filterMap.1 hs
    obtain ⟨-, rfl⟩ | ⟨-, -, rfl⟩ | ⟨hb, ha, -, rfl⟩ := Replacement.carry_eq_some.1 hgs
    · exact .inl hs₀
    · rw [hg, Span.shift_zero]
      exact .inl hs₀
    · exact .inr ⟨s₀, hs₀, hb, ha, _, rfl⟩
  · exact .inl (installed_insert hf hq)

/-- A key press that leaves the text as it was moves no pending stop, unless a rule gives back what
was selected. -/
theorem press_keeps_stops (he : e.Sound) {k : KeyEvent} {b : Bool} (h : e.press k = ⟨e', .ok b⟩)
    (ht : e'.text = e.text) :
    e'.fields <:+ e.fields ∨ e'.Installed ∨ e.TypedOver e' ∧ ∀ s ∈ e'.fields, e.Stands s := by
  -- The press left the text alone, made one edit, typed over a selection, put in stops of its own,
  -- or dropped the queue.
  rcases press_edits he h with (⟨-, hs⟩ | ⟨q, r, hr, ⟨at_, hf⟩ | ho⟩ | hi) | hn
  · exact .inl hs
  · left
    rw [hf, ht, Int.sub_self]
    exact hr.queue_suffix
  · exact .inr ((ho.stands he ht).imp_right fun hs => ⟨ho, hs⟩)
  · exact .inr (.inl hi)
  · exact .inl (hn ▸ List.nil_suffix)

end Stops

/-- Unless a number in a rule is too large, a key press is answered. It does what it would do with
mended rules, none of which ever fails: a pattern that does not compile counts as no rule, and a
template that cannot be computed as the mark of failure. And no pending stop is moved while the text
stays, unless a rule gives back what was selected. -/
theorem press_confines_failures (he : e.Reachable) (hr : ∀ r ∈ e.config.rules, r.Tractable)
    (k : KeyEvent) :
    (∃ b, (e.press k).answer = .ok b) ∧
      (e.withRules (Rule.mend e.config.rules)).press k =
        (e.press k).withRules (Rule.mend e.config.rules) ∧
      (∀ r ∈ Rule.mend e.config.rules, r.trigger.compiles = true ∧
        ∀ captures, r.template.fails captures = false) ∧
      ((e.press k).editor.text = e.text →
        (e.press k).editor.fields <:+ e.fields ∨ (e.press k).editor.Installed ∨
          e.TypedOver (e.press k).editor ∧ ∀ s ∈ (e.press k).editor.fields, e.Stands s) := by
  obtain ⟨⟨b, hb⟩, -, hs⟩ := agrees_press (Rule.alike_mend hr) k
  refine ⟨⟨b, hb⟩, hs, Rule.mend_never_fails, fun ht => ?_⟩
  have hp : e.press k = ⟨(e.press k).editor, .ok b⟩ := by rw [← hb]
  exact press_keeps_stops he.sound hp ht

/-- A pattern with a group left open does not fire at the `a`, and the tab key gives the mark of
failure for the template that cannot be computed. -/
theorem press_confines_failures_mark :
    let rules : List Rule := [⟨.pattern "(" [], .text "x", ['A'], 0, []⟩,
      ⟨.literal "a", .host fun _ => none, [], 0, []⟩]
    let start := ofText ⟨rules, .standard, false, "  ", " & "⟩ 1 0 [] none
    let e := start.perform (.press (.ofChar 'a'))
    e.Reachable ∧ (∀ r ∈ e.config.rules, r.Tractable) ∧ e.text = ['a'] ∧
      (∃ b, (e.press (.plain "tab")).answer = .ok b) ∧
      (e.press (.plain "tab")).editor.text = Template.failure ∧
      (e.withRules (Rule.mend e.config.rules)).press (.plain "tab") =
        (e.press (.plain "tab")).withRules (Rule.mend e.config.rules) := by
  intro rules start e
  have he : e.Reachable := ⟨_, 1, 0, [], none, [(0, .press (.ofChar 'a'))], rfl⟩
  have hr : ∀ r ∈ start.config.rules, r.Tractable := by
    rw [show start.config.rules = rules from rfl, List.forall_mem_cons, List.forall_mem_singleton]
    exact ⟨⟨by decide +kernel, Template.hasShortNumbers_of_not_mem (by decide)⟩, rfl, trivial⟩
  rw [← (agrees_press (Rule.alike_mend hr) (.ofChar 'a')).config] at hr
  obtain ⟨hb, hm, -, -⟩ := press_confines_failures he hr (.plain "tab")
  exact ⟨he, hr, by decide +kernel, hb, by decide +kernel, hm⟩

/-- A rule with too large a count is tried at a key press: the press fails with the text as it was
and the pending stops moved. -/
theorem press_leaves_stops_moved :
    let rules : List Rule := [.ofTexts "t" "$1b$2" [],
      ⟨.pattern "a\x7b4294967295\x7d" [], .text "x", ['A'], 0, []⟩]
    let e := (ofText ⟨rules, .standard, false, "  ", " & "⟩ 1 0 "t" none).perform
      (.press (.plain "tab"))
    e.Reachable ∧ (∀ b, (e.press (.ofChar 'a')).answer ≠ .ok b) ∧
      e.text = ['b'] ∧ (e.press (.ofChar 'a')).editor.text = ['b'] ∧
      e.fields = [⟨1, 1⟩, ⟨1, 1⟩] ∧ (e.press (.ofChar 'a')).editor.fields = [⟨2, 2⟩, ⟨2, 2⟩] := by
  intro rules e
  refine ⟨⟨_, 1, 0, "t", none, [(0, .press (.plain "tab"))], rfl⟩, fun b hb => ?_, by decide +kernel,
    by decide +kernel, by decide +kernel, by decide +kernel⟩
  have hn : (e.press (.ofChar 'a')).answer.toBool = false := by decide +kernel
  rw [hb] at hn
  contradiction

end Editor

end LatexSnippets
