import LatexSnippets.Proofs.Editor.Edits
import LatexSnippets.Proofs.Editor.Following
import LatexSnippets.Proofs.Except

/-!
Stops at or around the place of an edit. Only the start of a stop decides what becomes of it, so a
stop is never stretched, and it may end up behind the end of the text. As long as no stop reaches
into what is replaced, all of them lie in the text.
-/

namespace LatexSnippets

namespace Replacement

variable {r : Replacement} {t : Text} {s s' : Span} {q : FieldQueue}

/-- A stop from within what is replaced is kept behind its start unless it is dragged too far. -/
theorem carry_touching_iff (hr : r.In t) (hn : 0 ≤ r.slack) (h : r.start ≤ s.start)
    (h' : s.start ≤ r.stop) :
    (∃ s', r.carry s = some s' ∧ r.start ≤ s'.start) ↔
      s.start < r.pivot ∨ r.stop ≤ s.start + r.slack := by
  constructor
  · rintro ⟨s', hc, hs'⟩
    obtain ⟨hb, -⟩ | ⟨-, hj, -⟩ | ⟨-, -, -, rfl⟩ := carry_eq_some.1 hc
    · exact .inl hb
    · omega
    · simp only [Span.shift_start, drag] at hs'
      omega
  · intro hk
    by_cases hb : s.start < r.pivot
    · exact ⟨s, carry_before hb, h⟩
    by_cases hj : r.stop ≤ s.start
    · refine ⟨_, carry_beyond hr hj, ?_⟩
      simp only [Span.shift_start, growth]
      omega
    · have hd : r.start ≤ s.start + r.drag := by
        simp only [drag]
        omega
      have h₀ := Int.le_trans hr.start_nonneg hd
      exact ⟨_, carry_eq_some.2 (.inr (.inr ⟨Int.not_lt.1 hb, Int.not_le.1 hj, h₀, rfl⟩)), hd⟩

/-- A stop around what is replaced does not grow with it. -/
theorem carry_around_iff (hr : r.In t) (hlt : r.start < r.stop) (h₀ : 0 ≤ s.start)
    (h : s.start ≤ r.start) :
    r.carry s = some ⟨s.start, s.stop + r.growth⟩ ↔
      r.growth = 0 ∧ (s.start < r.pivot ∨ r.drag = 0) := by
  have hp := hr.start_le_pivot
  cases s
  simp only [carry_eq_some, Span.shift, Span.mk.injEq, true_and] at *
  omega

/-- No stop reaches into what is replaced. -/
def Spares (r : Replacement) (q : FieldQueue) : Prop :=
  ∀ s ∈ q, s.stop ≤ r.start ∨ r.stop ≤ s.start

/-- There is room, in the text that there is then, for a stop that is dragged along from the start
of what is replaced. -/
def HasRoom (r : Replacement) (t : Text) : Prop :=
  r.pivot = r.stop ∨ r.start + r.slack ≤ t.length + r.word.length

theorem within_carry (hr : r.In t) (hm : r.HasRoom t) (hs : s.Within t.length)
    (h : s.stop ≤ r.start ∨ r.stop ≤ s.start) (hc : r.carry s = some s') :
    s'.Within (t.length + r.growth) := by
  obtain ⟨⟨hs₀, hs₁⟩, hs₂⟩ := hs
  obtain ⟨h₀, hap, hpb, hb⟩ := hr
  obtain ⟨hp, rfl⟩ | ⟨hp, hj, rfl⟩ | ⟨hp, hj, hd, rfl⟩ := carry_eq_some.1 hc
  · simp only [Span.Within, Span.Proper, growth]
    omega
  · simp only [Span.Within, Span.Proper, Span.shift_start, Span.shift_stop, growth]
    omega
  · -- This is an empty stop right at the start of what is replaced.
    simp only [HasRoom, Span.Within, Span.Proper, Span.shift_start, Span.shift_stop, growth,
      drag] at *
    omega

end Replacement

namespace Editor

open Replacement

variable {e e' : Editor} {q : FieldQueue} {r : Replacement}

theorem Replaces.slack_nonneg (h : e.Replaces q r e') : 0 ≤ r.slack := by
  cases h with
  | delete | expanded | tabExpanded => exact Int.le_refl 0
  | typedFired | changedFired =>
    simp only [Replacement.fired, overSelection, plain]
    omega
  | _ => exact Int.natCast_nonneg _

theorem Replaces.hasRoom (he : e.Sound) (h : e.Replaces q r e') : r.HasRoom e.text := by
  have hin := (h.made he).isIn
  have hl := Int.le_trans (Int.le_trans hin.start_le_pivot hin.pivot_le_stop) hin.stop_le
  cases h with
  | delete | expanded | tabExpanded => exact .inl rfl
  | typedFired | changedFired =>
    have := hin.stop_le
    have := hin.pivot_le_stop
    have := hin.start_le_pivot
    simp only [HasRoom, Replacement.fired, overSelection, plain, List.length_append,
      List.length_singleton] at *
    omega
  | _ =>
    right
    exact Int.add_le_add_right hl _

theorem Replaces.within (he : e.Sound) (h : e.Replaces q r e') (hs : r.Spares q)
    (hw : ∀ s ∈ e.fields, s.Within e.text.length) : ∀ s ∈ e'.fields, s.Within e'.text.length := by
  have hl : (e'.text.length : Int) = e.text.length + r.growth := by
    rw [← h.growth he]
    omega
  obtain ⟨hin, -, hf⟩ := h.made he
  intro s' hs'
  rw [hf] at hs'
  obtain ⟨s, hm, hc⟩ := List.mem_filterMap.1 hs'
  rw [hl]
  exact within_carry hin (h.hasRoom he) (hw s (h.queue_suffix.subset hm)) (hs s hm) hc

/-- Nothing is replaced, or a part that no pending stop reaches into. -/
def Spares (e e' : Editor) : Prop :=
  (∀ q r, ¬e.Replaces q r e') ∨ ∃ q r, e.Replaces q r e' ∧ r.Spares q

theorem spares_of_fields_nil (h : e.fields = []) (e' : Editor) : e.Spares e' := by
  by_cases hr : ∃ q r, e.Replaces q r e'
  · obtain ⟨q, r, hr⟩ := hr
    have hq : q = [] := by simpa [h] using hr.queue_suffix
    exact .inr ⟨q, r, hr, by simp [Replacement.Spares, hq]⟩
  · left
    intro q r hq
    exact hr ⟨q, r, hq⟩

/-- A key or a command, and it is answered. What is typed at a stretch is one key after another. -/
def Answers (e : Editor) : Operation → Prop
  | .edit .. | .change .. | .typeText _ | .feedKeys _ => False
  | .press k => ∃ b, (e.press k).answer = .ok b
  | .nextField => ∃ b, e.nextField.answer = .ok b
  | .expand => ∃ b, e.expand.answer = .ok b
  | _ => True

theorem edits_perform (he : e.Sound) {o : Operation} (h : e.Answers o) :
    e.Edits (e.perform o) ∨ (e.perform o).fields = [] := by
  cases o with
  | edit | change | typeText | feedKeys => exact h.elim
  | select | reload => exact .inl (.inl ⟨rfl, List.suffix_refl _⟩)
  | cancel => exact .inr rfl
  | press k =>
    obtain ⟨b, hb⟩ := h
    exact press_edits he (by rw [← hb]; rfl)
  | nextField =>
    obtain ⟨b, hb⟩ := h
    exact .inl (edits_nextField he (by rw [← hb]; rfl))
  | expand =>
    obtain ⟨b, hb⟩ := h
    exact .inl (edits_expand he (by rw [← hb]; rfl))
  | smartFraction => exact .inl (edits_smartFraction he)
  | deleteWord => exact .inl (edits_deleteWord he)
  | deleteLine => exact .inl (edits_deleteLine he)
  | newline => exact .inl (edits_newline he)
  | undo => exact edits_restore e e.history.undo?
  | redo => exact edits_restore e e.history.redo?
  | moveLine direction => exact edits_moveLine e _

/-- A step that spares the stops leaves them in the text. -/
theorem within_perform (he : e.Sound) {o : Operation} (ha : e.Answers o)
    (hs : e.Spares (e.perform o)) (hw : ∀ s ∈ e.fields, s.Within e.text.length) :
    ∀ s ∈ (e.perform o).fields, s.Within (e.perform o).text.length := by
  rcases edits_perform he ha with (⟨ht, hq⟩ | ⟨q, r, hr, -⟩ | hi) | hn
  · intro s hm
    rw [ht]
    exact hw s (hq.subset hm)
  · rcases hs with hs | ⟨q, r, hr, hs⟩
    · exact absurd hr (hs q r)
    · exact hr.within he hs hw
  · exact hi.within
  · simp [hn]

/-- Keys and commands lead here from a new editor, each was answered, and none replaced a part of
the text that a pending stop reached into. -/
inductive Spared : Editor → Prop
  | ofText (config : Config) (window now : Float) (text : Text) (caret : Option Int) :
      Spared (ofText config window now text caret)
  | step {e : Editor} {o : Operation} (now : Float) (h : Spared e)
      (ha : { e with now := now }.Answers o)
      (hs : { e with now := now }.Spares ({ e with now := now }.perform o)) :
      Spared ({ e with now := now }.perform o)

theorem Spared.sound_within (h : e.Spared) : e.Sound ∧ ∀ s ∈ e.fields, s.Within e.text.length := by
  induction h with
  | ofText config window now text caret =>
    exact ⟨sound_ofText config window now text caret, List.forall_mem_nil _⟩
  | @step _ o now _ ha hs ih =>
    obtain ⟨he, hw⟩ := ih
    exact ⟨(he.withClock now).perform o, within_perform (he.withClock now) ha hs hw⟩

/-- A stop that starts at or inside what is replaced is kept, and not put before it, exactly if the
edit leaves it alone or drags it no further back than it may. A stop around what is replaced is never
stretched, so it is as it should be only if the text keeps its length. No stop starts before the
text, and as long as no edit has reached into a pending stop, none ends behind the text. -/
theorem stops_at_replacement (he : e.Reachable) :
    (∀ s ∈ e.fields, 0 ≤ s.start ∧ s.start ≤ s.stop) ∧
      (e.Spared → ∀ s ∈ e.fields, s.stop ≤ e.text.length) ∧
      ∀ q r e', e.Replaces q r e' → r.start < r.stop →
        e'.fields = q.filterMap r.carry ∧ ∀ s ∈ q,
          (r.start ≤ s.start → s.start ≤ r.stop →
            ((∃ s', r.carry s = some s' ∧ r.start ≤ s'.start) ↔
              s.start < r.pivot ∨ r.stop ≤ s.start + r.slack)) ∧
          (s.start ≤ r.start → r.stop ≤ s.stop →
            (r.carry s = some ⟨s.start, s.stop + r.growth⟩ ↔
              r.growth = 0 ∧ (s.start < r.pivot ∨ r.drag = 0))) := by
  refine ⟨he.sound.pending, fun h s hm => (h.sound_within.2 s hm).2, ?_⟩
  intro q r e' h hlt
  obtain ⟨hin, -, hf⟩ := h.made he.sound
  refine ⟨hf, ?_⟩
  intro s hm
  have hs := he.sound.pending s (h.queue_suffix.subset hm)
  exact ⟨carry_touching_iff hin h.slack_nonneg, fun hs' _ => carry_around_iff hin hlt hs.1 hs'⟩

/-- The text `ab` with the caret before it and a stop around it. -/
def wideStop : Editor := (withRule "t" "$1$\x7b2:ab\x7d" "t").perform .nextField

theorem reachable_wideStop : wideStop.Reachable :=
  (reachable_withRule ..).step 0 .nextField

theorem wideStop_fields : wideStop.fields = [⟨0, 2⟩, ⟨2, 2⟩] := by decide +kernel

theorem spared_wideStop : wideStop.Spared := by
  have hs : (withRule "t" "$1$\x7b2:ab\x7d" "t").Spared := .ofText ..
  refine hs.step (o := .nextField) 0 ?_ (spares_of_fields_nil rfl _)
  exact exists_of_toBool (by decide +kernel)

theorem wideStop_delete :
    wideStop.Replaces wideStop.fields ⟨0, 1, [], 1, 0⟩ wideStop.deleteForward.editor := by
  have h : wideStop.selection = ⟨0, 0⟩ := by decide +kernel
  have hr := Replaces.delete (e := wideStop) (by rw [h]) (by rw [h]; decide +kernel)
  rwa [h] at hr

/-- Delete takes the `a`. The stop around both characters is kept, and keeps its length. -/
theorem stops_at_replacement_wide : wideStop.Reachable ∧ wideStop.Spared ∧
    wideStop.Replaces wideStop.fields ⟨0, 1, [], 1, 0⟩ wideStop.deleteForward.editor ∧
      (∀ s ∈ wideStop.fields, s.stop ≤ wideStop.text.length) ∧
      (∃ s', Replacement.carry ⟨0, 1, [], 1, 0⟩ ⟨0, 2⟩ = some s' ∧ 0 ≤ s'.start) ∧
      Replacement.carry ⟨0, 1, [], 1, 0⟩ ⟨0, 2⟩ ≠ some ⟨0, 1⟩ := by
  obtain ⟨-, inside, after⟩ := stops_at_replacement reachable_wideStop
  obtain ⟨-, hs⟩ := after _ _ _ wideStop_delete (by decide)
  obtain ⟨touching, around⟩ := hs ⟨0, 2⟩ (by simp [wideStop_fields])
  refine ⟨reachable_wideStop, spared_wideStop, wideStop_delete, inside spared_wideStop,
    (touching (by decide) (by decide)).2 (by decide), ?_⟩
  intro h
  exact absurd ((around (by decide) (by decide)).1 h).1 (by decide)

theorem betweenStops_backspace :
    betweenStops.Replaces betweenStops.fields (.plain 1 2 []) betweenStops.backspace.editor := by
  have h : betweenStops.selection = ⟨2, 2⟩ := by decide +kernel
  have hp : ¬betweenStops.InPair := by
    rw [← isPair_iff]
    decide +kernel
  have hr := Replaces.backspace (e := betweenStops) (by rw [h]) (by rw [h]; decide) hp
  rwa [h] at hr

/-- Backspace takes the `b` and carries the stop before it past the place where it was. Delete takes
the `a` from within a stop, which then ends behind the text. -/
theorem stops_lost_at_replacement :
    (betweenStops.Reachable ∧
      betweenStops.Replaces betweenStops.fields (.plain 1 2 []) betweenStops.backspace.editor ∧
      ¬∃ f, betweenStops.backspace.editor.fields = betweenStops.fields.filterMap f ∧
        ∀ s ∈ betweenStops.fields,
          1 ≤ s.start → s.start ≤ 2 → ∃ s', f s = some s' ∧ 1 ≤ s'.start) ∧
    (wideStop.Reachable ∧
      wideStop.Replaces wideStop.fields ⟨0, 1, [], 1, 0⟩ wideStop.deleteForward.editor ∧
      ¬∃ f, wideStop.deleteForward.editor.fields = wideStop.fields.filterMap f ∧
        ∀ s ∈ wideStop.fields,
          s.start ≤ 0 → 1 ≤ s.stop → f s = some ⟨s.start, s.stop - 1⟩) ∧
    ∃ e : Editor, e.Reachable ∧ ∃ s ∈ e.fields, e.text.length < s.stop := by
  refine ⟨⟨reachable_betweenStops, betweenStops_backspace, ?_⟩,
    ⟨reachable_wideStop, wideStop_delete, ?_⟩, _,
    reachable_wideStop.step 0 (.press (.plain "delete")), ⟨0, 2⟩, by decide +kernel,
    by decide +kernel⟩
  · rintro ⟨f, hf, hs⟩
    have hb : betweenStops.backspace.editor.fields = [⟨0, 0⟩, ⟨1, 1⟩] := by decide +kernel
    rw [betweenStops_fields] at hf hs
    obtain ⟨s', h', hs'⟩ := hs ⟨1, 1⟩ (by simp) (by decide) (by decide)
    rw [hb, List.filterMap_cons, h'] at hf
    obtain rfl := (List.cons.inj hf).1
    contradiction
  · rintro ⟨f, hf, hs⟩
    have hd : wideStop.deleteForward.editor.fields = [⟨0, 2⟩, ⟨1, 1⟩] := by decide +kernel
    rw [wideStop_fields] at hf hs
    have h' := hs ⟨0, 2⟩ (by simp) (by decide) (by decide)
    rw [hd, List.filterMap_cons, h'] at hf
    exact absurd (List.cons.inj hf).1 (by decide)

end Editor

end LatexSnippets
