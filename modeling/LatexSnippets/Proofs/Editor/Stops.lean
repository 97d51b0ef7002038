import LatexSnippets.Proofs.Editor.Replacement

/-!
What each key and each command replaces, and what becomes of the stops that are pending meanwhile.
-/

namespace LatexSnippets.Editor

open Replacement

/-- The caret stands between an opening character and the one that closes it. -/
def InPair (e : Editor) : Prop :=
  ∃ c close, (e.text.upTo e.selection.start).getLast? = some c ∧ closer? c = some close ∧
    e.nextChar? = some close

def overSelection (e : Editor) (w : Text) : Replacement :=
  .plain e.selection.start e.selection.stop w

/-- The queue as it is when the tab key goes to no field. -/
def waiting (e : Editor) : FieldQueue := e.fields.skipConsumed e.selection.start

/-- What an operation puts in place of what, given the queue that it keeps and the editor that it
leaves. -/
inductive Replaces (e : Editor) : FieldQueue → Replacement → Editor → Prop
  | typed {c : Char}
      (h : e.fire (e.text.splice e.selection.start e.selection.stop [c]) (e.selection.start + 1)
        true false = .ok none) :
      Replaces e e.fields (e.overSelection [c]) (e.insert [c]).editor
  | typedFired {c : Char} {f : Fired}
      (h : e.fire (e.text.splice e.selection.start e.selection.stop [c]) (e.selection.start + 1)
        true false = .ok (some f)) (hf : f.fields = []) :
      Replaces e e.fields ((e.overSelection [c]).fired e.text f) (e.insert [c]).editor
  | paired {c close : Char} {e' : Editor} (hc : closer? c = some close)
      (h : e.pair? c = some e') :
      Replaces e e.fields (e.overSelection (c :: (e.selected ++ [close]))) e'
  | surrounded {c : Char} {r : Ranked} {x : Expansion} {e' : Editor}
      (hr : Ranked.surround? [c] e.config.rules e.inMath = some r)
      (hx : r.rule.template.compile [] (Piece.escape e.selected) = .ok x)
      (hq : x.remaining = []) (h : e.surround? c = some ⟨e', .ok true⟩) :
      Replaces e e.fields (e.overSelection x.text) e'
  | backspaceSelection (h : e.selection.start ≠ e.selection.stop) :
      Replaces e e.fields (e.overSelection []) e.backspace.editor
  | backspacePair (h : e.selection.start = e.selection.stop) (h₀ : 0 < e.selection.start)
      (hp : e.InPair) :
      Replaces e e.fields (.plain (e.selection.start - 1) (e.selection.start + 1) [])
        e.backspace.editor
  | backspace (h : e.selection.start = e.selection.stop) (h₀ : 0 < e.selection.start)
      (hp : ¬e.InPair) :
      Replaces e e.fields (.plain (e.selection.start - 1) e.selection.start []) e.backspace.editor
  | deleteSelection (h : e.selection.start ≠ e.selection.stop) :
      Replaces e e.fields (e.overSelection []) e.deleteForward.editor
  | delete (h : e.selection.start = e.selection.stop) (hl : e.selection.start < e.text.length) :
      Replaces e e.fields
        ⟨e.selection.start, e.selection.start + 1, [], e.selection.start + 1, 0⟩
        e.deleteForward.editor
  | newline : Replaces e e.fields (e.overSelection e.lineBreak) e.newline.1
  | separator (ht : (Latex.enclosingTabular? e.text e.selection.start).isSome)
      (h : e.nextField = ⟨(e.setFields e.waiting).tabInsert, .ok true⟩) :
      Replaces e e.waiting (e.overSelection e.config.separator) e.nextField.editor
  | indent (ht : (Latex.enclosingTabular? e.text e.selection.start).isNone)
      (hc : e.selection.start ≠ e.selection.stop ∨ e.nextChar?.any isClosing = false)
      (h : e.nextField = ⟨(e.setFields e.waiting).tabInsert, .ok true⟩) :
      Replaces e e.waiting (e.overSelection e.config.indent) e.nextField.editor
  | deleteWordSelection (h : e.selection.start ≠ e.selection.stop) :
      Replaces e e.fields (e.overSelection []) e.deleteWord.1
  | deleteWord (h : e.selection.start = e.selection.stop) (h₀ : 0 < e.selection.start) :
      Replaces e e.fields (.plain (e.selection.start - lastRun (e.text.upTo e.selection.start))
        e.selection.start []) e.deleteWord.1
  | deleteLine (h : e.text.lineEnd e.selection.stop < e.text.length) :
      Replaces e e.fields (.plain (e.text.lineStart e.selection.start)
        (e.text.lineEnd e.selection.stop + 1) []) e.deleteLine.1
  | deleteLastLine (ht : e.text ≠ []) (h : e.text.length ≤ e.text.lineEnd e.selection.stop) :
      Replaces e e.fields (.plain ↑(e.text.lineStart e.selection.start - 1)
        (e.text.lineEnd e.selection.stop) []) e.deleteLine.1
  | expanded {f : Fired} (h : e.selection.start = e.selection.stop)
      (hf : e.fire e.text e.selection.start false false = .ok (some f)) (hq : f.fields = []) :
      Replaces e e.fields
        ⟨f.start, e.selection.start, f.put e.text, e.selection.start, 0⟩ e.expand.editor
  | tabExpanded {f : Fired} (h : e.selection.start = e.selection.stop)
      (hf : e.fire e.text e.selection.start false true = .ok (some f)) (hq : f.fields = [])
      (hn : e.nextField = ⟨(e.setFields e.waiting).applyFired f, .ok true⟩) :
      Replaces e e.waiting
        ⟨f.start, e.selection.start, f.put e.text, e.selection.start, 0⟩ e.nextField.editor
  | changed {a b : Int} {w : Text} {inserted : Option Bool} {e' : Editor} (h₀ : 0 ≤ a)
      (hab : a ≤ b) (hb : b ≤ e.text.length)
      (h : e.change (e.text.splice a b w) (a + w.length) none inserted = ⟨e', .ok none⟩) :
      Replaces e e.fields ⟨a, b, w, min b (a + w.length), w.length⟩ e'
  | changedFired {a b : Int} {w : Text} {inserted : Option Bool} {f : Fired} {e' : Editor}
      (h₀ : 0 ≤ a) (hab : a ≤ b) (hb : b ≤ e.text.length)
      (h : e.change (e.text.splice a b w) (a + w.length) none inserted = ⟨e', .ok (some f)⟩)
      (hf : f.fields = []) :
      Replaces e e.fields
        ((⟨a, b, w, min b (a + w.length), w.length⟩ : Replacement).fired e.text f) e'

variable {e e' : Editor} {q : FieldQueue} {r : Replacement}

theorem length_lastRun_le (t : Text) : lastRun t ≤ t.length := by
  unfold lastRun
  split
  · omega
  · next c before h =>
    have := (List.takeWhile_sublist (l := before) fun d => charClass d = charClass c).length_le
    have : t.length = before.length + 1 := by rw [← t.length_reverse, h, List.length_cons]
    omega

theorem isPair_iff : ((((e.text.upTo e.selection.start).getLast?).bind closer?).isSome &&
    (((e.text.upTo e.selection.start).getLast?).bind closer?) = e.nextChar?) = true ↔ e.InPair := by
  unfold InPair
  cases (e.text.upTo e.selection.start).getLast? with
  | none => simp
  | some c =>
    cases hc : closer? c with
    | none => simp [hc]
    | some close => simp [hc, eq_comm]

theorem Sound.overSelection_in (h : e.Sound) (w : Text) : (e.overSelection w).In e.text :=
  plain_in h.selection.1.1 h.selection.1.2 h.selection.2

theorem Sound.waiting_proper (h : e.Sound) : ∀ s ∈ e.waiting, s.Proper := by
  intro s hs
  exact h.pending s ((e.fields.skipConsumed_suffix e.selection.start).subset hs)

theorem backspace_selection (h : e.selection.start ≠ e.selection.stop) :
    e.backspace.editor = (e.changed (e.text.splice e.selection.start e.selection.stop [])
      e.selection.start e.selection.start false).editor := by
  simp only [Editor.backspace, if_pos h]
  rfl

theorem backspace_pair (h : e.selection.start = e.selection.stop) (h₀ : 0 < e.selection.start)
    (hp : e.InPair) : e.backspace.editor =
      e.splice (e.selection.start - 1) (e.selection.start + 1) [] (e.selection.start - 1) none := by
  rw [← isPair_iff] at hp
  simp only [Editor.backspace, ne_eq, h, not_true_eq_false, if_false]
  rw [h] at hp h₀
  rw [if_neg (by omega), if_pos hp]

theorem backspace_char (h : e.selection.start = e.selection.stop) (h₀ : 0 < e.selection.start)
    (hp : ¬e.InPair) : e.backspace.editor =
      (e.changed (e.text.splice (e.selection.start - 1) e.selection.start [])
        (e.selection.start - 1) (e.selection.start - 1) false).editor := by
  rw [← isPair_iff] at hp
  simp only [Editor.backspace, ne_eq, h, not_true_eq_false, if_false]
  rw [h] at hp h₀
  rw [if_neg (by omega), if_neg hp]
  rfl

theorem deleteForward_selection (h : e.selection.start ≠ e.selection.stop) :
    e.deleteForward.editor = (e.changed (e.text.splice e.selection.start e.selection.stop [])
      e.selection.start e.selection.start false).editor := by
  simp only [Editor.deleteForward, if_pos h]
  rfl

theorem deleteForward_char (h : e.selection.start = e.selection.stop)
    (hl : e.selection.start < e.text.length) : e.deleteForward.editor =
      (e.changed (e.text.splice e.selection.start (e.selection.start + 1) [])
        e.selection.start (e.selection.start + 1) false).editor := by
  simp only [Editor.deleteForward, ne_eq, h, not_true_eq_false, if_false]
  rw [h] at hl
  rw [if_neg (by omega)]
  rfl

theorem tabInsert_separator (h : (Latex.enclosingTabular? e.text e.selection.start).isSome) :
    e.tabInsert = e.splice e.selection.start e.selection.stop e.config.separator
      (e.selection.start + e.config.separator.length) none := by
  simp only [tabInsert]
  exact if_pos h

theorem tabInsert_closing (h : (Latex.enclosingTabular? e.text e.selection.start).isNone)
    (hs : e.selection.start = e.selection.stop) (hc : e.nextChar?.any isClosing = true) :
    e.tabInsert = e.select (.caret (e.selection.start + 1)) := by
  simp only [tabInsert]
  rw [if_neg (by simpa using h), if_pos]
  rw [nextChar?] at hc
  simp [hs, hs ▸ hc]

theorem tabInsert_indent (h : (Latex.enclosingTabular? e.text e.selection.start).isNone)
    (hc : e.selection.start ≠ e.selection.stop ∨ e.nextChar?.any isClosing = false) :
    e.tabInsert = e.splice e.selection.start e.selection.stop e.config.indent
      (e.selection.start + e.config.indent.length) none := by
  simp only [tabInsert]
  rw [if_neg (by simpa using h), if_neg]
  rw [nextChar?] at hc
  rcases hc with hc | hc <;> simp [hc]

theorem change_eq {a b : Int} {w : Text} {inserted : Option Bool} (h₀ : 0 ≤ a) (hab : a ≤ b)
    (hb : b ≤ e.text.length) :
    e.change (e.text.splice a b w) (a + w.length) none inserted =
      e.changed (e.text.splice a b w) (a + w.length) (min b (a + w.length))
        (inserted.getD (0 < ((e.text.splice a b w).length : Int) - e.text.length)) := by
  have hl := Text.length_splice (w := w) h₀ hab hb
  simp only [change, Option.getD_none]
  congr 1
  split <;> omega

theorem Replaces.made (he : e.Sound) (h : e.Replaces q r e') : r.Made e.text q e' := by
  obtain ⟨⟨h₀, hij⟩, hj⟩ := he.selection
  have hp := he.pending
  cases h with
  | typed h => exact made_changed (he.overSelection_in _) (.inl rfl) hp (answer_changed h _)
  | typedFired h hf =>
    refine made_changed_fired (he.overSelection_in _) ?_ rfl hp (answer_changed h _) hf
    simp only [overSelection, plain, List.length_singleton]
    omega
  | paired hc h =>
    simp only [pair?, hc] at h
    split at h
    · contradiction
    · obtain rfl := Option.some.inj h
      exact made_splice h₀ hij hj hp ..
  | surrounded hr hx hq h =>
    simp only [surround?, hr] at h
    split at h
    · contradiction
    · rw [selected] at hx
      rw [hx] at h
      simp only [Option.some.injEq, Outcome.mk.injEq, and_true] at h
      rw [← h]
      exact made_applyExpansion h₀ hij hj hp hq
  | backspaceSelection h =>
    rw [backspace_selection h]
    exact made_changed (he.overSelection_in []) (.inl rfl) hp rfl
  | backspacePair h h₁ hpair =>
    rw [backspace_pair h h₁ hpair]
    apply made_splice (by omega) (by omega) _ hp
    obtain ⟨c, close, -, -, hn⟩ := hpair
    have := Text.place_eq (n := e.text.length) h₀ (by omega)
    have hl : 0 < (e.text.onward e.selection.start).length := by
      cases ho : e.text.onward e.selection.start with
      | nil => simp [nextChar?, ho] at hn
      | cons => simp
    rw [Text.length_onward] at hl
    omega
  | backspace h h₁ hpair =>
    rw [backspace_char h h₁ hpair]
    exact made_changed (plain_in (by omega) (by omega) (by omega)) (.inl rfl) hp rfl
  | deleteSelection h =>
    rw [deleteForward_selection h]
    exact made_changed (he.overSelection_in []) (.inl rfl) hp rfl
  | delete h hl =>
    rw [deleteForward_char h hl]
    exact made_changed (r := ⟨_, _, [], _, 0⟩) (in_mk h₀ (by omega) (Int.le_refl _) (by omega))
      (.inr rfl) hp rfl
  | newline => exact made_splice h₀ hij hj hp ..
  | separator ht h =>
    rw [h]
    rw [tabInsert_separator (e := e.setFields e.waiting) ht]
    exact made_splice (e := e.setFields e.waiting) h₀ hij hj he.waiting_proper ..
  | indent ht hc h =>
    rw [h]
    rw [tabInsert_indent (e := e.setFields e.waiting) ht hc]
    exact made_splice (e := e.setFields e.waiting) h₀ hij hj he.waiting_proper ..
  | deleteWordSelection h =>
    simp only [Editor.deleteWord, if_pos h]
    exact made_splice h₀ hij hj hp ..
  | deleteWord h h₁ =>
    have hl := length_lastRun_le (e.text.upTo e.selection.start)
    have := Text.place_eq (n := e.text.length) h₀ (by omega)
    rw [Text.length_upTo] at hl
    have hd : e.deleteWord.1 = e.splice (e.selection.start - lastRun (e.text.upTo e.selection.start))
        e.selection.start [] (e.selection.start - lastRun (e.text.upTo e.selection.start)) none := by
      simp only [Editor.deleteWord]
      rw [if_neg (by simpa using h), if_neg (Int.ne_of_gt h₁)]
    rw [hd]
    exact made_splice (by omega) (by omega) (by omega) hp ..
  | deleteLine h =>
    have hs := Text.lineStart_le h₀ (Int.le_trans hij hj)
    have hd : e.deleteLine.1 = e.splice (e.text.lineStart e.selection.start)
        (e.text.lineEnd e.selection.stop + 1) [] (e.text.lineStart e.selection.start) none := by
      simp only [Editor.deleteLine]
      rw [if_neg (by cases ht : e.text <;> simp [ht] at *), if_pos h]
    rw [hd]
    have := Text.le_lineEnd (Int.le_trans h₀ hij) hj
    exact made_splice (by omega) (by omega) (by omega) hp ..
  | deleteLastLine ht h =>
    have hs := Text.lineStart_le h₀ (Int.le_trans hij hj)
    have hr := Text.le_lineEnd (Int.le_trans h₀ hij) hj
    obtain ⟨caret, hd⟩ : ∃ caret, e.deleteLine.1 = e.splice
        ↑(e.text.lineStart e.selection.start - 1) (e.text.lineEnd e.selection.stop) [] caret
          none := by
      simp only [Editor.deleteLine]
      rw [if_neg (by simpa using ht), if_neg (by omega)]
      exact ⟨_, rfl⟩
    rw [hd]
    exact made_splice (by omega) (by omega) (by omega) hp ..
  | @expanded f h hf hq =>
    have hx : e.expand.editor = e.applyFired f := by
      rw [Editor.expand, if_pos (by simpa [Span.isEmpty] using h), hf]
    rw [hx]
    exact made_applyFired he hf hq
  | tabExpanded h hf hq hn =>
    rw [hn]
    exact made_applyFired (e := e.setFields e.waiting) (he.setFields he.waiting_proper) hf hq
  | @changed a b w inserted _ h₁ hab hb h =>
    rw [change_eq h₁ hab hb] at h
    have hm := made_changed (r := ⟨a, b, w, min b (a + w.length), w.length⟩)
      (in_mk h₁ (by omega) (by omega) hb) (.inl rfl) hp (congrArg Outcome.answer h)
    rwa [h] at hm
  | @changedFired a b w inserted f _ h₁ hab hb h hf =>
    rw [change_eq h₁ hab hb] at h
    have hm := made_changed_fired (r := ⟨a, b, w, min b (a + w.length), w.length⟩)
      (in_mk h₁ (by omega) (by omega) hb) (Int.min_le_right ..) rfl hp
        (congrArg Outcome.answer h) hf
    rwa [h] at hm

end LatexSnippets.Editor
