import LatexSnippets.Proofs.Editor.Stops
import LatexSnippets.Proofs.Template.Node

/-!
Every way in which a key can change the text.
-/

namespace LatexSnippets.Editor

variable {e e' : Editor}

/-- The stops of an expansion have taken the place of the queue, and there is room for the text of
the expansion where they are counted from. -/
def Installed (e : Editor) : Prop :=
  ∃ (raw : Text) (i : Int), (Expansion.ofText raw).remaining ≠ [] ∧
    e.fields = (Expansion.ofText raw).remaining.map (·.shift i) ∧
      0 ≤ i ∧ i + (Expansion.ofText raw).text.length ≤ e.text.length

theorem Installed.within (h : e.Installed) : ∀ s ∈ e.fields, s.Within e.text.length := by
  obtain ⟨raw, i, -, hf, h₀, hl⟩ := h
  intro s hs
  rw [hf] at hs
  obtain ⟨s₀, hm, rfl⟩ := List.mem_map.1 hs
  obtain ⟨⟨hs₀, hs₁⟩, hs₂⟩ := (Expansion.within_ofText raw).2 s₀ hm
  simp only [Span.Within, Span.Proper, Span.shift_start, Span.shift_stop]
  omega

theorem installed_applyExpansion {i j : Int} {raw : Text} (h₀ : 0 ≤ i) (hij : i ≤ j)
    (hj : j ≤ e.text.length) (h : (Expansion.ofText raw).remaining ≠ []) :
    (e.applyExpansion i j (.ofText raw)).Installed := by
  have hl := Text.length_splice (w := (Expansion.ofText raw).text) h₀ hij hj
  refine ⟨raw, i, h, ?_⟩
  rw [applyExpansion, if_neg (by simpa using h)]
  refine ⟨rfl, h₀, ?_⟩
  change i + _ ≤ ((e.text.splice i j (Expansion.ofText raw).text).length : Int)
  omega

theorem installed_applyFired {t : Text} {caret : Int} {auto manual : Bool} {f : Fired}
    (hf : e.fire t caret auto manual = .ok (some f)) (hq : f.fields ≠ []) (e₀ : Editor) :
    (e₀.applyFired f).Installed := by
  obtain ⟨r, k, raw, hk, rfl⟩ := fire_eq_some hf
  refine ⟨raw, k, ?_, ?_⟩
  · simpa [Fired.ofExpansion] using hq
  · rw [applyFired, if_neg (by simpa using hq)]
    refine ⟨rfl, Int.natCast_nonneg k, ?_⟩
    change (k : Int) + _ ≤
      (((t.upTo caret).take k ++ (Expansion.ofText raw).text ++ t.onward caret).length : Int)
    simp only [List.length_append, List.length_take]
    omega

theorem installed_insert {c : Char} {f : Fired}
    (hf : e.fire (e.text.splice e.selection.start e.selection.stop [c]) (e.selection.start + 1)
      true false = .ok (some f)) (hq : f.fields ≠ []) : (e.insert [c]).editor.Installed := by
  simp only [insert, Outcome.map, changed, List.isEmpty_cons, Bool.not_false, if_true,
    List.length_singleton, Int.natCast_one, hf]
  exact installed_applyFired hf hq _

/-- The stops of a queue have moved, from some place on, by as much as the text has grown. -/
def Follows (e : Editor) (q : FieldQueue) (e' : Editor) : Prop :=
  ∃ at_, e'.fields = q.shift (e'.text.length - e.text.length) at_

/-- A rule has fired on a character that was typed over a selection. -/
def TypedOver (e e' : Editor) : Prop :=
  e.selection.start < e.selection.stop ∧ ∃ c f,
    e.fire (e.text.splice e.selection.start e.selection.stop [c]) (e.selection.start + 1) true
      false = .ok (some f) ∧ e' = (e.insert [c]).editor

/-- The text stays and no stop is moved, though some may be passed, or one part of the text is
replaced and the stops that are kept move with it, or there are new stops. -/
def Edits (e e' : Editor) : Prop :=
  e'.text = e.text ∧ e'.fields <:+ e.fields ∨
    (∃ q r, e.Replaces q r e' ∧ (e.Follows q e' ∨ e.TypedOver e')) ∨ e'.Installed

section Follows

variable {q : FieldQueue} {r : Replacement}

theorem Replaces.growth (he : e.Sound) (h : e.Replaces q r e') :
    (e'.text.length : Int) - e.text.length = r.growth := by
  have hm := h.made he
  rw [hm.text]
  exact Replacement.length_splice hm.isIn

theorem Replaces.queue_suffix (h : e.Replaces q r e') : q <:+ e.fields := by
  cases h with
  | separator | indent | tabExpanded => exact e.fields.skipConsumed_suffix e.selection.start
  | _ => exact List.suffix_refl _

theorem Replaces.follows (he : e.Sound) (h : e.Replaces q r e') (at_ : Int)
    (hs : e'.fields = q.shift r.growth at_) : e.Follows q e' :=
  ⟨at_, by rw [hs, h.growth he]⟩

/-- Where no stop can start inside what is replaced, all that is left to do is to move those behind
it. -/
theorem Replaces.follows_of_pivot (he : e.Sound) (h : e.Replaces q r e') (hp : r.pivot = r.stop) :
    e.Follows q e' := by
  obtain ⟨hin, -, hf⟩ := h.made he
  refine h.follows he r.pivot ?_
  rw [hf, FieldQueue.shift_eq_filterMap]
  exact List.filterMap_congr fun s hs =>
    (Replacement.move_eq_carry hin (.inr hp) (he.pending s (h.queue_suffix.subset hs))).symm

end Follows

theorem edits_refl (e : Editor) : e.Edits e :=
  .inl ⟨rfl, List.suffix_refl _⟩

theorem Replaces.edits {q : FieldQueue} {r : Replacement} (h : e.Replaces q r e')
    (hf : e.Follows q e') : e.Edits e' :=
  .inr (.inl ⟨q, r, h, .inl hf⟩)

theorem Installed.edits (h : e'.Installed) (e : Editor) : e.Edits e' :=
  .inr (.inr h)

theorem edits_insert (he : e.Sound) {c : Char} {b : Bool} (h : e.insert [c] = ⟨e', .ok b⟩) :
    e.Edits e' := by
  have hi : e' = (e.insert [c]).editor := by rw [h]
  have ha : (e.insert [c]).answer = .ok b := by rw [h]
  rw [hi]
  cases hf : e.fire (e.text.splice e.selection.start e.selection.stop [c])
      (e.selection.start + 1) true false with
  | error x => simp [insert, Outcome.map, changed, hf, Except.map] at ha
  | ok o =>
    cases o with
    | none =>
      refine (Replaces.typed hf).edits ⟨e.selection.start, ?_⟩
      simp only [insert, Outcome.map, changed, List.isEmpty_cons, Bool.not_false, if_true,
        List.length_singleton, Int.natCast_one, hf]
      rfl
    | some f =>
      by_cases hq : f.fields = []
      · have hr := Replaces.typedFired hf hq
        by_cases hs : e.selection.start = e.selection.stop
        · exact hr.edits (hr.follows_of_pivot he hs)
        · have hlt := Int.lt_iff_le_and_ne.2 ⟨he.selection.1.2, hs⟩
          exact .inr (.inl ⟨_, _, hr, .inr ⟨hlt, c, f, hf, rfl⟩⟩)
      · exact (installed_insert hf hq).edits e

theorem edits_surround (he : e.Sound) {c : Char} {b : Bool}
    (h : e.surround? c = some ⟨e', .ok b⟩) : e.Edits e' := by
  have h' := h
  simp only [surround?] at h'
  split at h'
  · contradiction
  · split at h'
    · contradiction
    · next r hr =>
      split at h'
      · simp at h'
      · next x hx =>
        simp only [Option.some.injEq, Outcome.mk.injEq, Except.ok.injEq] at h'
        obtain ⟨rfl, rfl⟩ := h'
        obtain ⟨raw, -, rfl⟩ := Template.compile_eq_ok.1 hx
        by_cases hq : (Expansion.ofText raw).remaining = []
        · have hs := Replaces.surrounded hr hx hq h
          refine hs.edits (hs.follows he e.selection.start ?_)
          rw [applyExpansion, if_pos (by simpa using hq)]
          rfl
        · obtain ⟨⟨h₀, hij⟩, hj⟩ := he.selection
          exact (installed_applyExpansion h₀ hij hj hq).edits e

theorem edits_pair (he : e.Sound) {c : Char} (h : e.pair? c = some e') : e.Edits e' := by
  cases hc : closer? c with
  | none => simp [pair?, hc] at h
  | some close =>
    have hr := Replaces.paired hc h
    refine hr.edits (hr.follows he e.selection.start ?_)
    simp only [pair?, hc] at h
    split at h
    · contradiction
    · rw [← Option.some.inj h]
      rfl

theorem edits_type (he : e.Sound) {c : Char} {b : Bool} (h : e.type c = ⟨e', .ok b⟩) :
    e.Edits e' := by
  unfold type at h
  split at h
  · next hp =>
    simp only [Outcome.mk.injEq] at h
    exact h.1 ▸ edits_pair he hp
  · split at h
    · next ho =>
      simp only [Outcome.mk.injEq] at h
      obtain ⟨rfl, -⟩ := h
      rw [overtype?] at ho
      split at ho
      · obtain rfl := Option.some.inj ho
        exact .inl ⟨rfl, List.suffix_refl _⟩
      · contradiction
    · split at h
      · next hs => exact edits_surround he (h ▸ hs)
      · exact edits_insert he h

theorem edits_backspace (he : e.Sound) : e.Edits e.backspace.editor := by
  by_cases h : e.selection.start = e.selection.stop
  · by_cases h₀ : e.selection.start = 0
    · have hb : e.backspace.editor = e := by simp [backspace, h, h ▸ h₀]
      rw [hb]
      exact edits_refl e
    · have := he.selection.1.1
      by_cases hp : e.InPair
      · have hr := Replaces.backspacePair h (by omega) hp
        refine hr.edits (hr.follows he (e.selection.start - 1) ?_)
        rw [backspace_pair h (by omega) hp]
        rfl
      · refine (Replaces.backspace h (by omega) hp).edits ⟨e.selection.start - 1, ?_⟩
        rw [backspace_char h (by omega) hp]
        rfl
  · refine (Replaces.backspaceSelection h).edits ⟨e.selection.start, ?_⟩
    rw [backspace_selection h]
    rfl

theorem edits_deleteForward (he : e.Sound) : e.Edits e.deleteForward.editor := by
  by_cases h : e.selection.start = e.selection.stop
  · by_cases hl : e.selection.start < e.text.length
    · have hr := Replaces.delete h hl
      exact hr.edits (hr.follows_of_pivot he rfl)
    · rw [h] at hl
      have hd : e.deleteForward.editor = e := by simp [deleteForward, h, Int.not_lt.1 hl]
      rw [hd]
      exact edits_refl e
  · refine (Replaces.deleteSelection h).edits ⟨e.selection.start, ?_⟩
    rw [deleteForward_selection h]
    rfl

theorem edits_deleteWord (he : e.Sound) : e.Edits e.deleteWord.1 := by
  by_cases h : e.selection.start = e.selection.stop
  · by_cases h₀ : e.selection.start = 0
    · have hd : e.deleteWord.1 = e := by simp [deleteWord, h, h ▸ h₀]
      rw [hd]
      exact edits_refl e
    · have := he.selection.1.1
      have hr := Replaces.deleteWord h (by omega)
      refine hr.edits (hr.follows he (e.selection.start - lastRun (e.text.upTo e.selection.start)) ?_)
      simp only [deleteWord]
      rw [if_neg (not_not_intro h), if_neg h₀]
      rfl
  · have hr := Replaces.deleteWordSelection h
    refine hr.edits (hr.follows he e.selection.start ?_)
    simp only [deleteWord]
    rw [if_pos h]
    rfl

theorem edits_deleteLine (he : e.Sound) : e.Edits e.deleteLine.1 := by
  by_cases ht : e.text = []
  · have hd : e.deleteLine.1 = e := by simp [deleteLine, ht]
    rw [hd]
    exact edits_refl e
  · by_cases h : e.text.lineEnd e.selection.stop < e.text.length
    · have hr := Replaces.deleteLine h
      refine hr.edits (hr.follows he (e.text.lineStart e.selection.start) ?_)
      simp only [deleteLine]
      rw [if_neg (by simpa using ht), if_pos h]
      rfl
    · have hr := Replaces.deleteLastLine ht (Nat.not_lt.1 h)
      refine hr.edits (hr.follows he ↑(e.text.lineStart e.selection.start - 1) ?_)
      simp only [deleteLine]
      rw [if_neg (by simpa using ht), if_neg (by omega)]
      rfl

theorem fraction_eq (t : Text) :
    fraction t = "\\frac\x7b".toList ++ t ++ "\x7d\x7b$1\x7d$0".toList :=
  rfl

theorem readAll_fraction (w : Text) : Piece.readAll (fraction (Piece.escape w)) =
    ("\\frac\x7b".toList ++ w ++ "\x7d\x7b".toList).map .char ++
      [.stop 1, .char '\x7d', .stop 0] := by
  have hf : fraction (Piece.escape w) = '\\' :: 'f' :: 'r' :: 'a' :: 'c' :: '\x7b' ::
      (Piece.escape w ++ ['\x7d', '\x7b', '$', '1', '\x7d', '$', '0']) := by
    simp [fraction_eq]
  have hs : Piece.readAll ['$', '1', '\x7d', '$', '0'] = [.stop 1, .char '\x7d', .stop 0] := by
    decide +kernel
  rw [hf, Piece.readAll_backslash (by decide)]
  simp [Piece.readAll_cons, Piece.readAll_escape, hs]

theorem fraction_numbered (w : Text) : .stop 1 ∈ Piece.readAll (fraction (Piece.escape w)) := by
  simp [readAll_fraction]

/-- Where the numerator of a fraction begins: at the selection, or else at the operand before the
caret. -/
def numeratorStart (e : Editor) : Int :=
  if e.selection.start = e.selection.stop then Latex.Operand.start (e.text.upTo e.selection.stop)
  else e.selection.start

theorem smartFraction_eq (e : Editor) : e.smartFraction =
    if e.numeratorStart = e.selection.stop then (e, false) else
      (e.applyExpansion e.numeratorStart e.selection.stop (.ofText (fraction
        (Piece.escape (e.text.slice e.numeratorStart e.selection.stop)))), true) :=
  rfl

theorem numeratorStart_le (he : e.Sound) :
    0 ≤ e.numeratorStart ∧ e.numeratorStart ≤ e.selection.stop := by
  obtain ⟨⟨h₀, h₁⟩, h₂⟩ := he.selection
  have hp := Text.place_eq (Int.le_trans h₀ h₁) h₂
  rw [numeratorStart]
  split
  · rw [Latex.Operand.start, Text.length_upTo]
    omega
  · exact ⟨h₀, h₁⟩

theorem edits_smartFraction (he : e.Sound) : e.Edits e.smartFraction.1 := by
  obtain ⟨h₀, h₁⟩ := numeratorStart_le he
  rw [smartFraction_eq]
  split
  · exact edits_refl e
  · apply Installed.edits
    exact installed_applyExpansion h₀ h₁ he.selection.2
      (Expansion.remaining_ne_nil (fraction_numbered _) rfl Nat.one_pos)

theorem edits_tabInsert (he : e.Sound)
    (h : e.nextField = ⟨(e.setFields e.waiting).tabInsert, .ok true⟩) :
    e.Edits e.nextField.editor := by
  by_cases ht : (Latex.enclosingTabular? e.text e.selection.start).isSome
  · have hr := Replaces.separator ht h
    refine hr.edits (hr.follows he e.selection.start ?_)
    rw [h, tabInsert_separator (e := e.setFields e.waiting) ht]
    rfl
  · have hn : (Latex.enclosingTabular? e.text e.selection.start).isNone := by simpa using ht
    by_cases hc : e.selection.start = e.selection.stop ∧ e.nextChar?.any isClosing = true
    · left
      rw [h, tabInsert_closing (e := e.setFields e.waiting) hn hc.1 hc.2]
      exact ⟨rfl, e.fields.skipConsumed_suffix e.selection.start⟩
    · rw [Decidable.not_and_iff_or_not, Bool.not_eq_true] at hc
      have hr := Replaces.indent hn hc h
      refine hr.edits (hr.follows he e.selection.start ?_)
      rw [h, tabInsert_indent (e := e.setFields e.waiting) hn hc]
      rfl

theorem tabExpand_setFields (e : Editor) (q : FieldQueue) : (e.setFields q).tabExpand =
    if e.selection.isEmpty then
      match e.fire e.text e.selection.start false true with
      | .error x => ⟨e.setFields q, .error x⟩
      | .ok (some f) => ⟨(e.setFields q).applyFired f, .ok true⟩
      | .ok none => ⟨(e.setFields q).tabInsert, .ok true⟩
    else ⟨(e.setFields q).tabInsert, .ok true⟩ :=
  rfl

theorem edits_nextField (he : e.Sound) {b : Bool} (h : e.nextField = ⟨e', .ok b⟩) :
    e.Edits e' := by
  have he' : e' = e.nextField.editor := by rw [h]
  cases ha : e.fields.advance e.selection.start (some e.text) with
  | mk step rest =>
    cases step with
    | stop s =>
      left
      have hr := e.fields.advance_suffix e.selection.start (some e.text)
      rw [ha] at hr
      rw [he', nextField, ha]
      exact ⟨rfl, hr⟩
    | separator | nothing =>
      obtain ⟨s, hs⟩ | rfl := FieldQueue.advance_rest ha
      · contradiction
      · have hn : e.nextField = (e.setFields e.waiting).tabExpand := by
          rw [nextField, ha]
          rfl
        rw [tabExpand_setFields] at hn
        by_cases hs : e.selection.isEmpty = true
        · rw [if_pos hs] at hn
          cases hf : e.fire e.text e.selection.start false true with
          | error x =>
            rw [hn, hf] at h
            simp at h
          | ok o =>
            rw [hf] at hn
            cases o with
            | none => exact he' ▸ edits_tabInsert he hn
            | some f =>
              rw [he']
              by_cases hq : f.fields = []
              · have hr := Replaces.tabExpanded (by simpa [Span.isEmpty] using hs) hf hq hn
                exact hr.edits (hr.follows_of_pivot he rfl)
              · rw [hn]
                exact (installed_applyFired hf hq _).edits e
        · rw [if_neg hs] at hn
          exact he' ▸ edits_tabInsert he hn

theorem edits_expand (he : e.Sound) {b : Bool} (h : e.expand = ⟨e', .ok b⟩) : e.Edits e' := by
  have he' : e' = e.expand.editor := by rw [h]
  rw [expand] at h
  split at h
  · next hs =>
    split at h
    · simp at h
    · next f hf =>
      simp only [Outcome.mk.injEq] at h
      by_cases hq : f.fields = []
      · have hr := Replaces.expanded (by simpa [Span.isEmpty] using hs) hf hq
        exact he' ▸ hr.edits (hr.follows_of_pivot he rfl)
      · exact h.1 ▸ (installed_applyFired hf hq e).edits e
    · simp only [Outcome.mk.injEq] at h
      exact h.1 ▸ edits_refl e
  · simp only [Outcome.mk.injEq] at h
    exact h.1 ▸ edits_refl e

theorem edits_newline (he : e.Sound) : e.Edits e.newline.1 := by
  have hr := Replaces.newline (e := e)
  exact hr.edits (hr.follows he e.selection.start rfl)

/-- Going back in history drops the queue. -/
theorem edits_restore (e : Editor) (o : Option History) :
    e.Edits (e.restore o).1 ∨ (e.restore o).1.fields = [] := by
  cases o with
  | none => exact .inl (edits_refl e)
  | some h => exact .inr rfl

theorem edits_moveLine (e : Editor) (up : Bool) :
    e.Edits (e.moveLine up).1 ∨ (e.moveLine up).1.fields = [] := by
  simp only [moveLine]
  generalize (if up then raise? _ _ _ else lower? _ _ _) = moved
  cases moved with
  | none => exact .inl (edits_refl e)
  | some m => exact .inr rfl

theorem edits_act (he : e.Sound) {a : Action} {b : Bool} (h : e.act a = ⟨e', .ok b⟩) :
    e.Edits e' ∨ e'.fields = [] := by
  have he' : e' = (e.act a).editor := by rw [h]
  cases a with
  | undo => exact he' ▸ edits_restore e e.history.undo?
  | redo => exact he' ▸ edits_restore e e.history.redo?
  | moveLineUp => exact he' ▸ edits_moveLine e true
  | moveLineDown => exact he' ▸ edits_moveLine e false
  | smartFraction => exact .inl (he' ▸ edits_smartFraction he)
  | nextField => exact .inl (edits_nextField he h)
  | indent => exact .inl (he' ▸ edits_newline he)
  | deleteWord => exact .inl (he' ▸ edits_deleteWord he)
  | deleteLine => exact .inl (he' ▸ edits_deleteLine he)

theorem edits_pressSpecial (he : e.Sound) {k : KeyEvent} {b : Bool}
    (h : e.pressSpecial k = ⟨e', .ok b⟩) : e.Edits e' := by
  unfold pressSpecial at h
  split at h
  · simp only [Outcome.mk.injEq] at h
    exact h.1 ▸ edits_refl e
  · split at h
    · have := edits_backspace he
      rwa [h] at this
    · split at h
      · have := edits_deleteForward he
        rwa [h] at this
      · split at h
        · exact edits_insert he h
        · split at h
          · exact edits_insert he h
          · simp only [Outcome.mk.injEq] at h
            exact h.1 ▸ edits_refl e

/-- A key that is handled leaves the text, replaces one part of it and keeps the queue, or brings
stops of its own, unless it goes back in history or moves lines, which drops the queue. -/
theorem press_edits (he : e.Sound) {k : KeyEvent} {b : Bool} (h : e.press k = ⟨e', .ok b⟩) :
    e.Edits e' ∨ e'.fields = [] := by
  unfold press at h
  split at h
  · next a ha =>
    have he' : (e.act a).editor = e' := congrArg Outcome.editor h
    have hact : e.act a = ⟨e', (e.act a).answer⟩ := by rw [← he']
    cases hb : (e.act a).answer with
    | error x => simp [Outcome.map, hb, Except.map] at h
    | ok b =>
      rw [hb] at hact
      exact edits_act he hact
  · left
    split at h
    · simp only [Outcome.mk.injEq] at h
      rw [← h.1]
      exact .inl ⟨rfl, List.nil_suffix⟩
    · split at h
      · exact edits_type he h
      · exact edits_pressSpecial he h

end LatexSnippets.Editor
