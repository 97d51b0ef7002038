import LatexSnippets.Proofs.Editor.Operation
import LatexSnippets.Proofs.FieldQueue
import LatexSnippets.Proofs.Firing
import LatexSnippets.Proofs.History

/-!
What every editor keeps up, whatever is done to it: the selection lies in the text, the current
snapshot shows the text, every snapshot has its caret inside, and no pending stop starts before the
text.
-/

namespace LatexSnippets

def Snapshot.Valid (s : Snapshot) : Prop := 0 ≤ s.caret ∧ s.caret ≤ s.text.length

namespace Editor

/-- What an edit relies on, and leaves as it is. -/
structure Steady (e : Editor) : Prop where
  entries : ∀ s ∈ e.history.entries, s.Valid
  pending : ∀ s ∈ e.fields, s.Proper

structure Sound (e : Editor) : Prop extends e.Steady where
  selection : e.selection.Within e.text.length
  current : e.history.current.text = e.text

variable {e : Editor}

theorem valid_inside (t : Text) (i : Int) : Snapshot.Valid ⟨t, inside t i⟩ := by
  simp only [Snapshot.Valid, inside]
  omega

theorem Steady.shiftFields (h : e.Steady) (d at_ : Int) : (e.shiftFields d at_).Steady :=
  ⟨h.entries, FieldQueue.proper_shift d at_ h.pending⟩

theorem Steady.withText (h : e.Steady) (text : Text) : { e with text := text }.Steady :=
  ⟨h.entries, h.pending⟩

/-- Recording puts everything in order, even if the text shown before was no recorded one. -/
theorem Steady.record (h : e.Steady) (text : Text) (caret : Int) (immediate : Bool)
    (selection : Span) : (e.record text caret immediate selection).Sound where
  entries := by
    intro s hs
    rcases History.mem_entries_push hs with rfl | hs
    · exact valid_inside text caret
    · exact h.entries s hs
  pending := h.pending
  selection := selection.within_clamp text.length
  current := by simp [Editor.record]

theorem Steady.edit (h : e.Steady) (text : Text) (caret changeStart d : Int) (immediate : Bool)
    (selection : Option Span) : (e.edit text caret changeStart d immediate selection).Sound :=
  (h.shiftFields d changeStart).record ..

theorem Steady.splice (h : e.Steady) (i j : Int) (w : Text) (caret : Int)
    (selection : Option Span) : (e.splice i j w caret selection).Sound :=
  h.edit ..

theorem Sound.setFields (h : e.Sound) {stops : List Span} (hs : ∀ s ∈ stops, s.Proper) :
    (e.setFields stops).Sound :=
  ⟨⟨h.entries, hs⟩, h.selection, h.current⟩

theorem Sound.shiftFields (h : e.Sound) (d at_ : Int) : (e.shiftFields d at_).Sound :=
  h.setFields (FieldQueue.proper_shift d at_ h.pending)

theorem Sound.cancel (h : e.Sound) : e.cancel.Sound := h.setFields (by simp)

theorem Sound.select (h : e.Sound) (s : Span) : (e.select s).Sound :=
  ⟨⟨h.entries, h.pending⟩, s.within_clamp _, h.current⟩

theorem Sound.withClock (h : e.Sound) (now : Float) : { e with now := now }.Sound :=
  ⟨⟨h.entries, h.pending⟩, h.selection, h.current⟩

theorem Sound.reload (h : e.Sound) (rules : Option (List Rule)) (keymap : Option Keymap)
    (forceMath : Option Bool) : (e.reload rules keymap forceMath).Sound :=
  ⟨⟨h.entries, h.pending⟩, h.selection, h.current⟩

theorem Steady.applyExpansion (h : e.Steady) {i j : Int} {x : Expansion} (hi : 0 ≤ i)
    (hx : ∀ s ∈ x.remaining, s.Proper) : (e.applyExpansion i j x).Sound := by
  have hs := h.splice i j x.text (x.entry.shift i).stop (some (x.entry.shift i))
  unfold Editor.applyExpansion
  split
  · exact hs
  · refine hs.setFields ?_
    intro s hm
    obtain ⟨s, hr, rfl⟩ := List.mem_map.1 hm
    have := (hx s hr).1
    exact (hx s hr).shift (by omega)

theorem Steady.applyFired (h : e.Steady) {f : Fired} (hf : ∀ s ∈ f.fields, s.Proper) :
    (e.applyFired f).Sound := by
  unfold Editor.applyFired
  split
  · exact h.edit ..
  · exact (h.edit ..).setFields hf

theorem Sound.changed (h : e.Sound) (text : Text) (caret changeStart : Int) (inserted : Bool) :
    (e.changed text caret changeStart inserted).editor.Sound := by
  have hs := h.toSteady.shiftFields (text.length - e.text.length) changeStart
  simp only [Editor.changed]
  split
  · split
    · exact h.shiftFields _ _
    · next f hf => exact (hs.withText text).applyFired (Fired.proper_fields hf)
    · exact hs.record ..
  · exact hs.record ..

theorem Sound.restore (h : e.Sound) {o : Option History}
    (ho : ∀ h' ∈ o, h'.entries = e.history.entries) : (e.restore o).1.Sound := by
  cases o with
  | none => exact h
  | some h' =>
    refine ⟨⟨?_, by simp [Editor.restore, Editor.select]⟩, Span.within_clamp _ _, rfl⟩
    intro s hs
    rw [show (e.restore (some h')).1.history = h' from rfl, ho h' rfl] at hs
    exact h.entries s hs

theorem Sound.undo (h : e.Sound) : e.undo.1.Sound := by
  apply h.restore
  intro h' hu
  exact History.entries_undo hu

theorem Sound.redo (h : e.Sound) : e.redo.1.Sound := by
  apply h.restore
  intro h' hr
  exact History.entries_redo hr

theorem Sound.smartFraction (h : e.Sound) : e.smartFraction.1.Sound := by
  have h₀ := h.selection.1.1
  simp only [Editor.smartFraction]
  split
  · split
    · exact h
    · exact h.applyExpansion (by omega) fun s hs => ((Expansion.within_ofText _).2 s hs).proper
  · exact h.applyExpansion h₀ fun s hs => ((Expansion.within_ofText _).2 s hs).proper

theorem Sound.moveLine (h : e.Sound) (up : Bool) : (e.moveLine up).1.Sound := by
  simp only [Editor.moveLine]
  generalize (if up then raise? _ _ _ else lower? _ _ _) = moved
  cases moved with
  | none => exact h
  | some m => exact h.cancel.edit ..

theorem Sound.deleteWord (h : e.Sound) : e.deleteWord.1.Sound := by
  simp only [Editor.deleteWord]
  split
  · exact h.splice ..
  · split
    · exact h
    · exact h.splice ..

theorem Sound.deleteLine (h : e.Sound) : e.deleteLine.1.Sound := by
  simp only [Editor.deleteLine]
  split
  · exact h
  · split
    · exact h.splice ..
    · exact h.splice ..

theorem Sound.newline (h : e.Sound) : e.newline.1.Sound := h.splice ..

theorem Sound.tabInsert (h : e.Sound) : e.tabInsert.Sound := by
  simp only [Editor.tabInsert]
  split
  · exact h.splice ..
  · split
    · exact h.select _
    · exact h.splice ..

theorem Sound.expand (h : e.Sound) : e.expand.editor.Sound := by
  unfold Editor.expand
  split
  · split
    · exact h
    · next f hf => exact h.applyFired (Fired.proper_fields hf)
    · exact h
  · exact h

theorem Sound.tabExpand (h : e.Sound) : e.tabExpand.editor.Sound := by
  unfold Editor.tabExpand
  split
  · split
    · exact h
    · next f hf => exact h.applyFired (Fired.proper_fields hf)
    · exact h.tabInsert
  · exact h.tabInsert

theorem Sound.nextField (h : e.Sound) : e.nextField.editor.Sound := by
  have hr := (FieldQueue.advance_suffix e.fields e.selection.start (some e.text)).subset
  have hs : (e.setFields (e.fields.advance e.selection.start (some e.text)).2).Sound :=
    h.setFields fun s hs => h.pending s (hr hs)
  unfold Editor.nextField
  split
  next step rest hq =>
  rw [hq] at hs
  split
  · exact hs.select _
  · exact hs.tabExpand
  · exact hs.tabExpand

theorem Sound.act (h : e.Sound) (a : Action) : (e.act a).editor.Sound := by
  cases a with
  | undo => exact h.undo
  | redo => exact h.redo
  | smartFraction => exact h.smartFraction
  | moveLineUp => exact h.moveLine true
  | moveLineDown => exact h.moveLine false
  | nextField => exact h.nextField
  | indent => exact h.newline
  | deleteWord => exact h.deleteWord
  | deleteLine => exact h.deleteLine

theorem Sound.pair (h : e.Sound) {c : Char} {e' : Editor} (hp : e.pair? c = some e') :
    e'.Sound := by
  simp only [pair?] at hp
  split at hp
  · contradiction
  · split at hp
    · contradiction
    · obtain rfl := Option.some.inj hp
      exact h.splice ..

theorem Sound.overtype (h : e.Sound) {c : Char} {e' : Editor} (ho : e.overtype? c = some e') :
    e'.Sound := by
  unfold overtype? at ho
  split at ho
  · obtain rfl := Option.some.inj ho
    exact h.select _
  · contradiction

theorem Sound.surround (h : e.Sound) {c : Char} {o : Outcome Bool}
    (hs : e.surround? c = some o) : o.editor.Sound := by
  simp only [surround?] at hs
  split at hs
  · contradiction
  · split at hs
    · contradiction
    · split at hs
      · obtain rfl := Option.some.inj hs
        exact h
      · next x hx =>
        obtain rfl := Option.some.inj hs
        obtain ⟨raw, -, rfl⟩ := Template.compile_eq_ok.1 hx
        exact h.applyExpansion h.selection.1.1 fun s hs =>
          ((Expansion.within_ofText raw).2 s hs).proper

theorem Sound.insert (h : e.Sound) (w : Text) : (e.insert w).editor.Sound := h.changed ..

theorem Sound.erase (h : e.Sound) (i j changeStart : Int) :
    (e.erase i j changeStart).editor.Sound := h.changed ..

theorem Sound.type (h : e.Sound) (c : Char) : (e.type c).editor.Sound := by
  unfold Editor.type
  split
  · next hp => exact h.pair hp
  · split
    · next ho => exact h.overtype ho
    · split
      · next hs => exact h.surround hs
      · exact h.insert [c]

theorem Sound.backspace (h : e.Sound) : e.backspace.editor.Sound := by
  simp only [Editor.backspace]
  split
  · exact h.erase ..
  · split
    · exact h
    · split
      · exact h.splice ..
      · exact h.erase ..

theorem Sound.deleteForward (h : e.Sound) : e.deleteForward.editor.Sound := by
  simp only [Editor.deleteForward]
  split
  · exact h.erase ..
  · split
    · exact h
    · exact h.erase ..

theorem Sound.pressSpecial (h : e.Sound) (k : KeyEvent) : (e.pressSpecial k).editor.Sound := by
  unfold Editor.pressSpecial
  split
  · exact h
  · split
    · exact h.backspace
    · split
      · exact h.deleteForward
      · split
        · exact h.insert _
        · split
          · exact h.insert _
          · exact h

theorem Sound.press (h : e.Sound) (k : KeyEvent) : (e.press k).editor.Sound := by
  unfold Editor.press
  split
  · next a _ => exact h.act a
  · split
    · exact h.cancel
    · split
      · next c _ => exact h.type c
      · exact h.pressSpecial k

theorem Sound.pressAll (h : e.Sound) (ks : List KeyEvent) : (e.pressAll ks).editor.Sound := by
  induction ks generalizing e with
  | nil => exact h
  | cons k ks ih =>
    have hk := h.press k
    unfold Editor.pressAll
    split
    · next ho =>
      rw [ho] at hk
      exact hk
    · next ho =>
      rw [ho] at hk
      exact ih hk

theorem sound_ofText (config : Config) (window now : Float) (text : Text) (caret : Option Int) :
    (ofText config window now text caret).Sound := by
  have hs := Span.within_clamp (.caret (caret.getD text.length)) text.length
  refine ⟨⟨?_, by simp [ofText]⟩, hs, rfl⟩
  intro s h
  obtain rfl : s = ⟨text, _⟩ := List.mem_singleton.1 h
  obtain ⟨⟨h₀, h₁⟩, h₂⟩ := hs
  exact ⟨Int.le_trans h₀ h₁, h₂⟩

theorem Sound.perform (h : e.Sound) (o : Operation) : (e.perform o).Sound := by
  cases o with
  | select start stop => exact h.select _
  | edit text caret changeStart d immediate selection => exact h.edit ..
  | change text caret changeStart inserted => exact h.changed ..
  | press k => exact h.press k
  | typeText t => exact h.pressAll _
  | feedKeys sequence =>
    simp only [Editor.perform, Editor.feedKeys]
    cases Key.readSequence sequence with
    | error x => exact h
    | ok ks => exact h.pressAll ks
  | nextField => exact h.nextField
  | expand => exact h.expand
  | smartFraction => exact h.smartFraction
  | moveLine direction => exact h.moveLine _
  | deleteWord => exact h.deleteWord
  | deleteLine => exact h.deleteLine
  | newline => exact h.newline
  | undo => exact h.undo
  | redo => exact h.redo
  | cancel => exact h.cancel
  | reload rules keymap forceMath => exact h.reload rules keymap forceMath

theorem Sound.run (h : e.Sound) (steps : List (Float × Operation)) : (e.run steps).Sound :=
  run_induction h (fun _ now o h => (h.withClock now).perform o) steps

theorem Reachable.sound (h : e.Reachable) : e.Sound := by
  obtain ⟨config, window, now, text, caret, steps, rfl⟩ := h
  exact (sound_ofText config window now text caret).run steps

/-- Whatever is done to an editor, its selection lies in its text, the current snapshot shows that
text, and every snapshot has its caret inside. -/
theorem selection_and_history_valid (config : Config) (window now : Float) (text : Text)
    (caret : Option Int) (steps : List (Float × Operation)) :
    let e := (ofText config window now text caret).run steps
    0 ≤ e.selection.start ∧ e.selection.start ≤ e.selection.stop ∧
      e.selection.stop ≤ e.text.length ∧ e.history.current.text = e.text ∧
      ∀ s ∈ e.history.entries, 0 ≤ s.caret ∧ s.caret ≤ s.text.length := by
  intro e
  have h : e.Sound := (sound_ofText config window now text caret).run steps
  obtain ⟨⟨h₀, h₁⟩, h₂⟩ := h.selection
  exact ⟨h₀, h₁, h₂, h.current, h.entries⟩

end Editor

end LatexSnippets
