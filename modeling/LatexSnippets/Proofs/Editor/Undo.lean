import LatexSnippets.Proofs.Editor.Recording

/-!
Undo takes back what was recorded last, redo brings it back, and undoing as long as possible leads
to the text that the editor began with.
-/

namespace LatexSnippets.Editor

variable {e e' : Editor} {h : History}

/-- The editor shows a snapshot of its history. -/
def shows (e : Editor) (h : History) : Editor :=
  { e with fields := [], history := h, text := h.current.text }.select (.caret h.current.caret)

theorem undo_of_some (hu : e.history.undo? = some h) : e.undo = (e.shows h, true) := by
  rw [undo, hu]
  rfl

theorem undo_of_none (hu : e.history.undo? = none) : e.undo = (e, false) := by
  rw [undo, hu]
  rfl

theorem redo_of_some (hr : e.history.redo? = some h) : e.redo = (e.shows h, true) := by
  rw [redo, hr]
  rfl

theorem redo_of_none (hr : e.history.redo? = none) : e.redo = (e, false) := by
  rw [redo, hr]
  rfl

theorem exists_of_undo (hu : e.undo.2 = true) :
    ∃ h, e.history.undo? = some h ∧ e.undo = (e.shows h, true) := by
  cases ho : e.history.undo? with
  | none => simp [undo_of_none ho] at hu
  | some h => exact ⟨h, rfl, undo_of_some ho⟩

/-- Whatever has just been recorded at once, undo brings back the text before it and ends the
snippet, and redo the text after it. -/
theorem undo_recorded (he : e.Reachable) (now : Float) {o : Operation}
    (h : { e with now := now }.Records o true) :
    let e' := { e with now := now }.perform o
    e'.undo.2 = true ∧ e'.undo.1.text = e.text ∧ e'.undo.1.fields = [] ∧
      e'.undo.1.redo.2 = true ∧ e'.undo.1.redo.1.text = e'.text := by
  intro e'
  obtain ⟨s, hs⟩ := h.pushes
  obtain ⟨h', hu, hc⟩ := History.undo?_push e.history now s
  have hu' : e'.history.undo? = some h' := hs ▸ hu
  have hr : (e'.shows h').history.redo? = some e'.history := History.redo?_of_undo? hu'
  have current : e'.history.current.text = e'.text := (he.step now o).sound.current
  rw [undo_of_some hu', redo_of_some hr]
  refine ⟨rfl, ?_, rfl, rfl, current⟩
  calc
    h'.current.text = e.history.current.text := by rw [hc]
    _ = e.text := he.sound.current

/-- The trigger `t`, after a line break that has been undone and can be redone. -/
def brokenBack : Editor := ((withRule "t" "a$2b$1" "t").perform .newline).perform .undo

theorem reachable_brokenBack : brokenBack.Reachable :=
  ((reachable_withRule ..).step 0 .newline).step 0 .undo

theorem undo_recorded_expansion :
    let e' := { brokenBack with now := 0 }.perform .expand
    brokenBack.Reachable ∧ brokenBack.history.canRedo = true ∧
      { brokenBack with now := 0 }.Records .expand true ∧
      e'.fields = [⟨1, 1⟩, ⟨2, 2⟩] ∧ e'.undo.1.text = "t".toList ∧ e'.undo.1.fields = [] ∧
      e'.undo.1.redo.1.text = "ab".toList := by
  intro e'
  have hr : { brokenBack with now := 0 }.Records .expand true := by
    rcases history_expand { brokenBack with now := 0 } with ⟨h, -⟩ | ⟨-, h⟩
    · exact .expanded h
    · exact absurd (congrArg text h) (by decide +kernel)
  obtain ⟨-, ht, hf, -, hd⟩ := undo_recorded reachable_brokenBack 0 hr
  refine ⟨reachable_brokenBack, by decide +kernel, hr, by decide +kernel, ?_, hf, ?_⟩
  · exact ht.trans (by decide +kernel)
  · exact hd.trans (by decide +kernel)

/-- The editor after `n` calls of a command, provided that each answers that it did something. -/
def repeated (command : Editor → Editor × Bool) : Nat → Editor → Option Editor
  | 0, e => some e
  | n + 1, e => if (command e).2 then repeated command n (command e).1 else none

theorem repeated_succ {command : Editor → Editor × Bool} {n : Nat} {d : Editor}
    (h : repeated command n e = some e') (hd : command e' = (d, true)) :
    repeated command (n + 1) e = some d := by
  induction n generalizing e with
  | zero =>
    obtain rfl := Option.some.inj h
    simp [repeated, hd]
  | succ n ih =>
    rw [repeated] at h ⊢
    split at h
    · next hc => rw [if_pos hc, ih h]
    · contradiction

theorem Sound.repeated {command : Editor → Editor × Bool} {n : Nat} (he : e.Sound)
    (hc : ∀ e, e.Sound → (command e).1.Sound) (h : repeated command n e = some e') : e'.Sound := by
  induction n generalizing e with
  | zero => exact Option.some.inj h ▸ he
  | succ n ih =>
    rw [Editor.repeated] at h
    split at h
    · exact ih (hc e he) h
    · contradiction

/-- Going back and then forward as often leads to the same place in the history. -/
theorem redo_repeated {n : Nat} (hu : repeated undo n e = some e') :
    e'.history.entries = e.history.entries ∧
      ∀ d : Editor, d.history = e'.history →
        ∃ d', repeated redo n d = some d' ∧ d'.history = e.history := by
  induction n generalizing e with
  | zero =>
    obtain rfl := Option.some.inj hu
    exact ⟨rfl, fun d hd => ⟨d, rfl, hd⟩⟩
  | succ n ih =>
    rw [repeated] at hu
    split at hu
    · next hc =>
      obtain ⟨h, ho, hs⟩ := exists_of_undo hc
      rw [hs] at hu
      obtain ⟨entries, back⟩ := ih hu
      refine ⟨entries.trans (History.entries_undo ho), ?_⟩
      intro d hd
      obtain ⟨d', hd', hh⟩ := back d hd
      have hr : d'.history.redo? = some e.history := by
        rw [hh]
        exact History.redo?_of_undo? ho
      exact ⟨_, repeated_succ hd' (redo_of_some hr), rfl⟩
    · contradiction

theorem length_past_undo (hu : e.undo.2 = true) :
    e.undo.1.history.past.length < e.history.past.length := by
  obtain ⟨h, ho, hs⟩ := exists_of_undo hu
  rw [hs]
  exact History.length_past_undo ho

/-- Undoes until there is nothing to undo. -/
def undoAll (e : Editor) : Editor :=
  if e.undo.2 then undoAll e.undo.1 else e
termination_by e.history.past.length
decreasing_by exact length_past_undo ‹_›

section Rooted

open History (Rooted)

variable {first : Snapshot}

theorem Tracked.rooted {o : Operation} (h : e.Tracked o) (hr : Rooted first e.history) :
    Rooted first (e.perform o).history := by
  rcases h with ⟨b, h⟩ | h | h | h
  · obtain ⟨s, hs⟩ := h.pushes
    exact hs ▸ hr.push ..
  · exact h ▸ hr
  · exact hr.undo h
  · exact hr.redo h

theorem Sound.rooted_pressAll (he : e.Sound) (hr : Rooted first e.history) (ks : List KeyEvent) :
    Rooted first (e.pressAll ks).editor.history := by
  induction ks generalizing e with
  | nil => exact hr
  | cons k ks ih =>
    have hs := he.press k
    have hk : Rooted first (e.press k).editor.history := (he.tracked_press k).rooted hr
    unfold Editor.pressAll
    split
    · next ho => rwa [ho] at hk
    · next ho =>
      rw [ho] at hs hk
      exact ih hs hk

theorem Sound.rooted_perform (he : e.Sound) (hr : Rooted first e.history) (o : Operation) :
    Rooted first (e.perform o).history := by
  rcases he.tracked o with h | ⟨ks, hk⟩
  · exact h.rooted hr
  · rw [hk]
    exact he.rooted_pressAll hr ks

theorem rooted_run (config : Config) (window now : Float) (text : Text) (caret : Option Int)
    (steps : List (Float × Operation)) :
    let start := ofText config window now text caret
    (start.run steps).Sound ∧ Rooted start.history.current (start.run steps).history := by
  intro start
  apply run_induction (P := fun e => e.Sound ∧ Rooted start.history.current e.history)
  · exact ⟨sound_ofText .., History.rooted_ofSnapshot ..⟩
  · intro e now o ⟨he, hr⟩
    exact ⟨(he.withClock now).perform o, (he.withClock now).rooted_perform hr o⟩

theorem Sound.text_undoAll (he : e.Sound) (hr : Rooted first e.history) :
    e.undoAll.undo.2 = false ∧ e.undoAll.text = first.text := by
  fun_induction undoAll e with
  | case1 e hu ih =>
    obtain ⟨h, ho, hs⟩ := exists_of_undo hu
    refine ih he.undo ?_
    rw [hs]
    exact hr.undo ho
  | case2 e hu =>
    rw [Bool.not_eq_true] at hu
    refine ⟨hu, ?_⟩
    cases ho : e.history.undo? with
    | none => rw [← he.current, hr.current ho]
    | some h => simp [undo_of_some ho] at hu

end Rooted

/-- Undoing all leads to the first text. Going back leaves the snapshots as they are, so that as
many steps forward lead to where one was; a new record leaves nothing to go forward to. -/
theorem undo_redo_run (config : Config) (window start : Float) (text : Text) (caret : Option Int)
    (steps : List (Float × Operation)) :
    let e := (ofText config window start text caret).run steps
    (e.undoAll.undo.2 = false ∧ e.undoAll.text = text) ∧
      (∀ n e', repeated undo n e = some e' →
        e'.history.entries = e.history.entries ∧
          ∃ e'', repeated redo n e' = some e'' ∧ e''.text = e.text ∧
            e''.history.entries = e.history.entries) ∧
      ∀ now o immediate, { e with now := now }.Records o immediate →
        ({ e with now := now }.perform o).redo.2 = false := by
  intro e
  obtain ⟨he, hr⟩ := rooted_run config window start text caret steps
  refine ⟨he.text_undoAll hr, ?_, ?_⟩
  · intro n e' hu
    obtain ⟨entries, back⟩ := redo_repeated hu
    obtain ⟨e'', hd, hh⟩ := back e' rfl
    have hs : e''.Sound := (he.repeated (fun _ h => h.undo) hu).repeated (fun _ h => h.redo) hd
    refine ⟨entries, e'', hd, ?_, by rw [hh]⟩
    calc
      e''.text = e''.history.current.text := hs.current.symm
      _ = e.history.current.text := by rw [hh]
      _ = e.text := he.current
  · intro now o b h
    obtain ⟨s, hs⟩ := h.pushes
    have hn : ({ e with now := now }.perform o).history.redo? = none := by
      rw [hs]
      exact History.redo?_push ..
    rw [redo_of_none hn]

theorem undo_redo_two_breaks :
    let e := (ofText ⟨[], .standard, false, "  ", " & "⟩ 1 0 "a" none).run
      [(0, .newline), (0, .newline)]
    e.undoAll.text = "a".toList ∧
      ∃ e', repeated undo 2 e = some e' ∧ ∃ e'', repeated redo 2 e' = some e'' ∧
        e''.text = "a\n\n".toList := by
  intro e
  obtain ⟨⟨-, ht⟩, hr, -⟩ := undo_redo_run ⟨[], .standard, false, "  ", " & "⟩ 1 0 "a" none
    [(0, .newline), (0, .newline)]
  have hs : (repeated undo 2 e).isSome := by decide +kernel
  obtain ⟨e', hu⟩ := Option.isSome_iff_exists.1 hs
  obtain ⟨-, e'', hd, hx, -⟩ := hr 2 e' hu
  exact ⟨ht, e', hu, e'', hd, hx.trans (by decide +kernel)⟩

end LatexSnippets.Editor
