import LatexSnippets.Proofs.Editor.Edits

/-!
Which operations record an edit, and whether at once or as part of a burst of typing. Any other
operation leaves the history as it is, or goes a step back or forward in it.
-/

namespace LatexSnippets

/-- The command that a bound key runs. -/
def Action.operation : Action → Operation
  | .undo => .undo
  | .redo => .redo
  | .smartFraction => .smartFraction
  | .moveLineUp => .moveLine (-1)
  | .moveLineDown => .moveLine 1
  | .nextField => .nextField
  | .indent => .newline
  | .deleteWord => .deleteWord
  | .deleteLine => .deleteLine

namespace Editor

/-- The key has no action and stands for a character. -/
structure Types (e : Editor) (k : KeyEvent) (c : Char) : Prop where
  unbound : e.config.keymap.actionFor? k = none
  notEscape : k.name ≠ "escape".toList
  char : k.char? = some c

/-- The key has neither an action nor a character, and goes by its name. -/
structure Sends (e : Editor) (k : KeyEvent) (name : String) : Prop where
  unbound : e.config.keymap.actionFor? k = none
  char : k.char? = none
  plain : k.isCommand = false
  named : k.name = name.toList

/-- The key puts a character in place of the selection, and rules may fire. -/
inductive Inserts (e : Editor) : KeyEvent → Char → Prop
  | typed {k : KeyEvent} {c : Char} (h : e.Types k c) (hp : e.pair? c = none)
      (ho : e.overtype? c = none) (hs : e.surround? c = none) : Inserts e k c
  | enter {k : KeyEvent} (h : e.Sends k "enter") : Inserts e k '\n'
  | tab {k : KeyEvent} (h : e.Sends k "tab") : Inserts e k '\t'

/-- The tab key goes to no field. -/
def Lingers (e : Editor) : Prop :=
  ∀ s, (e.fields.advance e.selection.start (some e.text)).1 ≠ .stop s

/-- The tab key expands no rule. -/
def Unexpanded (e : Editor) : Prop :=
  e.selection.isEmpty → e.fire e.text e.selection.start false true = .ok none

/-- The operations that record an edit: at once if the flag is set, else as part of the current
burst of typing. -/
inductive Records (e : Editor) : Operation → Bool → Prop
  | edit (text : Text) (caret changeStart d : Int) (immediate : Bool) (selection : Option Span) :
      Records e (.edit text caret changeStart d immediate selection) immediate
  | changedFired {text : Text} {caret : Int} {changeStart : Option Int} {inserted : Option Bool}
      {f : Fired} (h : (e.change text caret changeStart inserted).answer = .ok (some f)) :
      Records e (.change text caret changeStart inserted) true
  | changed {text : Text} {caret : Int} {changeStart : Option Int} {inserted : Option Bool}
      (h : (e.change text caret changeStart inserted).answer = .ok none) :
      Records e (.change text caret changeStart inserted) false
  | action {k : KeyEvent} {a : Action} {immediate : Bool}
      (ha : e.config.keymap.actionFor? k = some a) (h : Records e a.operation immediate) :
      Records e (.press k) immediate
  | paired {k : KeyEvent} {c : Char} (h : e.Types k c) (hp : (e.pair? c).isSome) :
      Records e (.press k) true
  | surrounded {k : KeyEvent} {c : Char} {e' : Editor} (h : e.Types k c) (hp : e.pair? c = none)
      (ho : e.overtype? c = none) (hs : e.surround? c = some ⟨e', .ok true⟩) :
      Records e (.press k) true
  | insertedFired {k : KeyEvent} {c : Char} {f : Fired} (h : e.Inserts k c)
      (hf : e.fire (e.text.splice e.selection.start e.selection.stop [c]) (e.selection.start + 1)
        true false = .ok (some f)) :
      Records e (.press k) true
  | inserted {k : KeyEvent} {c : Char} (h : e.Inserts k c)
      (hf : e.fire (e.text.splice e.selection.start e.selection.stop [c]) (e.selection.start + 1)
        true false = .ok none) :
      Records e (.press k) false
  | erasedPair {k : KeyEvent} (h : e.Sends k "backspace")
      (hs : e.selection.start = e.selection.stop) (h₀ : 0 < e.selection.start) (hp : e.InPair) :
      Records e (.press k) true
  | erased {k : KeyEvent} (h : e.Sends k "backspace")
      (he : e.selection.start ≠ e.selection.stop ∨ 0 < e.selection.start ∧ ¬e.InPair) :
      Records e (.press k) false
  | deleted {k : KeyEvent} (h : e.Sends k "delete")
      (he : e.selection.start ≠ e.selection.stop ∨ e.selection.start < e.text.length) :
      Records e (.press k) false
  | tabExpanded {f : Fired} (h : e.Lingers) (hs : e.selection.isEmpty)
      (hf : e.fire e.text e.selection.start false true = .ok (some f)) :
      Records e .nextField true
  | separated (h : e.Lingers) (hf : e.Unexpanded)
      (ht : (Latex.enclosingTabular? e.text e.selection.start).isSome) :
      Records e .nextField true
  | indented (h : e.Lingers) (hf : e.Unexpanded)
      (ht : (Latex.enclosingTabular? e.text e.selection.start).isNone)
      (hc : e.selection.start ≠ e.selection.stop ∨ e.nextChar?.any isClosing = false) :
      Records e .nextField true
  | expanded (h : e.expand.answer = .ok true) : Records e .expand true
  | smartFraction (h : e.smartFraction.2 = true) : Records e .smartFraction true
  | moveLine {direction : Int} (h : (e.moveLine (direction < 0)).2 = true) :
      Records e (.moveLine direction) true
  | deleteWord (h : e.deleteWord.2 = true) : Records e .deleteWord true
  | deleteLine (h : e.deleteLine.2 = true) : Records e .deleteLine true
  | newline : Records e .newline true

/-- The history after is the one before with one more snapshot pushed, now. -/
def Pushes (e : Editor) (immediate : Bool) (e' : Editor) : Prop :=
  ∃ s, e'.history = e.history.push e.now s immediate

variable {e e' : Editor} {k : KeyEvent} {c : Char}

section Pushes

theorem pushes_edit (text : Text) (caret changeStart d : Int) (immediate : Bool)
    (selection : Option Span) :
    e.Pushes immediate (e.edit text caret changeStart d immediate selection) :=
  ⟨_, rfl⟩

theorem pushes_splice (i j : Int) (w : Text) (caret : Int) (selection : Option Span) :
    e.Pushes true (e.splice i j w caret selection) :=
  ⟨_, rfl⟩

theorem pushes_applyExpansion (i j : Int) (x : Expansion) :
    e.Pushes true (e.applyExpansion i j x) := by
  unfold applyExpansion
  split <;> exact ⟨_, rfl⟩

theorem pushes_applyFired (f : Fired) : e.Pushes true (e.applyFired f) := by
  unfold applyFired
  split <;> exact ⟨_, rfl⟩

/-- Taking over a change records it, at once if a rule has fired, unless the search for one
fails. -/
theorem history_changed (e : Editor) (text : Text) (caret changeStart : Int) (inserted : Bool) :
    let o := e.changed text caret changeStart inserted
    (∃ f, o.answer = .ok (some f)) ∧ e.Pushes true o.editor ∨
      o.answer = .ok none ∧ e.Pushes false o.editor ∨
      (∃ x, o.answer = .error x) ∧ o.editor.history = e.history := by
  simp only [Editor.changed]
  split
  · split
    · exact .inr (.inr ⟨⟨_, rfl⟩, rfl⟩)
    · next f _ => exact .inl ⟨⟨f, rfl⟩, pushes_applyFired f⟩
    · exact .inr (.inl ⟨rfl, _, rfl⟩)
  · exact .inr (.inl ⟨rfl, _, rfl⟩)

theorem pushes_changed {text : Text} {caret changeStart : Int} {inserted : Bool}
    (h : (e.changed text caret changeStart inserted).answer = .ok none) :
    e.Pushes false (e.changed text caret changeStart inserted).editor := by
  rcases history_changed e text caret changeStart inserted with
    ⟨⟨f, hf⟩, -⟩ | ⟨-, hp⟩ | ⟨⟨x, hx⟩, -⟩
  · simp [h] at hf
  · exact hp
  · simp [h] at hx

theorem pushes_changed_fired {text : Text} {caret changeStart : Int} {inserted : Bool} {f : Fired}
    (h : (e.changed text caret changeStart inserted).answer = .ok (some f)) :
    e.Pushes true (e.changed text caret changeStart inserted).editor := by
  rcases history_changed e text caret changeStart inserted with ⟨-, hp⟩ | ⟨hn, -⟩ | ⟨⟨x, hx⟩, -⟩
  · exact hp
  · simp [h] at hn
  · simp [h] at hx

theorem history_surround {o : Outcome Bool} (h : e.surround? c = some o) :
    (∃ e', o = ⟨e', .ok true⟩ ∧ e.Pushes true e') ∨ ∃ x, o = ⟨e, .error x⟩ := by
  simp only [surround?] at h
  split at h
  · contradiction
  · split at h
    · contradiction
    · split at h
      · exact .inr ⟨_, (Option.some.inj h).symm⟩
      · exact .inl ⟨_, (Option.some.inj h).symm, pushes_applyExpansion ..⟩

theorem pushes_pair (h : e.pair? c = some e') : e.Pushes true e' := by
  simp only [pair?] at h
  split at h
  · contradiction
  · split at h
    · contradiction
    · obtain rfl := Option.some.inj h
      exact pushes_splice ..

theorem history_expand (e : Editor) :
    e.expand.answer = .ok true ∧ e.Pushes true e.expand.editor ∨
      e.expand.answer ≠ .ok true ∧ e.expand.editor = e := by
  unfold expand
  split
  · split
    · exact .inr ⟨by simp, rfl⟩
    · next f _ => exact .inl ⟨rfl, pushes_applyFired f⟩
    · exact .inr ⟨by simp, rfl⟩
  · exact .inr ⟨by simp, rfl⟩

theorem history_smartFraction (e : Editor) :
    e.smartFraction.2 = true ∧ e.Pushes true e.smartFraction.1 ∨ e.smartFraction = (e, false) := by
  rw [smartFraction_eq]
  split
  · exact .inr rfl
  · exact .inl ⟨rfl, pushes_applyExpansion ..⟩

theorem history_moveLine (e : Editor) (up : Bool) :
    (e.moveLine up).2 = true ∧ e.Pushes true (e.moveLine up).1 ∨ e.moveLine up = (e, false) := by
  simp only [Editor.moveLine]
  generalize (if up then raise? _ _ _ else lower? _ _ _) = moved
  cases moved with
  | none => exact .inr rfl
  | some m => exact .inl ⟨rfl, _, rfl⟩

theorem history_deleteWord (e : Editor) :
    e.deleteWord.2 = true ∧ e.Pushes true e.deleteWord.1 ∨ e.deleteWord = (e, false) := by
  simp only [Editor.deleteWord]
  split
  · exact .inl ⟨rfl, _, rfl⟩
  · split
    · exact .inr rfl
    · exact .inl ⟨rfl, _, rfl⟩

theorem history_deleteLine (e : Editor) :
    e.deleteLine.2 = true ∧ e.Pushes true e.deleteLine.1 ∨ e.deleteLine = (e, false) := by
  simp only [Editor.deleteLine]
  split
  · exact .inr rfl
  · split <;> exact .inl ⟨rfl, _, rfl⟩

/-- A command that has answered that it did something is one that has recorded it. -/
theorem pushes_of_answer {r : Editor × Bool}
    (h : r.2 = true ∧ e.Pushes true r.1 ∨ r = (e, false)) (hr : r.2 = true) :
    e.Pushes true r.1 := by
  rcases h with ⟨-, hp⟩ | rfl
  · exact hp
  · contradiction

theorem pushes_newline : e.Pushes true e.newline.1 := ⟨_, rfl⟩

end Pushes

section Press

theorem act_operation (a : Action) : (e.act a).editor = e.perform a.operation := by
  cases a <;> rfl

theorem press_action {a : Action} (h : e.config.keymap.actionFor? k = some a) :
    (e.press k).editor = e.perform a.operation := by
  rw [← act_operation, press, h]
  rfl

theorem Types.press (h : e.Types k c) : e.press k = e.type c := by
  simp only [Editor.press, h.unbound, if_neg h.notEscape, h.char]

theorem Sends.press {name : String} (h : e.Sends k name) (hn : name.toList ≠ "escape".toList) :
    e.press k = e.pressSpecial k := by
  have hk : k.name ≠ "escape".toList := h.named ▸ hn
  simp only [Editor.press, h.unbound, if_neg hk, h.char]

theorem Sends.backspace (h : e.Sends k "backspace") : e.press k = e.backspace := by
  rw [h.press (by decide), pressSpecial, h.plain, if_neg Bool.false_ne_true, h.named, if_pos rfl]

theorem Sends.delete (h : e.Sends k "delete") : e.press k = e.deleteForward := by
  rw [h.press (by decide), pressSpecial, h.plain, if_neg Bool.false_ne_true, h.named,
    if_neg (by decide), if_pos rfl]

theorem Inserts.press (h : e.Inserts k c) : e.press k = e.insert [c] := by
  cases h with
  | typed h hp ho hs => simp only [h.press, Editor.type, hp, ho, hs]
  | enter h =>
    rw [h.press (by decide), pressSpecial, h.plain, if_neg Bool.false_ne_true, h.named,
      if_neg (by decide), if_neg (by decide), if_pos rfl]
  | tab h =>
    rw [h.press (by decide), pressSpecial, h.plain, if_neg Bool.false_ne_true, h.named,
      if_neg (by decide), if_neg (by decide), if_neg (by decide), if_pos rfl]

theorem nextField_of_lingers (h : e.Lingers) :
    e.nextField = (e.setFields e.waiting).tabExpand := by
  cases ha : e.fields.advance e.selection.start (some e.text) with
  | mk step rest =>
    cases step with
    | stop s => exact absurd (congrArg Prod.fst ha) (h s)
    | separator | nothing =>
      obtain ⟨s, hs⟩ | rfl := FieldQueue.advance_rest ha
      · contradiction
      · rw [nextField, ha]
        rfl

theorem nextField_unexpanded (h : e.Lingers) (hf : e.Unexpanded) :
    e.nextField = ⟨(e.setFields e.waiting).tabInsert, .ok true⟩ := by
  rw [nextField_of_lingers h, tabExpand_setFields]
  split
  · next hs => rw [hf hs]
  · rfl

end Press

theorem Records.pushes {o : Operation} {immediate : Bool} (h : e.Records o immediate) :
    e.Pushes immediate (e.perform o) := by
  induction h with
  | edit => exact pushes_edit ..
  | changedFired h => exact pushes_changed_fired h
  | changed h => exact pushes_changed h
  | action ha _ ih =>
    rw [perform, press_action ha]
    exact ih
  | @paired k c h hp =>
    obtain ⟨e', he⟩ := Option.isSome_iff_exists.1 hp
    rw [perform, h.press, Editor.type, he]
    exact pushes_pair he
  | surrounded h hp ho hs =>
    rw [perform, h.press]
    simp only [Editor.type, hp, ho, hs]
    rcases history_surround hs with ⟨_, he, hp⟩ | ⟨x, hx⟩
    · obtain ⟨rfl, -⟩ := Outcome.mk.inj he
      exact hp
    · simp at hx
  | insertedFired h hf =>
    rw [perform, h.press]
    exact pushes_changed_fired (answer_changed hf _)
  | inserted h hf =>
    rw [perform, h.press]
    exact pushes_changed (answer_changed hf _)
  | erasedPair h hs h₀ hp =>
    rw [perform, h.backspace, backspace_pair hs h₀ hp]
    exact pushes_splice ..
  | erased h he =>
    rw [perform, h.backspace]
    by_cases hs : e.selection.start = e.selection.stop
    · obtain ⟨h₀, hp⟩ := he.resolve_left (not_not_intro hs)
      rw [backspace_char hs h₀ hp]
      exact pushes_changed rfl
    · rw [backspace_selection hs]
      exact pushes_changed rfl
  | deleted h he =>
    rw [perform, h.delete]
    by_cases hs : e.selection.start = e.selection.stop
    · rw [deleteForward_char hs (he.resolve_left (not_not_intro hs))]
      exact pushes_changed rfl
    · rw [deleteForward_selection hs]
      exact pushes_changed rfl
  | @tabExpanded f h hs hf =>
    rw [perform, nextField_of_lingers h, tabExpand_setFields, if_pos hs, hf]
    exact pushes_applyFired (e := e.setFields e.waiting) f
  | separated h hf ht =>
    rw [perform, nextField_unexpanded h hf, tabInsert_separator (e := e.setFields e.waiting) ht]
    exact pushes_splice (e := e.setFields e.waiting) ..
  | indented h hf ht hc =>
    rw [perform, nextField_unexpanded h hf, tabInsert_indent (e := e.setFields e.waiting) ht hc]
    exact pushes_splice (e := e.setFields e.waiting) ..
  | expanded h =>
    rcases history_expand e with ⟨-, hp⟩ | ⟨hn, -⟩
    · exact hp
    · contradiction
  | smartFraction h => exact pushes_of_answer (history_smartFraction e) h
  | moveLine h => exact pushes_of_answer (history_moveLine e _) h
  | deleteWord h => exact pushes_of_answer (history_deleteWord e) h
  | deleteLine h => exact pushes_of_answer (history_deleteLine e) h
  | newline => exact pushes_newline

/-- A step back or forward in the history, or none. -/
def Travels (e e' : Editor) : Prop :=
  e'.history = e.history ∨ e.history.undo? = some e'.history ∨ e.history.redo? = some e'.history

/-- The operation either records an edit or keeps all that is recorded. -/
def Tracked (e : Editor) (o : Operation) : Prop :=
  (∃ immediate, e.Records o immediate) ∨ e.Travels (e.perform o)

variable {o : Operation}

theorem Records.tracked {immediate : Bool} (h : e.Records o immediate) : e.Tracked o :=
  .inl ⟨immediate, h⟩

theorem tracked_of_eq (h : (e.perform o).history = e.history) : e.Tracked o := .inr (.inl h)

theorem tracked_undo : e.Tracked .undo := by
  right
  simp only [perform, undo, restore]
  cases h : e.history.undo? with
  | none => exact .inl rfl
  | some h' => exact .inr (.inl h)

theorem tracked_redo : e.Tracked .redo := by
  right
  simp only [perform, redo, restore]
  cases h : e.history.redo? with
  | none => exact .inl rfl
  | some h' => exact .inr (.inr h)

theorem tracked_command {r : Editor × Bool} (hr : e.perform o = r.1)
    (hb : r.2 = true → e.Records o true) (h : r.2 = true ∧ e.Pushes true r.1 ∨ r = (e, false)) :
    e.Tracked o := by
  rcases h with ⟨h, -⟩ | h
  · exact (hb h).tracked
  · exact tracked_of_eq (by rw [hr, h])

theorem tracked_moveLine (direction : Int) : e.Tracked (.moveLine direction) :=
  tracked_command rfl .moveLine (history_moveLine ..)

theorem tracked_expand : e.Tracked .expand := by
  rcases history_expand e with ⟨h, -⟩ | ⟨-, h⟩
  · exact (Records.expanded h).tracked
  · exact tracked_of_eq (congrArg history h)

theorem tracked_nextField : e.Tracked .nextField := by
  by_cases hl : e.Lingers
  · by_cases hf : e.Unexpanded
    · by_cases ht : (Latex.enclosingTabular? e.text e.selection.start).isSome
      · exact (Records.separated hl hf ht).tracked
      · have hn : (Latex.enclosingTabular? e.text e.selection.start).isNone := by simpa using ht
        by_cases hc : e.selection.start = e.selection.stop ∧ e.nextChar?.any isClosing = true
        · apply tracked_of_eq
          rw [perform, nextField_unexpanded hl hf,
            tabInsert_closing (e := e.setFields e.waiting) hn hc.1 hc.2]
          rfl
        · rw [Decidable.not_and_iff_or_not, Bool.not_eq_true] at hc
          exact (Records.indented hl hf hn hc).tracked
    · obtain ⟨hs, hf⟩ := Classical.not_imp.1 hf
      cases ho : e.fire e.text e.selection.start false true with
      | error x =>
        apply tracked_of_eq
        rw [perform, nextField_of_lingers hl, tabExpand_setFields, if_pos hs, ho]
        rfl
      | ok o =>
        cases o with
        | none => contradiction
        | some f => exact (Records.tabExpanded hl hs ho).tracked
  · obtain ⟨s, hs⟩ := Classical.not_forall.1 hl
    cases ha : e.fields.advance e.selection.start (some e.text) with
    | mk step rest =>
      rw [ha] at hs
      obtain rfl : step = .stop s := Classical.not_not.1 hs
      apply tracked_of_eq
      rw [perform, nextField, ha]
      rfl

theorem tracked_action (a : Action) : e.Tracked a.operation := by
  cases a with
  | undo => exact tracked_undo
  | redo => exact tracked_redo
  | smartFraction => exact tracked_command rfl .smartFraction (history_smartFraction e)
  | moveLineUp | moveLineDown => exact tracked_moveLine _
  | nextField => exact tracked_nextField
  | indent => exact Records.newline.tracked
  | deleteWord => exact tracked_command rfl .deleteWord (history_deleteWord e)
  | deleteLine => exact tracked_command rfl .deleteLine (history_deleteLine e)

theorem Inserts.tracked (h : e.Inserts k c) : e.Tracked (.press k) := by
  cases hf : e.fire (e.text.splice e.selection.start e.selection.stop [c]) (e.selection.start + 1)
      true false with
  | error x =>
    apply tracked_of_eq
    rw [perform, h.press]
    simp only [insert, Outcome.map, Editor.changed, List.isEmpty_cons, Bool.not_false, if_true,
      List.length_singleton, Int.natCast_one, hf]
    rfl
  | ok o =>
    cases o with
    | none => exact (Records.inserted h hf).tracked
    | some f => exact (Records.insertedFired h hf).tracked

theorem Types.tracked (h : e.Types k c) : e.Tracked (.press k) := by
  cases hp : e.pair? c with
  | some e' => exact (Records.paired h (by rw [hp]; rfl)).tracked
  | none =>
    cases ho : e.overtype? c with
    | some e' =>
      apply tracked_of_eq
      rw [perform, h.press]
      simp only [Editor.type, hp, ho]
      unfold overtype? at ho
      split at ho
      · obtain rfl := Option.some.inj ho
        rfl
      · contradiction
    | none =>
      cases hs : e.surround? c with
      | none => exact Inserts.tracked (.typed h hp ho hs)
      | some o =>
        rcases history_surround hs with ⟨e', rfl, -⟩ | ⟨x, rfl⟩
        · exact (Records.surrounded h hp ho hs).tracked
        · apply tracked_of_eq
          rw [perform, h.press]
          simp only [Editor.type, hp, ho, hs]

theorem Sends.tracked_backspace (he : e.Sound) (h : e.Sends k "backspace") :
    e.Tracked (.press k) := by
  by_cases hs : e.selection.start = e.selection.stop
  · by_cases h₀ : e.selection.start = 0
    · have hb : e.backspace.editor = e := by simp [Editor.backspace, hs, hs ▸ h₀]
      apply tracked_of_eq
      rw [perform, h.backspace, hb]
    · have h₀ : 0 < e.selection.start := Int.lt_iff_le_and_ne.2 ⟨he.selection.1.1, Ne.symm h₀⟩
      by_cases hp : e.InPair
      · exact (Records.erasedPair h hs h₀ hp).tracked
      · exact (Records.erased h (.inr ⟨h₀, hp⟩)).tracked
  · exact (Records.erased h (.inl hs)).tracked

theorem Sends.tracked_delete (h : e.Sends k "delete") : e.Tracked (.press k) := by
  by_cases hs : e.selection.start = e.selection.stop
  · by_cases hl : e.selection.start < e.text.length
    · exact (Records.deleted h (.inr hl)).tracked
    · rw [hs, Int.not_lt] at hl
      have hd : e.deleteForward.editor = e := by simp [deleteForward, hs, hl]
      apply tracked_of_eq
      rw [perform, h.delete, hd]
  · exact (Records.deleted h (.inl hs)).tracked

theorem Sound.tracked_press (he : e.Sound) (k : KeyEvent) : e.Tracked (.press k) := by
  cases ha : e.config.keymap.actionFor? k with
  | some a =>
    rcases tracked_action (e := e) a with ⟨b, h⟩ | h
    · exact (Records.action ha h).tracked
    · right
      rwa [Editor.perform, press_action ha]
  | none =>
    by_cases hn : k.name = "escape".toList
    · apply tracked_of_eq
      simp only [Editor.perform, Editor.press, ha, if_pos hn]
      rfl
    · cases hc : k.char? with
      | some c => exact Types.tracked ⟨ha, hn, hc⟩
      | none =>
        have hp : e.press k = e.pressSpecial k := by simp only [Editor.press, ha, if_neg hn, hc]
        cases hk : k.isCommand with
        | true =>
          apply tracked_of_eq
          rw [Editor.perform, hp, Editor.pressSpecial, hk, if_pos rfl]
        | false =>
          by_cases h₁ : k.name = "backspace".toList
          · exact Sends.tracked_backspace he ⟨ha, hc, hk, h₁⟩
          by_cases h₂ : k.name = "delete".toList
          · exact Sends.tracked_delete ⟨ha, hc, hk, h₂⟩
          by_cases h₃ : k.name = "enter".toList
          · exact Inserts.tracked (.enter ⟨ha, hc, hk, h₃⟩)
          by_cases h₄ : k.name = "tab".toList
          · exact Inserts.tracked (.tab ⟨ha, hc, hk, h₄⟩)
          apply tracked_of_eq
          rw [Editor.perform, hp, Editor.pressSpecial, hk, if_neg Bool.false_ne_true, if_neg h₁,
            if_neg h₂, if_neg h₃, if_neg h₄]

theorem tracked_change (text : Text) (caret : Int) (changeStart : Option Int)
    (inserted : Option Bool) : e.Tracked (.change text caret changeStart inserted) := by
  cases h : (e.change text caret changeStart inserted).answer with
  | ok o =>
    cases o with
    | none => exact (Records.changed h).tracked
    | some f => exact (Records.changedFired h).tracked
  | error x =>
    rcases history_changed e text caret _ _ with ⟨⟨f, hf⟩, -⟩ | ⟨hn, -⟩ | ⟨-, hh⟩
    · exact absurd (h.symm.trans hf) (by simp)
    · exact absurd (h.symm.trans hn) (by simp)
    · exact tracked_of_eq hh

/-- Of an operation that is not a run of several presses, what it does to the history is known. -/
theorem Sound.tracked (he : e.Sound) (o : Operation) :
    e.Tracked o ∨ ∃ ks, e.perform o = (e.pressAll ks).editor := by
  cases o with
  | select | cancel | reload => exact .inl (tracked_of_eq rfl)
  | edit => exact .inl (Records.edit ..).tracked
  | change => exact .inl (tracked_change ..)
  | press k => exact .inl (he.tracked_press k)
  | typeText t => exact .inr ⟨_, rfl⟩
  | feedKeys sequence =>
    right
    simp only [Editor.perform, feedKeys]
    cases Key.readSequence sequence with
    | error x => exact ⟨[], rfl⟩
    | ok ks => exact ⟨ks, rfl⟩
  | nextField => exact .inl tracked_nextField
  | expand => exact .inl tracked_expand
  | smartFraction => exact .inl (tracked_action .smartFraction)
  | moveLine direction => exact .inl (tracked_moveLine direction)
  | deleteWord => exact .inl (tracked_action .deleteWord)
  | deleteLine => exact .inl (tracked_action .deleteLine)
  | newline => exact .inl (tracked_action .indent)
  | undo => exact .inl tracked_undo
  | redo => exact .inl tracked_redo

end Editor

end LatexSnippets
