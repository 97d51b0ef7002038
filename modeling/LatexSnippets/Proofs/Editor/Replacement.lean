import LatexSnippets.Proofs.Editor.Sound
import LatexSnippets.Proofs.Text

/-!
Edits that replace one part of the text and keep the pending stops. Stops beyond the replaced part
move with the text behind it, stops before it stay.
-/

namespace LatexSnippets

/-- What an edit puts in place of what. -/
structure Replacement where
  start : Int
  stop : Int
  word : Text
  /-- Stops that start before this offset are left alone. -/
  pivot : Int
  /-- How far before `stop` a stop may start and still not end up before `start`. -/
  slack : Int
  deriving DecidableEq

namespace Replacement

/-- Stops count from the start of what is replaced. -/
def plain (start stop : Int) (word : Text) : Replacement := ⟨start, stop, word, start, word.length⟩

def growth (r : Replacement) : Int := r.word.length - (r.stop - r.start)

structure In (r : Replacement) (t : Text) : Prop where
  start_nonneg : 0 ≤ r.start
  start_le_pivot : r.start ≤ r.pivot
  pivot_le_stop : r.pivot ≤ r.stop
  stop_le : r.stop ≤ t.length

theorem in_mk {a b p n : Int} {w t : Text} (h₀ : 0 ≤ a) (hap : a ≤ p) (hpb : p ≤ b)
    (hb : b ≤ t.length) : (⟨a, b, w, p, n⟩ : Replacement).In t :=
  ⟨h₀, hap, hpb, hb⟩

/-- How far a stop moves that starts inside what is replaced. -/
def drag (r : Replacement) : Int := r.slack - (r.stop - r.start)

/-- What becomes of a stop. One that starts before the pivot is left alone, one behind what is
replaced moves with the text there, and one in between is dragged along; nothing is left of it if it
would start before the text. -/
def carry (r : Replacement) (s : Span) : Option Span :=
  if s.start < r.pivot then some s
  else if r.stop ≤ s.start then some (s.shift r.growth)
  else if 0 ≤ s.start + r.drag then some (s.shift r.drag)
  else none

/-- Stops are shifted once, if at all: what is put in makes up for what is replaced, or no stop is
shifted that starts in between. -/
def IsSingle (r : Replacement) : Prop := r.slack = r.word.length ∨ r.pivot = r.stop

/-- In place of the text `t` and the queue `q` there is now a text in which one part is replaced,
and a queue in which each stop is carried along. -/
structure Made (r : Replacement) (t : Text) (q : FieldQueue) (e' : Editor) : Prop where
  isIn : r.In t
  text : e'.text = t.splice r.start r.stop r.word
  fields : e'.fields = q.filterMap r.carry

section Carry

variable {r : Replacement} {t : Text} {s s' : Span}

theorem carry_before (h : s.start < r.pivot) : r.carry s = some s := if_pos h

theorem carry_beyond (hr : r.In t) (h : r.stop ≤ s.start) :
    r.carry s = some (s.shift r.growth) := by
  rw [carry, if_neg (Int.not_lt.2 (Int.le_trans hr.pivot_le_stop h)), if_pos h]

theorem carry_between (h : r.pivot ≤ s.start) (h' : s.start < r.stop) :
    r.carry s = if 0 ≤ s.start + r.drag then some (s.shift r.drag) else none := by
  rw [carry, if_neg (Int.not_lt.2 h), if_neg (Int.not_le.2 h')]

theorem carry_eq_some : r.carry s = some s' ↔
    s.start < r.pivot ∧ s' = s ∨
      r.pivot ≤ s.start ∧ r.stop ≤ s.start ∧ s' = s.shift r.growth ∨
      r.pivot ≤ s.start ∧ s.start < r.stop ∧ 0 ≤ s.start + r.drag ∧ s' = s.shift r.drag := by
  unfold carry
  split
  · next h => simp [h, Int.not_le.2 h, eq_comm]
  · next h =>
    split
    · next h' => simp [h, Int.not_lt.1 h, h', Int.not_lt.2 h', eq_comm]
    · next h' =>
      split
      · next hd => simp [h, Int.not_lt.1 h, h', Int.not_le.1 h', hd, eq_comm]
      · next hd => simp [h, h', hd]

theorem move_eq_carry (h : r.In t) (hr : r.IsSingle) (h₀ : s.Proper) :
    FieldQueue.move r.growth r.pivot s = r.carry s := by
  have hs₀ := h₀.1
  obtain ⟨h₁, h₂, h₃, h₄⟩ := h
  by_cases hb : s.start < r.pivot
  · rw [carry_before hb, FieldQueue.move_of_lt hb hs₀]
  · have hp := Int.not_lt.1 hb
    by_cases hj : r.stop ≤ s.start
    · rw [carry_beyond ⟨h₁, h₂, h₃, h₄⟩ hj]
      apply FieldQueue.move_of_le hp
      simp only [growth]
      omega
    · have hg : r.growth = r.drag := by
        rcases hr with hr | hr
        · rw [growth, drag, hr]
        · omega
      rw [carry_between hp (Int.not_le.1 hj), ← hg]
      exact FieldQueue.move_of_ge hp hs₀

end Carry

theorem length_splice {r : Replacement} {t : Text} (h : r.In t) :
    ((t.splice r.start r.stop r.word).length : Int) - t.length = r.growth := by
  have := Text.length_splice (w := r.word) h.start_nonneg
    (Int.le_trans h.start_le_pivot h.pivot_le_stop) h.stop_le
  simp only [growth]
  omega

theorem plain_in {i j : Int} {w t : Text} (h₀ : 0 ≤ i) (hij : i ≤ j) (hj : j ≤ t.length) :
    (plain i j w).In t :=
  in_mk h₀ (Int.le_refl i) hij hj

/-- What stands in place of a part after a rule has fired at the end of what was put there: the
rule may reach back beyond the part. -/
def fired (r : Replacement) (t : Text) (f : Fired) : Replacement where
  start := min r.start f.start
  stop := r.stop
  word := r.word.take (f.start - r.start).toNat ++ f.put (t.splice r.start r.stop r.word)
  pivot := r.pivot
  slack := r.word.length + (r.start - min r.start f.start)

section Fired

variable {r : Replacement} {t : Text} {rules : List Rule} {forceMath auto manual : Bool} {f : Fired}

theorem fired_spec (h : r.In t)
    (hf : fire (t.splice r.start r.stop r.word) (r.start + r.word.length) rules forceMath auto
      manual = .ok (some f)) :
    f.stop = r.start + r.word.length ∧ 0 ≤ f.start ∧ f.start ≤ r.start + r.word.length ∧
      f.text = t.splice (r.fired t f).start (r.fired t f).stop (r.fired t f).word := by
  have hij := Int.le_trans h.start_le_pivot h.pivot_le_stop
  have hl := Text.length_splice (w := r.word) h.start_nonneg hij h.stop_le
  have := h.start_nonneg
  have := h.stop_le
  obtain ⟨h₁, h₂, h₃, h₄⟩ := Fired.text_eq_splice hf (by omega) (by omega)
  refine ⟨h₁, h₂, h₃, ?_⟩
  rw [h₄, Text.splice_splice h.start_nonneg hij h.stop_le h₂ h₃]
  rfl

theorem growth_fired (h : r.In t)
    (hf : fire (t.splice r.start r.stop r.word) (r.start + r.word.length) rules forceMath auto
      manual = .ok (some f)) :
    (f.text.length : Int) - (t.splice r.start r.stop r.word).length + r.growth =
      (r.fired t f).growth := by
  obtain ⟨-, h₁, h₂, h₃⟩ := fired_spec h hf
  have hs := h.start_nonneg
  have hij := Int.le_trans h.start_le_pivot h.pivot_le_stop
  have hl := length_splice h
  have hl' := Text.length_splice (t := t) (i := (r.fired t f).start) (j := (r.fired t f).stop)
    (w := (r.fired t f).word) (by simp only [fired]; omega) (by simp only [fired]; omega) h.stop_le
  rw [h₃, hl']
  simp only [growth] at *
  omega

theorem fired_in (h : r.In t)
    (hf : fire (t.splice r.start r.stop r.word) (r.start + r.word.length) rules forceMath auto
      manual = .ok (some f)) : (r.fired t f).In t := by
  obtain ⟨-, h₁, h₂, -⟩ := fired_spec h hf
  obtain ⟨h₃, h₄, h₅, h₆⟩ := h
  refine ⟨?_, ?_, h₅, h₆⟩ <;> simp only [fired] <;> omega

/-- The shift for what was put in and then the shift for what the rule made of it. -/
theorem move_move_eq_carry (h : r.In t) (hp : r.pivot ≤ r.start + r.word.length)
    (hr : r.slack = r.word.length)
    (hf : fire (t.splice r.start r.stop r.word) (r.start + r.word.length) rules forceMath auto
      manual = .ok (some f)) {s : Span} (h₀ : s.Proper) :
    (FieldQueue.move r.growth r.pivot s).bind
      (FieldQueue.move (f.text.length - (t.splice r.start r.stop r.word).length) f.stop) =
        (r.fired t f).carry s := by
  have hs₀ := h₀.1
  have hg := growth_fired h hf
  have hin := fired_in h hf
  obtain ⟨hstop, h₁, h₂, -⟩ := fired_spec h hf
  rw [hstop, move_eq_carry h (.inl hr) h₀]
  by_cases hb : s.start < r.pivot
  · rw [carry_before hb, carry_before (r := r.fired t f) hb]
    exact FieldQueue.move_of_lt (Int.lt_of_lt_of_le hb hp) hs₀
  by_cases hj : r.stop ≤ s.start
  · have hgrowth : (r.fired t f).growth =
        (r.fired t f).word.length - (r.stop - (r.fired t f).start) := rfl
    have hlow := hin.start_nonneg
    rw [carry_beyond h hj, carry_beyond hin hj, Option.bind_some, ← hg, Int.add_comm _ r.growth,
      ← Span.shift_shift]
    apply FieldQueue.move_of_le
    · simp only [Span.shift_start, growth]
      omega
    · simp only [Span.shift_start]
      omega
  · have hd : (r.fired t f).drag = r.drag := by
      simp only [drag, fired]
      omega
    rw [carry_between (Int.not_lt.1 hb) (Int.not_le.1 hj),
      carry_between (r := r.fired t f) (Int.not_lt.1 hb) (Int.not_le.1 hj), hd]
    split
    · apply FieldQueue.move_of_lt
      · simp only [Span.shift_start, drag]
        omega
      · assumption
    · rfl

end Fired

end Replacement

namespace Editor

open Replacement

variable {e : Editor} {r : Replacement}

theorem made_record (h : r.In e.text) (hr : r.IsSingle) (hp : ∀ s ∈ e.fields, s.Proper)
    (caret : Int) (immediate : Bool) (selection : Span) :
    r.Made e.text e.fields ((e.shiftFields r.growth r.pivot).record
      (e.text.splice r.start r.stop r.word) caret immediate selection) where
  isIn := h
  text := rfl
  fields := (FieldQueue.shift_eq_filterMap e.fields r.growth r.pivot).trans
    (List.filterMap_congr fun s hm => move_eq_carry h hr (hp s hm))

theorem made_splice {i j : Int} {w : Text} (h₀ : 0 ≤ i) (hij : i ≤ j) (hj : j ≤ e.text.length)
    (hp : ∀ s ∈ e.fields, s.Proper) (caret : Int) (selection : Option Span) :
    (plain i j w).Made e.text e.fields (e.splice i j w caret selection) :=
  made_record (plain_in h₀ hij hj) (.inl rfl) hp ..

theorem made_applyExpansion {i j : Int} {x : Expansion} (h₀ : 0 ≤ i) (hij : i ≤ j)
    (hj : j ≤ e.text.length) (hp : ∀ s ∈ e.fields, s.Proper) (hx : x.remaining = []) :
    (plain i j x.text).Made e.text e.fields (e.applyExpansion i j x) := by
  rw [Editor.applyExpansion, hx]
  exact made_splice h₀ hij hj hp ..

theorem answer_changed {text : Text} {caret : Int} {o : Option Fired}
    (h : e.fire text caret true false = .ok o) (changeStart : Int) :
    (e.changed text caret changeStart true).answer = .ok o := by
  simp only [Editor.changed, h, if_true]
  cases o <;> rfl

theorem made_changed (h : r.In e.text) (hr : r.IsSingle)
    (hp : ∀ s ∈ e.fields, s.Proper) {caret : Int} {inserted : Bool}
    (hc : (e.changed (e.text.splice r.start r.stop r.word) caret r.pivot inserted).answer =
      .ok none) :
    r.Made e.text e.fields
      (e.changed (e.text.splice r.start r.stop r.word) caret r.pivot inserted).editor := by
  have hm := made_record h hr hp caret false
    (.caret (inside (e.text.splice r.start r.stop r.word) caret))
  rw [← length_splice h] at hm
  cases inserted with
  | false => exact hm
  | true =>
    simp only [Editor.changed, if_true] at *
    cases hf : e.fire (e.text.splice r.start r.stop r.word) caret true false with
    | error x => simp [hf] at hc
    | ok o =>
      cases o with
      | none => exact hm
      | some f => simp [hf] at hc

theorem made_changed_fired (h : r.In e.text) (hr : r.pivot ≤ r.start + r.word.length)
    (hs : r.slack = r.word.length) (hp : ∀ s ∈ e.fields, s.Proper) {inserted : Bool} {f : Fired}
    (hc : (e.changed (e.text.splice r.start r.stop r.word) (r.start + r.word.length) r.pivot
      inserted).answer = .ok (some f)) (hf : f.fields = []) :
    (r.fired e.text f).Made e.text e.fields (e.changed (e.text.splice r.start r.stop r.word)
      (r.start + r.word.length) r.pivot inserted).editor := by
  cases inserted with
  | false => simp [Editor.changed] at hc
  | true =>
    simp only [Editor.changed, if_true] at *
    cases hg : e.fire (e.text.splice r.start r.stop r.word) (r.start + r.word.length) true false with
    | error x => simp [hg] at hc
    | ok o =>
      cases o with
      | none => simp [hg] at hc
      | some g =>
        simp only [hg, Except.ok.injEq, Option.some.injEq] at hc
        obtain rfl := hc
        simp only [applyFired, hf, List.isEmpty_nil, if_true]
        refine ⟨fired_in h hg, (fired_spec h hg).2.2.2, ?_⟩
        rw [← FieldQueue.shift_shift_eq fun s hm => move_move_eq_carry h hr hs hg (hp s hm),
          ← length_splice h]
        rfl

theorem made_applyFired {auto manual : Bool} {f : Fired} (hs : e.Sound)
    (hf : e.fire e.text e.selection.start auto manual = .ok (some f)) (hq : f.fields = []) :
    (⟨f.start, e.selection.start, f.put e.text, e.selection.start, 0⟩ : Replacement).Made
      e.text e.fields (e.applyFired f) := by
  obtain ⟨⟨h₀, h₁⟩, h₂⟩ := hs.selection
  obtain ⟨h₃, h₄, h₅, h₆⟩ := Fired.text_eq_splice hf h₀ (Int.le_trans h₁ h₂)
  have hin : (⟨f.start, e.selection.start, f.put e.text, e.selection.start, 0⟩ : Replacement).In
      e.text := ⟨h₄, h₅, Int.le_refl _, Int.le_trans h₁ h₂⟩
  have hm := made_record hin (.inr rfl) hs.pending f.selection.stop true f.selection
  rw [applyFired, hq, Editor.edit, h₃, h₆]
  rw [← length_splice hin] at hm
  exact hm

end Editor

end LatexSnippets
