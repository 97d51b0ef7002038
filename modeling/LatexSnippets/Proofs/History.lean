import LatexSnippets.History

/-!
What pushing, undoing and redoing do to the line of snapshots. Undo and redo only move the pointer,
and the oldest snapshot is never replaced: only a snapshot pushed before can be joined by the next.
-/

namespace LatexSnippets.History

variable {h h' : History} {now : Float} {s : Snapshot} {immediate : Bool}

@[simp] theorem current_push (h : History) (now : Float) (s : Snapshot) (immediate : Bool) :
    (h.push now s immediate).current = s := by
  unfold push
  split <;> rfl

theorem mem_entries_push {x : Snapshot} (hs : s ∈ (h.push now x immediate).entries) :
    s = x ∨ s ∈ h.entries := by
  unfold push at hs
  split at hs
  · simp only [entries, List.mem_append, List.mem_cons, List.mem_reverse] at *
    rcases hs with hs | rfl | hs <;> simp [*]
  · simp only [entries, List.mem_append, List.mem_cons, List.mem_reverse, List.not_mem_nil,
      or_false] at *
    rcases hs with (rfl | hs) | rfl <;> simp [*]

theorem undo?_eq_some (hu : h.undo? = some h') :
    ∃ s past, h.past = s :: past ∧
      h' = { h with past := past, current := s, future := h.current :: h.future } := by
  unfold undo? at hu
  split at hu
  · contradiction
  · next s past hp => exact ⟨s, past, hp, (Option.some.inj hu).symm⟩

theorem redo?_eq_some (hr : h.redo? = some h') :
    ∃ s future, h.future = s :: future ∧
      h' = { h with past := h.current :: h.past, current := s, future := future } := by
  unfold redo? at hr
  split at hr
  · contradiction
  · next s future hf => exact ⟨s, future, hf, (Option.some.inj hr).symm⟩

theorem entries_undo (hu : h.undo? = some h') : h'.entries = h.entries := by
  obtain ⟨s, past, hp, rfl⟩ := undo?_eq_some hu
  simp [entries, hp]

theorem entries_redo (hr : h.redo? = some h') : h'.entries = h.entries := by
  obtain ⟨s, future, hf, rfl⟩ := redo?_eq_some hr
  simp [entries, hf]

/-- One push, and nothing to go forward to, whichever way the snapshot is recorded. -/
@[simp] theorem redo?_push (h : History) (now : Float) (s : Snapshot) (immediate : Bool) :
    (h.push now s immediate).redo? = none := by
  unfold push
  split
  · next hc =>
    simp only [Bool.and_eq_true, List.isEmpty_iff] at hc
    simp [redo?, hc.1]
  · rfl

/-- A snapshot recorded at once can be undone, wherever the pointer was. -/
theorem undo?_push (h : History) (now : Float) (s : Snapshot) :
    ∃ h', (h.push now s true).undo? = some h' ∧ h'.current = h.current := by
  unfold push
  rw [if_neg (by simp)]
  exact ⟨_, rfl, rfl⟩

theorem redo?_of_undo? (hu : h.undo? = some h') : h'.redo? = some h := by
  obtain ⟨s, past, hp, rfl⟩ := undo?_eq_some hu
  simp only [redo?, ← hp]

theorem length_past_undo (hu : h.undo? = some h') : h'.past.length < h.past.length := by
  obtain ⟨s, past, hp, rfl⟩ := undo?_eq_some hu
  simp [hp]

/-- The line of snapshots begins with `first`, and a snapshot that stands alone was not pushed. -/
structure Rooted (first : Snapshot) (h : History) : Prop where
  head : h.entries.head? = some first
  lone : h.past = [] → h.future = [] → h.lastPush = none

variable {first : Snapshot}

theorem rooted_ofSnapshot (first : Snapshot) (window : Float) :
    Rooted first (ofSnapshot first window) :=
  ⟨rfl, fun _ _ => rfl⟩

theorem Rooted.push (hr : Rooted first h) (now : Float) (s : Snapshot) (immediate : Bool) :
    Rooted first (h.push now s immediate) := by
  have hh := hr.head
  unfold History.push
  split
  · next hc =>
    simp only [Bool.and_eq_true, List.isEmpty_iff, Bool.not_eq_true', Bool.or_eq_false_iff] at hc
    obtain ⟨hf, -, hs⟩ := hc
    -- A burst has been pushed into already, so the snapshot that it overwrites is not the first.
    have hp : h.past ≠ [] := by
      intro hp
      rw [isStale, hr.lone hp hf] at hs
      contradiction
    refine ⟨?_, fun hp' => absurd hp' hp⟩
    obtain ⟨oldest, later, hl⟩ := List.exists_cons_of_ne_nil (List.reverse_ne_nil_iff.2 hp)
    simpa [entries, hl] using hh
  · refine ⟨?_, by simp⟩
    simp only [entries] at *
    simpa [List.head?_append] using hh

theorem Rooted.undo (hr : Rooted first h) (hu : h.undo? = some h') : Rooted first h' := by
  refine ⟨(entries_undo hu).symm ▸ hr.head, ?_⟩
  obtain ⟨s, past, -, rfl⟩ := undo?_eq_some hu
  simp

theorem Rooted.redo (hr : Rooted first h) (hd : h.redo? = some h') : Rooted first h' := by
  refine ⟨(entries_redo hd).symm ▸ hr.head, ?_⟩
  obtain ⟨s, future, -, rfl⟩ := redo?_eq_some hd
  simp

/-- Where nothing is left to undo, the first snapshot is shown. -/
theorem Rooted.current (hr : Rooted first h) (hu : h.undo? = none) : h.current = first := by
  have hh := hr.head
  unfold undo? at hu
  split at hu
  · next hp => simpa [entries, hp] using hh
  · contradiction

end LatexSnippets.History
