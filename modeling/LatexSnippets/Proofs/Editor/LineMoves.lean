import LatexSnippets.Proofs.Editor.LineDeletion
import LatexSnippets.Proofs.Editor.SelectedLines

/-!
Moving lines up and down. A selection moves with its lines and the way back leads to where it was,
except at the end of the text, where lines that were selected with the newline at their end have
none.
-/

namespace LatexSnippets.Editor

open Text

variable {e e' : Editor} {before block after : List Text} {a c : Nat} {n : Text} {up : Bool}

theorem raise?_eq (before block after : List Text) (n : Text) :
    raise? (before ++ n :: (block ++ after)) (before.length + 1) (before.length + block.length) =
      some (before ++ (block ++ n :: after), n.length) := by
  have hlast : before.length + block.length + 1 - (before.length + 1) = block.length := by omega
  have hafter : (before ++ n :: (block ++ after)).drop (before.length + block.length + 1) =
      after := by
    rw [Nat.add_assoc, List.drop_length_add_append, List.drop_succ_cons, List.drop_left]
  simp [raise?, hlast, hafter, List.drop_length_add_append]

theorem lower?_eq (hb : block ≠ []) (before after : List Text) (n : Text) :
    lower? (before ++ (block ++ n :: after)) before.length (before.length + block.length - 1) =
      some (before ++ n :: (block ++ after), n.length) := by
  have hpos := List.length_pos_iff.2 hb
  have hnext : before.length + block.length - 1 + 1 = before.length + block.length := by omega
  have hlast : before.length + block.length - before.length = block.length := by omega
  have hafter : (before ++ (block ++ n :: after)).drop (before.length + block.length - 1 + 2) =
      after := by
    rw [show before.length + block.length - 1 + 2 = before.length + (block.length + 1) by omega,
      List.drop_length_add_append, List.drop_length_add_append, List.drop_succ_cons,
      List.drop_zero]
  simp [lower?, hnext, hlast, hafter]

/-- The selection as it is after a move, if it needs no clamping. -/
theorem selects_of_clamp (hl : ∀ l ∈ before ++ (block ++ after), '\n' ∉ l)
    (he : Encloses block a c) (hr : c < (ended block).length ∨ after ≠ [])
    (ht : e.text = unlines (before ++ (block ++ after)))
    (hs : e.selection =
      Span.clamp ⟨(ended before).length + a, (ended before).length + c⟩ e.text.length) :
    e.Selects before block after a c := by
  have hne : before ++ (block ++ after) ≠ [] := by simp [he.ne_nil]
  have hlen := length_unlines hne
  rw [← ht, ended_append, ended_append, List.length_append, List.length_append] at hlen
  have hroom : c < (ended block).length + (ended after).length := by
    rcases hr with hr | hr
    · omega
    · have := List.length_pos_iff.2 (mt ended_eq_nil.1 hr)
      have := he.within
      omega
  have hle := he.le
  refine ⟨?_, ?_, he, hr⟩
  · rw [ht, lines_unlines hne hl]
  · rw [hs, Span.clamp_eq]
    refine ⟨⟨?_, ?_⟩, ?_⟩
    · show (0 : Int) ≤ (ended before).length + a
      omega
    · show ((ended before).length + a : Int) ≤ (ended before).length + c
      omega
    · show ((ended before).length + c : Int) ≤ e.text.length
      omega

theorem Selects.raise (h : e.Selects (before ++ [n]) block after a c) :
    ∃ e', e.moveLine true = (e', true) ∧ e'.Selects before block (n :: after) a c := by
  have hlines : e.text.lines = before ++ n :: (block ++ after) := by simp [h.lines]
  have hsel : e.selectedLines = (before.length + 1, before.length + block.length) := by
    rw [h.selectedLines_eq, List.length_append, List.length_singleton]
    congr 1
    omega
  simp only [moveLine, hsel, hlines, raise?_eq, if_true]
  have hn : ∀ l ∈ before ++ (block ++ n :: after), '\n' ∉ l :=
    not_mem_of_perm hlines (List.perm_middle.append_left before)
  have hs : e.selection.shift (-(n.length + 1)) =
      ⟨(ended before).length + a, (ended before).length + c⟩ := by
    rw [Span.shift, h.start_eq, h.stop_eq, length_ended_concat, Span.mk.injEq]
    omega
  refine ⟨_, rfl, selects_of_clamp hn h.encloses (.inr (List.cons_ne_nil _ _)) rfl ?_⟩
  rw [hs]
  rfl

theorem Selects.exists_above (h : e.Selects before block after a c)
    (hm : (e.moveLine true).2 = true) : ∃ above n, before = above ++ [n] := by
  refine (List.eq_nil_or_concat' before).resolve_left ?_
  rintro rfl
  simp [moveLine, h.selectedLines_eq, raise?] at hm

/-- The selection is moved as far as the lines are, but not beyond the end of the text. -/
theorem Selects.moveLine_down (h : e.Selects before block (n :: after) a c) :
    ∃ e', e.moveLine false = (e', true) ∧
      (∀ l ∈ (before ++ [n]) ++ (block ++ after), '\n' ∉ l) ∧
      e'.text = unlines ((before ++ [n]) ++ (block ++ after)) ∧
      e'.selection = Span.clamp ⟨(ended (before ++ [n])).length + a,
        (ended (before ++ [n])).length + c⟩ e'.text.length := by
  simp only [moveLine, h.selectedLines_eq, h.lines, Bool.false_eq_true, if_false,
    lower?_eq h.ne_nil]
  have hn : ∀ l ∈ before ++ n :: (block ++ after), '\n' ∉ l :=
    not_mem_of_perm h.lines (List.perm_middle.symm.append_left before)
  have hs : e.selection.shift (n.length + 1) =
      ⟨(ended (before ++ [n])).length + a, (ended (before ++ [n])).length + c⟩ := by
    rw [Span.shift, h.start_eq, h.stop_eq, length_ended_concat, Span.mk.injEq]
    omega
  rw [List.append_assoc]
  refine ⟨_, rfl, hn, rfl, ?_⟩
  rw [← hs]
  rfl

theorem Selects.lower (h : e.Selects before block (n :: after) a c)
    (hr : c < (ended block).length ∨ after ≠ []) :
    ∃ e', e.moveLine false = (e', true) ∧ e'.Selects (before ++ [n]) block after a c := by
  obtain ⟨e', hm, hl, ht, hs⟩ := h.moveLine_down
  exact ⟨e', hm, selects_of_clamp hl h.encloses hr ht hs⟩

theorem Selects.exists_below (h : e.Selects before block after a c)
    (hm : (e.moveLine false).2 = true) : ∃ n below, after = n :: below := by
  refine List.exists_cons_of_ne_nil ?_
  rintro rfl
  have hpos := List.length_pos_iff.2 h.ne_nil
  have hn : (before ++ block)[before.length + block.length - 1 + 1]? = none := by
    rw [List.getElem?_eq_none_iff, List.length_append]
    omega
  simp [moveLine, h.selectedLines_eq, h.lines, lower?, hn] at hm

/-- When they become the last ones, lines that were selected with their newline have none any more.
The selection ends one place earlier then, which may be the beginning of a line. -/
theorem Selects.lower_over (h : e.Selects before block [n] a (ended block).length) :
    ∃ e' block' after', e.moveLine false = (e', true) ∧
      e'.Selects (before ++ [n]) block' after' a ((ended block).length - 1) := by
  obtain ⟨e', hm, hl, ht, hs⟩ := h.moveLine_down
  have hlt := h.encloses.lt_length
  have hlen := length_unlines (List.append_ne_nil_of_right_ne_nil (before ++ [n]) h.ne_nil)
  rw [List.append_nil] at hl ht
  rw [← ht, ended_append, List.length_append] at hlen
  have hs' : e'.selection = Span.clamp ⟨(ended (before ++ [n])).length + a,
      (ended (before ++ [n])).length + ((ended block).length - 1 : Nat)⟩ e'.text.length := by
    rw [hs]
    simp only [Span.clamp, Span.mk.injEq, true_and]
    omega
  obtain ⟨block', after', hb, he, hr⟩ := h.encloses.without_newline
  rw [hb] at hl ht
  exact ⟨e', block', after', hm, selects_of_clamp hl he hr ht hs'⟩

theorem Selects.same (h : e.Selects before block after a c)
    (h' : e'.Selects before block after a c) : e'.text = e.text ∧ e'.selection = e.selection :=
  ⟨by rw [h'.text, h.text], by rw [h'.selection, h.selection]⟩

/-- The selection ends right behind a newline and only the last line follows. -/
def StopsBeforeLastLine (e : Editor) : Prop :=
  e.StopsBehindNewline ∧ '\n' ∉ e.text.onward e.selection.stop

theorem Selects.stopsBeforeLastLine_iff (h : e.Selects before block (n :: after) a c) :
    e.StopsBeforeLastLine ↔ c = (ended block).length ∧ after = [] := by
  rw [StopsBeforeLastLine, h.stopsBehindNewline_iff, and_congr_right_iff]
  intro hc
  obtain ⟨_, _, hcons, hs⟩ := h.exists_cut_stop_behind hc
  obtain ⟨rfl, rfl⟩ := List.cons.inj hcons
  rw [hs.onward]
  by_cases ha : after = []
  · simpa [ha] using hs.not_mem.2
  · simp [ha, unlines_cons]

/-- A move up is undone by a move down. A move down is undone by a move up unless the lines were
selected with the newline at their end and have become the last ones, which have none: then the
selection comes back without it. -/
theorem moveLine_undone (he : e.Reachable) (up : Bool) (hm : (e.moveLine up).2 = true) :
    ∃ e', (e.moveLine up).1.moveLine (!up) = (e', true) ∧
      (up = true ∨ ¬e.StopsBeforeLastLine → e'.text = e.text ∧ e'.selection = e.selection) ∧
      (up = false → e.StopsBeforeLastLine →
        e'.selection = ⟨e.selection.start, e.selection.stop - 1⟩) := by
  obtain ⟨before, block, after, a, c, h⟩ := he.sound.exists_selects
  cases up with
  | true =>
    obtain ⟨above, n, rfl⟩ := h.exists_above hm
    obtain ⟨e₁, hr, h₁⟩ := h.raise
    obtain ⟨e₂, hl, h₂⟩ := h₁.lower h.room
    rw [hr]
    exact ⟨e₂, hl, fun _ => h.same h₂, by simp⟩
  | false =>
    obtain ⟨n, below, rfl⟩ := h.exists_below hm
    rw [h.stopsBeforeLastLine_iff]
    by_cases hb : c = (ended block).length ∧ below = []
    · obtain ⟨rfl, rfl⟩ := hb
      obtain ⟨e₁, block', after', hl, h₁⟩ := h.lower_over
      obtain ⟨e₂, hr, h₂⟩ := h₁.raise
      have hlt := h.encloses.lt_length
      rw [hl]
      refine ⟨e₂, hr, by simp, fun _ _ => ?_⟩
      rw [h₂.selection, h.start_eq, h.stop_eq, Span.mk.injEq]
      omega
    · have hroom : c < (ended block).length ∨ below ≠ [] := by
        by_cases hbelow : below = []
        · exact .inl (Nat.lt_of_le_of_ne h.encloses.within fun hc => hb ⟨hc, hbelow⟩)
        · exact .inr hbelow
      obtain ⟨e₁, hl, h₁⟩ := h.lower hroom
      obtain ⟨e₂, hr, h₂⟩ := h₁.raise
      rw [hl]
      exact ⟨e₂, hr, fun _ => h.same h₂, fun _ hc => absurd hc hb⟩

/-- Two lines, one of them blank, are selected with the newline behind them. -/
theorem moveLine_undone_blank :
    let e := withSelection "a\n\nb\nc" 0 3
    e.Reachable ∧ (e.moveLine false).2 = true ∧
      ∃ e', (e.moveLine false).1.moveLine true = (e', true) ∧ e'.text = e.text ∧
        e'.selection = e.selection := by
  intro e
  have hm : (e.moveLine false).2 = true := by decide +kernel
  have hb : ¬e.StopsBeforeLastLine := fun h => absurd h.2 (by decide +kernel)
  obtain ⟨e', he', hsame, -⟩ := moveLine_undone (reachable_withSelection ..) false hm
  exact ⟨reachable_withSelection .., hm, e', he', hsame (.inr hb)⟩

/-- Moved below the last line, the blank line is at the end of the text, and the selection that
ended behind it ends before it. It stays there when the line before it is moved back. -/
theorem moveLine_leaves_blank :
    let e := withSelection "a\n\nb" 0 3
    e.Reachable ∧ (e.moveLine false).2 = true ∧ (e.moveLine false).1.text = "b\na\n".toList ∧
      ((e.moveLine false).1.moveLine true).1.text = "a\nb\n".toList ∧
      ((e.moveLine false).1.moveLine true).1.selection = ⟨0, 2⟩ :=
  ⟨reachable_withSelection .., by decide +kernel, by decide +kernel, by decide +kernel,
    by decide +kernel⟩

/-- A block of lines is swapped with the line above it or below it. -/
inductive Swaps : (up : Bool) → (before block after swapped : List Text) → Prop
  | above (before block after : List Text) (n : Text) :
      Swaps true (before ++ [n]) block after (before ++ (block ++ n :: after))
  | below (before block after : List Text) (n : Text) :
      Swaps false before block (n :: after) (before ++ n :: (block ++ after))

theorem Selects.swaps (h : e.Selects before block after a c)
    (hm : (e.moveLine up).2 = true) :
    Swaps up before block after (e.moveLine up).1.text.lines := by
  cases up with
  | true =>
    obtain ⟨above, n, rfl⟩ := h.exists_above hm
    obtain ⟨e', hr, h'⟩ := h.raise
    rw [hr, h'.lines]
    exact .above ..
  | false =>
    obtain ⟨n, below, rfl⟩ := h.exists_below hm
    obtain ⟨e', hl, hn, ht, -⟩ := h.moveLine_down
    rw [hl, ht, lines_unlines (by simp) hn, List.append_assoc]
    exact .below ..

theorem Selects.text_ne_nil (h : e.Selects before block after a c)
    (hm : (e.moveLine up).2 = true) : e.text ≠ [] := by
  intro ht
  have hlen := congrArg List.length h.lines
  rw [ht, List.length_append, List.length_append, show Text.lines [] = [[]] from rfl,
    List.length_singleton] at hlen
  have := List.length_pos_iff.2 h.ne_nil
  cases up with
  | true =>
    obtain ⟨above, n, rfl⟩ := h.exists_above hm
    rw [List.length_append, List.length_singleton] at hlen
    omega
  | false =>
    obtain ⟨n, below, rfl⟩ := h.exists_below hm
    rw [List.length_cons] at hlen
    omega

/-- The line commands agree on the line that comes first, but not on the last one: a selection that
ends right behind a newline does not select the line there for moving, and does for deleting. -/
theorem deleteLine_moved_block (he : e.Reachable) (up : Bool) (hm : (e.moveLine up).2 = true) :
    ∃ before block after, e.text.lines = before ++ (block ++ after) ∧
      e.selectedLines = (before.length, before.length + block.length - 1) ∧
      Swaps up before block after (e.moveLine up).1.text.lines ∧
      ∃ e', e.deleteLine = (e', true) ∧
        (¬e.StopsBehindNewline → e'.text = unlines (before ++ after)) ∧
        (e.StopsBehindNewline → ∃ n rest, after = n :: rest ∧
          e'.text = unlines (before ++ rest)) := by
  obtain ⟨before, block, after, a, c, h⟩ := he.sound.exists_selects
  refine ⟨before, block, after, h.lines, h.selectedLines_eq, h.swaps hm, ?_⟩
  obtain ⟨p, s, after', hs⟩ := h.exists_cut_start
  have ht := h.text_ne_nil hm
  rw [h.stopsBehindNewline_iff]
  by_cases hc : c = (ended block).length
  · obtain ⟨n, rest, rfl, hq⟩ := h.exists_cut_stop_behind hc
    obtain ⟨e', hd, htext, -⟩ := deleteLine_eq he.sound hs hq ht
    exact ⟨e', hd, fun hn => absurd hc hn, fun _ => ⟨n, rest, rfl, htext⟩⟩
  · obtain ⟨p', s', hq, -⟩ := h.exists_cut_stop (Nat.lt_of_le_of_ne h.encloses.within hc)
    obtain ⟨e', hd, htext, -⟩ := deleteLine_eq he.sound hs hq ht
    exact ⟨e', hd, fun _ => htext, fun hn => absurd hn hc⟩

/-- Two of three lines are selected. -/
theorem deleteLine_moved_block_two :
    let e := withSelection "a\nb\nc" 0 3
    e.Reachable ∧ (e.moveLine false).2 = true ∧ ¬e.StopsBehindNewline ∧ ∃ block after,
      e.text.lines = block ++ after ∧ block.length = 2 ∧
      Swaps false [] block after (e.moveLine false).1.text.lines ∧
      ∃ e', e.deleteLine = (e', true) ∧ e'.text = unlines after := by
  intro e
  have hm : (e.moveLine false).2 = true := by decide +kernel
  have hn : ¬e.StopsBehindNewline := fun h => absurd h.2 (by decide +kernel)
  have hs : e.selectedLines = (0, 1) := by decide +kernel
  obtain ⟨before, block, after, hl, hb, hswap, e', hd, ht, -⟩ :=
    deleteLine_moved_block (reachable_withSelection ..) false hm
  obtain ⟨h₀, h₁⟩ := Prod.mk.inj (hs.symm.trans hb)
  obtain rfl := List.length_eq_zero_iff.1 h₀.symm
  rw [List.length_nil] at h₁
  exact ⟨reachable_withSelection .., hm, hn, block, after, hl, by omega, hswap, e', hd, ht hn⟩

/-- With the newline behind the first line selected, that line is moved, and the next one is deleted
with it. -/
theorem deleteLine_takes_next_line :
    let e := withSelection "a\nb" 0 2
    e.Reachable ∧ e.text ≠ [] ∧ e.selectedLines = (0, 0) ∧ (e.moveLine false).2 = true ∧
      (e.moveLine false).1.text = "b\na".toList ∧ e.deleteLine.1.text = [] :=
  ⟨reachable_withSelection .., by decide +kernel, by decide +kernel, by decide +kernel,
    by decide +kernel, by decide +kernel⟩

end LatexSnippets.Editor
