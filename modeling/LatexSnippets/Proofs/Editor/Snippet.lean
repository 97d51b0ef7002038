import LatexSnippets.Proofs.Editor.Press
import LatexSnippets.Proofs.Firing
import LatexSnippets.Proofs.Template.Filling
import LatexSnippets.Proofs.Template.Placeholder

/-!
Filling in a snippet: the tab key expands a trigger and goes from field to field, and what is typed
meanwhile takes the place of the defaults.
-/

namespace LatexSnippets.Editor

open Template.Node

/-- Characters that typing may pair or step over, and the newline. -/
def special : List Char := ['\n', '(', ')', '[', ']', '\x7b', '\x7d', '"', '\'', '$']

/-- The fields of a snippet up to `d` have been gone to, the others are pending. -/
structure Filling (rule : Rule) (before after : Text) (n d : Nat) (ns : List Template.Node)
    (e : Editor) : Prop where
  keymap : e.config.keymap = .standard
  rules : e.config.rules = [rule]
  text : e.text = before ++ layout ns ++ after
  fields : e.fields = queue (d + 1) n before.length ns

/-- Whether the tab key goes from field `j` to the next: no environment around the end of field `j`
closes before that. -/
def goesOn (before after : Text) (ns : List Template.Node) (j : Nat) : Bool :=
  match range? j before.length ns, range? (j + 1) before.length ns with
  | some r, some s => !FieldQueue.closesBefore (before ++ layout ns ++ after) r.stop s
  | _, _ => true

theorem closer?_of_not_special {c : Char} (h : c ∉ special) : closer? c = none := by
  unfold closer?
  split <;> simp_all [special]

theorem isOvertyped_of_not_special {c : Char} (h : c ∉ special) : isOvertyped c = false := by
  simp only [special, List.mem_cons, not_or] at h
  simp [isOvertyped, h]

variable {e : Editor} {rule : Rule} {before after : Text} {n d : Nat}

theorem surround?_eq_none (hr : e.config.rules = [rule]) (hv : rule.usesVisual = false) (c : Char) :
    e.surround? c = none := by
  rw [surround?]
  split
  · rfl
  · simp [hr, Ranked.surround?, Ranked.all, Rule.surrounds, hv]

theorem insert_eq {c : Char} {text : Text}
    (ht : text = e.text.splice e.selection.start e.selection.stop [c])
    (h : e.fire text (e.selection.start + 1) true false = .ok none) :
    e.insert [c] = ⟨(e.shiftFields (text.length - e.text.length) e.selection.start).record text
      (e.selection.start + 1) false (.caret (inside text (e.selection.start + 1))), .ok true⟩ := by
  subst ht
  simp only [insert, changed, List.isEmpty_cons, Bool.not_false, if_true, List.length_singleton,
    Int.natCast_one, h]
  rfl

theorem caret_record {text : Text} {i : Int} (h₀ : 0 ≤ i) (h : i ≤ text.length) (caret : Int)
    (immediate : Bool) :
    (e.record text caret immediate (.caret (inside text i))).selection = .caret i := by
  simp only [record, Span.clamp, Span.caret, inside, Span.mk.injEq]
  omega

section Typing

variable {pre post : List Template.Node} {nd : Template.Node}

/-- A character typed in a field, behind the text `x` and over the selected text `y`. -/
theorem Filling.type_char (hf : Filling rule before after n d (pre ++ nd :: post) e)
    (ha : Rule.autoFire rule.options = false) (hv : rule.usesVisual = false)
    (hn : Numbered (pre ++ nd :: post) n) (hd : nd.id? = some d) (h₀ : 0 < d) {x y : Text}
    (ht : nd.text = x ++ y) (hs : e.selection = ⟨(before ++ layout pre ++ x).length,
      (before ++ layout pre ++ x).length + y.length⟩) {c : Char} (hc : c ∉ special) :
    ∃ e', e.press (.ofChar c) = ⟨e', .ok true⟩ ∧
      Filling rule before after n d (pre ++ nd.fill (x ++ [c]) :: post) e' ∧
      e'.selection = .caret (before ++ layout pre ++ (x ++ [c])).length := by
  have hnew : before ++ layout (pre ++ nd.fill (x ++ [c]) :: post) ++ after =
      e.text.splice e.selection.start e.selection.stop [c] := by
    have := Text.splice_middle (before ++ layout pre ++ x) y (layout post ++ after) [c]
    rw [hs, hf.text]
    simp only [List.append_assoc, layout_append, layout_cons, text_fill hd, ht] at *
    exact this.symm
  have hpress : e.press (.ofChar c) = e.insert [c] := by
    rw [press_ofChar hf.keymap (fun h => hc (by simp [h, special]))]
    exact type_eq_insert (closer?_of_not_special hc) (isOvertyped_of_not_special hc)
      (surround?_eq_none hf.rules hv c)
  have hfire : e.fire (before ++ layout (pre ++ nd.fill (x ++ [c]) :: post) ++ after)
      (e.selection.start + 1) true false = .ok none := by
    rw [Editor.fire, hf.rules]
    exact fire_auto_manual ha ..
  have hstart : e.selection.start = (before ++ layout pre ++ x).length := by rw [hs]
  have hlen := layout_fill hd (x ++ [c]) pre post
  have hd' : ((before ++ layout (pre ++ nd.fill (x ++ [c]) :: post) ++ after).length : Int) -
      e.text.length = (x ++ [c]).length - nd.text.length := by
    rw [hf.text]
    simp only [List.length_append] at *
    omega
  refine ⟨_, hpress.trans (insert_eq hnew hfire), ⟨hf.keymap, hf.rules, rfl, ?_⟩, ?_⟩
  · rw [hd', hstart]
    simp only [record, shiftFields, hf.fields]
    apply shift_queue hn hd h₀ (by omega)
    · simp only [List.length_append]
      omega
    · simp only [ht, List.length_append]
      omega
  · rw [caret_record, hstart]
    · simp [Int.add_assoc]
    · omega
    · rw [hstart]
      simp only [layout_append, layout_cons, text_fill hd, List.length_append, List.length_singleton]
      omega

theorem Filling.type_more (ha : Rule.autoFire rule.options = false) (hv : rule.usesVisual = false)
    (h₀ : 0 < d) (w : Text) (hw : ∀ c ∈ w, c ∉ special) {x : Text}
    (hf : Filling rule before after n d (pre ++ nd.fill x :: post) e)
    (hn : Numbered (pre ++ nd.fill x :: post) n) (hd : nd.id? = some d)
    (hs : e.selection = .caret (before ++ layout pre ++ x).length) :
    ∃ e', e.pressAll (w.map .ofChar) = ⟨e', .ok ()⟩ ∧
      Filling rule before after n d (pre ++ nd.fill (x ++ w) :: post) e' ∧
      e'.selection = .caret (before ++ layout pre ++ (x ++ w)).length := by
  induction w generalizing e x with
  | nil =>
    rw [List.append_nil]
    exact ⟨e, rfl, hf, hs⟩
  | cons c w ih =>
    have hd' : (nd.fill x).id? = some d := by rwa [id?_fill]
    obtain ⟨e₁, h₁, hf₁, hs₁⟩ := hf.type_char ha hv hn hd' h₀ (y := [])
      (by rw [text_fill hd, List.append_nil]) (by rw [hs]; simp [Span.caret])
      (hw c List.mem_cons_self)
    rw [fill_fill] at hf₁
    have hn₁ := hn.fill hd' h₀ (x ++ [c])
    rw [fill_fill] at hn₁
    obtain ⟨e₂, h₂, hf₂, hs₂⟩ := ih (fun c hm => hw c (List.mem_cons_of_mem _ hm)) hf₁ hn₁ hs₁
    rw [List.append_assoc x, List.singleton_append] at hf₂ hs₂
    refine ⟨e₂, ?_, hf₂, hs₂⟩
    rw [List.map_cons, pressAll, h₁]
    exact h₂

theorem Filling.type_over (hf : Filling rule before after n d (pre ++ nd :: post) e)
    (ha : Rule.autoFire rule.options = false) (hv : rule.usesVisual = false)
    (hn : Numbered (pre ++ nd :: post) n) (hd : nd.id? = some d) (h₀ : 0 < d)
    (hs : e.selection = ⟨(before ++ layout pre).length,
      (before ++ layout pre).length + nd.text.length⟩) {w : Text} (hne : w ≠ [])
    (hw : ∀ c ∈ w, c ∉ special) :
    ∃ e', e.pressAll (w.map .ofChar) = ⟨e', .ok ()⟩ ∧
      Filling rule before after n d (pre ++ nd.fill w :: post) e' ∧
      e'.selection = .caret (before ++ layout pre ++ w).length := by
  cases w with
  | nil => contradiction
  | cons c w =>
    obtain ⟨e₁, h₁, hf₁, hs₁⟩ := hf.type_char ha hv hn hd h₀ (x := []) (y := nd.text) rfl
      (by rw [hs, List.append_nil]) (hw c List.mem_cons_self)
    obtain ⟨e₂, h₂, hf₂, hs₂⟩ := hf₁.type_more ha hv h₀ w
      (fun c hm => hw c (List.mem_cons_of_mem _ hm)) (hn.fill hd h₀ _) hd hs₁
    refine ⟨e₂, ?_, hf₂, hs₂⟩
    rw [List.map_cons, pressAll, h₁]
    exact h₂

end Typing

theorem applyFired_of_stops {f : Fired} (h : f.fields ≠ []) :
    (e.applyFired f).config = e.config ∧ (e.applyFired f).text = f.text ∧
      (e.applyFired f).fields = f.fields ∧
      (e.applyFired f).selection = f.selection.clamp f.text.length := by
  rw [applyFired, if_neg (by simpa using h)]
  exact ⟨rfl, rfl, rfl, rfl⟩

/-- The first tab expands the trigger and selects field 1. -/
theorem filling_expand {trigger description : Text} {priority : Int} {ns : List Template.Node}
    (hk : e.config.keymap = .standard)
    (hr : e.config.rules =
      [⟨.literal trigger, .text (ns.flatMap write), [], priority, description⟩])
    (he : e.text = before ++ trigger ++ after)
    (hs : e.selection = .caret (before.length + trigger.length)) (hf : e.fields = [])
    (ht : trigger ≠ []) (hv : Placeholder.usesVisual (ns.flatMap write) = false)
    (hp : Placeholder.CaptureFree (ns.flatMap write)) (hn : Numbered ns n) (h₀ : 0 < n) :
    ∃ e', e.press (.plain "tab") = ⟨e', .ok true⟩ ∧
      Filling ⟨.literal trigger, .text (ns.flatMap write), [], priority, description⟩ before after
        n 1 ns e' ∧ range? 1 before.length ns = some e'.selection := by
  obtain ⟨hx, hentry, hqueue⟩ := hn.expansion h₀
  obtain ⟨f, hfire, htext, hselection, hfields⟩ := fire_literal before after priority description
    ht hv (Placeholder.substitute_plain hv hp [] []) e.config.forceMath
  rw [← he, ← hr] at hfire
  have hstart : e.selection.start = before.length + trigger.length := by rw [hs, Span.caret]
  have hempty : e.selection.isEmpty = true := by simp [hs, Span.isEmpty, Span.caret]
  have hnext : e.nextField = e.tabExpand := by
    have hadv : e.fields.advance e.selection.start (some e.text) = (.nothing, []) := by
      rw [hf]
      rfl
    have hset : e.setFields [] = e := by
      rw [← hf]
      rfl
    simp only [nextField, hadv, hset]
  have hpress : e.press (.plain "tab") = ⟨e.applyFired f, .ok true⟩ := by
    rw [press_tab hk, hnext, tabExpand, if_pos hempty, hstart, Editor.fire, hfire]
    rfl
  have hstops : f.fields = queue 2 n before.length ns := by
    rw [hfields, hqueue, queue_shift, Int.zero_add]
  have hsel : range? 1 before.length ns = some f.selection := by
    have := range?_shift 1 0 before.length ns
    rwa [Int.zero_add, hentry, Option.map_some, ← hselection] at this
  rw [hx] at htext
  obtain ⟨hconfig, ht', hfields', hselection'⟩ := applyFired_of_stops (e := e) (f := f)
    (by simp [hstops, queue])
  refine ⟨_, hpress, ⟨by rw [hconfig, hk], by rw [hconfig, hr], ht'.trans htext,
    hfields'.trans hstops⟩, ?_⟩
  rw [hselection', hsel, Span.clamp_eq]
  have := range?_bounds hsel
  simp only [Span.Within, Span.Proper, htext, List.length_append]
  omega

/-- Tab goes to the next field, unless an environment around the caret closes before that. -/
theorem Filling.tab {ns : List Template.Node} (hf : Filling rule before after n d ns e)
    (hn : Numbered ns n) (hd : d < n) {r s : Span} (hr : range? d before.length ns = some r)
    (hs : range? (d + 1) before.length ns = some s) (he : e.selection = .caret r.stop)
    (hg : goesOn before after ns d = true) :
    ∃ e', e.press (.plain "tab") = ⟨e', .ok true⟩ ∧ Filling rule before after n (d + 1) ns e' ∧
      e'.selection = s := by
  have hstart : e.selection.start = r.stop := by rw [he, Span.caret]
  have hc : FieldQueue.closesBefore e.text r.stop s = false := by
    rw [goesOn, hr, hs] at hg
    rw [hf.text]
    simpa using hg
  have hq : e.fields = s :: queue (d + 1 + 1) n before.length ns := by
    rw [hf.fields, queue_eq_cons hd hs]
  have hskip : e.fields.skipConsumed r.stop = e.fields := by
    have hne := ne_of_apart hn.apart hr hs (by omega)
    rw [hq, FieldQueue.skipConsumed, List.dropWhile_cons_of_neg]
    simp [Ne.symm hne]
  have hadv : e.fields.advance e.selection.start (some e.text) =
      (.stop s, queue (d + 1 + 1) n before.length ns) := by
    rw [hstart, FieldQueue.advance, hskip, hq]
    simp [hc]
  have hin : s.Within e.text.length := by
    have := range?_bounds hs
    simp only [Span.Within, Span.Proper, hf.text, List.length_append]
    omega
  rw [press_tab hf.keymap, nextField, hadv]
  exact ⟨_, rfl, ⟨hf.keymap, hf.rules, hf.text, rfl⟩, Span.clamp_eq hin⟩

def fillKeys (vs : List Text) : List KeyEvent :=
  vs.flatMap fun v => .plain "tab" :: v.map .ofChar

theorem fillKeys_take_succ {vs : List Text} {j : Nat} (hj : j < vs.length) :
    fillKeys (vs.take (j + 1)) =
      fillKeys (vs.take j) ++ [.plain "tab"] ++ vs[j].map .ofChar := by
  rw [fillKeys, List.take_succ_eq_append_getElem hj, List.flatMap_append,
    List.flatMap_singleton, List.append_assoc]
  rfl

section Run

variable {vs : List Text} {ns : List Template.Node} {j : Nat}

theorem Filling.type_value (hj : j < vs.length)
    (hf : Filling rule before after n (j + 1) (ns.map (put (vs.take j))) e)
    (ha : Rule.autoFire rule.options = false) (hv : rule.usesVisual = false)
    (hn : Numbered (ns.map (put (vs.take j))) n)
    (hs : range? (j + 1) before.length (ns.map (put (vs.take j))) = some e.selection)
    (hne : vs[j] ≠ []) (hw : ∀ c ∈ vs[j], c ∉ special) :
    ∃ e' s, e.pressAll (vs[j].map .ofChar) = ⟨e', .ok ()⟩ ∧
      Numbered (ns.map (put (vs.take (j + 1)))) n ∧
      Filling rule before after n (j + 1) (ns.map (put (vs.take (j + 1)))) e' ∧
      range? (j + 1) before.length (ns.map (put (vs.take (j + 1)))) = some s ∧
      e'.selection = .caret s.stop := by
  obtain ⟨pre, nd, post, hsplit, hd, -, hsel⟩ := split_of_range? hs
  have hput : ns.map (put (vs.take (j + 1))) = pre ++ nd.fill vs[j] :: post := by
    rw [← map_fillAt (hsplit ▸ hn.nodup) hd, ← hsplit, List.map_map]
    exact List.map_congr_left fun x _ => put_take_succ hj x
  rw [hsplit] at hf hn
  obtain ⟨e', h, hf', hs'⟩ := hf.type_over ha hv hn hd (by omega) (by rw [hsel]; simp) hne hw
  have hn' := hn.fill hd (by omega) vs[j]
  have hr := range?_middle hn'.nodup ((id?_fill ..).trans hd) before.length
  rw [hput]
  refine ⟨e', _, h, hn', hf', hr, ?_⟩
  rw [hs', text_fill hd]
  simp [Int.add_assoc]

/-- However many fields have been filled, the next tab has gone to the field after them. -/
theorem reach_field (h₁ : ∃ e', e.press (.plain "tab") = ⟨e', .ok true⟩ ∧
      Filling rule before after vs.length 1 ns e' ∧ range? 1 before.length ns = some e'.selection)
    (ha : Rule.autoFire rule.options = false) (hv : rule.usesVisual = false)
    (hn : Numbered ns vs.length) (hvs : ∀ v ∈ vs, v ≠ [] ∧ ∀ c ∈ v, c ∉ special)
    (hg : ∀ j, 0 < j → j < vs.length → goesOn before after (ns.map (put (vs.take j))) j = true)
    (hj : j < vs.length) :
    ∃ e', e.pressAll (fillKeys (vs.take j) ++ [.plain "tab"]) = ⟨e', .ok ()⟩ ∧
      Numbered (ns.map (put (vs.take j))) vs.length ∧
      Filling rule before after vs.length (j + 1) (ns.map (put (vs.take j))) e' ∧
      range? (j + 1) before.length (ns.map (put (vs.take j))) = some e'.selection := by
  induction j with
  | zero =>
    obtain ⟨e', h, hf, hs⟩ := h₁
    have hid : ns.map (put (vs.take 0)) = ns := by
      rw [List.take_zero, List.map_congr_left (fun nd _ => put_nil nd), List.map_id']
    rw [hid]
    refine ⟨e', ?_, hn, hf, hs⟩
    rw [List.take_zero, fillKeys, List.flatMap_nil, List.nil_append, pressAll, h]
    rfl
  | succ j ih =>
    obtain ⟨e₁, h₁, hn₁, hf₁, hs₁⟩ := ih (by omega)
    have hv' := hvs vs[j] (List.getElem_mem _)
    obtain ⟨e₂, r, h₂, hn₂, hf₂, hr, hc⟩ := hf₁.type_value (by omega) ha hv hn₁ hs₁ hv'.1 hv'.2
    obtain ⟨s, hs⟩ := hn₂.exists_range (d := j + 1 + 1) (by omega) (by omega) before.length
    obtain ⟨e₃, h₃, hf₃, hs₃⟩ := hf₂.tab hn₂ hj hr hs hc (hg (j + 1) (by omega) hj)
    refine ⟨e₃, ?_, hn₂, hf₃, hs₃ ▸ hs⟩
    rw [fillKeys_take_succ (by omega), List.append_assoc, pressAll_append _ _ h₁,
      pressAll_append _ _ h₂, pressAll, h₃]
    rfl

end Run

/-- Filling in a snippet field by field leaves the template with the texts that were typed in place
of its fields, and only the exit is pending. -/
theorem fill_snippet {trigger description : Text} {priority : Int} {ns : List Template.Node}
    {vs : List Text} (hn : Numbered ns vs.length) (h₀ : vs ≠ []) (ht : trigger ≠ [])
    (hp : Placeholder.CaptureFree (ns.flatMap write))
    (hw : Placeholder.usesVisual (ns.flatMap write) = false)
    (hvs : ∀ v ∈ vs, v ≠ [] ∧ ∀ c ∈ v, c ∉ special) (hk : e.config.keymap = .standard)
    (hr : e.config.rules =
      [⟨.literal trigger, .text (ns.flatMap write), [], priority, description⟩])
    (he : e.text = before ++ trigger ++ after)
    (hs : e.selection = .caret (before.length + trigger.length)) (hf : e.fields = [])
    (hg : ∀ j, 0 < j → j < vs.length →
      goesOn before after (ns.map (put (vs.take j))) j = true) :
    ∃ e' s, e.pressAll (vs.flatMap fun v => .plain "tab" :: v.map .ofChar) = ⟨e', .ok ()⟩ ∧
      e'.text = before ++ layout (ns.map (put vs)) ++ after ∧
      range? vs.length before.length (ns.map (put vs)) = some s ∧
      e'.selection = .caret s.stop ∧
      e'.fields = [exit before.length (ns.map (put vs))] := by
  have hpos : 0 < vs.length := List.length_pos_iff.2 h₀
  obtain ⟨m, hm⟩ : ∃ m, vs.length = m + 1 := ⟨vs.length - 1, by omega⟩
  have hv' := hvs vs[m] (List.getElem_mem _)
  obtain ⟨e₁, h₁, hn₁, hf₁, hs₁⟩ := reach_field (j := m)
    (filling_expand hk hr he hs hf ht hw hp hn hpos) rfl hw hn hvs hg (by omega)
  obtain ⟨e₂, s, h₂, -, hf₂, hs₂, hc⟩ := hf₁.type_value (by omega) rfl hw hn₁ hs₁ hv'.1 hv'.2
  rw [← hm, List.take_length] at hf₂ hs₂
  refine ⟨e₂, s, ?_, hf₂.text, hs₂, hc, ?_⟩
  · have hkeys : vs.flatMap (fun v => .plain "tab" :: v.map .ofChar) =
        fillKeys (vs.take m) ++ [.plain "tab"] ++ vs[m].map .ofChar := by
      rw [← fillKeys_take_succ (by omega), ← hm, List.take_length, fillKeys]
    rw [hkeys, pressAll_append _ _ h₁, h₂]
  · rw [hf₂.fields, queue, show vs.length + 1 - (vs.length + 1) = 0 by omega]
    rfl

/-- A text with a single rule to expand before its caret. -/
def ofNodes (ns : List Template.Node) : Editor :=
  ofText ⟨[⟨.literal ['t'], .text (ns.flatMap write), [], 0, []⟩], .standard, false, "  ", " & "⟩
    1 0 ['t'] none

theorem fill_fraction :
    let ns : List Template.Node :=
      [.literal "\\frac\x7b", .stop 1, .literal "\x7d\x7b", .filled 2 "x", .literal "\x7d", .stop 0]
    let vs : List Text := ["ab", "c"]
    ∃ e', (ofNodes ns).pressAll (vs.flatMap fun v => .plain "tab" :: v.map .ofChar) =
        ⟨e', .ok ()⟩ ∧
      e'.text = "\\frac\x7bab\x7d\x7bc\x7d".toList ∧ e'.fields = [⟨12, 12⟩] := by
  intro ns vs
  have hn : Numbered ns vs.length := ⟨by decide, by decide, rfl⟩
  have hp : Placeholder.CaptureFree (ns.flatMap write) :=
    Placeholder.captureFree_of_not_mem (by decide)
  have hg : ∀ j, 0 < j → j < vs.length → goesOn [] [] (ns.map (put (vs.take j))) j = true := by
    intro j h₀ hj
    have hj : j < 2 := hj
    obtain rfl : j = 1 := by omega
    decide +kernel
  obtain ⟨e', s, h, ht, -, -, hf⟩ := fill_snippet (e := ofNodes ns) hn (by decide) (by decide) hp
    (by decide +kernel) (by simp [vs, special]) rfl rfl rfl rfl rfl hg
  exact ⟨e', h, ht, hf⟩

/-- An environment with columns around field 1 keeps the tab key from leaving it, and a default that
ends like the mark of a selected text makes a rule that only wraps. -/
theorem snippet_not_filled :
    (let ns : List Template.Node :=
      [.literal "\\begin\x7bmatrix\x7d", .stop 1, .literal "\\end\x7bmatrix\x7d", .stop 2]
    let vs : List Text := ["a", "b"]
    Numbered ns vs.length ∧ Placeholder.CaptureFree (ns.flatMap write) ∧
      (∀ v ∈ vs, v ≠ [] ∧ ∀ c ∈ v, c ∉ special) ∧
      ((ofNodes ns).pressAll (vs.flatMap fun v => .plain "tab" :: v.map .ofChar)).editor.text ≠
        layout (ns.map (put vs))) ∧
    (let ns : List Template.Node := [.filled 1 "$\x7bVISUAL"]
    let vs : List Text := ["x"]
    Numbered ns vs.length ∧ Placeholder.CaptureFree (ns.flatMap write) ∧
      (∀ v ∈ vs, v ≠ [] ∧ ∀ c ∈ v, c ∉ special) ∧
      ((ofNodes ns).pressAll (vs.flatMap fun v => .plain "tab" :: v.map .ofChar)).editor.text ≠
        layout (ns.map (put vs))) := by
  refine ⟨⟨⟨by decide, by decide, rfl⟩, ?_, by simp [special], by decide +kernel⟩,
    ⟨⟨by decide, by decide, rfl⟩, ?_, by simp [special], by decide +kernel⟩⟩
  · exact Placeholder.captureFree_of_not_mem (by decide)
  · exact Placeholder.captureFree_of_not_mem (by decide)

end LatexSnippets.Editor
