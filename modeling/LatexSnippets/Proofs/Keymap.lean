import LatexSnippets.Proofs.Assoc
import LatexSnippets.Proofs.Except
import LatexSnippets.Proofs.Json.Writing
import LatexSnippets.Proofs.Key
import LatexSnippets.Source.Keymap

/-!
Keymaps and their copies. A keymap is copied by binding what it holds anew, and so are lists and
sources of bindings read; all of them give the keymap itself unless a key begins with a blank.
-/

namespace LatexSnippets

namespace Keymap

/-- The keymaps that can come up: the standard one, to which a reset returns, one made from
bindings, and what binding and unbinding makes of them. -/
inductive Reached : Keymap → Prop
  | standard : Reached .standard
  | ofBindings (h : Keymap.ofBindings bindings = .ok m) : Reached m
  | bind (hm : Reached m) (h : m.bind combination action = .ok (k, m')) : Reached m'
  | unbind (hm : Reached m) (h : m.unbind combination = .ok (wasBound, m')) : Reached m'

/-- A keymap whose keys differ from each other and are identifiers. -/
structure WellFormed (m : Keymap) : Prop where
  nodup : m.keys.Nodup
  isIdentifier : ∀ k ∈ m.keys, Key.IsIdentifier k

variable {m m' : Keymap} {k combination action : Text} {bindings : List (Text × Text)}

theorem readAction_name (a : Action) : readAction a.name = .ok a := by
  cases a <;> rfl

theorem normalize_eq_ok : normalize combination = .ok k ↔
    Key.normalizeCombination combination = .ok k :=
  mapError_eq_ok

theorem name_of_readAction {a : Action} (h : readAction action = .ok a) : action = a.name := by
  rw [readAction] at h
  split at h
  · next ha =>
    obtain rfl := Except.ok.inj h
    simpa [eq_comm] using List.find?_some ha
  · contradiction

theorem exists_of_bind (h : m.bind combination action = .ok (k, m')) :
    Key.normalizeCombination combination = .ok k ∧
      ∃ a : Action, action = a.name ∧ m' = m.put k a := by
  obtain ⟨a, ha, h⟩ := bind_eq_ok.1 h
  obtain ⟨k', hk, h⟩ := bind_eq_ok.1 h
  obtain ⟨rfl, rfl⟩ := Prod.mk.inj (Except.ok.inj h)
  exact ⟨normalize_eq_ok.1 hk, a, name_of_readAction ha, rfl⟩

theorem bind_name (a : Action) (h : Key.normalizeCombination combination = .ok k) :
    m.bind combination a.name = .ok (k, m.put k a) := by
  rw [bind, readAction_name, normalize_eq_ok.2 h]
  rfl

theorem exists_of_unbind (h : m.unbind combination = .ok (wasBound, m')) :
    ∃ k, Key.normalizeCombination combination = .ok k ∧ m' = m.erase k := by
  obtain ⟨k, hk, h⟩ := bind_eq_ok.1 h
  exact ⟨k, normalize_eq_ok.1 hk, (Prod.mk.inj (Except.ok.inj h)).2.symm⟩

namespace WellFormed

theorem bind (hm : m.WellFormed) (h : m.bind combination action = .ok (k, m')) :
    m'.WellFormed := by
  obtain ⟨hk, a, -, rfl⟩ := exists_of_bind h
  refine ⟨Assoc.nodup_put hm.nodup, fun k' hk' => ?_⟩
  rcases Assoc.mem_keys_put hk' with hk' | rfl
  · exact hm.isIdentifier k' hk'
  · exact Key.isIdentifier_normalizeCombination hk

theorem bindAll (hm : m.WellFormed) (h : m.bindAll bindings = .ok m') : m'.WellFormed := by
  induction bindings generalizing m with
  | nil =>
    obtain rfl := Except.ok.inj h
    exact hm
  | cons b bindings ih =>
    obtain ⟨r, hb, h⟩ := bind_eq_ok.1 h
    exact ih (hm.bind hb) h

theorem erase (hm : m.WellFormed) (k : Text) : WellFormed (m.erase k) where
  nodup := (Assoc.keys_erase_sublist m k).nodup hm.nodup
  isIdentifier k' hk' := hm.isIdentifier k' ((Assoc.keys_erase_sublist m k).subset hk')

theorem empty : WellFormed [] := ⟨List.nodup_nil, fun _ h => by cases h⟩

theorem standard : WellFormed .standard where
  nodup := by decide +kernel
  isIdentifier := by
    have h : ∀ k ∈ Keymap.standard.keys, (Key.normalizeCombination k).toOption = some k := by
      decide +kernel
    exact fun k hk => Key.isIdentifier_normalizeCombination (toOption_eq_some.1 (h k hk))

end WellFormed

theorem Reached.wellFormed (h : m.Reached) : m.WellFormed := by
  induction h with
  | standard => exact .standard
  | ofBindings h => exact WellFormed.empty.bindAll h
  | bind _ h ih => exact ih.bind h
  | unbind _ h ih =>
    obtain ⟨k, -, rfl⟩ := exists_of_unbind h
    exact ih.erase k

/-- Binding what a keymap holds, after other bindings with other keys. -/
theorem exists_bindAll {l : Keymap} (hl : ∀ k ∈ l.keys, Key.IsIdentifier k) (m : Keymap) :
    ∃ m', m.bindAll l.toBindings = .ok m' ∧
      (∀ k ∈ m'.keys, k ∈ m.keys ∨ k.startsBlank = false) ∧
        ((∀ k ∈ l.keys, k.startsBlank = false) → (m ++ l).keys.Nodup → m' = m ++ l) := by
  induction l generalizing m with
  | nil => exact ⟨m, rfl, fun k hk => .inl hk, fun _ _ => (List.append_nil m).symm⟩
  | cons b l ih =>
    rw [Assoc.keys_cons, List.forall_mem_cons] at hl
    obtain ⟨k, hk, hs, he⟩ := hl.1.exists_normalizeCombination
    obtain ⟨m', hm', hs', he'⟩ := ih hl.2 (m.put k b.2)
    refine ⟨m', ?_, ?_, ?_⟩
    · rw [toBindings, List.map_cons, Keymap.bindAll, bind_name b.2 hk]
      exact hm'
    · intro k' hk'
      rcases hs' k' hk' with h | h
      · exact (Assoc.mem_keys_put h).imp_right fun h => by rwa [h]
      · exact .inr h
    -- Each key is stored as it stands, and behind those of `m`, which it differs from.
    · intro hb hn
      rw [Assoc.keys_cons, List.forall_mem_cons] at hb
      obtain rfl := he hb.1
      have hnew : b.1 ∉ m.keys := by
        rw [Assoc.keys_append, List.nodup_append] at hn
        exact fun hk => hn.2.2 _ hk _ List.mem_cons_self rfl
      rw [Assoc.put_of_not_mem hnew] at he'
      rw [he' hb.2 (by rwa [List.append_assoc]), List.append_assoc, List.singleton_append]

theorem keys_toBindings (m : Keymap) : Assoc.keys m.toBindings = m.keys := by
  simp [toBindings, Assoc.keys]

end Keymap

namespace Source

theorem bindingRecord_write (path : List Text) (k : Text) (a : Action) :
    bindingRecord path (.object [("combination", .text k), ("action", .text a.name)]) =
      .ok (k, a) := by
  cases a <;> rfl

theorem itemsFrom_write (i : Nat) (m : Keymap) :
    itemsFrom bindingRecord i (m.toBindings.map fun (combination, action) =>
      .object [("combination", .text combination), ("action", .text action)]) = .ok m := by
  induction m generalizing i with
  | nil => rfl
  | cons b m ih =>
    rw [Keymap.toBindings, List.map_cons, List.map_cons, itemsFrom]
    have := ih (i + 1)
    rw [Keymap.toBindings] at this
    rw [this, bindingRecord_write]
    rfl

/-- A written keymap is read as its list of bindings is. -/
theorem readKeymap_writeKeymap (m : Keymap) :
    readKeymap (writeKeymap m) = (Keymap.bindAll [] m.toBindings).mapError .keymap := by
  have hf : Json.Fits dialect.depth (.array (m.toBindings.map fun (combination, action) =>
      .object [("combination", .text combination), ("action", .text action)])) := by
    refine .array fun v hv => ?_
    obtain ⟨b, -, rfl⟩ := List.mem_map.1 hv
    refine .object fun f hf => ?_
    rcases List.mem_cons.1 hf with rfl | hf
    · exact .text _
    · rw [List.mem_singleton.1 hf]
      exact .text _
  rw [readKeymap, writeKeymap, records, Json.read_write true hf]
  simp only [itemsFrom_write]
  rfl

end Source

namespace Keymap

variable {m : Keymap}

/-- Whichever way a keymap is made anew, it can be, and the list of its bindings stays as it is
unless a key begins with a blank. -/
theorem copies_of_reached (h : m.Reached) :
    ∃ m', m.copy = .ok m' ∧ ofBindings m.toBindings = .ok m' ∧ bindAll [] m.toBindings = .ok m' ∧
      Source.readKeymap (Source.writeKeymap m) = .ok m' ∧
        (m'.toBindings = m.toBindings ↔ ∀ k ∈ m.keys, k.startsBlank = false) := by
  have hw := h.wellFormed
  obtain ⟨m', hm', hs, he⟩ := exists_bindAll hw.isIdentifier []
  refine ⟨m', hm', ?_, hm', ?_, fun hb k hk => ?_, fun hb => ?_⟩
  · rw [ofBindings, Assoc.ofEntries_of_nodup (by rw [keys_toBindings]; exact hw.nodup)]
    exact hm'
  · rw [Source.readKeymap_writeKeymap, hm']
    rfl
  · rw [← keys_toBindings, ← hb, keys_toBindings] at hk
    exact (hs k hk).resolve_left List.not_mem_nil
  · rw [he hb hw.nodup, List.nil_append]

/-- The standard keymap is copied as it is. -/
theorem copies_standard : Keymap.standard.Reached ∧ ∃ m', Keymap.standard.copy = .ok m' ∧
    Source.readKeymap (Source.writeKeymap .standard) = .ok m' ∧
      m'.toBindings = Keymap.standard.toBindings := by
  obtain ⟨m', hc, -, -, hr, he⟩ := copies_of_reached .standard
  exact ⟨.standard, m', hc, hr, he.2 (by decide +kernel)⟩

/-- The key of `+ x` keeps its blank, which a copy takes off. -/
theorem copy_drops_blank : ∃ m m' : Keymap, ofBindings [("+ x", "undo")] = .ok m ∧ m.Reached ∧
    m.copy = .ok m' ∧ m.toBindings = [(" x".toList, "undo".toList)] ∧
      m'.toBindings = [("x".toList, "undo".toList)] := by
  have h : ofBindings [("+ x", "undo")] = .ok [(" x", .undo)] := rfl
  exact ⟨_, _, h, .ofBindings h, rfl, rfl, rfl⟩

end Keymap

end LatexSnippets
