import LatexSnippets.Proofs.Store.Sharing

/-!
Stores that can be read and written, in memory or in a file: what is put there is found.
-/

namespace LatexSnippets.Store

/-- That a store can be read and written, and what entries it has. -/
inductive Holds : Store → Assoc Text → Prop
  | memory : Holds (.memory entries) entries
  | file (h : Keeps path levels tree entries) : Holds (.file path levels tree errors) entries

variable {s s' : Store} {entries : Assoc Text} {path : Path} {levels : Nat}
  {tree : FileTree} {k v : Text}

theorem Holds.load (h : Holds s entries) : load.run.run s = (.ok entries, s) := by
  cases h with
  | memory => rfl
  | file h => exact load_file h.readEntries_eq _

theorem Holds.value? (h : Holds s entries) (k : Text) :
    (value? k).run.run s = (.ok (entries.get? k), s) :=
  run_bind_ok h.load _

theorem Holds.exists_put (h : Holds s entries) (k v : Text) :
    ∃ s', (put k v).run.run s = (.ok (), s') ∧ Holds s' (entries.put k v) := by
  have hl := h.load
  cases h with
  | memory => exact ⟨_, rfl, .memory⟩
  | file h =>
    obtain ⟨tree', hw, hr⟩ := exists_writeEntries h.isWritable (entries.put k v)
    refine ⟨_, (run_bind_ok hl _).trans (save_file hw _), .file ?_⟩
    exact keeps_of_read hr (Assoc.nodup_put h.nodup)

theorem nodup_of_decode {content : ByteArray} (h : decode levels content = .ok (some entries)) :
    entries.keys.Nodup := by
  rw [decode] at h
  split at h
  · contradiction
  · split at h
    · next v _ =>
      rw [← Option.some.inj (Except.ok.inj h)]
      exact (contributes_entriesOf v).nodup
    all_goals cases h

/-- Where entries are read, there is a file, and another one can be put in its place. -/
theorem keeps_of_readEntries (h : readEntries levels tree path = .ok (some entries))
    (hn : entries ≠ []) : Keeps path levels tree entries := by
  have hr := h
  rw [readEntries] at hr
  split at hr
  · split at hr
    · next content hc => exact ⟨FileTree.isWritable_of_read hc, h, nodup_of_decode hr⟩
    · cases hr
  · exact absurd (Option.some.inj (Except.ok.inj hr)).symm hn

/-- Where a value is found, the store can be read and written. -/
theorem exists_holds_of_value? (h : (value? k).run.run s = (.ok (some v), s')) :
    s' = s ∧ ∃ entries, Holds s entries ∧ entries.get? k = some v := by
  rw [value?] at h
  cases s with
  | memory entries =>
    obtain ⟨hv, rfl⟩ := Prod.mk.inj h
    exact ⟨rfl, entries, .memory, Except.ok.inj hv⟩
  | file path levels tree errors =>
    cases hr : readEntries levels tree path with
    | error e =>
      rw [run_bind_error (load_failed hr errors)] at h
      cases h
    | ok read =>
      cases read with
      | none =>
        rw [run_bind_ok (load_unread hr errors)] at h
        have hv : none = some v := Except.ok.inj (Prod.mk.inj h).1
        contradiction
      | some entries =>
        rw [run_bind_ok (load_file hr errors)] at h
        obtain ⟨hv, rfl⟩ := Prod.mk.inj h
        have hv : entries.get? k = some v := Except.ok.inj hv
        refine ⟨rfl, entries, .file (keeps_of_readEntries hr ?_), hv⟩
        rintro rfl
        contradiction

end LatexSnippets.Store
