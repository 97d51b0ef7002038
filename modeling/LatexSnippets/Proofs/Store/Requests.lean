import LatexSnippets.Proofs.Store.Entries
import LatexSnippets.Proofs.Store.FileTree

/-!
Requests to stores: each loads the entries, and has an effect on them that does not depend on where
they are kept.
-/

namespace LatexSnippets.Store

inductive Request
  | value (k : Text)
  | keys
  | put (k v : Text)
  | forget (k : Text)

inductive Answer
  | value (v : Option Text)
  | keys (ks : List Text)
  | done
  deriving DecidableEq, Repr

def answer : Request → StoreM Answer
  | .value k => return .value (← value? k)
  | .keys => return .keys (← keys)
  | .put k v => do
    put k v
    return .done
  | .forget k => do
    forget k
    return .done

/-- What is answered to a request where these entries are kept, and the entries to be kept from then
on if they are to be written. -/
def Request.effect (entries : Assoc Text) : Request → Answer × Option (Assoc Text)
  | .value k => (.value (entries.get? k), none)
  | .keys => (.keys entries.keys, none)
  | .put k v => (.done, some (entries.put k v))
  | .forget k => (.done, if (entries.get? k).isSome then some (entries.erase k) else none)

section Answering

variable {s s' s'' : Store} {entries saved : Assoc Text} {path : Path} {tree tree' : FileTree}
  {levels errors : Nat} {e : StoreError}

/-- Every request loads the entries first, and has its effect on them. -/
theorem answer_eq (r : Request) : answer r = do
    let entries ← load
    if let some saved := (r.effect entries).2 then save saved
    return (r.effect entries).1 := by
  cases r with
  | value k => simp [answer, value?, Request.effect]
  | keys => simp [answer, keys, Request.effect]
  | put k v => simp [answer, put, Request.effect]
  | forget k =>
    simp only [answer, forget, Request.effect, bind_assoc]
    refine congrArg (load >>= ·) (funext fun entries => ?_)
    split <;> rfl

theorem run_get_bind (s : Store) (f : Store → StoreM β) :
    (get >>= f).run.run s = (f s).run.run s := rfl

theorem answer_of_unsaved {r : Request} (hl : load.run.run s = (.ok entries, s'))
    (hr : (r.effect entries).2 = none) :
    (answer r).run.run s = (.ok (r.effect entries).1, s') := by
  rw [answer_eq, run_bind_ok hl, hr]
  rfl

theorem answer_of_saved {r : Request} (hl : load.run.run s = (.ok entries, s'))
    (hr : (r.effect entries).2 = some saved) (hs : (save saved).run.run s' = (.ok (), s'')) :
    (answer r).run.run s = (.ok (r.effect entries).1, s'') := by
  rw [answer_eq, run_bind_ok hl, hr]
  exact run_bind_ok hs _

theorem answer_memory (entries : Assoc Text) (r : Request) :
    (answer r).run.run (.memory entries) =
      (.ok (r.effect entries).1, .memory ((r.effect entries).2.getD entries)) := by
  cases hr : (r.effect entries).2 with
  | none => exact answer_of_unsaved rfl hr
  | some saved => exact answer_of_saved rfl hr rfl

theorem load_file (h : readEntries levels tree path = .ok (some entries)) (errors : Nat) :
    load.run.run (.file path levels tree errors) = (.ok entries, .file path levels tree errors) := by
  rw [load, run_get_bind]
  simp only [h]
  rfl

theorem load_unread (h : readEntries levels tree path = .ok none) (errors : Nat) :
    load.run.run (.file path levels tree errors) = (.ok [], .file path levels tree (errors + 1)) := by
  rw [load, run_get_bind]
  simp only [h]
  rfl

theorem load_failed (h : readEntries levels tree path = .error e) (errors : Nat) :
    load.run.run (.file path levels tree errors) = (.error e, .file path levels tree errors) := by
  rw [load, run_get_bind]
  simp only [h]
  rfl

theorem save_file (h : writeEntries tree path saved = .ok tree') (errors : Nat) :
    (save saved).run.run (.file path levels tree errors) = (.ok (), .file path levels tree' errors) := by
  rw [save, run_get_bind]
  simp only [h]
  rfl

/-- Where a file can be put, entries are written, and stand in the file from then on. -/
theorem exists_writeEntries (h : tree.IsWritable path) (saved : Assoc Text) :
    ∃ tree', writeEntries tree path saved = .ok tree' ∧ tree'.read path = .ok (encode saved) := by
  obtain ⟨made, tree', hm, hw⟩ := h.exists_write (encode saved)
  refine ⟨tree', ?_, FileTree.read_of_write hw⟩
  rw [writeEntries, hm]
  exact hw

/-- With the entries loaded from a file that can be written, a request is answered. What it changes
is written. -/
theorem answer_file {r : Request} {n : Nat} (h : tree.IsWritable path)
    (hl : load.run.run (.file path levels tree errors) = (.ok entries, .file path levels tree n)) :
    ∃ tree', (answer r).run.run (.file path levels tree errors) =
        (.ok (r.effect entries).1, .file path levels tree' n) ∧
      match (r.effect entries).2 with
      | none => tree' = tree
      | some saved => tree'.read path = .ok (encode saved) := by
  cases hr : (r.effect entries).2 with
  | none => exact ⟨tree, answer_of_unsaved hl hr, rfl⟩
  | some saved =>
    obtain ⟨tree', hw, hs⟩ := exists_writeEntries h saved
    exact ⟨tree', answer_of_saved hl hr (save_file hw n), hs⟩

end Answering

end LatexSnippets.Store
