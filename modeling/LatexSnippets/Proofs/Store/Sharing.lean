import LatexSnippets.Proofs.Store.Requests

/-!
Stores that share a file answer together as a single one in memory does.
-/

namespace LatexSnippets.Store

/-- The answers to requests one after another. -/
def answers (s : Store) : List Request → List (Except StoreError Answer)
  | [] => []
  | r :: rest =>
    let (a, s) := (answer r).run.run s
    a :: answers s rest

/-- Stores that keep their entries in one file, by number. Each counts its own errors, and is used
where there is so much room. -/
structure Sharing where
  path : Path
  levels : Nat → Nat
  tree : FileTree
  errors : Nat → Nat

namespace Sharing

/-- The answer of one of the stores, and what becomes of the file. -/
def answer (s : Sharing) (i : Nat) (r : Request) : Except StoreError Answer × Sharing :=
  match (Store.answer r).run.run (.file s.path (s.levels i) s.tree (s.errors i)) with
  | (a, .file path _ tree n) => (a, ⟨path, s.levels, tree, fun j => if j = i then n else s.errors j⟩)
  | (a, .memory _) => (a, s)

/-- The answers to requests one after another, each to the store of its number. -/
def answers (s : Sharing) : List (Nat × Request) → List (Except StoreError Answer)
  | [] => []
  | (i, r) :: rest =>
    let (a, s) := s.answer i r
    a :: s.answers rest

end Sharing

section Keeping

variable {path : Path} {levels : Nat} {tree : FileTree} {entries : Assoc Text}

/-- That a file keeps the entries, there is room to read them, and others can be written. -/
structure Keeps (path : Path) (levels : Nat) (tree : FileTree) (entries : Assoc Text) : Prop where
  isWritable : tree.IsWritable path
  readEntries_eq : readEntries levels tree path = .ok (some entries)
  nodup : entries.keys.Nodup

theorem keeps_nothing (hm : tree.holds path = false) (hw : tree.IsWritable path) :
    Keeps path levels tree [] where
  isWritable := hw
  readEntries_eq := by simp [readEntries, hm]
  nodup := List.nodup_nil

theorem keeps_of_read (h : tree.read path = .ok (encode entries)) (hn : entries.keys.Nodup) :
    Keeps path levels tree entries where
  isWritable := FileTree.isWritable_of_read h
  readEntries_eq := by simp [readEntries, FileTree.holds_of_read h, h, decode_encode hn]
  nodup := hn

theorem nodup_effect {saved : Assoc Text} (h : entries.keys.Nodup) {r : Request}
    (hr : (r.effect entries).2 = some saved) : saved.keys.Nodup := by
  cases r with
  | value | keys => contradiction
  | put k v =>
    obtain rfl := Option.some.inj hr
    exact Assoc.nodup_put h
  | forget k =>
    rw [Request.effect, Option.ite_none_right_eq_some] at hr
    obtain rfl := Option.some.inj hr.2
    exact h.sublist (Assoc.keys_erase_sublist entries k)

/-- A request to a file has the effect it has on the entries that the file keeps, for every store
that keeps them there. -/
theorem Keeps.answer (h : Keeps path levels tree entries) (errors : Nat) (r : Request) :
    ∃ tree', (Store.answer r).run.run (.file path levels tree errors) =
        (.ok (r.effect entries).1, .file path levels tree' errors) ∧
      ∀ {n}, Keeps path n tree entries → Keeps path n tree' ((r.effect entries).2.getD entries) := by
  obtain ⟨tree', ha, ht⟩ := answer_file h.isWritable (load_file h.readEntries_eq errors)
  refine ⟨tree', ha, fun hn => ?_⟩
  cases hr : (r.effect entries).2 with
  | none =>
    rw [hr] at ht
    obtain rfl := ht
    exact hn
  | some saved =>
    rw [hr] at ht
    exact keeps_of_read ht (nodup_effect h.nodup hr)

theorem sharing_answers {levels : Nat → Nat} (h : ∀ i, Keeps path (levels i) tree entries)
    (errors : Nat → Nat) (rs : List (Nat × Request)) :
    (Sharing.mk path levels tree errors).answers rs =
      answers (.memory entries) (rs.map (·.2)) := by
  induction rs generalizing tree entries errors with
  | nil => rfl
  | cons r rs ih =>
    obtain ⟨i, r⟩ := r
    obtain ⟨tree', ha, ht⟩ := (h i).answer (errors i) r
    have hr := ih fun j => ht (h j)
    simp only [Sharing.answers, Sharing.answer, ha, List.map_cons, answers, answer_memory, hr]

end Keeping

/-- Any number of stores on a path where no file is yet answer requests in any order as a single
store in memory does, if the file system lets the file be written. -/
theorem shared_file_answers {path : Path} {tree : FileTree} (hm : tree.holds path = false)
    (hw : tree.IsWritable path) (levels errors : Nat → Nat) (rs : List (Nat × Request)) :
    (Sharing.mk path levels tree errors).answers rs = answers (.memory []) (rs.map (·.2)) :=
  sharing_answers (fun _ => keeps_nothing hm hw) errors rs

/-- One store forgets what the other has put, and the other finds what the one has put. -/
theorem shared_file_answers_two :
    let path : Path := Path.ofText "a/store.json"
    let rs : List (Nat × Request) := [(0, .put "k" "x"), (1, .put "é" "\n"), (1, .value "k"),
      (1, .put "k" "y"), (0, .keys), (1, .forget "k"), (0, .value "é"), (0, .keys)]
    FileTree.holds [] path = false ∧ FileTree.IsWritable [] path ∧
      (Sharing.mk path (fun i => i) [] fun _ => 0).answers rs = [.ok .done, .ok .done, .ok (.value (some "x")),
        .ok .done, .ok (.keys ["k", "é"]), .ok .done, .ok (.value (some "\n")), .ok (.keys ["é"])] := by
  intro path rs
  have hm : FileTree.holds [] path = false := by decide
  have hw : FileTree.IsWritable [] path := ⟨_, rfl, nofun⟩
  exact ⟨hm, hw, (shared_file_answers hm hw _ _ rs).trans rfl⟩

end LatexSnippets.Store
