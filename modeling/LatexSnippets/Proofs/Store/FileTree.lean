import LatexSnippets.Proofs.Except
import LatexSnippets.Store.FileTree

/-!
Trees of files: what putting a node, making directories and writing a file leave as they were.
-/

namespace LatexSnippets.FileTree

variable {t t' : FileTree} {p q : Path} {ps : List Path} {n : Node} {content : ByteArray}

theorem node?_of_steps (h : p.steps ≠ []) (t : FileTree) :
    t.node? p = (t.find? (·.1 = p)).map (·.2) := by
  rw [node?, if_neg (by simpa using h)]

theorem node?_put_self (h : p.steps ≠ []) (t : FileTree) (n : Node) :
    (t.put p n).node? p = some n := by
  rw [node?_of_steps h, put, List.find?_cons_of_pos (by simp)]
  rfl

theorem node?_put_of_ne (h : p ≠ q) (t : FileTree) (n : Node) :
    (t.put p n).node? q = t.node? q := by
  rw [node?, node?]
  split
  · rfl
  · rw [put, List.find?_cons_of_neg (by simpa using h), List.find?_filter]
    congr 2
    funext e
    by_cases he : e.1 = q <;> simp [he, Ne.symm h]

theorem steps_ne_nil_of_node? (h : t.node? p ≠ some .directory) : p.steps ≠ [] := by
  intro hp
  rw [node?, hp] at h
  exact h rfl

/-- What stands at other paths, and at this one if nothing did, is kept. -/
theorem node?_put_of_node? {m : Node} (hp : t.node? p = none) (hq : t.node? q = some m) :
    (t.put p n).node? q = some m := by
  by_cases h : p = q
  · subst h
    exact nomatch hp.symm.trans hq
  · rw [node?_put_of_ne h, hq]

/-- Whether directories stand at all these places. -/
def AreDirectories (t : FileTree) (ps : List Path) : Prop := ∀ p ∈ ps, t.node? p = some .directory

theorem walk_eq_ok : t.walk ps = .ok () ↔ t.AreDirectories ps := by
  induction ps with
  | nil => simp [walk, AreDirectories]
  | cons p ps ih =>
    rw [walk, AreDirectories, List.forall_mem_cons]
    split
    · next h => simp [h]
    · next h => simp [h]
    · next h => rw [ih, h, AreDirectories, and_iff_right rfl]

theorem find_eq_ok {r : Option Node} :
    t.find p = .ok r ↔ t.AreDirectories p.parent.stations ∧ t.node? p.resolved = r := by
  rw [find, bind_eq_ok]
  constructor
  · rintro ⟨⟨⟩, hw, h⟩
    exact ⟨walk_eq_ok.1 hw, Except.ok.inj h⟩
  · rintro ⟨hw, rfl⟩
    exact ⟨(), walk_eq_ok.2 hw, rfl⟩

theorem read_eq_ok : t.read p = .ok content ↔
    t.AreDirectories p.parent.stations ∧ t.node? p.resolved = some (.file content) := by
  rw [read, bind_eq_ok]
  constructor
  · rintro ⟨r, hf, h⟩
    obtain ⟨hd, rfl⟩ := find_eq_ok.1 hf
    refine ⟨hd, ?_⟩
    split at h
    · contradiction
    · contradiction
    · next hn => rw [hn, Except.ok.inj h]
  · rintro ⟨hd, hn⟩
    exact ⟨_, find_eq_ok.2 ⟨hd, hn⟩, rfl⟩

theorem holds_of_read (h : t.read p = .ok content) : t.holds p = true := by
  rw [holds, find_eq_ok.2 (read_eq_ok.1 h)]

theorem write_eq_ok : t.write p content = .ok t' ↔ t.AreDirectories p.parent.stations ∧
    t.node? p.resolved ≠ some .directory ∧ t' = t.put p.resolved (.file content) := by
  rw [write, bind_eq_ok]
  constructor
  · rintro ⟨r, hf, h⟩
    obtain ⟨hd, rfl⟩ := find_eq_ok.1 hf
    split at h
    · contradiction
    · next hn => exact ⟨hd, hn, (Except.ok.inj h).symm⟩
  · rintro ⟨hd, hn, rfl⟩
    refine ⟨_, find_eq_ok.2 ⟨hd, rfl⟩, ?_⟩
    split
    · contradiction
    · rfl

/-- Where directories stand, none is made. -/
theorem makeEach_of_areDirectories (h : t.AreDirectories ps) : t.makeEach ps = .ok t := by
  induction ps with
  | nil => rfl
  | cons p ps ih =>
    rw [AreDirectories, List.forall_mem_cons] at h
    rw [makeEach, h.1]
    exact ih h.2

theorem node?_makeEach {m : Node} (h : t.makeEach ps = .ok t') (hq : t.node? q = some m) :
    t'.node? q = some m := by
  induction ps generalizing t with
  | nil =>
    obtain rfl := Except.ok.inj h
    exact hq
  | cons p ps ih =>
    rw [makeEach] at h
    split at h
    · exact ih h hq
    · next hp => exact ih h (node?_put_of_node? hp hq)
    · contradiction

theorem areDirectories_makeEach (h : t.makeEach ps = .ok t') : t'.AreDirectories ps := by
  induction ps generalizing t with
  | nil => exact nofun
  | cons p ps ih =>
    rw [AreDirectories, List.forall_mem_cons]
    rw [makeEach] at h
    split at h
    · next hp => exact ⟨node?_makeEach h hp, ih h⟩
    · next hp =>
      have hs := steps_ne_nil_of_node? (t := t) (p := p) (by simp [hp])
      exact ⟨node?_makeEach h (node?_put_self hs t _), ih h⟩
    · contradiction

/-- Whether files can be put at a path: the directories on the way to it can be made, and no
directory stands there itself. -/
def IsWritable (t : FileTree) (p : Path) : Prop :=
  ∃ made, t.makeDirectories p.parent = .ok made ∧ made.node? p.resolved ≠ some .directory

theorem IsWritable.exists_write (h : t.IsWritable p) (content : ByteArray) :
    ∃ made t', t.makeDirectories p.parent = .ok made ∧ made.write p content = .ok t' := by
  obtain ⟨made, hm, hn⟩ := h
  exact ⟨made, _, hm, write_eq_ok.2 ⟨areDirectories_makeEach hm, hn, rfl⟩⟩

theorem areDirectories_write (h : t.write p content = .ok t') :
    t'.AreDirectories p.parent.stations := by
  obtain ⟨hd, hn, rfl⟩ := write_eq_ok.1 h
  intro q hq
  rw [node?_put_of_ne, hd q hq]
  rintro rfl
  exact hn (hd _ hq)

theorem read_of_write (h : t.write p content = .ok t') : t'.read p = .ok content := by
  have hd := areDirectories_write h
  obtain ⟨-, hn, rfl⟩ := write_eq_ok.1 h
  exact read_eq_ok.2 ⟨hd, node?_put_self (steps_ne_nil_of_node? hn) t _⟩

/-- Where a file is read, another one can be put in its place. -/
theorem isWritable_of_read (h : t.read p = .ok content) : t.IsWritable p := by
  obtain ⟨hd, hn⟩ := read_eq_ok.1 h
  exact ⟨t, makeEach_of_areDirectories hd, by simp [hn]⟩

end LatexSnippets.FileTree
