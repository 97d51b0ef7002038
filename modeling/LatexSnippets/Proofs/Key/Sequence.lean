import LatexSnippets.Proofs.Editor.Operation
import LatexSnippets.Proofs.Except
import LatexSnippets.Proofs.Key
import LatexSnippets.Proofs.Text

/-!
Presses in angle notation. They are read back as they are written, one after another, and a text
whose opening angles are written out gives the presses that type it.
-/

namespace LatexSnippets

/-- The letter of a modifier between angles. -/
def Modifier.letter : Modifier → Char
  | .ctrl => 'c'
  | .alt => 'a'
  | .shift => 's'
  | .metaKey => 'd'

namespace KeyEvent

/-- What stands between the angles: a letter and a dash for each modifier, then the key. -/
def body (e : KeyEvent) : Text := e.mods.toList.flatMap (fun m => [m.letter, '-']) ++ e.key

/-- Whether a press is written as its character alone. -/
def isBare (e : KeyEvent) : Bool :=
  e.mods = .none && e.key.length = 1 && e.key ≠ ['<'] && e.key ≠ ['\n']

def write (e : KeyEvent) : Text :=
  if e = .plain ['<'] then "<lt>".toList
  else if e.isBare then e.key
  else '<' :: (e.body ++ ['>'])

/-- A press that has a notation. Its key is a character, or a name that is its own and holds no sign
of the notation. -/
inductive IsWritable : KeyEvent → Prop
  | char {c : Char} {ms : Modifiers} (h : ms ≠ .none → c ≠ '<' ∧ c ≠ '>') : IsWritable ⟨[c], ms⟩
  | named {name : Text} {ms : Modifiers} (hl : 2 ≤ name.length)
    (hn : Key.normalizeName name = name) (hs : ∀ c ∈ name, c ≠ '<' ∧ c ≠ '>' ∧ c ≠ '-')
    (hlt : ms = .none → name ≠ "lt".toList) : IsWritable ⟨name, ms⟩

end KeyEvent

namespace Key

open KeyEvent Unicode

variable {c : Char} {body key rest after : Text} {ms : Modifiers} {e : KeyEvent}

section Angled

/-- What may stand between angles. -/
def IsBody (body : Text) : Prop := body ≠ [] ∧ ∀ c ∈ body, c ≠ '<' ∧ c ≠ '>'

theorem readBody_append (h : IsBody body) (after : Text) :
    readBody (body ++ '>' :: after) = some (body, after) := by
  have hp : ∀ c ∈ body, (c != '<' && c != '>') = true := fun c hc => by simp [h.2 c hc]
  simp only [readBody, List.takeWhile_append_of_pos hp, List.dropWhile_append_of_pos hp]
  cases body with
  | nil => exact absurd rfl h.1
  | cons c body => simp

theorem isBody_lt : IsBody "lt".toList := ⟨by decide, by simp⟩

theorem readSequence_bare (h : c ≠ '<') (rest : Text) :
    readSequence (c :: rest) = (readSequence rest).map (.ofChar c :: ·) := by
  rw [readSequence]
  exact h

theorem readSequence_angled (hb : IsBody body) (he : readAngled body = .ok e) (after : Text) :
    readSequence ('<' :: (body ++ '>' :: after)) = (readSequence after).map (e :: ·) := by
  rw [readSequence]
  split
  · next h =>
    rw [readBody_append hb] at h
    obtain ⟨rfl, rfl⟩ := Prod.mk.inj (Option.some.inj h)
    rw [he]
    cases readSequence after <;> rfl
  · next h =>
    rw [readBody_append hb] at h
    contradiction

end Angled

section Letters

theorem letterModifier?_letter (m : Modifier) : letterModifier? [m.letter] = some m := by
  cases m <;> rfl

theorem splitAt_prefixed (l : List Modifier) (key : Text) :
    Text.splitAt '-' (l.flatMap (fun m => [m.letter, '-']) ++ key) =
      l.map (fun m => [m.letter]) ++ Text.splitAt '-' key := by
  induction l with
  | nil => rfl
  | cons m l ih =>
    have hm : '-' ∉ [m.letter] := by cases m <;> decide
    rw [List.flatMap_cons, List.append_assoc]
    exact (Text.splitAt_append hm _).trans (congrArg _ ih)

theorem readLetters_prefixed (body : Text) (l : List Modifier) (parts : List Text) :
    readLetters body (l.map (fun m => [m.letter]) ++ parts) =
      (readLetters body parts).map (l ++ ·) := by
  induction l with
  | nil =>
    rw [List.map_nil, List.nil_append]
    cases readLetters body parts <;> rfl
  | cons m l ih =>
    rw [List.map_cons, List.cons_append, readLetters, letterModifier?_letter]
    · simp only [ih]
      cases readLetters body parts <;> rfl
    · simp

/-- The key of a press, as it stands behind the last dash. -/
def IsKey (key : Text) : Prop :=
  key.length = 1 ∨ 2 ≤ key.length ∧ '-' ∉ key ∧ normalizeName key = key

/-- What is between angles is read by its dashes: the modifiers before the last one, and the key
behind it. An empty key is the dash itself. -/
theorem readAngled_body (hlt : lower e.body ≠ "lt".toList) (hk : IsKey e.key) :
    readAngled e.body = .ok e := by
  obtain ⟨key, ms⟩ := e
  have parts : ∀ parts last, Text.splitAt '-' key = parts ++ [last] →
      Text.splitAt '-' (KeyEvent.body ⟨key, ms⟩) =
        (ms.toList.map (fun m => [m.letter]) ++ parts) ++ [last] := by
    intro parts last h
    rw [KeyEvent.body, splitAt_prefixed, h, List.append_assoc]
  rw [readAngled]
  simp only [if_neg hlt]
  by_cases hd : key = ['-']
  · subst hd
    rw [parts [[]] [] rfl, List.dropLast_concat, List.getLast?_concat, readLetters_prefixed]
    simp only [readLetters, Except.map, bind, Except.bind, List.append_nil, ofList_toList]
    rfl
  · have hm : '-' ∉ key := by
      rcases hk with h1 | ⟨-, h, -⟩
      · obtain ⟨c, rfl⟩ := List.length_eq_one_iff.1 h1
        simpa [eq_comm] using hd
      · exact h
    rw [parts [] key (Text.splitAt_of_not_mem hm), List.dropLast_concat, List.getLast?_concat,
      readLetters_prefixed]
    simp only [readLetters, Except.map, bind, Except.bind, List.append_nil, ofList_toList]
    rcases hk with h1 | ⟨h2, -, hn⟩
    · obtain ⟨c, rfl⟩ := List.length_eq_one_iff.1 h1
      rfl
    · match key, h2, hn with
      | a :: b :: key, _, hn => exact congrArg (fun key => Except.ok (KeyEvent.mk key ms)) hn

end Letters

section Written

/-- Only the name of the opening angle is read as one. -/
theorem lower_body_ne (h : e.IsWritable) : lower e.body ≠ "lt".toList := by
  have hletter : ∀ m : Modifier, IsLower m.letter ∧ m.letter ≠ 'l' := by
    intro m
    cases m <;> decide +kernel
  by_cases hm : e.mods.toList = []
  · rw [KeyEvent.body, hm, List.flatMap_nil, List.nil_append]
    cases h with
    | @char c ms h =>
      rcases lower_singleton c with ⟨d, hd⟩ | hd <;> rw [hd] <;> simp
    | @named name ms hl hn hs hlt =>
      intro ht
      refine hlt (by rw [← ofList_toList ms, hm]; rfl) ?_
      rw [← hn, normalizeName_of_length_ne (by omega), ht]
      decide +kernel
  · obtain ⟨m, l, hl⟩ := List.exists_cons_of_ne_nil hm
    rw [KeyEvent.body, hl, List.flatMap_cons, List.append_assoc, List.cons_append, lower,
      lowerFrom_cons_of_isLower (hletter m).1]
    exact fun ht => (hletter m).2 (List.cons.inj ht).1

theorem isBody_body (hn : e.key ≠ []) (hk : ∀ c ∈ e.key, c ≠ '<' ∧ c ≠ '>') : IsBody e.body := by
  have hletter : ∀ m : Modifier, ∀ c ∈ [m.letter, '-'], c ≠ '<' ∧ c ≠ '>' := by
    intro m
    cases m <;> simp [Modifier.letter]
  refine ⟨by simp [KeyEvent.body, hn], fun c hc => ?_⟩
  rcases List.mem_append.1 hc with hc | hc
  · obtain ⟨m, -, hc⟩ := List.mem_flatMap.1 hc
    exact hletter m c hc
  · exact hk c hc

theorem readSequence_write_angled (h : e.IsWritable) (hn : e.key ≠ [])
    (hs : ∀ c ∈ e.key, c ≠ '<' ∧ c ≠ '>') (hk : IsKey e.key) (hp : e ≠ .plain ['<'])
    (hb : e.isBare = false) (rest : Text) :
    readSequence (e.write ++ rest) = (readSequence rest).map (e :: ·) := by
  rw [write, if_neg hp, hb, if_neg Bool.false_ne_true, List.cons_append, List.append_assoc]
  exact readSequence_angled (isBody_body hn hs) (readAngled_body (lower_body_ne h) hk) rest

/-- A press is read where it is written, whatever follows it. -/
theorem readSequence_write_append (h : e.IsWritable) (rest : Text) :
    readSequence (e.write ++ rest) = (readSequence rest).map (e :: ·) := by
  cases hw : h with
  | @char c ms hc =>
    by_cases hp : KeyEvent.mk [c] ms = .plain ['<']
    · rw [hp]
      exact readSequence_angled isBody_lt rfl rest
    have hlt : ms = .none → c ≠ '<' := by
      rintro rfl rfl
      exact hp rfl
    cases hb : KeyEvent.isBare ⟨[c], ms⟩ with
    | true =>
      have hm : ms = .none ∧ c ≠ '\n' := by
        simp only [isBare, Bool.and_eq_true, decide_eq_true_eq] at hb
        exact ⟨hb.1.1.1, fun hc => hb.2 (hc ▸ rfl)⟩
      obtain ⟨rfl, hn⟩ := hm
      have := readSequence_bare (hlt rfl) rest
      rw [ofChar, if_neg hn] at this
      rwa [write, if_neg hp, hb, if_pos rfl]
    | false =>
      refine readSequence_write_angled h (by simp) ?_ (.inl rfl) hp hb rest
      rw [List.forall_mem_singleton]
      by_cases hm : ms = .none
      -- Of the characters without modifiers only the newline stands between angles.
      · have hn : c = '\n' := by simpa [isBare, hm, hlt hm] using hb
        subst hn
        decide
      · exact hc hm
  | @named name ms hl hn hs hlt =>
    have h1 : name.length ≠ 1 := by omega
    refine readSequence_write_angled h ?_ (fun c hc => ⟨(hs c hc).1, (hs c hc).2.1⟩)
      (.inr ⟨hl, fun hd => (hs '-' hd).2.2 rfl, hn⟩) ?_ (by simp [isBare, h1]) rest
    · exact List.ne_nil_of_length_pos (by simp only; omega)
    · exact fun hp => h1 (congrArg List.length (KeyEvent.mk.inj hp).1)

end Written

/-- The opening angles of a text written out: it types what the text does. -/
theorem readSequence_replace (t : Text) :
    readSequence (t.replace ['<'] "<lt>".toList) = .ok (t.map ofChar) := by
  rw [Text.replace]
  induction t with
  | nil => rw [Text.replaceFrom, readSequence, List.map_nil]
  | cons c t ih =>
    rw [Text.replaceFrom, List.map_cons]
    by_cases hc : c = '<'
    · subst hc
      rw [if_pos (by simp)]
      have hs := readSequence_angled isBody_lt rfl (Text.replaceFrom ['<'] "<lt>".toList 0 t)
      rw [ih] at hs
      exact hs
    · rw [if_neg (by simp [Ne.symm hc]), readSequence_bare hc, ih]
      rfl

/-- The notation is inverse to reading it: presses are read back as they are written, and a text
with its opening angles written out is replayed as it is typed. -/
theorem readSequence_write :
    (∀ es : List KeyEvent, (∀ e ∈ es, e.IsWritable) → readSequence (es.flatMap write) = .ok es) ∧
      ∀ (e : Editor) (t : Text), e.feedKeys (t.replace ['<'] "<lt>".toList) = .ok (e.typeText t) := by
  constructor
  · intro es h
    induction es with
    | nil => rw [List.flatMap_nil, readSequence]
    | cons e es ih =>
      rw [List.forall_mem_cons] at h
      rw [List.flatMap_cons, readSequence_write_append h.1, ih h.2]
      rfl
  · intro e t
    rw [Editor.feedKeys, readSequence_replace]
    rfl

/-- A dash with a modifier, the name of the opening angle with two, the angle itself, a newline and a
name with a capital. -/
theorem readSequence_write_signs :
    let es : List KeyEvent := [.plain ['x'], ⟨['-'], .ofList [.ctrl]⟩,
      ⟨"lt".toList, .ofList [.shift, .metaKey]⟩, .plain ['<'], .plain ['\n'], .plain "pageUp".toList]
    let e := Editor.withRule "t" "x" "ab"
    (∀ e ∈ es, e.IsWritable) ∧ es.flatMap write = "x<c--><s-d-lt><lt><\n><pageUp>".toList ∧
      readSequence "x<c--><s-d-lt><lt><\n><pageUp>" = .ok es ∧
        e.feedKeys "a<lt>b" = .ok (e.typeText "a<b") := by
  intro es e
  have named : ∀ {name : Text} {ms : Modifiers}, 2 ≤ name.length ∧ normalizeName name = name ∧
      (name.all fun c => c ≠ '<' && c ≠ '>' && c ≠ '-') ∧ (ms = .none → name ≠ "lt".toList) →
      KeyEvent.IsWritable ⟨name, ms⟩ := fun h =>
    .named h.1 h.2.1 (by simpa [List.all_eq_true, and_assoc] using h.2.2.1) h.2.2.2
  have hw : ∀ e ∈ es, e.IsWritable := by
    simp only [es, List.forall_mem_cons, List.not_mem_nil, false_implies, implies_true, and_true]
    exact ⟨.char (by decide), .char (by decide), named (by decide +kernel), .char (by decide),
      .char (by decide), named (by decide +kernel)⟩
  have ht : es.flatMap write = "x<c--><s-d-lt><lt><\n><pageUp>".toList := by decide +kernel
  exact ⟨hw, ht, ht ▸ readSequence_write.1 es hw, readSequence_write.2 e "a<b"⟩

end Key

end LatexSnippets
