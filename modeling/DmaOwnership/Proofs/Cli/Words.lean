import DmaOwnership.Cli.Words
/-!
# The program's splitter cuts plain words apart

Read character by character, a plain word goes whole into the current word and the space
after it finishes the word, so a line of plain words with one space between them splits into
exactly those words (`words_splitsPlain`).
-/

namespace DmaOwnership.Cli

open Script

/-- Inside a word, ordinary characters are added to it. -/
theorem foldl_push_word (cs : List Char) (hcs : ∀ c ∈ cs, Ordinary c) (cur : List Char)
    (acc : List String) :
    cs.foldl Splitter.push ⟨.word, cur, acc⟩ = ⟨.word, cs.reverse ++ cur, acc⟩ := by
  induction cs generalizing cur with
  | nil => rfl
  | cons c cs ih =>
    obtain ⟨hb, hq, ha, hs⟩ := hcs c List.mem_cons_self
    have hstep : Splitter.push ⟨.word, cur, acc⟩ c = ⟨.word, c :: cur, acc⟩ := by
      simp [Splitter.push, hb, hq, ha, hs]
    rw [List.foldl_cons, hstep, ih (fun d hd => hcs d (List.mem_cons_of_mem c hd))]
    simp

/-- Between words, a plain word is read whole into the current word. -/
theorem foldl_push_plain {w : String} (hw : Plain w) (acc : List String) :
    w.toList.foldl Splitter.push ⟨.between, [], acc⟩ = ⟨.word, w.toList.reverse, acc⟩ := by
  obtain ⟨hne, hhash, hcs⟩ := hw
  obtain ⟨c, cs, hc⟩ := List.exists_cons_of_ne_nil hne
  rw [hc] at hhash hcs ⊢
  obtain ⟨hb, hq, ha, hs⟩ := hcs c List.mem_cons_self
  have hh : c ≠ '#' := fun h => hhash (by rw [h]; rfl)
  have hstep : Splitter.push ⟨.between, [], acc⟩ c = ⟨.word, [c], acc⟩ := by
    simp [Splitter.push, hb, hq, ha, hs, hh]
  rw [List.foldl_cons, hstep, foldl_push_word cs (fun d hd => hcs d (List.mem_cons_of_mem c hd))]
  simp

/-- Plain words with one space between them split into those words, after the words
finished before them. -/
theorem finish_foldl_intercalate (w : String) (ws : List String) (hw : Plain w)
    (hws : ∀ u ∈ ws, Plain u) (acc : List String) :
    ((" ".intercalate (w :: ws)).toList.foldl Splitter.push ⟨.between, [], acc⟩).finish =
      .ok (acc.reverse ++ w :: ws) := by
  induction ws generalizing w acc with
  | nil =>
    rw [String.intercalate_singleton, foldl_push_plain hw]
    simp [Splitter.finish, Splitter.finishWord, String.ofList_toList]
  | cons u us ih =>
    -- the space after `w` finishes it
    have hspace : Splitter.push ⟨.word, w.toList.reverse, acc⟩ ' ' = ⟨.between, [], w :: acc⟩ := by
      simp [Splitter.push, isBlank, Splitter.finishWord, String.ofList_toList]
    have hsp : " ".toList = [' '] := rfl
    rw [String.intercalate_cons_cons, String.toList_append, String.toList_append, hsp,
      List.foldl_append, List.foldl_append, foldl_push_plain hw, List.foldl_cons, List.foldl_nil,
      hspace, ih u (hws u List.mem_cons_self) (fun v hv => hws v (List.mem_cons_of_mem u hv))]
    simp

/-- A line of plain words with one space between them splits into exactly those words. -/
theorem words_splitsPlain : SplitsPlain words := by
  intro ws hws
  cases ws with
  | nil => rfl
  | cons w ws =>
    have h := finish_foldl_intercalate w ws (hws w List.mem_cons_self)
      (fun u hu => hws u (List.mem_cons_of_mem w hu)) []
    rw [List.reverse_nil, List.nil_append] at h
    exact h

end DmaOwnership.Cli
