import DmaOwnership.Proofs.Text.Hex
import DmaOwnership.Script.Splitting
import DmaOwnership.Proofs.Script.Books
/-!
# Lines of plain words

Hex bytes, lane numbers, decimal numbers and the command words are plain, so a splitter that
cuts plain words apart (`SplitsPlain`) reads the lines a script writes with them back into
their words. The words then read as the model's readers say: hex words as the bytes
`Text.HexByte` describes (`run_bytesWords_eq_ok_iff`), a lane's number as the lane, and a
decimal number as itself (`lengthWords_number`). None of these readers changes the state.
-/

namespace DmaOwnership.Script

open Text

/-! ## Lines of plain words -/

/-- A line of plain words takes at least two bytes a word, less one: a byte for each word
and a space between two. -/
theorem two_mul_length_le_utf8ByteSize (ws : List String) (hws : ∀ w ∈ ws, Plain w) :
    2 * ws.length ≤ (" ".intercalate ws).utf8ByteSize + 1 := by
  induction ws with
  | nil => simp
  | cons w ws ih =>
    have hw : 1 ≤ w.utf8ByteSize := by
      have hne : w ≠ "" := fun h => (hws w List.mem_cons_self).1 (by rw [h]; rfl)
      rw [Nat.one_le_iff_ne_zero, Ne, String.utf8ByteSize_eq_zero_iff]
      exact hne
    have hrest := ih fun u hu => hws u (List.mem_cons_of_mem w hu)
    cases ws with
    | nil =>
      rw [String.intercalate_singleton]
      simp only [List.length_singleton]
      omega
    | cons u us =>
      rw [String.intercalate_cons_cons, String.utf8ByteSize_append, String.utf8ByteSize_append]
      have hsp : " ".utf8ByteSize = 1 := rfl
      simp only [List.length_cons] at hrest ⊢
      omega

/-! ## Plain words -/

/-- A letter or a digit stands for itself and does not start a comment. -/
theorem ordinary_of_code {c : Char} (h : 48 ≤ c.toNat ∧ c.toNat ≤ 57 ∨
    65 ≤ c.toNat ∧ c.toNat ≤ 90 ∨ 97 ≤ c.toNat ∧ c.toNat ≤ 122) : Ordinary c ∧ c ≠ '#' := by
  refine ⟨⟨?_, ?_, ?_, ?_⟩, ?_⟩
  · cases hb : isBlank c
    · rfl
    · simp only [isBlank, Bool.or_eq_true, decide_eq_true_eq] at hb
      rcases hb with ((rfl | rfl) | rfl) | rfl <;> revert h <;> decide
  all_goals
    rintro rfl
    revert h
    decide

/-- A word that writes a byte in hex is plain: lower-cased, each of its characters is a hex
digit or the `x` of a prefix, so each is a letter or a digit. -/
theorem plain_of_hexByte {t : String} {v : Nat} (h : HexByte t v) : Plain t := by
  obtain ⟨ds, hne, hlt, hdig, -, -⟩ := h
  have hcode : ∀ c ∈ t.toList, Ordinary c ∧ c ≠ '#' := by
    intro c hc
    -- lower-cased, the character is `x` or one of the digits
    have hlow : c.toLower = 'x' ∨ ∃ d < 16, c.toLower = Nat.digitChar d := by
      have hmem : c.toLower ∈ t.toList.map Char.toLower := List.mem_map_of_mem hc
      have hdigit : ∀ e ∈ hexDigitsOf t, ∃ d < 16, e = Nat.digitChar d := by
        rw [hdig]
        intro e he
        obtain ⟨d, hd, rfl⟩ := List.mem_map.mp he
        exact ⟨d, hlt d hd, rfl⟩
      unfold hexDigitsOf at hdigit
      split at hdigit
      · rename_i rest hm
        rw [hm] at hmem
        rcases List.mem_cons.mp hmem with h0 | hmem
        · exact Or.inr ⟨0, by omega, h0⟩
        rcases List.mem_cons.mp hmem with hx | hrest
        · exact Or.inl hx
        · exact Or.inr (hdigit _ hrest)
      · exact Or.inr (hdigit _ hmem)
    apply ordinary_of_code
    have hn : c.toLower.toNat = 120 ∨ 48 ≤ c.toLower.toNat ∧ c.toLower.toNat ≤ 57 ∨
        97 ≤ c.toLower.toNat ∧ c.toLower.toNat ≤ 102 := by
      rcases hlow with hx | ⟨d, hd, hc⟩
      · rw [hx]
        exact Or.inl rfl
      · rw [hc, toNat_digitChar]
        split_ifs <;> omega
    rw [toNat_toLower] at hn
    split_ifs at hn <;> omega
  refine ⟨fun h0 => hne ?_, fun hh => ?_, fun c hc => (hcode c hc).1⟩
  · have hempty : hexDigitsOf t = [] := by simp [hexDigitsOf, h0]
    rw [hempty] at hdig
    exact List.map_eq_nil_iff.mp hdig.symm
  · obtain ⟨cs, hcs⟩ : ∃ cs, t.toList = '#' :: cs := by
      cases hl : t.toList with
      | nil => rw [hl] at hh; cases hh
      | cons c cs => rw [hl] at hh; cases hh; exact ⟨cs, rfl⟩
    exact (hcode '#' (by rw [hcs]; exact List.mem_cons_self)).2 rfl

/-- The words the commands and the halves are written with are plain. -/
theorem plain_keywords : ∀ w ∈ ["tx", "rx", "deliver", "complete", "wait", "circ", "fill", "read",
    "first", "second"], Plain w := by
  simp [Plain, Ordinary, isBlank]

/-- The characters a number is written with. -/
theorem toList_toString (n : Nat) : (toString n).toList = Nat.toDigits 10 n := by
  rw [Nat.toString_eq_repr, Nat.repr_eq_ofList_toDigits, String.toList_ofList]

/-- A digit's code point lies between those of `0` and `9`. -/
theorem code_of_isDigit {c : Char} (h : c.isDigit = true) : 48 ≤ c.toNat ∧ c.toNat ≤ 57 := by
  simp only [Char.isDigit, Bool.and_eq_true, decide_eq_true_eq, ge_iff_le,
    UInt32.le_iff_toNat_le, Char.toNat_val] at h
  exact h

/-- A number written in decimal is a plain word. -/
theorem plain_toString (n : Nat) : Plain (toString n) := by
  have hdig : ∀ c ∈ (toString n).toList, c.isDigit = true := fun c hc =>
    Nat.isDigit_of_mem_toDigits (by omega) (by omega) (toList_toString n ▸ hc)
  have hcode : ∀ c ∈ (toString n).toList, Ordinary c ∧ c ≠ '#' := fun c hc =>
    ordinary_of_code (Or.inl (code_of_isDigit (hdig c hc)))
  refine ⟨by rw [toList_toString]; exact Nat.toDigits_ne_nil, fun hh => ?_,
    fun c hc => (hcode c hc).1⟩
  obtain ⟨c, cs, hcs⟩ := List.exists_cons_of_ne_nil
    (show (toString n).toList ≠ [] by rw [toList_toString]; exact Nat.toDigits_ne_nil)
  rw [hcs] at hh
  cases hh
  exact (hcode '#' (by rw [hcs]; exact List.mem_cons_self)).2 rfl

/-! ## Reading the words -/

/-- The value of a decimal digit. -/
theorem decimalValue?_digitChar {d : Nat} (hd : d < 10) : decimalValue? (Nat.digitChar d) = some d := by
  interval_cases d <;> decide

/-- One more digit after a run of digits: the value read so far times the base, plus the
digit. -/
theorem digitsValue?_append_singleton (digit : Char → Option Nat) (base : Nat) {cs : List Char}
    (hcs : cs ≠ []) (c : Char) :
    digitsValue? digit base (cs ++ [c]) =
      (digitsValue? digit base cs).bind fun a => (digit c).map (a * base + ·) := by
  obtain ⟨c₀, cs, rfl⟩ := List.exists_cons_of_ne_nil hcs
  simp only [List.cons_append, digitsValue?, List.foldl_append, List.foldl_cons, List.foldl_nil]
  cases List.foldl _ (digit c₀) cs <;> cases digit c <;> rfl

/-- A number written in decimal reads back as itself. -/
theorem digitsValue?_toDigits (n : Nat) : digitsValue? decimalValue? 10 (Nat.toDigits 10 n) = some n := by
  induction n using Nat.strong_induction_on with
  | _ n ih =>
    rw [Nat.toDigits_eq_if (by omega)]
    split_ifs with h
    · simp only [digitsValue?, List.foldl_nil, decimalValue?_digitChar h]
    · rw [digitsValue?_append_singleton _ _ Nat.toDigits_ne_nil, ih (n / 10) (by omega),
        Option.bind_some, decimalValue?_digitChar (Nat.mod_lt _ (by omega)), Option.map_some]
      congr 1
      omega

/-- A number below the signed 64-bit top, written in decimal, reads back as itself. -/
theorem parseInt?_toString {n : Nat} (h : n < 2 ^ 63) : parseInt? (toString n) = some (n : Int) := by
  obtain ⟨c, cs, hcs⟩ := List.exists_cons_of_ne_nil
    (show Nat.toDigits 10 n ≠ [] from Nat.toDigits_ne_nil)
  -- the first character is a digit, so the numeral has no sign
  have hc := code_of_isDigit (Nat.isDigit_of_mem_toDigits (by omega) (by omega)
    (hcs ▸ List.mem_cons_self : c ∈ Nat.toDigits 10 n))
  have hminus : c ≠ '-' := by rintro rfl; revert hc; decide
  have hplus : c ≠ '+' := by rintro rfl; revert hc; decide
  unfold parseInt?
  rw [toList_toString, hcs]
  split
  rename_i hsign
  split at hsign
  · rename_i heq
    cases heq
    exact absurd rfl hminus
  · rename_i heq
    cases heq
    exact absurd rfl hplus
  · cases hsign
    rw [← hcs, digitsValue?_toDigits]
    simp only [Bool.false_eq_true, if_false]
    rw [if_pos (by omega)]

/-- A number below the signed 64-bit top, written in decimal, is the length its word gives. -/
theorem lengthWords_number {n : Nat} (h : n < 2 ^ 63) : lengthWords [toString n] = pure n := by
  simp only [lengthWords, parseInt?_toString h, Int.natCast_nonneg, if_true, Int.toNat_natCast]

/-- A step that returns a value where it began goes on with that value. -/
theorem run_bind_of_stays {α β : Type} {x : Command α} {k : α → Command β} {s : Simulator}
    {a : α} (hx : x.run.run s = .ok (.ok a) s) : (x >>= k).run.run s = (k a).run.run s := by
  rw [ExceptT.run_bind, EStateM.run_bind, hx]

/-- A step that stops with a message where it began stops the rest. -/
theorem run_bind_of_stops {α β : Type} {x : Command α} {k : α → Command β} {s : Simulator}
    {e : String} (hx : x.run.run s = .ok (.error e) s) : (x >>= k).run.run s = .ok (.error e) s := by
  rw [ExceptT.run_bind, EStateM.run_bind, hx]
  rfl

/-- Reading the words of a line as bytes changes nothing, and it succeeds exactly when each
word writes a byte in hex, with the bytes they write. -/
theorem run_bytesWords_eq_ok_iff (ws : List String) (bs : List Nat) (s : Simulator) :
    (bytesWords ws).run.run s = .ok (.ok bs) s ↔ List.Forall₂ HexByte ws bs := by
  induction ws generalizing bs with
  | nil =>
    constructor
    · intro h
      cases h
      exact .nil
    · intro h
      cases h
      rfl
  | cons w ws ih =>
    obtain ⟨r, s', hr, hs'⟩ := sure_bytesWords (I := (· = s)) ws s rfl
    rw [hs'] at hr
    cases hw : parseHexByte? w with
    | none =>
      have hrun : (bytesWords (w :: ws)).run.run s =
          .ok (.error ("invalid byte " ++ quote w)) s := by
        simp only [bytesWords, List.mapM_cons, hw]
        rfl
      rw [hrun]
      refine ⟨nofun, fun h => ?_⟩
      cases h with
      | cons hb _ =>
        obtain ⟨b, hb, -⟩ := (hexByte_iff_parse _ _).mp hb
        rw [hw] at hb
        cases hb
    | some b =>
      have hcons : bytesWords (w :: ws) = bytesWords ws >>= fun bs => pure (b.toNat :: bs) := by
        simp only [bytesWords, List.mapM_cons, hw, pure_bind]
      cases r with
      | ok bs' =>
        rw [hcons, run_bind_of_stays hr]
        have hall := (ih bs').mp hr
        constructor
        · intro h
          cases h
          exact .cons ((hexByte_iff_parse w _).mpr ⟨b, hw, rfl⟩) hall
        · intro h
          cases h with
          | cons hwb hrest =>
            obtain ⟨b', hb', rfl⟩ := (hexByte_iff_parse _ _).mp hwb
            rw [hw] at hb'
            cases hb'
            have hr' := (ih _).mpr hrest
            rw [hr] at hr'
            cases hr'
            rfl
      | error e =>
        rw [hcons, run_bind_of_stops hr]
        refine ⟨nofun, fun h => ?_⟩
        cases h with
        | cons _ hrest =>
          have hr' := (ih _).mpr hrest
          rw [hr] at hr'
          cases hr'

/-- Hex words are plain. -/
theorem plain_of_forall₂_hexByte {ws : List String} {bs : List Nat}
    (h : List.Forall₂ HexByte ws bs) : ∀ w ∈ ws, Plain w := by
  induction h with
  | nil => nofun
  | cons hb _ ih =>
    intro w hw
    rcases List.mem_cons.mp hw with rfl | hw
    · exact plain_of_hexByte hb
    · exact ih w hw

/-- The values hex words write are bytes. -/
theorem lt_of_forall₂_hexByte {ws : List String} {bs : List Nat} (h : List.Forall₂ HexByte ws bs) :
    ∀ x ∈ bs, x < 256 := by
  induction h with
  | nil => nofun
  | cons hb _ ih =>
    intro x hx
    rcases List.mem_cons.mp hx with rfl | hx
    · obtain ⟨-, -, -, -, -, hv⟩ := hb
      omega
    · exact ih x hx

end DmaOwnership.Script
