import Mathlib
import DmaOwnership.Text.Numeral
/-!
# Hex bytes, read and printed

A script writes a byte in hex, in either case, with at most one leading `0x`, at least one
digit and a value of at most 255; it prints bytes as two lower-case digits each. `HexByte t v`
states the first rule apart from the reader, with the digits of `Nat.digitChar`, and
`lowerHex` the second. The reader accepts exactly the words `HexByte` describes and answers
their value (`parseHexByte?_eq_some_iff`), and the printer writes `lowerHex`
(`hexOfBytes_eq_lowerHex`).
-/

namespace DmaOwnership.Text

/-! ## Characters by their code points -/

theorem char_le_iff {a b : Char} : a ≤ b ↔ a.toNat ≤ b.toNat := by
  rw [Char.le_def, UInt32.le_iff_toNat_le, Char.toNat_val, Char.toNat_val]

/-- Lower-casing moves the code points of `A … Z` up by 32 and keeps all others. -/
theorem toNat_toLower (c : Char) :
    c.toLower.toNat = if 65 ≤ c.toNat ∧ c.toNat ≤ 90 then c.toNat + 32 else c.toNat := by
  unfold Char.toLower
  have hiff : (c.val ≥ 'A'.val ∧ c.val ≤ 'Z'.val) ↔ (65 ≤ c.toNat ∧ c.toNat ≤ 90) := by
    simp only [ge_iff_le, UInt32.le_iff_toNat_le, Char.toNat_val]
    rfl
  split_ifs with h1 h2 h2
  · rw [Char.toNat_mk, UInt32.toNat_add, Char.toNat_val]
    have : c.toNat ≤ 90 := h2.2
    show (c.toNat + 32) % 4294967296 = c.toNat + 32
    omega
  · exact absurd (hiff.mp h1) h2
  · exact absurd (hiff.mpr h2) h1
  · rfl

/-- The code point of a digit: `0 … 9` from 48 on, `a … f` from 97 on. -/
theorem toNat_digitChar (d : Nat) :
    (Nat.digitChar d).toNat = if d < 10 then d + 48 else if d < 16 then d + 87 else 42 := by
  by_cases h : d < 16
  · interval_cases d <;> rfl
  · rw [Nat.digitChar_eq_star.mpr (by omega)]
    simp only [show ¬ d < 10 by omega, h, if_false]
    rfl

/-- A character is a hex digit of value `d` exactly when, lower-cased, it is the digit
`Nat.digitChar d`. -/
theorem hexValue?_eq_some_iff (c : Char) (d : Nat) :
    hexValue? c = some d ↔ d < 16 ∧ c.toLower = Nat.digitChar d := by
  rw [← Char.toNat_inj, toNat_toLower, toNat_digitChar]
  unfold hexValue?
  simp only [char_le_iff]
  have h0 : '0'.toNat = 48 := rfl
  have h9 : '9'.toNat = 57 := rfl
  have ha : 'a'.toNat = 97 := rfl
  have hf : 'f'.toNat = 102 := rfl
  have hA : 'A'.toNat = 65 := rfl
  have hF : 'F'.toNat = 70 := rfl
  rw [h0, h9, ha, hf, hA, hF]
  split_ifs <;> simp <;> omega

/-- Only `0` lower-cases to `0`. -/
theorem toLower_eq_zero_iff (c : Char) : c.toLower = '0' ↔ c = '0' := by
  rw [← Char.toNat_inj, ← Char.toNat_inj, toNat_toLower]
  have h0 : '0'.toNat = 48 := rfl
  rw [h0]
  split_ifs <;> omega

/-- Only `x` and `X` lower-case to `x`. -/
theorem toLower_eq_x_iff (c : Char) : c.toLower = 'x' ↔ c = 'x' ∨ c = 'X' := by
  rw [← Char.toNat_inj, ← Char.toNat_inj, ← Char.toNat_inj, toNat_toLower]
  have hx : 'x'.toNat = 120 := rfl
  have hX : 'X'.toNat = 88 := rfl
  rw [hx, hX]
  split_ifs <;> omega

/-! ## Runs of digits -/

section Digits

variable (digit : Char → Option Nat) (base : Nat)

/-- Reading digits most significant first multiplies what was read by the base at each
digit: the digits' value under `Nat.ofDigits`, with the earlier value shifted past them. -/
theorem foldl_mul_add (a : Nat) (ds : List Nat) :
    ds.foldl (fun x d => x * base + d) a = a * base ^ ds.length + Nat.ofDigits base ds.reverse := by
  induction ds generalizing a with
  | nil => simp
  | cons d ds ih =>
    rw [List.foldl_cons, ih, Nat.ofDigits_reverse_cons, List.length_cons, pow_succ]
    ring

/-- A read that has failed stays failed. -/
theorem foldl_digits_none (cs : List Char) :
    cs.foldl (fun acc d => do pure ((← acc) * base + (← digit d))) none = none := by
  induction cs with
  | nil => rfl
  | cons c cs ih => exact ih

/-- Reading on from `a` succeeds exactly when every character is a digit, and then gives
the digits read on from `a`. -/
theorem foldl_digits_eq_some (cs : List Char) (a n : Nat) :
    cs.foldl (fun acc d => do pure ((← acc) * base + (← digit d))) (some a) = some n ↔
      ∃ ds, List.Forall₂ (fun c d => digit c = some d) cs ds ∧
        n = ds.foldl (fun x d => x * base + d) a := by
  induction cs generalizing a with
  | nil => simp [eq_comm]
  | cons c cs ih =>
    rw [List.foldl_cons]
    cases hc : digit c with
    | none =>
      change List.foldl _ none cs = some n ↔ _
      rw [foldl_digits_none]
      simp only [reduceCtorEq, false_iff, not_exists, not_and]
      rintro ds hds -
      cases hds with
      | cons hd _ => rw [hc] at hd; cases hd
    | some d =>
      change List.foldl _ (some (a * base + d)) cs = some n ↔ _
      rw [ih]
      constructor
      · rintro ⟨ds, hds, rfl⟩
        exact ⟨d :: ds, .cons hc hds, rfl⟩
      · rintro ⟨_ | ⟨d', ds⟩, hds, rfl⟩
        · cases hds
        · obtain ⟨hd, hrest⟩ := List.forall₂_cons.mp hds
          rw [hc, Option.some.injEq] at hd
          subst hd
          exact ⟨ds, hrest, rfl⟩

/-- A run of digits reads as a value exactly when it is non-empty and each character is a
digit; the value is that of the digits, most significant first. -/
theorem digitsValue?_eq_some_iff (cs : List Char) (n : Nat) :
    digitsValue? digit base cs = some n ↔
      ∃ ds, ds ≠ [] ∧ List.Forall₂ (fun c d => digit c = some d) cs ds ∧
        n = Nat.ofDigits base ds.reverse := by
  cases cs with
  | nil => simp [digitsValue?]
  | cons c cs =>
    simp only [digitsValue?]
    cases hc : digit c with
    | none =>
      rw [foldl_digits_none]
      -- no run of values matches a word whose first character is no digit
      simp only [reduceCtorEq, false_iff, not_exists, not_and]
      rintro ds - hds -
      cases hds with
      | cons hd _ => rw [hc] at hd; cases hd
    | some d =>
      rw [foldl_digits_eq_some]
      simp only [foldl_mul_add]
      constructor
      · rintro ⟨ds, hds, rfl⟩
        refine ⟨d :: ds, List.cons_ne_nil _ _, .cons hc hds, ?_⟩
        rw [Nat.ofDigits_reverse_cons]
        ring
      · rintro ⟨_ | ⟨d', ds⟩, -, hds, rfl⟩
        · cases hds
        · obtain ⟨hd, hrest⟩ := List.forall₂_cons.mp hds
          rw [hc, Option.some.injEq] at hd
          subst hd
          refine ⟨ds, hrest, ?_⟩
          rw [Nat.ofDigits_reverse_cons]
          ring

end Digits

/-- Characters that lower-case to digits of values below 16. -/
theorem forall₂_hexValue?_iff (cs : List Char) (ds : List Nat) :
    List.Forall₂ (fun c d => hexValue? c = some d) cs ds ↔
      (∀ d ∈ ds, d < 16) ∧ cs.map Char.toLower = ds.map Nat.digitChar := by
  induction cs generalizing ds with
  | nil => cases ds <;> simp
  | cons c cs ih =>
    cases ds with
    | nil => simp
    | cons d ds =>
      rw [List.forall₂_cons, ih, hexValue?_eq_some_iff]
      simp only [List.mem_cons, forall_eq_or_imp, List.map_cons, List.cons.injEq]
      tauto

/-! ## The words of a byte -/

/-- The digits of a byte's word: the word lower-cased, without one leading `0x`. -/
def hexDigitsOf (t : String) : List Char :=
  match t.toList.map Char.toLower with
  | '0' :: 'x' :: rest => rest
  | cs => cs

/-- The word `t` writes the byte `v` in hex: lower-cased and without one leading `0x`, it is a
non-empty run of hex digits, most significant first, whose value is `v`, and `v ≤ 255`. -/
def HexByte (t : String) (v : Nat) : Prop :=
  ∃ ds : List Nat, ds ≠ [] ∧ (∀ d ∈ ds, d < 16) ∧ hexDigitsOf t = ds.map Nat.digitChar ∧
    v = Nat.ofDigits 16 ds.reverse ∧ v ≤ 255

/-- The reader drops one leading `0x` or `0X` and reads the rest as hex digits; those
characters, lower-cased, are the word's digits. -/
theorem parseHexByte?_eq_digits (t : String) :
    ∃ cs, cs.map Char.toLower = hexDigitsOf t ∧ parseHexByte? t =
      (digitsValue? hexValue? 16 cs).bind fun n => if n < 256 then some n.toUInt8 else none := by
  unfold parseHexByte?
  split
  · rename_i rest h
    refine ⟨rest, ?_, ?_⟩
    · simp only [hexDigitsOf, h]
      rfl
    · dsimp only
      cases digitsValue? hexValue? 16 rest <;> rfl
  · rename_i rest h
    refine ⟨rest, ?_, ?_⟩
    · simp only [hexDigitsOf, h]
      rfl
    · dsimp only
      cases digitsValue? hexValue? 16 rest <;> rfl
  · rename_i cs hx hX
    refine ⟨t.toList, ?_, ?_⟩
    · -- a lower-cased word starts with `0x` only if the word starts with `0x` or `0X`
      unfold hexDigitsOf
      split
      · rename_i rest hm
        obtain ⟨c₁, l₁, ht, h₁, hm₁⟩ := List.map_eq_cons_iff.mp hm
        obtain ⟨c₂, rest', rfl, h₂, -⟩ := List.map_eq_cons_iff.mp hm₁
        rw [toLower_eq_zero_iff] at h₁
        subst h₁
        rcases (toLower_eq_x_iff c₂).mp h₂ with rfl | rfl
        · exact absurd ht (hx rest')
        · exact absurd ht (hX rest')
      · rfl
    · dsimp only
      cases digitsValue? hexValue? 16 t.toList <;> rfl

/-- The reader accepts exactly the words that write a byte in hex, and answers that byte. -/
theorem parseHexByte?_eq_some_iff (t : String) (b : UInt8) :
    parseHexByte? t = some b ↔ HexByte t b.toNat := by
  obtain ⟨cs, hcs, hparse⟩ := parseHexByte?_eq_digits t
  rw [hparse, Option.bind_eq_some_iff]
  simp only [HexByte, ← hcs, digitsValue?_eq_some_iff, forall₂_hexValue?_iff]
  have hb := b.toNat_lt
  constructor
  · rintro ⟨n, ⟨ds, hne, ⟨hlt, hmap⟩, rfl⟩, hv⟩
    split_ifs at hv with h256
    cases hv
    refine ⟨ds, hne, hlt, hmap, ?_, ?_⟩
    · rw [Nat.toUInt8_eq, UInt8.toNat_ofNat', Nat.mod_eq_of_lt h256]
    · rw [Nat.toUInt8_eq, UInt8.toNat_ofNat']
      omega
  · rintro ⟨ds, hne, hlt, hmap, hv, -⟩
    refine ⟨b.toNat, ⟨ds, hne, ⟨hlt, hmap⟩, hv⟩, ?_⟩
    rw [if_pos hb, Nat.toUInt8_eq, UInt8.ofNat_toNat]

/-- A word writes a byte exactly when the reader accepts it, and then it writes the byte the
reader answers. -/
theorem hexByte_iff_parse (t : String) (v : Nat) :
    HexByte t v ↔ ∃ b, parseHexByte? t = some b ∧ v = b.toNat := by
  constructor
  · intro h
    have hv : v ≤ 255 := by
      obtain ⟨-, -, -, -, -, hv⟩ := h
      exact hv
    refine ⟨v.toUInt8, (parseHexByte?_eq_some_iff t _).mpr ?_, ?_⟩
    · rwa [Nat.toUInt8_eq, UInt8.toNat_ofNat', Nat.mod_eq_of_lt (by omega)]
    · rw [Nat.toUInt8_eq, UInt8.toNat_ofNat', Nat.mod_eq_of_lt (by omega)]
  · rintro ⟨b, hb, rfl⟩
    exact (parseHexByte?_eq_some_iff t b).mp hb

/-! ## Bytes printed back -/

/-- Bytes in lower-case hex: two digits each, the high one first. -/
def lowerHex (bs : List Nat) : String :=
  String.ofList (bs.flatMap fun b => [Nat.digitChar (b / 16), Nat.digitChar (b % 16)])

theorem hexDigit_eq_digitChar {n : Nat} (h : n < 16) : hexDigit n = Nat.digitChar n := by
  interval_cases n <;> rfl

/-- The printer writes bytes in lower-case hex. -/
theorem hexOfBytes_eq_lowerHex {bs : List Nat} (h : ∀ b ∈ bs, b < 256) :
    hexOfBytes bs = lowerHex bs := by
  unfold hexOfBytes lowerHex
  congr 1
  apply List.flatMap_congr
  intro b hb
  have hhi : b / 16 < 16 := by have := h b hb; omega
  simp [hexDigits, List.range_succ, Nat.mod_eq_of_lt hhi, hexDigit_eq_digitChar hhi,
    hexDigit_eq_digitChar (Nat.mod_lt b (by decide : 16 > 0))]

end DmaOwnership.Text
