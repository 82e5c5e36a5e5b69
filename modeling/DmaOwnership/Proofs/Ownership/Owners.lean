import DmaOwnership.Machine
/-!
# Who holds what

A lane, a buffer or a ring is held by at most one live transfer at a time. `Owners` is the
part of the machine the rule is about: each lane's held mark and enable bit, the transfers of
both kinds with what they hold, and how each buffer and ring is held. A transfer is live until
it ends (released by its wait, or stopped). Buffers and rings follow one rule, `HeldBy`: at
most one live holder, a held resource in a state its holder allows, an unheld one idle; lanes
follow `LanesValid` over both tables. Each kind of change the library makes keeps the rules.
-/

namespace DmaOwnership

/-! ## Live entries of a table -/

/-- Entry `i` of the table is `t`, and `t` has not ended yet. -/
def Live {α : Type} (xs : Array α) (ended : α → Bool) (i : Nat) (t : α) : Prop :=
  xs[i]? = some t ∧ ended t = false

namespace Live

variable {α : Type} {xs : Array α} {ended : α → Bool}

/-- An entry is live as one value only. -/
theorem eq {i : Nat} {t u : α} (h : Live xs ended i t) (h' : Live xs ended i u) : t = u := by
  have e := h.1.symm.trans h'.1
  cases e
  rfl

theorem not_size (xs : Array α) (ended : α → Bool) (t : α) : ¬ Live xs ended xs.size t := fun h => by
  rw [Live, Array.getElem?_eq_none (Nat.le_refl _)] at h
  cases h.1

/-- A new entry that has not ended is live, next to the live entries there were. -/
theorem push {t₀ : α} (h0 : ended t₀ = false) {i : Nat} {t : α} :
    Live (xs.push t₀) ended i t ↔ Live xs ended i t ∨ (i = xs.size ∧ t = t₀) := by
  by_cases hi : i = xs.size
  · subst hi
    have hn := not_size xs ended t
    simp only [Live, Array.getElem?_push_size, Option.some.injEq, true_and] at hn ⊢
    constructor
    · rintro ⟨rfl, -⟩
      exact Or.inr rfl
    · rintro (h | rfl)
      · exact absurd h hn
      · exact ⟨rfl, h0⟩
  · simp only [Live, Array.getElem?_push, hi, if_false, false_and, or_false]

/-- Ending entry `n` leaves the other entries as live as they were. -/
theorem modify_ended {n : Nat} (f : α → α) (hf : ∀ t, ended (f t) = true) {i : Nat} {t : α} :
    Live (xs.modify n f) ended i t ↔ Live xs ended i t ∧ i ≠ n := by
  by_cases hi : i = n
  · subst hi
    simp only [Live, Array.getElem?_modify, if_true, ne_eq, not_true_eq_false, and_false,
      iff_false, not_and]
    intro h
    obtain ⟨u, -, rfl⟩ := Option.map_eq_some_iff.1 h
    rw [hf u]
    decide
  · simp only [Live, Array.getElem?_modify, if_neg (Ne.symm hi), ne_eq, hi, not_false_eq_true,
      and_true]

end Live

/-! ## Resources held by live entries -/

/-- Each resource is held by at most one live entry of `xs`, a held resource is in a state
its holder allows (`held`), and a resource that no live entry holds is `idle`. Entry `t`
holds resource `res t` of `state`. -/
structure HeldBy {α σ : Type} (xs : Array α) (ended : α → Bool) (res : α → Nat)
    (held : α → σ → Prop) (idle : σ) (state : Array σ) : Prop where
  /-- No two live entries hold one resource. -/
  unique : ∀ {i j t u}, Live xs ended i t → Live xs ended j u → res t = res u → i = j
  /-- A live entry's resource exists, in a state its holder allows. -/
  held_state : ∀ {i t}, Live xs ended i t → ∃ x, state[res t]? = some x ∧ held t x
  /-- A resource no live entry holds is idle. -/
  idle_state : ∀ {k x}, state[k]? = some x → (∀ i t, Live xs ended i t → res t ≠ k) → x = idle

namespace HeldBy

variable {α σ : Type} {xs : Array α} {ended : α → Bool} {res : α → Nat} {held : α → σ → Prop}
  {idle : σ} {state : Array σ}

/-- A live entry holds no resource that is idle, when holding means not idle. -/
theorem res_ne (h : HeldBy xs ended res held idle state) (hidle : ∀ t x, held t x → x ≠ idle)
    {k : Nat} (hk : state[k]? = some idle) {i : Nat} {t : α} (ht : Live xs ended i t) :
    res t ≠ k := by
  rintro rfl
  obtain ⟨x, hx, hh⟩ := h.held_state ht
  rw [hk] at hx
  cases hx
  exact hidle t idle hh rfl

/-- A new live entry takes an idle resource and puts it in a state it allows. -/
theorem push (h : HeldBy xs ended res held idle state) (hidle : ∀ t x, held t x → x ≠ idle)
    {t₀ : α} {x₀ : σ} (h0 : ended t₀ = false) (hfree : state[res t₀]? = some idle)
    (hx : held t₀ x₀) :
    HeldBy (xs.push t₀) ended res held idle (state.modify (res t₀) fun _ => x₀) := by
  have hother := fun {i t} (ht : Live xs ended i t) => h.res_ne hidle hfree ht
  refine ⟨fun {i j t u} ht hu he => ?_, fun {i t} ht => ?_, fun {k x} hk hno => ?_⟩
  · rw [Live.push h0] at ht hu
    rcases ht with ht | ⟨rfl, rfl⟩ <;> rcases hu with hu | ⟨rfl, rfl⟩
    · exact h.unique ht hu he
    · exact absurd he (hother ht)
    · exact absurd he.symm (hother hu)
    · rfl
  · rw [Live.push h0] at ht
    rcases ht with ht | ⟨rfl, rfl⟩
    · rw [Array.getElem?_modify, if_neg (Ne.symm (hother ht))]
      exact h.held_state ht
    · rw [Array.getElem?_modify, if_pos rfl, hfree]
      exact ⟨x₀, rfl, hx⟩
  · rw [Array.getElem?_modify] at hk
    by_cases hkr : res t₀ = k
    · exact absurd hkr (hno xs.size t₀ ((Live.push h0).2 (Or.inr ⟨rfl, rfl⟩)))
    · rw [if_neg hkr] at hk
      exact h.idle_state hk fun i t ht => hno i t ((Live.push h0).2 (Or.inl ht))

/-- Ending live entry `n` makes the resource it held idle. -/
theorem modify_ended (h : HeldBy xs ended res held idle state) {n : Nat} {t₀ : α}
    (hn : Live xs ended n t₀) (f : α → α) (hf : ∀ t, ended (f t) = true) :
    HeldBy (xs.modify n f) ended res held idle (state.modify (res t₀) fun _ => idle) := by
  -- the other live entries hold other resources
  have hother : ∀ {i t}, Live xs ended i t → i ≠ n → res t ≠ res t₀ :=
    fun ht hi he => hi (h.unique ht hn he)
  refine ⟨fun ht hu he => ?_, fun {i t} ht => ?_, fun {k x} hk hno => ?_⟩
  · rw [Live.modify_ended f hf] at ht hu
    exact h.unique ht.1 hu.1 he
  · rw [Live.modify_ended f hf] at ht
    rw [Array.getElem?_modify, if_neg (Ne.symm (hother ht.1 ht.2))]
    exact h.held_state ht.1
  · rw [Array.getElem?_modify] at hk
    by_cases hkr : res t₀ = k
    · rw [if_pos hkr] at hk
      obtain ⟨_, -, rfl⟩ := Option.map_eq_some_iff.1 hk
      rfl
    · rw [if_neg hkr] at hk
      refine h.idle_state hk fun i t ht => ?_
      by_cases hi : i = n
      · subst hi
        rw [Live.eq ht hn]
        exact hkr
      · exact hno i t ((Live.modify_ended f hf).2 ⟨ht, hi⟩)

/-- A live entry may move its resource to another state it allows. -/
theorem set (h : HeldBy xs ended res held idle state) {n : Nat} {t₀ : α} (hn : Live xs ended n t₀)
    {x : σ} (hx : held t₀ x) :
    HeldBy xs ended res held idle (state.modify (res t₀) fun _ => x) := by
  refine ⟨h.unique, fun {i t} ht => ?_, fun {k y} hk hno => ?_⟩
  · rw [Array.getElem?_modify]
    by_cases hr : res t₀ = res t
    · rw [if_pos hr]
      have hi := h.unique ht hn hr.symm
      subst hi
      rw [Live.eq ht hn]
      obtain ⟨y, hy, -⟩ := h.held_state hn
      rw [hy]
      exact ⟨x, rfl, hx⟩
    · rw [if_neg hr]
      exact h.held_state ht
  · rw [Array.getElem?_modify] at hk
    by_cases hkr : res t₀ = k
    · exact absurd hkr (hno n t₀ hn)
    · rw [if_neg hkr] at hk
      exact h.idle_state hk hno

/-- A new resource comes idle. -/
theorem push_idle (h : HeldBy xs ended res held idle state) :
    HeldBy xs ended res held idle (state.push idle) := by
  refine ⟨h.unique, fun {i t} ht => ?_, fun {k x} hk hno => ?_⟩
  · obtain ⟨x, hx, hh⟩ := h.held_state ht
    refine ⟨x, ?_, hh⟩
    rw [Array.getElem?_push, if_neg, hx]
    intro he
    rw [he, Array.getElem?_eq_none (Nat.le_refl _)] at hx
    cases hx
  · rw [Array.getElem?_push] at hk
    by_cases hks : k = state.size
    · rw [if_pos hks] at hk
      cases hk
      rfl
    · rw [if_neg hks] at hk
      exact h.idle_state hk hno

end HeldBy

/-! ## Who holds what -/

/-- What a circular transfer holds: its lane and its ring, until it is stopped. -/
structure StreamHold where
  /-- The lane. -/
  lane : Lane
  /-- The ring. -/
  ring : Nat
  /-- Whether it has been stopped. -/
  stopped : Bool

/-- What the circular transfer holds. -/
def Stream.hold (t : Stream) : StreamHold := ⟨t.lane, t.ring, t.stopped⟩

/-- How a transfer in this direction holds its buffer: shared when the engine reads it,
alone when the engine writes it. -/
def Direction.access : Direction → Access
  | .toPeripheral => .locked
  | .fromPeripheral => .mutLocked

theorem Direction.access_ne_unlocked (dir : Direction) : dir.access ≠ .unlocked := by
  cases dir <;> decide

/-- A holder of a lane: a one-shot or a circular transfer, by its handle. -/
inductive Holder where
  /-- The one-shot transfer with the handle. -/
  | transfer (id : Nat)
  /-- The circular transfer with the handle. -/
  | stream (id : Nat)
deriving DecidableEq

/-- Who holds what: each lane's held mark and enable bit, the transfers of both kinds,
how each buffer is held and the phase of each ring. -/
structure Owners where
  /-- Whether the lane is marked held. -/
  owned : Lane → Bool
  /-- Whether the lane's enable bit is set. -/
  enabled : Lane → Bool
  /-- The one-shot transfers. -/
  transfers : Array Transfer
  /-- What the circular transfers hold. -/
  streams : Array StreamHold
  /-- How each buffer is held. -/
  access : Array Access
  /-- The phase of each ring. -/
  phases : Array Phase

namespace Owners

/-- Holder `h` is live and runs on lane `l`. -/
def Holds (o : Owners) : Holder → Lane → Prop
  | .transfer id, l => ∃ t, Live o.transfers Transfer.released id t ∧ t.lane = l
  | .stream id, l => ∃ t, Live o.streams StreamHold.stopped id t ∧ t.lane = l

/-- Each lane is held by at most one live transfer of either kind, it is marked held
exactly when one holds it, and only a held lane is enabled. -/
structure LanesValid (o : Owners) : Prop where
  /-- No two live transfers hold one lane. -/
  unique : ∀ {l h h'}, o.Holds h l → o.Holds h' l → h = h'
  /-- A lane is marked held exactly when a live transfer holds it. -/
  owned_iff : ∀ l, o.owned l = true ↔ ∃ h, o.Holds h l
  /-- Only a held lane is enabled. -/
  enabled_owned : ∀ l, o.enabled l = true → o.owned l = true

/-- Each buffer is held by at most one live one-shot transfer, is locked as that
transfer's direction says, and is unlocked when none holds it. -/
def BuffersValid (o : Owners) : Prop :=
  HeldBy o.transfers Transfer.released Transfer.buffer (fun t a => a = t.direction.access)
    .unlocked o.access

/-- Each ring is held by at most one live circular transfer, is being filled while one
holds it, and is free when none does. -/
def RingsValid (o : Owners) : Prop :=
  HeldBy o.streams StreamHold.stopped StreamHold.ring (fun _ p => p ≠ .free) .free o.phases

/-- Every lane, buffer and ring is held as the rules say. -/
structure Valid (o : Owners) : Prop where
  /-- The lanes. -/
  lanes : o.LanesValid
  /-- The buffers. -/
  buffers : o.BuffersValid
  /-- The rings. -/
  rings : o.RingsValid

variable {o o' : Owners}

theorem Holds.lane_eq {h : Holder} {l m : Lane} (hl : o.Holds h l) (hm : o.Holds h m) : l = m := by
  cases h with
  | transfer id =>
    obtain ⟨t, ht, rfl⟩ := hl
    obtain ⟨u, hu, rfl⟩ := hm
    rw [Live.eq ht hu]
  | stream id =>
    obtain ⟨t, ht, rfl⟩ := hl
    obtain ⟨u, hu, rfl⟩ := hm
    rw [Live.eq ht hu]

/-! ## Holders after a change of the tables -/

theorem holds_pushTransfer {t₀ : Transfer} (h0 : t₀.released = false)
    (ht : o'.transfers = o.transfers.push t₀) (hs : o'.streams = o.streams) (g : Holder)
    (m : Lane) : o'.Holds g m ↔ o.Holds g m ∨ (g = .transfer o.transfers.size ∧ m = t₀.lane) := by
  cases g with
  | transfer id =>
    simp only [Holds, ht, Live.push h0, Holder.transfer.injEq]
    constructor
    · rintro ⟨t, ht | ⟨rfl, rfl⟩, rfl⟩
      · exact Or.inl ⟨t, ht, rfl⟩
      · exact Or.inr ⟨rfl, rfl⟩
    · rintro (⟨t, ht, rfl⟩ | ⟨rfl, rfl⟩)
      · exact ⟨t, Or.inl ht, rfl⟩
      · exact ⟨t₀, Or.inr ⟨rfl, rfl⟩, rfl⟩
  | stream id => simp only [Holds, hs, reduceCtorEq, false_and, or_false]

theorem holds_pushStream {t₀ : StreamHold} (h0 : t₀.stopped = false)
    (ht : o'.transfers = o.transfers) (hs : o'.streams = o.streams.push t₀) (g : Holder)
    (m : Lane) : o'.Holds g m ↔ o.Holds g m ∨ (g = .stream o.streams.size ∧ m = t₀.lane) := by
  cases g with
  | transfer id => simp only [Holds, ht, reduceCtorEq, false_and, or_false]
  | stream id =>
    simp only [Holds, hs, Live.push h0, Holder.stream.injEq]
    constructor
    · rintro ⟨t, ht | ⟨rfl, rfl⟩, rfl⟩
      · exact Or.inl ⟨t, ht, rfl⟩
      · exact Or.inr ⟨rfl, rfl⟩
    · rintro (⟨t, ht, rfl⟩ | ⟨rfl, rfl⟩)
      · exact ⟨t, Or.inl ht, rfl⟩
      · exact ⟨t₀, Or.inr ⟨rfl, rfl⟩, rfl⟩

theorem holds_releaseTransfer {n : Nat} (f : Transfer → Transfer) (hf : ∀ t, (f t).released = true)
    (ht : o'.transfers = o.transfers.modify n f) (hs : o'.streams = o.streams) (g : Holder)
    (m : Lane) : o'.Holds g m ↔ o.Holds g m ∧ g ≠ .transfer n := by
  cases g with
  | transfer id =>
    simp only [Holds, ht, Live.modify_ended f hf, ne_eq, Holder.transfer.injEq]
    constructor
    · rintro ⟨t, ⟨ht, hi⟩, rfl⟩
      exact ⟨⟨t, ht, rfl⟩, hi⟩
    · rintro ⟨⟨t, ht, rfl⟩, hi⟩
      exact ⟨t, ⟨ht, hi⟩, rfl⟩
  | stream id => simp only [Holds, hs, ne_eq, reduceCtorEq, not_false_eq_true, and_true]

theorem holds_stopStream {n : Nat} (f : StreamHold → StreamHold) (hf : ∀ t, (f t).stopped = true)
    (ht : o'.transfers = o.transfers) (hs : o'.streams = o.streams.modify n f) (g : Holder)
    (m : Lane) : o'.Holds g m ↔ o.Holds g m ∧ g ≠ .stream n := by
  cases g with
  | transfer id => simp only [Holds, ht, ne_eq, reduceCtorEq, not_false_eq_true, and_true]
  | stream id =>
    simp only [Holds, hs, Live.modify_ended f hf, ne_eq, Holder.stream.injEq]
    constructor
    · rintro ⟨t, ⟨ht, hi⟩, rfl⟩
      exact ⟨⟨t, ht, rfl⟩, hi⟩
    · rintro ⟨⟨t, ht, rfl⟩, hi⟩
      exact ⟨t, ⟨ht, hi⟩, rfl⟩

/-! ## The rule for lanes under each kind of change -/

namespace LanesValid

/-- A new holder of a free lane marks it held and may enable it. -/
theorem add (h : o.LanesValid) {h₀ : Holder} {l : Lane}
    (hh : ∀ g m, o'.Holds g m ↔ o.Holds g m ∨ (g = h₀ ∧ m = l)) (hfree : o.owned l = false)
    (hown : ∀ m, o'.owned m = if m = l then true else o.owned m)
    (hen : ∀ m, o'.enabled m = true → o.enabled m = true ∨ m = l) : o'.LanesValid := by
  have hnone : ∀ g, ¬ o.Holds g l := fun g hg => by
    have hl := (h.owned_iff l).2 ⟨g, hg⟩
    rw [hfree] at hl
    cases hl
  refine ⟨fun {m g g'} hg hg' => ?_, fun m => ?_, fun m hm => ?_⟩
  · rw [hh] at hg hg'
    rcases hg with hg | ⟨rfl, rfl⟩ <;> rcases hg' with hg' | ⟨rfl, hm⟩
    · exact h.unique hg hg'
    · exact absurd (hm ▸ hg) (hnone _)
    · exact absurd hg' (hnone _)
    · rfl
  · rw [hown]
    by_cases hm : m = l
    · subst hm
      simp only [if_true, true_iff]
      exact ⟨h₀, (hh _ _).2 (Or.inr ⟨rfl, rfl⟩)⟩
    · rw [if_neg hm, h.owned_iff]
      constructor
      · rintro ⟨g, hg⟩
        exact ⟨g, (hh _ _).2 (Or.inl hg)⟩
      · rintro ⟨g, hg⟩
        rcases (hh _ _).1 hg with hg | ⟨-, rfl⟩
        · exact ⟨g, hg⟩
        · exact absurd rfl hm
  · rw [hown]
    rcases hen m hm with he | rfl
    · split
      · rfl
      · exact h.enabled_owned m he
    · simp

/-- A holder that ends frees its lane, which must not stay enabled. -/
theorem remove (h : o.LanesValid) {h₀ : Holder} {l : Lane} (hheld : o.Holds h₀ l)
    (hh : ∀ g m, o'.Holds g m ↔ o.Holds g m ∧ g ≠ h₀)
    (hown : ∀ m, o'.owned m = if m = l then false else o.owned m)
    (hen : ∀ m, o'.enabled m = true → o.enabled m = true ∧ m ≠ l) : o'.LanesValid := by
  refine ⟨fun hg hg' => h.unique ((hh _ _).1 hg).1 ((hh _ _).1 hg').1, fun m => ?_,
    fun m hm => ?_⟩
  · rw [hown]
    by_cases hm : m = l
    · subst hm
      simp only [if_true, Bool.false_eq_true, false_iff]
      rintro ⟨g, hg⟩
      obtain ⟨hg, hne⟩ := (hh _ _).1 hg
      exact hne (h.unique hg hheld)
    · rw [if_neg hm, h.owned_iff]
      constructor
      · rintro ⟨g, hg⟩
        refine ⟨g, (hh _ _).2 ⟨hg, ?_⟩⟩
        rintro rfl
        exact hm (hg.lane_eq hheld)
      · rintro ⟨g, hg⟩
        exact ⟨g, ((hh _ _).1 hg).1⟩
  · obtain ⟨he, hne⟩ := hen m hm
    rw [hown, if_neg hne]
    exact h.enabled_owned m he

/-- Setting enable bits of held lanes, or clearing any, keeps the rule. -/
theorem enable (h : o.LanesValid) (hh : ∀ g m, o'.Holds g m ↔ o.Holds g m)
    (hown : ∀ m, o'.owned m = o.owned m)
    (hen : ∀ m, o'.enabled m = true → o.enabled m = true ∨ o.owned m = true) :
    o'.LanesValid := by
  refine ⟨fun hg hg' => h.unique ((hh _ _).1 hg) ((hh _ _).1 hg'), fun m => ?_, fun m hm => ?_⟩
  · rw [hown, h.owned_iff]
    exact exists_congr fun g => (hh g m).symm
  · rw [hown]
    rcases hen m hm with he | ho
    · exact h.enabled_owned m he
    · exact ho

end LanesValid

/-! ## The whole rule under each kind of change -/

namespace Valid

/-- A one-shot transfer that starts takes a free lane and an unlocked buffer, marks the
lane held, may enable it, and locks the buffer as its direction says. -/
theorem startTransfer (h : o.Valid) {t₀ : Transfer} (h0 : t₀.released = false)
    (hfree : o.owned t₀.lane = false) (hbuf : o.access[t₀.buffer]? = some .unlocked)
    (hown : ∀ m, o'.owned m = if m = t₀.lane then true else o.owned m)
    (hen : ∀ m, o'.enabled m = true → o.enabled m = true ∨ m = t₀.lane)
    (ht : o'.transfers = o.transfers.push t₀) (hs : o'.streams = o.streams)
    (ha : o'.access = o.access.modify t₀.buffer fun _ => t₀.direction.access)
    (hp : o'.phases = o.phases) : o'.Valid := by
  refine ⟨h.lanes.add (holds_pushTransfer h0 ht hs) hfree hown hen, ?_, ?_⟩
  · unfold BuffersValid
    rw [ht, ha]
    exact h.buffers.push (fun t _ ha => ha ▸ t.direction.access_ne_unlocked) h0 hbuf rfl
  · unfold RingsValid
    rw [hs, hp]
    exact h.rings

/-- A circular transfer that starts takes a free lane and a free ring, marks the lane
held, may enable it, and starts filling the ring. -/
theorem startStream (h : o.Valid) {t₀ : StreamHold} (h0 : t₀.stopped = false)
    (hfree : o.owned t₀.lane = false) (hring : o.phases[t₀.ring]? = some .free)
    (hown : ∀ m, o'.owned m = if m = t₀.lane then true else o.owned m)
    (hen : ∀ m, o'.enabled m = true → o.enabled m = true ∨ m = t₀.lane)
    (ht : o'.transfers = o.transfers) (hs : o'.streams = o.streams.push t₀)
    (ha : o'.access = o.access) (hp : o'.phases = o.phases.modify t₀.ring fun _ => .fillingFirst) :
    o'.Valid := by
  refine ⟨h.lanes.add (holds_pushStream h0 ht hs) hfree hown hen, ?_, ?_⟩
  · unfold BuffersValid
    rw [ht, ha]
    exact h.buffers
  · unfold RingsValid
    rw [hs, hp]
    exact h.rings.push (fun _ _ hx => hx) h0 hring (by decide)

/-- A one-shot transfer that is released frees its lane, which it leaves disabled, and
unlocks its buffer. -/
theorem releaseTransfer (h : o.Valid) {n : Nat} {t₀ : Transfer}
    (hn : Live o.transfers Transfer.released n t₀)
    (hown : ∀ m, o'.owned m = if m = t₀.lane then false else o.owned m)
    (hen : ∀ m, o'.enabled m = true → o.enabled m = true ∧ m ≠ t₀.lane)
    (ht : o'.transfers = o.transfers.modify n fun t => { t with released := true })
    (hs : o'.streams = o.streams) (ha : o'.access = o.access.modify t₀.buffer fun _ => .unlocked)
    (hp : o'.phases = o.phases) : o'.Valid := by
  refine ⟨h.lanes.remove (show o.Holds (.transfer n) t₀.lane from ⟨t₀, hn, rfl⟩)
    (holds_releaseTransfer _ (fun _ => rfl) ht hs) hown hen, ?_, ?_⟩
  · unfold BuffersValid
    rw [ht, ha]
    exact h.buffers.modify_ended hn _ fun _ => rfl
  · unfold RingsValid
    rw [hs, hp]
    exact h.rings

/-- A circular transfer that is stopped frees its lane, which it leaves disabled, and
frees its ring. -/
theorem stopStream (h : o.Valid) {n : Nat} {t₀ : StreamHold}
    (hn : Live o.streams StreamHold.stopped n t₀)
    (hown : ∀ m, o'.owned m = if m = t₀.lane then false else o.owned m)
    (hen : ∀ m, o'.enabled m = true → o.enabled m = true ∧ m ≠ t₀.lane)
    (ht : o'.transfers = o.transfers)
    (hs : o'.streams = o.streams.modify n fun t => { t with stopped := true })
    (ha : o'.access = o.access) (hp : o'.phases = o.phases.modify t₀.ring fun _ => .free) :
    o'.Valid := by
  refine ⟨h.lanes.remove (show o.Holds (.stream n) t₀.lane from ⟨t₀, hn, rfl⟩)
    (holds_stopStream _ (fun _ => rfl) ht hs) hown hen, ?_, ?_⟩
  · unfold BuffersValid
    rw [ht, ha]
    exact h.buffers
  · unfold RingsValid
    rw [hs, hp]
    exact h.rings.modify_ended hn _ fun _ => rfl

/-- A live circular transfer may move its ring to another phase of filling. -/
theorem refill (h : o.Valid) {n : Nat} {t₀ : StreamHold}
    (hn : Live o.streams StreamHold.stopped n t₀) {p : Phase} (hfill : p ≠ .free)
    (hown : ∀ m, o'.owned m = o.owned m) (hen : ∀ m, o'.enabled m = o.enabled m)
    (ht : o'.transfers = o.transfers) (hs : o'.streams = o.streams) (ha : o'.access = o.access)
    (hp : o'.phases = o.phases.modify t₀.ring fun _ => p) : o'.Valid := by
  have hh : ∀ g m, o'.Holds g m ↔ o.Holds g m := fun g m => by
    cases g <;> simp only [Holds, ht, hs]
  refine ⟨h.lanes.enable hh hown fun m hm => Or.inl ((hen m).symm ▸ hm), ?_, ?_⟩
  · unfold BuffersValid
    rw [ht, ha]
    exact h.buffers
  · unfold RingsValid
    rw [hs, hp]
    exact h.rings.set hn hfill

/-- Setting the enable bits of held lanes, or clearing any, keeps the rules. -/
theorem enable (h : o.Valid) (hown : ∀ m, o'.owned m = o.owned m)
    (hen : ∀ m, o'.enabled m = true → o.enabled m = true ∨ o.owned m = true)
    (ht : o'.transfers = o.transfers) (hs : o'.streams = o.streams) (ha : o'.access = o.access)
    (hp : o'.phases = o.phases) : o'.Valid := by
  have hh : ∀ g m, o'.Holds g m ↔ o.Holds g m := fun g m => by
    cases g <;> simp only [Holds, ht, hs]
  refine ⟨h.lanes.enable hh hown hen, ?_, ?_⟩
  · unfold BuffersValid
    rw [ht, ha]
    exact h.buffers
  · unfold RingsValid
    rw [hs, hp]
    exact h.rings

/-- With no transfers, no buffers, no rings and no lane held or enabled, the rules hold. -/
theorem empty (hown : ∀ m, o.owned m = false) (hen : ∀ m, o.enabled m = false)
    (ht : o.transfers = #[]) (hs : o.streams = #[]) (ha : o.access = #[]) (hp : o.phases = #[]) :
    o.Valid := by
  -- nothing is live in an empty table
  have hnone : ∀ g m, ¬ o.Holds g m := by
    intro g m hg
    cases g with
    | transfer id =>
      obtain ⟨t, ⟨ht', -⟩, -⟩ := hg
      rw [ht] at ht'
      cases ht'
    | stream id =>
      obtain ⟨t, ⟨hs', -⟩, -⟩ := hg
      rw [hs] at hs'
      cases hs'
  refine ⟨⟨fun hg => absurd hg (hnone _ _), fun m => ?_, fun m hm => ?_⟩, ?_, ?_⟩
  · rw [hown]
    exact ⟨fun h => (by cases h), fun ⟨g, hg⟩ => absurd hg (hnone g m)⟩
  · rw [hen] at hm
    cases hm
  · unfold BuffersValid
    rw [ht, ha]
    refine ⟨fun ht' => (by cases ht'.1), fun ht' => (by cases ht'.1), fun hk => (by cases hk)⟩
  · unfold RingsValid
    rw [hs, hp]
    refine ⟨fun ht' => (by cases ht'.1), fun ht' => (by cases ht'.1), fun hk => (by cases hk)⟩

/-- New buffers come unlocked and new rings free. -/
theorem push (h : o.Valid) (hown : ∀ m, o'.owned m = o.owned m)
    (hen : ∀ m, o'.enabled m = o.enabled m) (ht : o'.transfers = o.transfers)
    (hs : o'.streams = o.streams)
    (ha : o'.access = o.access ∨ o'.access = o.access.push .unlocked)
    (hp : o'.phases = o.phases ∨ o'.phases = o.phases.push .free) : o'.Valid := by
  have hh : ∀ g m, o'.Holds g m ↔ o.Holds g m := fun g m => by
    cases g <;> simp only [Holds, ht, hs]
  refine ⟨h.lanes.enable hh hown fun m hm => Or.inl ((hen m).symm ▸ hm), ?_, ?_⟩
  · unfold BuffersValid
    rw [ht]
    rcases ha with ha | ha <;> rw [ha]
    · exact h.buffers
    · exact h.buffers.push_idle
  · unfold RingsValid
    rw [hs]
    rcases hp with hp | hp <;> rw [hp]
    · exact h.rings
    · exact h.rings.push_idle

end Valid

end Owners

end DmaOwnership
