import DmaOwnership.Proofs.Ownership.AtRest
import DmaOwnership.Proofs.Script.Halts
/-!
# The simulator's books

The simulator lists, for each lane, the one-shot and the circular transfer it started there,
with the parts it gave each. `Simulator.Books` says the lists are exact: a lane lists a
transfer of a kind exactly when a live transfer of that kind runs on it with those parts, and
the machine is at rest. Every line of a script run from a state with its books returns
without a fault and keeps them, so no script ends with a fault and no report is an ownership
violation. `Returns I x s` says that `x` from `s` returns without a fault in a state with `I`;
`Sure I x` that it does so from every state with `I`.
-/

namespace DmaOwnership

/-! ## Returning without a fault -/

section Returns

variable {σ α β : Type} {I : σ → Prop}

/-- Run from `s`, `x` returns, without a fault, in a state with `I`. -/
def Returns (I : σ → Prop) (x : EStateM Fault σ α) (s : σ) : Prop :=
  ∃ a s', x.run s = .ok a s' ∧ I s'

/-- From every state with `I`, `x` returns in a state with `I`. -/
def Sure (I : σ → Prop) (x : EStateM Fault σ α) : Prop :=
  ∀ s, I s → Returns I x s

theorem Returns.bind {x : EStateM Fault σ α} {k : α → EStateM Fault σ β} {s s' : σ} {a : α}
    (hx : x.run s = .ok a s') (hk : Returns I (k a) s') : Returns I (x >>= k) s := by
  obtain ⟨b, s'', hr, hI⟩ := hk
  exact ⟨b, s'', by rw [EStateM.run_bind, hx]; exact hr, hI⟩

theorem sure_pure (a : α) : Sure I (pure a : EStateM Fault σ α) := fun s hs => ⟨a, s, rfl, hs⟩

theorem sure_bind {x : EStateM Fault σ α} {k : α → EStateM Fault σ β} (hx : Sure I x)
    (hk : ∀ a, Sure I (k a)) : Sure I (x >>= k) := by
  intro s hs
  obtain ⟨a, s', hr, hI⟩ := hx s hs
  exact Returns.bind hr (hk a s' hI)

/-! ### Commands, which may also stop with a message -/

variable {ε : Type}

theorem Returns.run_bind {x : ExceptT ε (EStateM Fault σ) α} {k : α → ExceptT ε (EStateM Fault σ) β}
    {s s' : σ} {a : α} (hx : x.run.run s = .ok (.ok a) s') (hk : Returns I (k a).run s') :
    Returns I (x >>= k).run s := by
  rw [ExceptT.run_bind]
  exact Returns.bind hx hk

/-- A step that returns to the state it began in, with a value or a message. -/
theorem Returns.run_bind_stay {x : ExceptT ε (EStateM Fault σ) α}
    {k : α → ExceptT ε (EStateM Fault σ) β} {s : σ} (hx : Sure (· = s) x.run) (hI : I s)
    (hk : ∀ a, Returns I (k a).run s) : Returns I (x >>= k).run s := by
  obtain ⟨r, s', hr, rfl⟩ := hx s rfl
  rw [ExceptT.run_bind]
  refine Returns.bind hr ?_
  cases r with
  | ok a => exact hk a
  | error e => exact ⟨_, s', rfl, hI⟩

theorem sure_run_bind {x : ExceptT ε (EStateM Fault σ) α} {k : α → ExceptT ε (EStateM Fault σ) β}
    (hx : Sure I x.run) (hk : ∀ a, Sure I (k a).run) : Sure I (x >>= k).run := by
  rw [ExceptT.run_bind]
  refine sure_bind hx fun r => ?_
  cases r with
  | ok a => exact hk a
  | error e => exact sure_pure _

theorem sure_run_pure (a : α) : Sure I (pure a : ExceptT ε (EStateM Fault σ) α).run :=
  sure_pure _

theorem sure_run_throw (e : ε) : Sure I (throw e : ExceptT ε (EStateM Fault σ) α).run :=
  sure_pure _

theorem sure_run_ite {c : Prop} [Decidable c] {x y : ExceptT ε (EStateM Fault σ) α}
    (hx : Sure I x.run) (hy : Sure I y.run) : Sure I (if c then x else y).run := by
  split
  · exact hx
  · exact hy

theorem sure_run_get : Sure I (get : ExceptT ε (EStateM Fault σ) σ).run :=
  fun s hs => ⟨_, s, rfl, hs⟩

theorem sure_run_mapM {γ : Type} {f : γ → ExceptT ε (EStateM Fault σ) α}
    (hf : ∀ a, Sure I (f a).run) : ∀ ws : List γ, Sure I (ws.mapM f).run
  | [] => by
    rw [List.mapM_nil]
    exact sure_run_pure _
  | a :: ws => by
    rw [List.mapM_cons]
    exact sure_run_bind (hf a) fun _ => sure_run_bind (sure_run_mapM hf ws) fun _ => sure_run_pure _

end Returns

/-! ## Lists of live entries, one entry per lane -/

section Lists

variable {E T : Type} {handle : E → Nat} {ended : T → Bool} {parts : T → Handback}
  {held : E → Lane → Handback}

variable (handle ended parts held) in
/-- The lanes' entries list the live entries of `xs` exactly: the entry of a lane names a
live entry (by `handle`) that holds the parts it records for the lane, and every live
entry is listed for the lane it runs on. -/
structure Lists (entries : Vector (Option E) 7) (xs : Array T) : Prop where
  /-- A listed entry is live and holds the parts recorded. -/
  listed : ∀ (l : Lane) e, l.entry entries = some e →
    ∃ t, Live xs ended (handle e) t ∧ parts t = held e l
  /-- A live entry is listed for its lane. -/
  complete : ∀ i t, Live xs ended i t → ∃ e, (parts t).lane.entry entries = some e ∧ handle e = i

namespace Lists

variable {entries : Vector (Option E) 7} {xs : Array T}

/-- A lane with no entry runs no live entry. -/
theorem free (h : Lists handle ended parts held entries xs) {l : Lane} (hl : l.entry entries = none)
    {i : Nat} {t : T} (ht : Live xs ended i t) : (parts t).lane ≠ l := by
  intro heq
  obtain ⟨e, he, -⟩ := h.complete i t ht
  rw [heq, hl] at he
  cases he

/-- Listing a new live entry on a lane that had none. -/
theorem push (h : Lists handle ended parts held entries xs) (hlane : ∀ e l, (held e l).lane = l)
    {l : Lane} (hl : l.entry entries = none) {t₀ : T} {e₀ : E} (h0 : ended t₀ = false)
    (hp : parts t₀ = held e₀ l) (hh : handle e₀ = xs.size) :
    Lists handle ended parts held (l.setEntry entries (some e₀)) (xs.push t₀) := by
  refine ⟨fun m e he => ?_, fun i t ht => ?_⟩
  · by_cases hlm : l = m
    · subst hlm
      rw [Lane.entry_setEntry] at he
      cases he
      exact ⟨t₀, (Live.push h0).2 (Or.inr ⟨hh, rfl⟩), hp⟩
    · rw [Lane.entry_setEntry_of_ne _ _ _ _ hlm] at he
      obtain ⟨t, ht, htp⟩ := h.listed m e he
      exact ⟨t, (Live.push h0).2 (Or.inl ht), htp⟩
  · rcases (Live.push h0).1 ht with ht | ⟨rfl, rfl⟩
    · -- an old entry runs on another lane, whose entry stays
      obtain ⟨e, he, hhe⟩ := h.complete i t ht
      rw [Lane.entry_setEntry_of_ne _ _ _ _ (Ne.symm (h.free hl ht))]
      exact ⟨e, he, hhe⟩
    · rw [hp, hlane, Lane.entry_setEntry]
      exact ⟨e₀, rfl, hh⟩

/-- Ending the entry listed on a lane and taking it off the lane. -/
theorem release (h : Lists handle ended parts held entries xs) (hlane : ∀ e l, (held e l).lane = l)
    {l : Lane} {e₀ : E} (he₀ : l.entry entries = some e₀) (f : T → T)
    (hf : ∀ t, ended (f t) = true) :
    Lists handle ended parts held (l.setEntry entries none) (xs.modify (handle e₀) f) := by
  obtain ⟨t₀, ht₀, hp₀⟩ := h.listed l e₀ he₀
  refine ⟨fun m e he => ?_, fun i t ht => ?_⟩
  · have hlm : l ≠ m := by
      rintro rfl
      rw [Lane.entry_setEntry] at he
      cases he
    rw [Lane.entry_setEntry_of_ne _ _ _ _ hlm] at he
    obtain ⟨t, ht, htp⟩ := h.listed m e he
    -- the two entries run on different lanes, so they are different entries
    have hne : handle e ≠ handle e₀ := by
      intro heq
      rw [heq] at ht
      have hlanes := congrArg Handback.lane ((congrArg parts (ht.eq ht₀)).symm.trans htp)
      rw [hp₀, hlane, hlane] at hlanes
      exact hlm hlanes
    exact ⟨t, (Live.modify_ended f hf).2 ⟨ht, hne⟩, htp⟩
  · obtain ⟨ht, hi⟩ := (Live.modify_ended f hf).1 ht
    obtain ⟨e, he, hhe⟩ := h.complete i t ht
    have hlt : l ≠ (parts t).lane := by
      intro heq
      rw [← heq, he₀] at he
      cases he
      exact hi hhe.symm
    rw [Lane.entry_setEntry_of_ne _ _ _ _ hlt]
    exact ⟨e, he, hhe⟩

/-- The lists read only the parts and the end of each entry. -/
theorem of_map (h : Lists handle ended parts held entries xs) {xs' : Array T}
    (hx : xs'.map (fun t => (parts t, ended t)) = xs.map fun t => (parts t, ended t)) :
    Lists handle ended parts held entries xs' := by
  -- an entry is live with its parts in one table exactly when it is in the other
  have hlive : ∀ i p, (∃ t, Live xs' ended i t ∧ parts t = p) → ∃ t, Live xs ended i t ∧ parts t = p := by
    rintro i p ⟨t, ⟨hti, hst⟩, hp⟩
    have hi := congrArg (·[i]?) hx
    simp only [Array.getElem?_map, hti] at hi
    obtain ⟨u, hu, hequ⟩ := Option.map_eq_some_iff.1 hi.symm
    obtain ⟨hpu, hsu⟩ := Prod.mk.inj hequ
    exact ⟨u, ⟨hu, hsu.trans hst⟩, hpu.trans hp⟩
  have hlive' : ∀ i p, (∃ t, Live xs ended i t ∧ parts t = p) → ∃ t, Live xs' ended i t ∧ parts t = p := by
    rintro i p ⟨t, ⟨hti, hst⟩, hp⟩
    have hi := congrArg (·[i]?) hx
    simp only [Array.getElem?_map, hti] at hi
    obtain ⟨u, hu, hequ⟩ := Option.map_eq_some_iff.1 hi
    obtain ⟨hpu, hsu⟩ := Prod.mk.inj hequ
    exact ⟨u, ⟨hu, hsu.trans hst⟩, hpu.trans hp⟩
  refine ⟨fun l e he => hlive' _ _ (h.listed l e he), fun i t ht => ?_⟩
  obtain ⟨u, hu, hpu⟩ := hlive i (parts t) ⟨t, ht, rfl⟩
  rw [← hpu]
  exact h.complete i u hu

/-- A lane has an entry exactly when a live entry runs on it. -/
theorem listed_iff (h : Lists handle ended parts held entries xs) (hlane : ∀ e l, (held e l).lane = l)
    (l : Lane) : (∃ e, l.entry entries = some e) ↔ ∃ i t, Live xs ended i t ∧ (parts t).lane = l := by
  constructor
  · rintro ⟨e, he⟩
    obtain ⟨t, ht, hp⟩ := h.listed l e he
    exact ⟨handle e, t, ht, by rw [hp, hlane]⟩
  · rintro ⟨i, t, ht, rfl⟩
    obtain ⟨e, he, -⟩ := h.complete i t ht
    exact ⟨e, he⟩

end Lists

end Lists

end DmaOwnership

namespace DmaOwnership.Script

open Machine

/-! ## The books -/

/-- The parts a one-shot transfer listed on a lane was started with. -/
def OneShot.parts (o : OneShot) (l : Lane) : Handback := ⟨l, o.buffer, o.peripheral⟩

/-- The parts a circular transfer listed on a lane was started with. -/
def Circular.parts (c : Circular) (l : Lane) : Handback := ⟨l, c.ring, c.peripheral⟩

/-- The simulator's books: the machine is at rest; a lane lists a one-shot or a circular
transfer exactly when a live transfer of that kind runs on it, holding the parts listed;
and the last report was no ownership violation. -/
structure Simulator.Books (s : Simulator) : Prop where
  /-- The machine is at rest. -/
  atRest : s.machine.AtRest
  /-- The one-shot transfers listed are the live ones. -/
  oneShots : Lists OneShot.transfer Transfer.released Transfer.parts OneShot.parts s.oneShots
    s.machine.transfers
  /-- The circular transfers listed are the live ones. -/
  circulars : Lists Circular.stream Stream.stopped Stream.parts Circular.parts s.circulars
    s.machine.streams
  /-- The last report was no ownership violation. -/
  quiet : s.last ≠ "ownership violation"

/-- No result word is an ownership violation. -/
theorem resultText_ne (r : Option Refusal) : resultText r ≠ "ownership violation" := by
  rcases r with _ | r
  · decide
  · cases r <;> decide

/-- A transfer that hands back the parts it was started with reports the word of its
refusal. -/
@[simp] theorem handbackText_self (p : Handback) (r : Option Refusal) :
    handbackText p p r = resultText r := by
  simp only [handbackText, if_true]

/-- The counts line never reads as an ownership violation. -/
theorem starts_ne (x : String) : "starts=" ++ x ≠ "ownership violation" := by
  intro h
  have hhead := congrArg (fun s => s.toList.head?) h
  simp at hhead

namespace Simulator.Books

variable {s : Simulator}

theorem start : ({} : Simulator).Books where
  atRest := ⟨ownership_takeLanes, fun _ => ⟨rfl, rfl⟩⟩
  oneShots := ⟨fun _ _ he => by simp [Lane.entry] at he, fun _ _ ht => by simp [Live] at ht⟩
  circulars := ⟨fun _ _ he => by simp [Lane.entry] at he, fun _ _ ht => by simp [Live] at ht⟩
  quiet := by decide

/-- A line that only counts keeps the books. -/
theorem count (hs : s.Books) (n : Nat) : ({ s with line := n } : Simulator).Books :=
  ⟨hs.atRest, hs.oneShots, hs.circulars, hs.quiet⟩

/-- A change of the machine that leaves it at rest and keeps its ledger keeps the books. -/
theorem machine (hs : s.Books) {m : Machine} (hm : m.AtRest) (hl : m.ledger = s.machine.ledger) :
    ({ s with machine := m } : Simulator).Books := by
  obtain ⟨ht, hst⟩ := Prod.mk.inj hl
  exact ⟨hm, hs.oneShots.of_map ht, hs.circulars.of_map hst, hs.quiet⟩

/-- A client program that returns and keeps the ledger keeps the books. -/
theorem act (hs : s.Books) {α : Type} {x : Act α} (hx : Client x) {a : α} {m : Machine}
    (hr : x.run s.machine = .ok a m) (hl : m.ledger = s.machine.ledger) :
    ({ s with machine := m } : Simulator).Books :=
  hs.machine (hs.atRest.of_client hx hr) hl

/-- Who holds a lane, read off the simulator's lists. -/
theorem owned_iff (hs : s.Books) (l : Lane) : (s.machine.laneState l).owned = true ↔
    (∃ o, l.entry s.oneShots = some o) ∨ ∃ c, l.entry s.circulars = some c := by
  rw [hs.oneShots.listed_iff (fun _ _ => rfl), hs.circulars.listed_iff (fun _ _ => rfl)]
  refine (hs.atRest.ownership.lanes.owned_iff l).trans ⟨?_, ?_⟩
  · rintro ⟨h | h, hh⟩
    · obtain ⟨t, ht, hl⟩ := hh
      exact Or.inl ⟨h, t, ht, hl⟩
    · obtain ⟨t, ht, hl⟩ := (holds_stream_iff s.machine h l).1 hh
      exact Or.inr ⟨h, t, ht, hl⟩
  · rintro (⟨i, t, ht, hl⟩ | ⟨i, t, ht, hl⟩)
    · exact ⟨.transfer i, t, ht, hl⟩
    · exact ⟨.stream i, (holds_stream_iff s.machine i l).2 ⟨t, ht, hl⟩⟩

/-- A lane that is not held lists no transfer. -/
theorem entries_of_free (hs : s.Books) {l : Lane} (hl : (s.machine.laneState l).owned = false) :
    l.entry s.oneShots = none ∧ l.entry s.circulars = none := by
  have hno := mt (hs.owned_iff l).2 (by rw [hl]; exact Bool.false_ne_true)
  simp only [not_or, not_exists] at hno
  exact ⟨Option.eq_none_iff_forall_ne_some.2 hno.1, Option.eq_none_iff_forall_ne_some.2 hno.2⟩

/-- No lane lists a transfer of both kinds: two live transfers never hold one lane. -/
theorem not_both (hs : s.Books) (l : Lane) :
    ¬ ((∃ o, l.entry s.oneShots = some o) ∧ ∃ c, l.entry s.circulars = some c) := by
  rintro ⟨⟨o, ho⟩, ⟨c, hc⟩⟩
  obtain ⟨t, ht, hp⟩ := hs.oneShots.listed l o ho
  obtain ⟨u, hu, hq⟩ := hs.circulars.listed l c hc
  have h₁ : s.machine.owners.Holds (.transfer o.transfer) l := ⟨t, ht, congrArg Handback.lane hp⟩
  have h₂ : s.machine.owners.Holds (.stream c.stream) l :=
    (holds_stream_iff _ _ _).2 ⟨u, hu, congrArg Handback.lane hq⟩
  cases hs.atRest.ownership.lanes.unique h₁ h₂

/-- A report other than an ownership violation keeps the books. -/
theorem report (hs : s.Books) {r : Report} (hr : r.result ≠ "ownership violation") :
    Returns Simulator.Books (Script.report r).run s :=
  ⟨_, _, rfl, hs.atRest, hs.oneShots, hs.circulars, hr⟩

/-- A one-shot transfer that begins on a lane that was not held is listed there. -/
theorem listOneShot (hs : s.Books) {dir : Direction} {l : Lane} {buf periph : Nat}
    {p : Peripheral} {m : Machine} (hp : s.machine.peripherals[periph]? = some p)
    (hr : (Transfer.start dir l buf periph).run s.machine = .ok (.ok s.machine.transfers.size) m)
    (hown : (s.machine.laneState l).owned = false)
    (ht : m.transfers = s.machine.transfers.push ⟨l, buf, periph, dir, false⟩)
    (hst : m.streams = s.machine.streams) (reads : Bool) :
    ({ s with
        machine := m
        oneShots := l.setEntry s.oneShots (some ⟨s.machine.transfers.size, buf, periph, reads⟩) } :
      Simulator).Books where
  atRest := hs.atRest.of_client (Client.startTransfer dir l buf periph)
    (by rw [run_peripheral_bind hp]; exact hr)
  oneShots := by
    rw [ht]
    exact hs.oneShots.push (fun _ _ => rfl) (hs.entries_of_free hown).1 rfl rfl rfl
  circulars := by
    rw [hst]
    exact hs.circulars
  quiet := hs.quiet

/-- A circular transfer that begins on a lane that was not held is listed there. -/
theorem listCircular (hs : s.Books) {l : Lane} {ring periph : Nat}
    {p : Peripheral} {m : Machine} (hp : s.machine.peripherals[periph]? = some p)
    (hr : (Stream.start l ring periph).run s.machine = .ok (.ok s.machine.streams.size) m)
    (hown : (s.machine.laneState l).owned = false) (ht : m.transfers = s.machine.transfers)
    (hst : m.streams = s.machine.streams.push ⟨l, ring, periph, 0, false, false⟩) :
    ({ s with
        machine := m
        circulars := l.setEntry s.circulars (some ⟨s.machine.streams.size, ring, periph⟩) } :
      Simulator).Books where
  atRest := hs.atRest.of_client (Client.startStream l ring periph)
    (by rw [run_peripheral_bind hp]; exact hr)
  oneShots := by
    rw [ht]
    exact hs.oneShots
  circulars := by
    rw [hst]
    exact hs.circulars.push (fun _ _ => rfl) (hs.entries_of_free hown).2 rfl rfl rfl
  quiet := hs.quiet

/-- Handing the listed one-shot transfer of a lane back, and taking it off the list. -/
theorem releaseOneShot (hs : s.Books) {l : Lane} {o : OneShot} (ho : l.entry s.oneShots = some o)
    {m : Machine} (hm : m.AtRest)
    (ht : m.transfers = s.machine.transfers.modify o.transfer fun t => { t with released := true })
    (hst : m.streams = s.machine.streams) :
    ({ s with machine := m, oneShots := l.setEntry s.oneShots none } : Simulator).Books where
  atRest := hm
  oneShots := by
    rw [ht]
    exact hs.oneShots.release (fun _ _ => rfl) ho _ fun _ => rfl
  circulars := by
    rw [hst]
    exact hs.circulars
  quiet := hs.quiet

/-- Stopping the listed circular transfer of a lane, and taking it off the list. -/
theorem stopCircular (hs : s.Books) {l : Lane} {c : Circular} (hc : l.entry s.circulars = some c)
    {m : Machine} (hm : m.AtRest) (ht : m.transfers = s.machine.transfers)
    (hst : m.streams = s.machine.streams.modify c.stream fun t => { t with stopped := true }) :
    ({ s with machine := m, circulars := l.setEntry s.circulars none } : Simulator).Books where
  atRest := hm
  oneShots := by
    rw [ht]
    exact hs.oneShots
  circulars := by
    rw [hst]
    exact hs.circulars.release (fun _ _ => rfl) hc _ fun _ => rfl
  quiet := hs.quiet

end Simulator.Books

/-! ## Steps of the simulator that return -/

section Steps

variable {α β : Type} {I : Simulator → Prop} {s : Simulator}

theorem returns_act {x : Act α} {a : α} {m : Machine} (hr : x.run s.machine = .ok a m)
    (hI : I { s with machine := m }) : Returns I (act x).run s := by
  have h := run_act_bind x pure s
  rw [bind_pure, hr] at h
  exact ⟨.ok a, _, h, hI⟩

theorem returns_act_bind {x : Act α} {k : α → Command β} {a : α} {m : Machine}
    (hr : x.run s.machine = .ok a m) (hk : Returns I (k a).run { s with machine := m }) :
    Returns I (act x >>= k).run s := by
  obtain ⟨b, s', h, hI⟩ := hk
  exact ⟨b, s', by rw [run_act_bind, hr]; exact h, hI⟩

/-- A client program that always returns, keeping the ledger, is a sure step. -/
theorem sure_act {x : Act α} (hx : Client x)
    (hok : ∀ m, ∃ a m', x.run m = .ok a m' ∧ m'.ledger = m.ledger) :
    Sure Simulator.Books (act x).run := fun s hs => by
  obtain ⟨a, m, hr, hl⟩ := hok s.machine
  exact returns_act hr (hs.act hx hr hl)

theorem Returns.oneShotOn_bind {l : Lane} {k : OneShot → Command β} (hs : I s)
    (hk : ∀ o, l.entry s.oneShots = some o → Returns I (k o).run s) :
    Returns I (oneShotOn l >>= k).run s := by
  cases ho : l.entry s.oneShots with
  | none => exact ⟨_, s, by rw [run_oneShotOn_bind, ho], hs⟩
  | some o =>
    obtain ⟨a, s', h, hI⟩ := hk o ho
    exact ⟨a, s', by rw [run_oneShotOn_bind, ho]; exact h, hI⟩

/-- A read whose callback only answers is the machine's read, run on the simulator's
machine. -/
theorem peek_pure_within (id : Nat) (g : Array UInt32 → Half → β) :
    (Stream.peek id fun items h => (pure (g items h) : Sim β)) =
      Act.within (Stream.peek id fun items h => (pure (g items h) : Act β)) := by
  funext s
  change (Stream.peek id fun items h => (pure (g items h) : Sim β)).run s =
    (Act.within (Stream.peek id fun items h => (pure (g items h) : Act β))).run s
  rw [run_within, Stream.run_peek]
  simp only [Stream.peek, EStateM.run_bind, run_within]
  cases (Stream.takeHalf id).run s.machine with
  | error e m => rfl
  | ok v m =>
    rcases v with r | ⟨h, data, start⟩
    · rfl
    · simp only [EStateM.run_bind, EStateM.run_pure, run_within]
      cases (Stream.giveBack id h start).run m <;> rfl

/-- A shared borrow whose callback only answers is the machine's borrow, run on the
simulator's machine. -/
theorem borrow_pure_within (id : Nat) (g : Array UInt32 → β) :
    (Buffer.borrow id fun items => (pure (g items) : Sim β)) =
      Act.within (Buffer.borrow id fun items => (pure (g items) : Act β)) := by
  funext s
  change (Buffer.borrow id fun items => (pure (g items) : Sim β)).run s =
    (Act.within (Buffer.borrow id fun items => (pure (g items) : Act β))).run s
  rw [run_within, Buffer.run_borrow]
  simp only [Buffer.borrow, Buffer.withUndo, EStateM.run_bind, run_within, Machine.run_buffer]
  cases s.machine.buffers[id]? with
  | none => rfl
  | some b =>
    cases hw : b.writing
    · simp only [hw, Bool.false_eq_true, if_false, EStateM.run_bind, run_within, run_tryCatch]
      rfl
    · simp only [hw, if_true]
      rfl

end Steps

namespace Simulator.Books

variable {α β : Type} {s : Simulator}

/-- A client program that returns and keeps the ledger, then a step from the books. -/
theorem act_bind (hs : s.Books) {x : Act α} {k : α → Command β} (hx : Client x)
    {a : α} {m : Machine} (hr : x.run s.machine = .ok a m) (hl : m.ledger = s.machine.ledger)
    (hk : ({ s with machine := m } : Simulator).Books →
      Returns Simulator.Books (k a).run { s with machine := m }) :
    Returns Simulator.Books (Script.act x >>= k).run s :=
  returns_act_bind hr (hk (hs.act hx hr hl))

theorem act_returns (hs : s.Books) {x : Act α} (hx : Client x) {a : α}
    {m : Machine} (hr : x.run s.machine = .ok a m) (hl : m.ledger = s.machine.ledger) :
    Returns Simulator.Books (Script.act x).run s :=
  returns_act hr (hs.act hx hr hl)

/-- A start of a one-shot transfer on a recorded buffer and peripheral returns: refused,
with the machine as it was, or begun, with the transfer listed on its lane. -/
theorem start_bind (hs : s.Books) (dir : Direction) (l : Lane) {buf periph : Nat} {b : Buffer}
    {p : Peripheral} (hb : s.machine.buffers[buf]? = some b)
    (hp : s.machine.peripherals[periph]? = some p) {k : Except Refusal Nat → Command β}
    (hrefused : ∀ r, Returns Simulator.Books (k (.error r)).run s)
    (hbegun : ∀ m, (∀ reads, ({ s with
        machine := m
        oneShots := l.setEntry s.oneShots (some ⟨s.machine.transfers.size, buf, periph, reads⟩) } :
          Simulator).Books) →
      Returns Simulator.Books (k (.ok s.machine.transfers.size)).run { s with machine := m }) :
    Returns Simulator.Books (Script.act (Transfer.start dir l buf periph) >>= k).run s := by
  rcases Transfer.start_returns dir l hb hp with ⟨r, hr⟩ | ⟨m, hr, hown, ht, hst⟩
  · exact returns_act_bind hr (hrefused r)
  · exact returns_act_bind hr (hbegun m (hs.listOneShot hp hr hown ht hst))

/-- A start of a circular transfer on a recorded ring and peripheral returns: refused,
with the machine as it was, or begun, with the transfer listed on its lane. -/
theorem startStream_bind (hs : s.Books) (l : Lane) {ring periph : Nat} {r : Ring}
    {p : Peripheral} (hr : s.machine.rings[ring]? = some r)
    (hp : s.machine.peripherals[periph]? = some p) {k : Except Refusal Nat → Command β}
    (hrefused : ∀ e, Returns Simulator.Books (k (.error e)).run s)
    (hbegun : ∀ m, ({ s with
        machine := m
        circulars := l.setEntry s.circulars (some ⟨s.machine.streams.size, ring, periph⟩) } :
          Simulator).Books →
      Returns Simulator.Books (k (.ok s.machine.streams.size)).run { s with machine := m }) :
    Returns Simulator.Books (Script.act (Stream.start l ring periph) >>= k).run s := by
  rcases Stream.start_returns l hr hp with ⟨e, he⟩ | ⟨m, he, hown, ht, hst⟩
  · exact returns_act_bind he (hrefused e)
  · exact returns_act_bind he (hbegun m (hs.listCircular hp he hown ht hst))

end Simulator.Books

/-! ## The words of a line change nothing -/

section Words

variable {I : Simulator → Prop}

theorem sure_laneWord (w : String) : Sure I (laneWord w).run := by
  unfold laneWord
  dsimp only
  generalize (Text.parseInt? _).bind Lane.ofNumber? = r
  cases r
  · exact sure_run_throw _
  · exact sure_run_pure _

theorem sure_eventWord (w : String) : Sure I (eventWord w).run := by
  unfold eventWord
  cases Event.ofName? w
  · exact sure_run_throw _
  · exact sure_run_pure _

theorem sure_bytesWords (ws : List String) : Sure I (bytesWords ws).run :=
  sure_run_mapM (fun w => by
    generalize Text.parseHexByte? w = r
    cases r
    · exact sure_run_throw _
    · exact sure_run_pure _) ws

theorem sure_lengthWords (ws : List String) : Sure I (lengthWords ws).run := by
  unfold lengthWords
  split
  · rename_i w
    generalize Text.parseInt? w = r
    cases r
    · exact sure_run_throw _
    · exact sure_run_ite (sure_run_pure _) (sure_run_throw _)
  · exact sure_run_throw _

end Words

/-! ## Every line returns -/

section Lines

variable {s : Simulator}

/-- A start of a one-shot transfer on a new buffer and peripheral returns and keeps the
books: a transfer that begins is listed on its lane, and a refused one lists nothing. -/
theorem sure_startOneShot (l : Lane) (dir : Direction) (items : List Nat) (cmd : String) :
    Sure Simulator.Books (startOneShot l dir items cmd).run := by
  intro s hs
  unfold startOneShot
  refine hs.act_bind (Client.newBuffer .w8 _) rfl rfl fun hs₁ => ?_
  refine hs₁.act_bind (Client.newPeripheral (peripheralFor l)) rfl rfl fun hs₂ => ?_
  refine hs₂.start_bind dir l Array.getElem?_push_size Array.getElem?_push_size (fun r => ?_)
    fun m hlist => ?_
  · exact Returns.run_bind rfl (hs₂.report (resultText_ne (some r)))
  · exact Returns.run_bind rfl ((hlist _).report (resultText_ne none))

/-- A circ line's length, even and not zero, makes a ring. -/
theorem make_zeros {n : Nat} (hn : ¬(n = 0 ∨ n % 2 ≠ 0)) :
    Ring.make .w8 ((zeros n).map (·.toUInt32)).toArray =
      .ok { width := .w8, items := ((zeros n).map (·.toUInt32)).toArray } := by
  unfold Ring.make
  rw [if_neg]
  simp only [List.size_toArray, List.length_map, zeros, List.length_replicate, maxCount]
  omega

/-- A circ line returns: the length is checked before the ring is made, and the ring and
peripheral the start takes are new. -/
theorem circLine_returns (hs : s.Books) (l : Lane) (args : List String) :
    Returns Simulator.Books (laneCommand "circ" l args).run s := by
  unfold laneCommand
  simp only []
  refine Returns.run_bind_stay (sure_lengthWords args) hs fun n => ?_
  split
  · exact ⟨_, s, rfl, hs⟩
  rename_i hn
  rw [make_zeros hn]
  refine Returns.run_bind rfl ?_
  refine hs.act_bind (Client.newRing .w8 _) rfl rfl fun hs₁ => ?_
  refine hs₁.act_bind (Client.newPeripheral (peripheralFor l)) rfl rfl fun hs₂ => ?_
  refine hs₂.startStream_bind l Array.getElem?_push_size Array.getElem?_push_size (fun e => ?_)
    fun m hlist => ?_
  · exact Returns.run_bind rfl (hs₂.report (resultText_ne (some e)))
  · exact Returns.run_bind rfl (hlist.report (resultText_ne none))

/-- A poll line returns: the transfer it names is live, so its poll and its count return. -/
theorem pollLine_returns (hs : s.Books) (l : Lane) (args : List String) :
    Returns Simulator.Books (laneCommand "poll" l args).run s := by
  unfold laneCommand
  simp only []
  refine Returns.oneShotOn_bind hs fun o ho => ?_
  obtain ⟨t, ⟨ht, hrel⟩, -⟩ := hs.oneShots.listed l o ho
  obtain ⟨r, hr⟩ := Transfer.poll_returns ht hrel
  refine hs.act_bind (Client.poll _) hr (ledger_eq rfl rfl) fun hs₁ => ?_
  obtain ⟨n, hn⟩ := Transfer.remaining_returns (s := s.machine.afterRead) ht hrel
  refine hs₁.act_bind (Client.transferRemaining _) hn rfl fun hs₂ => ?_
  exact hs₂.report (resultText_ne _)

/-- A wait line from a sound state returns: a wait that the simulator's test lets run
returns, hands back the parts listed, and the read of its buffer finds no writer. -/
theorem waitLine_returns (hsound : s.Sound) (hs : s.Books) (l : Lane) (args : List String) :
    Returns Simulator.Books (laneCommand "wait" l args).run s := by
  cases ho : l.entry s.oneShots with
  | none => exact ⟨_, s, run_waitLine_none ho args, hs⟩
  | some o =>
  cases hset : settles s.machine.bank l
  · exact ⟨_, s, run_waitLine_refused ho hset args, hs⟩
  obtain ⟨r, m, hr⟩ := (settles_iff_wait_returns hsound ho).1 hset
  obtain ⟨t, hlive, hp⟩ := hs.oneShots.listed l o ho
  obtain ⟨hback, htr, hst, hbuf⟩ := Transfer.wait_hands_back hlive.1 hr
  have hs₁ := hs.releaseOneShot ho (hs.atRest.of_client (Client.wait _) hr) htr hst
  -- the buffer handed back is recorded, unlocked and has no borrow
  obtain ⟨acc, hacc, -⟩ := hs.atRest.ownership.buffers.held_state hlive
  have hacc' : (s.machine.buffers.map Buffer.access)[t.buffer]? = some acc := hacc
  rw [Array.getElem?_map] at hacc'
  obtain ⟨b, hb, -⟩ := Option.map_eq_some_iff.1 hacc'
  have hb' : m.buffers[t.buffer]? = some b.unlock := by
    rw [hbuf, Array.getElem?_modify, if_pos rfl, hb]
    rfl
  have hw := (hs₁.atRest.marks t.buffer).writing_false hb' (by rw [Buffer.unlock_access]; decide)
  have hmem : r.1.memory = t.buffer := by rw [hback]; rfl
  obtain ⟨m₂, hborrow, hl⟩ := Buffer.borrow_returns hb' hw
    fun items => Text.hexOfBytes (items.toList.map (·.toNat))
  have hres : handbackText (o.parts l) r.1 r.2 = resultText r.2 := by
    rw [hback, hp, handbackText_self]
  unfold Returns
  unfold laneCommand
  simp only []
  rw [run_oneShotOn_bind, ho]
  dsimp only
  rw [run_get_bind]
  simp only [hset, if_true]
  rw [run_act_bind, hr]
  dsimp only
  rw [run_modify_bind, borrow_pure_within, hmem]
  exact hs₁.act_bind (Client.borrow _ fun _ => Client.pure _) hborrow hl fun hs₂ =>
    hs₂.report (by
      show handbackText (o.parts l) r.1 r.2 ≠ _
      rw [hres]
      exact resultText_ne _)

/-- The commands on a circular transfer return: the transfer a lane lists is live, its ring
is recorded and never free, and its stop hands back the parts listed. -/
theorem circularCommand_returns (hs : s.Books) (cmd : String) (l : Lane) (args : List String) :
    Returns Simulator.Books (circularCommand cmd l args).run s := by
  unfold circularCommand
  refine Returns.run_bind rfl ?_
  split
  case h_2 => exact ⟨_, s, rfl, hs⟩
  rename_i c hc
  obtain ⟨t, ⟨ht, hstop⟩, hp⟩ := hs.circulars.listed l c hc
  split
  · -- fill: the ring is looked up, then the bytes written into the half named
    split
    · rename_i half rest
      refine Returns.run_bind_stay (sure_bytesWords rest) hs fun data => ?_
      obtain ⟨r, x, hr, -⟩ := hs.atRest.ownership.ring_of_live ht hstop
      have hring : (Machine.ring c.ring).run s.machine = .ok r s.machine := by
        have hcr : t.ring = c.ring := congrArg Handback.memory hp
        rw [run_ring, ← hcr, hr]
      refine returns_act_bind hring ?_
      dsimp only
      split
      · exact Returns.run_bind rfl (hs.act_returns (Client.fillRing _ _ _) rfl rfl)
      · exact Returns.run_bind rfl (hs.act_returns (Client.fillRing _ _ _) rfl rfl)
      · exact ⟨_, _, rfl, hs⟩
    · exact ⟨_, s, rfl, hs⟩
  · -- maxread
    split
    · rename_i w
      split
      · rename_i d _
        exact hs.act_returns (Client.configureStream _ d) rfl
          (ledger_modifyStream (f := fun t => { t with maxRead := d }) rfl rfl fun _ => ⟨rfl, rfl⟩)
      · exact ⟨_, s, rfl, hs⟩
    · exact ⟨_, s, rfl, hs⟩
  · -- read
    rw [peek_pure_within]
    obtain ⟨o, m, hr, hl⟩ := Stream.peek_returns ht hstop hs.atRest.ownership
      fun items h => (halfText h, Text.hexOfBytes (items.toList.map (·.toNat)))
    refine hs.act_bind (Client.peek _ fun _ _ => Client.pure _) hr hl fun hs₁ => ?_
    split
    exact hs₁.report (resultText_ne _)
  · obtain ⟨m, hr, hl⟩ := Stream.pause_returns ht hstop
    exact hs.act_returns (Client.pause _) hr hl
  · obtain ⟨m, hr, hl⟩ := Stream.resume_returns ht hstop
    exact hs.act_returns (Client.resume _) hr hl
  · -- stop: the transfer comes off the list, and hands back the parts listed
    obtain ⟨m, hr, htr, hst⟩ := Stream.stop_returns ht hstop
    have hs₁ := hs.stopCircular hc (hs.atRest.of_client (Client.stop _) hr) htr hst
    refine returns_act_bind hr (Returns.run_bind rfl (hs₁.report ?_))
    show handbackText (c.parts l) t.parts none ≠ _
    rw [hp, handbackText_self]
    exact resultText_ne none
  · exact ⟨_, s, rfl, hs⟩

/-- Every command on a lane returns from a sound state with its books, and keeps them. -/
theorem laneCommand_returns (hsound : s.Sound) (hs : s.Books) (cmd : String) (l : Lane)
    (args : List String) : Returns Simulator.Books (laneCommand cmd l args).run s := by
  unfold laneCommand
  split
  · exact (sure_run_bind (sure_eventWord _) fun e =>
      sure_act (Client.raise l e) fun _ => ⟨_, _, rfl, rfl⟩) s hs
  · exact (sure_run_bind (sure_eventWord _) fun e =>
      sure_act (Client.raise l e) fun _ => ⟨_, _, rfl, rfl⟩) s hs
  · exact (sure_run_bind (sure_eventWord _) fun e =>
      sure_act (Client.raise l e) fun _ => ⟨_, _, rfl, rfl⟩) s hs
  · -- priority
    split
    · rename_i w
      split
      · exact (sure_act (Client.configure l _) fun _ => ⟨_, _, rfl, rfl⟩) s hs
      · exact ⟨_, s, rfl, hs⟩
    · exact ⟨_, s, rfl, hs⟩
  · -- listen
    split
    · exact (sure_run_bind (sure_eventWord _) fun e =>
        sure_act (Client.listen l e) fun m => ⟨_, _, Lane.run_listen l m e, rfl⟩) s hs
    · exact ⟨_, s, rfl, hs⟩
  · exact (sure_run_bind (sure_bytesWords args) fun items => sure_startOneShot l _ items _) s hs
  · exact (sure_run_bind (sure_lengthWords args) fun n => sure_startOneShot l _ _ _) s hs
  · -- deliver: the bytes land in the buffer of the read listed
    refine Returns.run_bind rfl ?_
    dsimp only
    split
    · exact (sure_run_bind (sure_bytesWords args) fun _ =>
        sure_act (Client.fillBuffer _ _ _) fun _ => ⟨_, _, rfl, rfl⟩) s hs
    · exact ⟨_, s, rfl, hs⟩
  · exact pollLine_returns hs l args
  · exact waitLine_returns hsound hs l args
  · exact circLine_returns hs l args
  · exact circularCommand_returns hs _ l args

/-- Every line's command returns from a sound state with its books, and keeps them. -/
theorem exec_returns (hsound : s.Sound) (hs : s.Books) (cmd : String) (args : List String) :
    Returns Simulator.Books (exec cmd args).run s := by
  unfold exec
  split
  · -- expect
    dsimp only
    exact (sure_run_bind sure_run_get fun _ =>
      sure_run_ite (sure_run_throw _) (sure_run_pure _)) s hs
  · -- stats
    refine Returns.run_bind rfl (hs.report ?_)
    simp only [String.append_assoc]
    exact starts_ne _
  · -- after
    split
    · rename_i p e ch
      generalize (Text.parseInt? p).filter (1 ≤ ·) = r
      cases r
      · exact ⟨_, s, rfl, hs⟩
      · exact (sure_run_bind (sure_eventWord e) fun ev => sure_run_bind (sure_laneWord ch) fun l =>
          sure_act (Client.after _ l ev) fun _ => ⟨_, _, rfl, rfl⟩) s hs
    · exact ⟨_, s, rfl, hs⟩
  · -- a command on a lane, named by the first word after it
    dsimp only
    split
    · split
      · exact Returns.run_bind_stay (sure_laneWord _) hs fun l => laneCommand_returns hsound hs _ l _
      · exact ⟨_, s, rfl, hs⟩
    · exact ⟨_, s, rfl, hs⟩

end Lines

/-! ## Whole scripts -/

/-- The lines of a script, run from a sound state with its books, return and keep both. -/
theorem runLines_returns (split : String → Except String (List String)) :
    ∀ (lines : List String) (s : Simulator), s.Sound → s.Books →
      Returns (fun s => s.Sound ∧ s.Books) (runLines split lines) s
  | [], _, hsound, hs => ⟨_, _, rfl, hsound, hs⟩
  | text :: rest, s, hsound, hs => by
    unfold runLines
    have hsound₁ : ({ s with line := s.line + 1 } : Simulator).Sound := hsound.of_eq rfl rfl
    have hs₁ := hs.count (s.line + 1)
    refine Returns.bind rfl (Returns.bind rfl ?_)
    dsimp only
    generalize split text = w
    cases w with
    | error e => exact ⟨_, _, rfl, hsound₁, hs₁⟩
    | ok ws =>
      cases ws with
      | nil => exact runLines_returns split rest _ hsound₁ hs₁
      | cons cmd args =>
        -- the line's command keeps the books, and the simulator sound
        obtain ⟨r, s', hr, hs'⟩ := exec_returns hsound₁ hs₁ cmd args
        have hsound' := (steady_exec cmd args _ hsound₁).1
        rw [hr, finalState_ok] at hsound'
        refine Returns.bind hr ?_
        cases r with
        | error e => exact ⟨_, _, rfl, hsound', hs'⟩
        | ok u => exact runLines_returns split rest s' hsound' hs'

/-- Every state a script passes through keeps the books. -/
theorem Reaches.books {s : Simulator} (h : Reaches s) : s.Books := by
  induction h with
  | start => exact Simulator.Books.start
  | blank _ ih => exact ih.count _
  | @line s s' cmd args hreach hrun ih =>
    obtain ⟨r, s'', hr, hs''⟩ :=
      exec_returns (s := { s with line := s.line + 1 }) (hreach.sound.of_eq rfl rfl) (ih.count _) cmd args
    rw [hrun] at hr
    cases hr
    exact hs''

/-- No script ends with a fault, whatever splits its lines. -/
theorem runScript_fault_eq_none (split : String → Except String (List String)) (text : String) :
    (runScript split text).fault = none := by
  obtain ⟨err, s, hr, -⟩ :=
    runLines_returns split (readLines text).lines {} Simulator.Sound.start Simulator.Books.start
  unfold runScript
  dsimp only
  rw [hr]

/-- The simulator's lists agree with who holds what, at every state a script passes through:
a lane lists a one-shot or a circular transfer exactly when a live one of that kind runs on
it, never both, exactly on the lanes marked held, and with the memory and peripheral that
transfer holds. So no line reports an ownership violation, and no script ends with a fault. -/
theorem simulator_lists_match_ownership :
    (∀ s, Reaches s → ∀ l : Lane,
      ((∃ o, l.entry s.oneShots = some o) ↔
        ∃ i t, Live s.machine.transfers Transfer.released i t ∧ t.lane = l) ∧
      ((∃ c, l.entry s.circulars = some c) ↔
        ∃ i t, Live s.machine.streams Stream.stopped i t ∧ t.lane = l) ∧
      ¬ ((∃ o, l.entry s.oneShots = some o) ∧ ∃ c, l.entry s.circulars = some c) ∧
      ((s.machine.laneState l).owned = true ↔
        (∃ o, l.entry s.oneShots = some o) ∨ ∃ c, l.entry s.circulars = some c) ∧
      (∀ o, l.entry s.oneShots = some o → ∃ t, Live s.machine.transfers Transfer.released o.transfer t ∧
        t.lane = l ∧ t.buffer = o.buffer ∧ t.peripheral = o.peripheral) ∧
      (∀ c, l.entry s.circulars = some c → ∃ t, Live s.machine.streams Stream.stopped c.stream t ∧
        t.lane = l ∧ t.ring = c.ring ∧ t.peripheral = c.peripheral)) ∧
    (∀ s, Reaches s → ∀ cmd args, ∃ r s',
      (exec cmd args).run.run { s with line := s.line + 1 } = .ok r s' ∧
        s'.last ≠ "ownership violation") ∧
    (∀ split text, (runScript split text).fault = none) := by
  refine ⟨fun s h l => ?_, fun s h cmd args => ?_, runScript_fault_eq_none⟩
  · have hs := h.books
    refine ⟨hs.oneShots.listed_iff (fun _ _ => rfl) l, hs.circulars.listed_iff (fun _ _ => rfl) l,
      hs.not_both l, hs.owned_iff l, fun o ho => ?_, fun c hc => ?_⟩
    · obtain ⟨t, ht, hp⟩ := hs.oneShots.listed l o ho
      obtain ⟨hl, hb, hper⟩ := Handback.mk.inj hp
      exact ⟨t, ht, hl, hb, hper⟩
    · obtain ⟨t, ht, hp⟩ := hs.circulars.listed l c hc
      obtain ⟨hl, hr, hper⟩ := Handback.mk.inj hp
      exact ⟨t, ht, hl, hr, hper⟩
  · obtain ⟨r, s', hr, hs'⟩ := exec_returns (s := { s with line := s.line + 1 })
      (h.sound.of_eq rfl rfl) (h.books.count _) cmd args
    exact ⟨r, s', hr, hs'.quiet⟩

/-- After a send on lane 1 and a ring on lane 2, both lanes are held and list a live transfer
of their kind, and the next line returns without reporting an ownership violation. -/
theorem send_and_ring_listed :
    ∃ s₁ s₂, (exec "tx" ["1", "01"]).run.run { ({} : Simulator) with line := 1 } = .ok (.ok ()) s₁ ∧
      (exec "circ" ["2", "4"]).run.run { s₁ with line := s₁.line + 1 } = .ok (.ok ()) s₂ ∧
      (s₂.machine.laneState ⟨0⟩).owned = true ∧ (s₂.machine.laneState ⟨1⟩).owned = true ∧
      (∃ i t, Live s₂.machine.transfers Transfer.released i t ∧ t.lane = ⟨0⟩) ∧
      (∃ i t, Live s₂.machine.streams Stream.stopped i t ∧ t.lane = ⟨1⟩) ∧
      ∀ cmd args, ∃ r s', (exec cmd args).run.run { s₂ with line := s₂.line + 1 } = .ok r s' ∧
        s'.last ≠ "ownership violation" := by
  obtain ⟨hlists, hline, -⟩ := simulator_lists_match_ownership
  obtain ⟨s₁, h₁, s₂, h₂, ⟨o, ho⟩, c, hc⟩ :
      ∃ s₁, (exec "tx" ["1", "01"]).run.run { ({} : Simulator) with line := 1 } = .ok (.ok ()) s₁ ∧
        ∃ s₂, (exec "circ" ["2", "4"]).run.run { s₁ with line := s₁.line + 1 } = .ok (.ok ()) s₂ ∧
          (∃ o, (⟨0⟩ : Lane).entry s₂.oneShots = some o) ∧
          ∃ c, (⟨1⟩ : Lane).entry s₂.circulars = some c :=
    ⟨_, rfl, _, rfl, ⟨_, rfl⟩, _, rfl⟩
  have r₂ := Reaches.line "circ" ["2", "4"] (Reaches.line "tx" ["1", "01"] .start h₁) h₂
  obtain ⟨hone, -, -, hown, -⟩ := hlists s₂ r₂ ⟨0⟩
  obtain ⟨-, hcirc, -, hown', -⟩ := hlists s₂ r₂ ⟨1⟩
  exact ⟨s₁, s₂, h₁, h₂, hown.mpr (.inl ⟨o, ho⟩), hown'.mpr (.inr ⟨c, hc⟩), hone.mp ⟨o, ho⟩,
    hcirc.mp ⟨c, hc⟩, hline s₂ r₂⟩

end DmaOwnership.Script
