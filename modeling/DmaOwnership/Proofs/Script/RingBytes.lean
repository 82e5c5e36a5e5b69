import DmaOwnership.Proofs.Script.RingFrame
import DmaOwnership.Proofs.Cli.Words
/-!
# The bytes a circular transfer's ring holds

A `circ` line starts a circular transfer on a ring of zeros of the length given. A `fill` line
writes the bytes of its hex words over one half of the ring, cut to the length of the half,
and leaves the other half. A `read` line hands the half the ring waits for to a callback that
prints it in lower-case hex. No other line touches the bytes (`streams_exec`).

For `Streams l c xs s`, lane `l`'s circular transfer `c` with the bytes `xs` in its ring: a
`circ` line on a free lane establishes it with zeros (`circ_streams`), a fill of the lane
moves it to the bytes with the half overwritten (`fill_streams`), and a read reports the half
it hands out (`read_reports_half`). Along a whole script the ring holds the zeros as each fill
of the lane in turn overwrote them (`streams_runLines`).
-/

namespace DmaOwnership

/-! ## Halves of a ring's items -/

section Halves

variable {α : Type}

/-- Half `h` of the items of a ring: the first `xs.length / 2` of them, or the rest. -/
def halfOf (xs : List α) : Half → List α
  | .first => xs.take (xs.length / 2)
  | .second => xs.drop (xs.length / 2)

/-- The items `xs` of a ring with half `h` overwritten by `bs`, as far as the half reaches;
the other half stays. -/
def fillHalf (xs : List α) (h : Half) (bs : List α) : List α :=
  match h with
  | .first => overwrite (halfOf xs .first) bs ++ halfOf xs .second
  | .second => halfOf xs .first ++ overwrite (halfOf xs .second) bs

theorem halfOf_map {β : Type} (f : α → β) (xs : List α) (h : Half) :
    halfOf (xs.map f) h = (halfOf xs h).map f := by
  cases h <;> simp [halfOf]

/-- Writes beyond the end of the items are dropped. -/
theorem overwrite_take_length (xs ds : List α) : overwrite xs (ds.take xs.length) = overwrite xs ds := by
  unfold overwrite
  rw [List.take_take, Nat.min_self, List.length_take]
  by_cases h : ds.length ≤ xs.length
  · rw [Nat.min_eq_right h]
  · rw [Nat.min_eq_left (by omega), List.drop_length, List.drop_of_length_le (by omega)]

/-- A write over two pieces writes the first, and the rest of the data over the second. -/
theorem overwrite_append (xs ys ds : List α) :
    overwrite (xs ++ ys) ds = overwrite xs ds ++ overwrite ys (ds.drop xs.length) := by
  induction xs generalizing ds with
  | nil => simp
  | cons x xs ih =>
    cases ds with
    | nil => simp
    | cons v ds =>
      rw [List.cons_append, overwrite_cons_cons, overwrite_cons_cons, ih, List.length_cons,
        List.drop_succ_cons, List.cons_append]

/-- Filling the first half writes the data, cut to the half's length, from the start. -/
theorem fillHalf_first (xs bs : List α) :
    fillHalf xs .first bs = overwrite xs (bs.take (xs.length / 2)) := by
  have hlen : (xs.take (xs.length / 2)).length = xs.length / 2 := by
    rw [List.length_take]
    omega
  -- the data cut to the half's length covers the first half and none of the second
  have hsplit := overwrite_append (xs.take (xs.length / 2)) (xs.drop (xs.length / 2))
    (bs.take (xs.length / 2))
  rw [List.take_append_drop, hlen, List.drop_take_self, overwrite_nil] at hsplit
  have hcut := overwrite_take_length (xs.take (xs.length / 2)) bs
  rw [hlen] at hcut
  rw [hsplit, hcut]
  rfl

/-- Filling the second half writes the data, cut to the half's length, from the middle. -/
theorem fillHalf_second (xs bs : List α) :
    fillHalf xs .second bs =
      xs.take (xs.length / 2) ++ overwrite (xs.drop (xs.length / 2)) (bs.take (xs.length - xs.length / 2)) := by
  rw [← List.length_drop, overwrite_take_length]
  rfl

theorem mem_overwrite {xs ds : List α} {x : α} (h : x ∈ overwrite xs ds) : x ∈ xs ∨ x ∈ ds := by
  rcases List.mem_append.mp h with h | h
  · exact Or.inr (List.mem_of_mem_take h)
  · exact Or.inl (List.mem_of_mem_drop h)

/-- Every item after a fill was an item before it or one of the data. -/
theorem mem_fillHalf {xs bs : List α} {h : Half} {x : α} (hx : x ∈ fillHalf xs h bs) :
    x ∈ xs ∨ x ∈ bs := by
  have hfirst : x ∈ halfOf xs .first → x ∈ xs := List.mem_of_mem_take
  have hsecond : x ∈ halfOf xs .second → x ∈ xs := List.mem_of_mem_drop
  cases h with
  | first =>
    rcases List.mem_append.mp hx with hx | hx
    · exact (mem_overwrite hx).imp_left hfirst
    · exact Or.inl (hsecond hx)
  | second =>
    rcases List.mem_append.mp hx with hx | hx
    · exact Or.inl (hfirst hx)
    · exact (mem_overwrite hx).imp_left hsecond

end Halves

namespace Ring

/-- The items of half `h` of a ring are that half of its items. -/
theorem toList_half (r : Ring) (h : Half) : (r.half h).toList = halfOf r.items.toList h := by
  cases h with
  | first => simp [half, halfOf, halfLength]
  | second =>
    simp only [half, halfOf, halfLength, Array.toList_extract, List.extract_eq_drop_take',
      Array.length_toList]
    rw [List.take_of_length_le (by simp)]

/-- The engine's write of `data` into a ring from item `offset` on. -/
theorem toList_fill (r : Ring) (offset : Nat) (data : List UInt32) :
    (r.fill offset data).items.toList =
      r.items.toList.take offset ++ overwrite (r.items.toList.drop offset) data :=
  toList_foldl_setIfInBounds data offset r.items

end Ring

namespace Script

open Machine Text

/-! ## The lines of a circular transfer -/

/-- A start on a free lane, of a free ring of a length a count can say, with a peripheral that
exists, begins the transfer as the newest one and moves the ring on to its first half. -/
theorem Stream.start_of_free {m : Machine} {l : Lane} {ring periph : Nat} {r : Ring}
    {p : Peripheral} (hu : m.inUse l = false) (hr : m.rings[ring]? = some r)
    (hlen : r.items.size ≤ maxCount) (hph : r.phase = .free) (hp : m.peripherals[periph]? = some p) :
    ∃ m', (Stream.start l ring periph).run m = .ok (.ok m.streams.size) m' ∧
      m'.rings = m.rings.modify ring fun r => { r with phase := .fillingFirst } := by
  rw [Stream.run_start, hu, hr]
  simp only [Bool.false_eq_true, if_false, gt_iff_lt, Nat.not_lt.mpr hlen, hph, ne_eq,
    not_true_eq_false, hp]
  exact ⟨_, rfl, rfl⟩

/-- A `circ` line of an even length from 2 to the largest count, on a free lane, starts a
circular transfer on a ring of that many zeros and reports `ok`. -/
theorem circ_streams {s : Simulator} (hs : s.Books) {l : Lane}
    (hfree : l.entry s.oneShots = none ∧ l.entry s.circulars = none) {n : Nat} (h0 : n ≠ 0)
    (heven : n % 2 = 0) (hn : n ≤ maxCount) :
    ∃ c s', (exec "circ" [toString l.number, toString n]).run.run s = .ok (.ok ()) s' ∧
      Streams l c (List.replicate n 0) s' ∧
      s'.printed = s.printed.push
        (({ command := "circ", lane := some l, result := "ok" } : Report).render s.line) ∧
      s'.line = s.line := by
  have hzeros : zeros n = List.replicate n 0 := by
    rw [zeros, Nat.min_eq_left (by omega)]
  have hnum : lengthWords [toString n] = pure n :=
    lengthWords_number (by unfold maxCount at hn; omega)
  have hshape : ¬(n = 0 ∨ n % 2 ≠ 0) := by omega
  let ring : Ring := { width := .w8, items := ((zeros n).map (·.toUInt32)).toArray }
  obtain ⟨m, hstart, hrings⟩ := Stream.start_of_free (r := ring)
    (m := { s.machine with rings := s.machine.rings.push ring,
                           peripherals := s.machine.peripherals.push (peripheralFor l) })
    (hs.inUse_eq_false hfree) Array.getElem?_push_size
    (by simp [ring, hzeros, hn]) rfl Array.getElem?_push_size
  rw [exec_number (by decide), laneCommand]
  simp only [hnum, pure_bind]
  rw [if_neg hshape, make_zeros hshape]
  dsimp only
  rw [run_act_bind]
  simp only [addRing, EStateM.run_modifyGet]
  rw [run_act_bind]
  simp only [addPeripheral, EStateM.run_modifyGet]
  rw [run_act_bind, hstart]
  dsimp only
  rw [run_modify_bind]
  refine ⟨⟨s.machine.streams.size, s.machine.rings.size, s.machine.peripherals.size⟩, _, rfl,
    ⟨Lane.entry_setEntry _ _ _, ?_, fun x hx => by rw [List.eq_of_mem_replicate hx]; omega⟩,
    rfl, rfl⟩
  -- the new ring holds the zeros, and the start only moved its phase
  show (m.rings[s.machine.rings.size]?).map Ring.items = _
  rw [hrings, Array.getElem?_modify, if_pos rfl, Array.getElem?_push_size]
  simp [ring, hzeros]

/-- A `fill` line on lane `l` writes the bytes of its hex words over the half it names, cut to
the half's length, and keeps the other half. -/
theorem fill_streams {s : Simulator} {l : Lane} {c : Circular} {xs : List Nat}
    (h : Streams l c xs s) (hf : Half) {ws : List String} {bs : List Nat}
    (hbs : List.Forall₂ HexByte ws bs) :
    ∃ s', (exec "fill" (toString l.number :: halfText hf :: ws)).run.run s = .ok (.ok ()) s' ∧
      Streams l c (fillHalf xs hf bs) s' ∧ s'.printed = s.printed ∧ s'.line = s.line := by
  obtain ⟨r, hr, hitems⟩ := Option.map_eq_some_iff.mp h.ring
  have hlist : r.items.toList = xs.map Nat.toUInt32 := by rw [hitems]
  have hsize : r.items.size = xs.length := by rw [← Array.length_toList, hlist, List.length_map]
  rw [exec_number (by decide), laneCommand_of_circular (Or.inl rfl)]
  unfold circularCommand
  rw [run_get_bind, h.listed]
  simp only []
  rw [run_bind_of_stays ((run_bytesWords_eq_ok_iff ws bs s).mpr hbs), run_act_bind, Machine.run_ring,
    hr]
  have hbytes : ∀ x ∈ fillHalf xs hf bs, x < 256 := fun x hx => by
    rcases mem_fillHalf hx with hx | hx
    · exact h.bytes x hx
    · exact lt_of_forall₂_hexByte hbs x hx
  -- the half named is written, and nothing else
  cases hf with
  | first =>
    refine ⟨_, rfl, ⟨h.listed, ?_, hbytes⟩, rfl, rfl⟩
    show (((s.machine.rings.modify c.ring _)[c.ring]?).map Ring.items) = _
    rw [Array.getElem?_modify, if_pos rfl, hr]
    simp only [Option.map_some, Option.some.injEq, halfText, if_true]
    rw [← Array.toList_inj, Ring.toList_fill, hlist, fillHalf_first, hsize, List.take_zero,
      List.drop_zero, List.nil_append, List.toList_toArray]
    exact overwrite_map Nat.toUInt32 _ _
  | second =>
    refine ⟨_, rfl, ⟨h.listed, ?_, hbytes⟩, rfl, rfl⟩
    show (((s.machine.rings.modify c.ring _)[c.ring]?).map Ring.items) = _
    rw [Array.getElem?_modify, if_pos rfl, hr]
    simp only [Option.map_some, Option.some.injEq, halfText]
    rw [← Array.toList_inj, Ring.toList_fill, hlist, fillHalf_second, hsize, List.toList_toArray,
      List.map_append]
    congr 1
    · exact (List.map_take ..).symm
    · rw [← List.map_drop]
      exact overwrite_map Nat.toUInt32 _ _

/-- Only a read that goes ahead reports `ok`. -/
theorem resultText_some_ne_ok (r : Refusal) : resultText (some r) ≠ "ok" := by
  cases r <;> decide

/-- The half of a ring holding the bytes `xs`, handed to the callback of a read, prints as that
half of the bytes in lower-case hex. -/
theorem hexOfBytes_half {r : Ring} {xs : List Nat}
    (hitems : r.items = (xs.map Nat.toUInt32).toArray) (hbytes : ∀ x ∈ xs, x < 256) (hf : Half) :
    hexOfBytes ((r.half hf).toList.map UInt32.toNat) = lowerHex (halfOf xs hf) := by
  have hhalf : ∀ x ∈ halfOf xs hf, x < 256 := fun x hx => hbytes x (by
    cases hf
    · exact List.mem_of_mem_take hx
    · exact List.mem_of_mem_drop hx)
  rw [Ring.toList_half, hitems, List.toList_toArray, halfOf_map, map_toNat_toUInt32 hhalf,
    hexOfBytes_eq_lowerHex hhalf]

/-- The read a `read` line makes of lane `l`'s transfer returns and keeps the ring's bytes. Its
callback, which prints a half, runs exactly when the read hands a half out, on that half of the
bytes; a read that hands nothing out is refused. -/
theorem Streams.peek_prints {s : Simulator} (hs : s.Books) {l : Lane} {c : Circular}
    {xs : List Nat} (h : Streams l c xs s) :
    ∃ o m handed, (Stream.peek c.stream fun items hf =>
        (pure (halfText hf, hexOfBytes (items.toList.map (·.toNat))) : Act (String × String))).run
          s.machine = .ok o m ∧
      RingHolds c.ring (xs.map Nat.toUInt32).toArray m ∧
      o.result = handed.map (fun hf => (halfText hf, lowerHex (halfOf xs hf))) ∧
      (handed = none → o.refusal ≠ none) := by
  obtain ⟨t, ⟨ht, hstop⟩, hp⟩ := hs.circulars.listed l c h.listed
  have htr : t.ring = c.ring := congrArg Handback.memory hp
  obtain ⟨o, m, hpeek, -⟩ := Stream.peek_returns ht hstop hs.atRest.ownership
    fun items hf => (halfText hf, hexOfBytes (items.toList.map (·.toNat)))
  -- the read moves the ring's phase and leaves its bytes
  have hring : RingHolds c.ring (xs.map Nat.toUInt32).toArray m := by
    have hk := keepsItems_peek c.stream (fun items hf =>
      (halfText hf, hexOfBytes (items.toList.map (·.toNat)))) c.ring _ s.machine h.ring
    rwa [hpeek] at hk
  -- the callback ran exactly when a half was handed out, on that half's items
  suffices hout : ∃ handed : Option Half,
      o.result = handed.map (fun hf => (halfText hf, lowerHex (halfOf xs hf))) ∧
        (handed = none → o.refusal ≠ none) by
    obtain ⟨handed, hres, hnone⟩ := hout
    exact ⟨o, m, handed, hpeek, hring, hres, hnone⟩
  rcases Stream.takeHalf_cases c.stream s.machine with
    ⟨e, he⟩ | ⟨r, he⟩ | ⟨t', r, hf, start, ht', -, hr, -, he⟩ <;>
    rw [Stream.run_peek, he] at hpeek
  · cases hpeek
  · -- refused before the callback
    cases hpeek
    exact ⟨none, rfl, fun _ => Option.some_ne_none r⟩
  · -- the half handed out is the lane's ring's, which holds the bytes
    rw [ht] at ht'
    cases ht'
    rw [htr] at hr
    obtain ⟨r₀, hr₀, hitems⟩ := Option.map_eq_some_iff.mp h.ring
    rw [hr₀] at hr
    cases hr
    dsimp only at hpeek
    rw [EStateM.run_pure] at hpeek
    dsimp only at hpeek
    -- the checks after the callback return, as the read does
    split at hpeek
    · cases hpeek
    · cases hpeek
      refine ⟨some hf, ?_, nofun⟩
      simp only [Option.map_some, hexOfBytes_half hitems h.bytes hf]

/-- A `read` line on lane `l` returns and keeps the bytes. Its report names the half the read
handed to its callback, if it handed one out, with that half of the bytes in lower-case hex; a
read that hands nothing out is refused. -/
theorem read_reports_half {s : Simulator} (hs : s.Books) {l : Lane} {c : Circular}
    {xs : List Nat} (h : Streams l c xs s) :
    ∃ s', (exec "read" [toString l.number]).run.run s = .ok (.ok ()) s' ∧ Streams l c xs s' ∧
      s'.line = s.line ∧ ∃ (res : String) (handed : Option Half), (handed = none → res ≠ "ok") ∧
        s'.printed = s.printed.push (Report.render s.line
          { command := "read", lane := some l, result := res, half := (handed.map halfText).getD "",
            data := (handed.map fun hf => lowerHex (halfOf xs hf)).getD "" }) := by
  obtain ⟨o, m, handed, hpeek, hring, hres, hnone⟩ := h.peek_prints hs
  rw [exec_number (by decide), laneCommand_of_circular (Or.inr rfl)]
  unfold circularCommand
  rw [run_get_bind, h.listed]
  simp only []
  rw [peek_pure_within, run_lift_bind, run_within, hpeek]
  refine ⟨_, rfl, ⟨h.listed, hring, h.bytes⟩, rfl, resultText o.refusal, handed, fun hn => ?_, ?_⟩
  · obtain ⟨r, hr⟩ := Option.ne_none_iff_exists'.mp (hnone hn)
    rw [hr]
    exact resultText_some_ne_ok r
  · rw [hres]
    cases handed <;> rfl

/-! ## Whole scripts -/

section Split

variable {split : String → Except String (List String)}

/-- A line whose words are a command runs it, and the script goes on only if it returned. -/
theorem runLines_cons_none {text cmd : String} {args : List String}
    (hw : split text = .ok (cmd :: args)) {rest : List String} {s s' : Simulator}
    (h : (runLines split (text :: rest)).run s = .ok none s') :
    ∃ s₁, (exec cmd args).run.run { s with line := s.line + 1 } = .ok (.ok ()) s₁ ∧
      (runLines split rest).run s₁ = .ok none s' := by
  simp only [runLines, EStateM.run_bind, hw, EStateM.run_modify, EStateM.run_get] at h
  split at h
  · rename_i s₁ hx
    cases hx' : (exec cmd args).run.run { s with line := s.line + 1 } with
    | ok r s₂ =>
      rw [hx'] at hx
      cases r with
      | ok u => exact ⟨s₂, rfl, by cases hx; exact h⟩
      | error e =>
        cases hx
        cases h
    | error e s₂ =>
      rw [hx'] at hx
      cases hx
  · cases h

/-- A line without words is only counted. -/
theorem run_runLines_blank {text : String} (hw : split text = .ok []) (rest : List String)
    (s : Simulator) :
    (runLines split (text :: rest)).run s = (runLines split rest).run { s with line := s.line + 1 } := by
  simp only [runLines, EStateM.run_bind, hw, EStateM.run_modify, EStateM.run_get]

theorem plain_halfText (hf : Half) : Plain (halfText hf) := by
  cases hf
  · exact plain_keywords "first" (by simp)
  · exact plain_keywords "second" (by simp)

/-- A fill line of a half and hex words splits into its words. -/
theorem split_fillLine (hsplit : SplitsPlain split) (l : Lane) (hf : Half) {ws : List String}
    {bs : List Nat} (hbs : List.Forall₂ HexByte ws bs) :
    split (laneLine "fill" l (halfText hf :: ws)) =
      .ok ("fill" :: toString l.number :: halfText hf :: ws) := by
  refine split_laneLine hsplit (plain_keywords "fill" (by simp)) l fun a ha => ?_
  rcases List.mem_cons.mp ha with rfl | ha
  · exact plain_halfText hf
  · exact plain_of_forall₂_hexByte hbs a ha

/-- How the lines of a script leave the bytes of lane `l`'s ring: a fill of lane `l` with hex
words overwrites the half it names; every other line, with words that neither fill nor stop
lane `l`, or with no words, leaves them. -/
inductive Rewrites (split : String → Except String (List String)) (l : Lane) :
    List String → List Nat → List Nat → Prop
  | nil (xs : List Nat) : Rewrites split l [] xs xs
  | fill {hf : Half} {ws : List String} {bs : List Nat} (hbs : List.Forall₂ HexByte ws bs)
      {rest : List String} {xs ys : List Nat} :
      Rewrites split l rest (fillHalf xs hf bs) ys →
      Rewrites split l (laneLine "fill" l (halfText hf :: ws) :: rest) xs ys
  | other {text cmd : String} {args : List String} (hw : split text = .ok (cmd :: args))
      (hfill : cmd = "fill" → ¬ OnLane l args) (hstop : cmd = "stop" → ¬ OnLane l args)
      {rest : List String} {xs ys : List Nat} :
      Rewrites split l rest xs ys → Rewrites split l (text :: rest) xs ys
  | blank {text : String} (hw : split text = .ok []) {rest : List String} {xs ys : List Nat} :
      Rewrites split l rest xs ys → Rewrites split l (text :: rest) xs ys

/-- Along a script that returns, lane `l`'s ring goes from the bytes `xs` to the bytes the
fills of lane `l` leave, in the order of the lines. -/
theorem streams_runLines (hsplit : SplitsPlain split) {l : Lane} {c : Circular}
    {lines : List String} {xs ys : List Nat} (hr : Rewrites split l lines xs ys) :
    ∀ {s s' : Simulator}, Reaches s → Streams l c xs s → (runLines split lines).run s = .ok none s' →
      Reaches s' ∧ Streams l c ys s' := by
  induction hr with
  | nil xs =>
    intro s s' hs h hrun
    cases hrun
    exact ⟨hs, h⟩
  | @fill hf ws bs hbs rest xs ys _ ih =>
    intro s s' hs h hrun
    obtain ⟨s₁, hx, h₁, -, -⟩ := fill_streams (h.count (s.line + 1)) hf hbs
    rw [run_runLines_cons (split_fillLine hsplit l hf hbs) hx] at hrun
    exact ih (Reaches.line _ _ hs hx) h₁ hrun
  | @other text cmd args hw hfill hstop rest xs ys _ ih =>
    intro s s' hs h hrun
    obtain ⟨s₁, hx, hrest⟩ := runLines_cons_none hw hrun
    have h₁ := streams_exec (hs.books.count (s.line + 1)) (h.count (s.line + 1)) hfill hstop
    rw [hx] at h₁
    exact ih (Reaches.line _ _ hs hx) h₁ hrest
  | @blank text hw rest xs ys _ ih =>
    intro s s' hs h hrun
    rw [run_runLines_blank hw] at hrun
    exact ih hs.blank (h.count _) hrun

/-- A script that starts a circular transfer of `n` zeros on a free lane and goes on with lines
that fill its ring or leave it, to its end: a `read` line then returns, and reports the half
it handed out, if any, with that half of the bytes the fills left, in lower-case hex. -/
theorem read_after_fills_reports (hsplit : SplitsPlain split) {s : Simulator} (hs : Reaches s)
    {l : Lane}
    (hfree : l.entry s.oneShots = none ∧ l.entry s.circulars = none) {n : Nat} (h0 : n ≠ 0)
    (heven : n % 2 = 0) (hn : n ≤ 65535) {lines : List String} {ys : List Nat}
    (hr : Rewrites split l lines (List.replicate n 0) ys) {s₁ : Simulator}
    (hrun : (runLines split (laneLine "circ" l [toString n] :: lines)).run s = .ok none s₁) :
    ∃ s₂ res handed, (runLines split [laneLine "read" l []]).run s₁ = .ok none s₂ ∧
      (handed = none → res ≠ "ok") ∧
      s₂.printed = s₁.printed.push (Report.render (s₁.line + 1)
        { command := "read", lane := some l, result := res, half := (handed.map halfText).getD "",
          data := (handed.map fun hf => lowerHex (halfOf ys hf)).getD "" }) := by
  obtain ⟨c, s₀, hx, h₀, -, -⟩ := circ_streams (hs.books.count (s.line + 1)) hfree h0 heven hn
  rw [run_runLines_cons (split_laneLine_number hsplit (plain_keywords "circ" (by simp)) l n) hx]
    at hrun
  -- the lines after the start take the zeros to `ys`
  obtain ⟨hs₁, h₁⟩ := streams_runLines hsplit hr (Reaches.line _ _ hs hx) h₀ hrun
  obtain ⟨s₂, hx₂, -, -, res, handed, hok, hprinted⟩ :=
    read_reports_half (hs₁.books.count (s₁.line + 1)) (h₁.count (s₁.line + 1))
  refine ⟨s₂, res, handed, ?_, hok, hprinted⟩
  rw [run_runLines_cons (split_laneLine_nil hsplit (plain_keywords "read" (by simp)) l) hx₂]
  rfl

end Split

/-- The bytes of a script's lines reach its reports. A list of words reads as bytes exactly
when each word writes its byte in hex. A `tx` line of hex words on a free lane, once completed,
has its `wait` report the bytes in lower-case hex. An `rx` line of `n` zeros, after `deliver`
lines, has its `wait` report the zeros as each delivery in turn overwrote them. And a `read` of
a circular transfer reports the half it handed out as the fills of its lane left it. -/
theorem script_reports_bytes_written {split : String → Except String (List String)}
    (hsplit : SplitsPlain split) :
    (∀ (ws : List String) (bs : List Nat) (s : Simulator),
      (bytesWords ws).run.run s = .ok (.ok bs) s ↔ List.Forall₂ HexByte ws bs) ∧
    (∀ {s : Simulator}, Reaches s → ∀ {l : Lane},
      l.entry s.oneShots = none ∧ l.entry s.circulars = none →
      (∀ x ∈ s.machine.bank.schedule, x.lane = l → x.event ≠ .error) →
      ∀ {ws : List String} {bs : List Nat}, List.Forall₂ HexByte ws bs → bs ≠ [] →
      (laneLine "tx" l ws).utf8ByteSize ≤ maxLineBytes →
      ∃ s', (runLines split [laneLine "tx" l ws, laneLine "complete" l [], laneLine "wait" l []]).run
          s = .ok none s' ∧
        s'.printed = (s.printed.push
          (({ command := "tx", lane := some l, result := "ok" } : Report).render (s.line + 1))).push
          (({ command := "wait", lane := some l, result := "ok", data := lowerHex bs } : Report).render
            (s.line + 3))) ∧
    (∀ {s : Simulator}, Reaches s → ∀ {l : Lane},
      l.entry s.oneShots = none ∧ l.entry s.circulars = none →
      (∀ x ∈ s.machine.bank.schedule, x.lane = l → x.event ≠ .error) →
      ∀ {n : Nat}, 1 ≤ n → n ≤ 65535 → ∀ {dws : List (List String)} {dbs : List (List Nat)},
      List.Forall₂ (List.Forall₂ HexByte) dws dbs →
      ∃ s', (runLines split (laneLine "rx" l [toString n] :: dws.map (laneLine "deliver" l) ++
          [laneLine "complete" l [], laneLine "wait" l []])).run s = .ok none s' ∧
        s'.printed = (s.printed.push
          (({ command := "rx", lane := some l, result := "ok" } : Report).render (s.line + 1))).push
          (({ command := "wait", lane := some l, result := "ok",
              data := lowerHex (dbs.foldl overwrite (List.replicate n 0)) } : Report).render
            (s.line + dws.length + 3))) ∧
    (∀ {s : Simulator}, Reaches s → ∀ {l : Lane},
      l.entry s.oneShots = none ∧ l.entry s.circulars = none →
      ∀ {n : Nat}, n ≠ 0 → n % 2 = 0 → n ≤ 65535 → ∀ {lines : List String} {ys : List Nat},
      Rewrites split l lines (List.replicate n 0) ys → ∀ {s₁ : Simulator},
      (runLines split (laneLine "circ" l [toString n] :: lines)).run s = .ok none s₁ →
      ∃ s₂ res handed, (runLines split [laneLine "read" l []]).run s₁ = .ok none s₂ ∧
        (handed = none → res ≠ "ok") ∧
        s₂.printed = s₁.printed.push (Report.render (s₁.line + 1)
          { command := "read", lane := some l, result := res, half := (handed.map halfText).getD "",
            data := (handed.map fun hf => lowerHex (halfOf ys hf)).getD "" })) :=
  ⟨run_bytesWords_eq_ok_iff, tx_complete_wait_reports hsplit, rx_deliver_wait_reports hsplit,
    read_after_fills_reports hsplit⟩

/-- With the program's splitter, on lane 1 of a fresh simulator: the words `0xAB` and `01` read as the bytes 171 and 1;
sending them reports `ab01`; reading four bytes, after deliveries of `ab` and of five bytes,
reports the last delivery cut to four; and a read after a fill of the first half of a ring of
four with `ab cd` reports that half, if it hands it out, as `abcd`. -/
theorem script_reports_bytes_written_lane_one :
    (bytesWords ["0xAB", "01"]).run.run {} = .ok (.ok [171, 1]) {} ∧
    (∃ s', (runLines Cli.words [laneLine "tx" ⟨0⟩ ["0xAB", "01"], laneLine "complete" ⟨0⟩ [],
        laneLine "wait" ⟨0⟩ []]).run {} = .ok none s' ∧
      s'.printed = #[({ command := "tx", lane := some ⟨0⟩, result := "ok" } : Report).render 1,
        ({ command := "wait", lane := some ⟨0⟩, result := "ok", data := "ab01" } : Report).render 3]) ∧
    (∃ s', (runLines Cli.words [laneLine "rx" ⟨0⟩ ["4"], laneLine "deliver" ⟨0⟩ ["ab"],
        laneLine "deliver" ⟨0⟩ ["1", "2", "3", "4", "5"], laneLine "complete" ⟨0⟩ [],
        laneLine "wait" ⟨0⟩ []]).run {} = .ok none s' ∧
      s'.printed = #[({ command := "rx", lane := some ⟨0⟩, result := "ok" } : Report).render 1,
        ({ command := "wait", lane := some ⟨0⟩, result := "ok", data := "01020304" } : Report).render
          5]) ∧
    (∃ s₁ s₂ res handed,
      (runLines Cli.words [laneLine "circ" ⟨0⟩ ["4"], laneLine "fill" ⟨0⟩ ["first", "ab", "cd"]]).run {} =
        .ok none s₁ ∧
      (runLines Cli.words [laneLine "read" ⟨0⟩ []]).run s₁ = .ok none s₂ ∧ (handed = none → res ≠ "ok") ∧
      s₂.printed = s₁.printed.push (Report.render (s₁.line + 1)
        { command := "read", lane := some ⟨0⟩, result := res, half := (handed.map halfText).getD "",
          data := (handed.map fun hf => lowerHex (halfOf [171, 205, 0, 0] hf)).getD "" })) := by
  have hbyte : ∀ (t : String) (b : UInt8), parseHexByte? t = some b → HexByte t b.toNat :=
    fun t b => (parseHexByte?_eq_some_iff t b).mp
  have htx : List.Forall₂ HexByte ["0xAB", "01"] [171, 1] :=
    .cons (hbyte "0xAB" 171 (by decide)) (.cons (hbyte "01" 1 (by decide)) .nil)
  have hab : List.Forall₂ HexByte ["ab"] [171] := .cons (hbyte "ab" 171 (by decide)) .nil
  have hcd : List.Forall₂ HexByte ["ab", "cd"] [171, 205] :=
    .cons (hbyte "ab" 171 (by decide)) (.cons (hbyte "cd" 205 (by decide)) .nil)
  have hfive : List.Forall₂ HexByte ["1", "2", "3", "4", "5"] [1, 2, 3, 4, 5] :=
    .cons (hbyte "1" 1 (by decide)) (.cons (hbyte "2" 2 (by decide)) (.cons (hbyte "3" 3 (by decide))
      (.cons (hbyte "4" 4 (by decide)) (.cons (hbyte "5" 5 (by decide)) .nil))))
  have hfree : (⟨0⟩ : Lane).entry ({} : Simulator).oneShots = none ∧
      (⟨0⟩ : Lane).entry ({} : Simulator).circulars = none := ⟨rfl, rfl⟩
  have hq : ∀ x ∈ ({} : Simulator).machine.bank.schedule, x.lane = (⟨0⟩ : Lane) → x.event ≠ .error :=
    nofun
  obtain ⟨hwords, hsend, hreceive, hread⟩ := script_reports_bytes_written Cli.words_splitsPlain
  refine ⟨(hwords _ _ _).mpr htx, ?_, ?_, ?_⟩
  · obtain ⟨s', hrun, hprinted⟩ := hsend Reaches.start hfree hq htx (by simp) (by decide)
    refine ⟨s', hrun, ?_⟩
    rw [hprinted]
    decide
  · obtain ⟨s', hrun, hprinted⟩ :=
      hreceive Reaches.start hfree hq (n := 4) (by decide) (by decide) (.cons hab (.cons hfive .nil))
    refine ⟨s', hrun, ?_⟩
    rw [hprinted]
    decide
  · -- the start and the fill, run by their own lemmas
    obtain ⟨c, s₀, hx₀, h₀, -, -⟩ := circ_streams (Simulator.Books.start.count 1) hfree (n := 4)
      (by decide) (by decide) (by decide)
    obtain ⟨s₁, hx₁, -, -, -⟩ := fill_streams (h₀.count (s₀.line + 1)) .first hcd
    have hrun : (runLines Cli.words [laneLine "circ" ⟨0⟩ [toString 4],
        laneLine "fill" ⟨0⟩ [halfText .first, "ab", "cd"]]).run {} = .ok none s₁ := by
      rw [run_runLines_cons
          (split_laneLine_number Cli.words_splitsPlain (plain_keywords "circ" (by simp)) _ 4) hx₀,
        run_runLines_cons (split_fillLine Cli.words_splitsPlain _ .first hcd) hx₁]
      rfl
    obtain ⟨s₂, res, handed, hrun₂, hok, hprinted⟩ := hread Reaches.start hfree (n := 4)
      (by decide) (by decide) (by decide) (.fill hcd (.nil _)) hrun
    exact ⟨s₁, s₂, res, handed, hrun, hrun₂, hok, hprinted⟩

end Script

end DmaOwnership
