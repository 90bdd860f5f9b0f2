import UnicoreGnss.Transport.Cuts

/-!
# What a drain leaves behind

After a drain the buffer should hold nothing that can no longer become a frame or a sentence. It is
the end of the last place of the buffer: an incomplete frame, or what is left when the bytes that
begin nothing have been given up. `begins_with_binary_sync_prefix` compares two bytes of a sync
that has three, so what is left can also be `AA 44` followed by a byte that is not `B5`, and then
nothing is given up until a line or a sync arrives. `Place.Strands` is that case.

## Main definitions

* `Residue`, `Held` — what the buffer should be after a drain
* `Place.Strands` — a last place where it is not
* `Op`, `runOps` — runs of `append`, `drain` and `clear`

## Main results

* `held_drain_iff` — one drain
* `held_runOps_iff` — every drain of a run
-/

namespace UnicoreGnss

open FirstMatch UnicoreTransport

/-- What may be left: nothing, a beginning of the sync, a frame that is not complete, or a sentence
that is not complete. -/
def Residue (o : UnicoreTransportOptions) (b : Bytes) : Prop :=
  b = [] ∨ b = [0xAA] ∨ b = [0xAA, 0x44] ∨
    (startsWithSync b = true ∧
      (b.length < 28 ∨ b.length < frameSize b ∧ frameSize b ≤ o.binaryMaxFrameSize)) ∨
    (startsSentence b = true ∧ lf ∉ b ∧ findBinarySync b = none)

instance (o : UnicoreTransportOptions) (b : Bytes) : Decidable (Residue o b) :=
  inferInstanceAs (Decidable (_ ∨ _))

/-- A residue that does not outgrow a frame when it starts like one. -/
def Held (o : UnicoreTransportOptions) (b : Bytes) : Prop :=
  Residue o b ∧ (b.head? = some 0xAA → b.length ≤ o.binaryMaxFrameSize)

instance (o : UnicoreTransportOptions) (b : Bytes) : Decidable (Held o b) :=
  inferInstanceAs (Decidable (_ ∧ _))

/-- At the last place, behind bytes that begin nothing, there is what looks like a sync after two
bytes and is none after three, or is already longer than a frame may be. -/
def Place.Strands (o : UnicoreTransportOptions) (x : Place) : Prop :=
  readSegment o x.rest = none ∧ ∃ k, (∀ i < k, givesUp (x.rest.drop i) = true) ∧
    beginsWithBinarySyncPrefix (x.rest.drop k) = true ∧
    (o.binaryMaxFrameSize < (x.rest.drop k).length ∨
      3 ≤ (x.rest.drop k).length ∧ startsWithSync (x.rest.drop k) = false)

/-! ### One drain -/

section Drain

variable {o : UnicoreTransportOptions} {b l : Bytes} {x : Place}

theorem head?_of_front (h : beginsWithBinarySyncPrefix b = true) : b.head? = some 0xAA := by
  match b with
  | [] => exact absurd h (by decide)
  | [x] => simpa [beginsWithBinarySyncPrefix, binarySync] using h
  | x :: y :: b =>
    obtain ⟨rfl, -⟩ : x = 0xAA ∧ y = 0x44 := by
      simpa [beginsWithBinarySyncPrefix, binarySync] using h
    rfl

/-- What looks like a sync after two bytes. -/
theorem eq_of_front (h : beginsWithBinarySyncPrefix b = true) (hsync : startsWithSync b = false) :
    b = [0xAA] ∨ b = [0xAA, 0x44] ∨ 3 ≤ b.length := by
  match b with
  | [] => exact absurd h (by decide)
  | [x] =>
    obtain rfl : x = 0xAA := by simpa [beginsWithBinarySyncPrefix, binarySync] using h
    exact .inl rfl
  | [x, y] =>
    obtain ⟨rfl, rfl⟩ : x = 0xAA ∧ y = 0x44 := by
      simpa [beginsWithBinarySyncPrefix, binarySync] using h
    exact .inr (.inl rfl)
  | x :: y :: z :: b => exact .inr (.inr (by simp))

theorem startsSentence_of_front (h : beginsWithBinarySyncPrefix b = true) :
    startsSentence b = false := by
  rw [startsSentence, head?_of_front h]
  decide

/-- What is left of a buffer that looks like a sync after two bytes. -/
theorem held_of_front_iff (h : beginsWithBinarySyncPrefix b = true)
    (hwait : startsWithSync b = true → b.length < 28 ∨
      frameSize b ≤ o.binaryMaxFrameSize ∧ b.length < frameSize b) :
    Held o b ↔ ¬(o.binaryMaxFrameSize < b.length ∨
      3 ≤ b.length ∧ startsWithSync b = false) := by
  have hhead := head?_of_front h
  constructor
  · rintro ⟨hres, hbound⟩ (hlong | ⟨hlen, hsync⟩)
    · exact absurd (hbound hhead) (by omega)
    · rcases hres with rfl | rfl | rfl | ⟨hsync', -⟩ | ⟨hstart, -⟩
      · simp at hlen
      · simp at hlen
      · simp at hlen
      · rw [hsync] at hsync'; exact absurd hsync' (by simp)
      · rw [startsSentence_of_front h] at hstart; exact absurd hstart (by simp)
  · intro hnot
    refine ⟨?_, fun _ => by omega⟩
    cases hsync : startsWithSync b with
    | true =>
      refine .inr (.inr (.inr (.inl ⟨hsync, ?_⟩)))
      rcases hwait hsync with hshort | ⟨hsize, hshort⟩
      · exact .inl hshort
      · exact .inr ⟨hshort, hsize⟩
    | false =>
      rcases eq_of_front h hsync with rfl | rfl | hlen
      · exact .inr (.inl rfl)
      · exact .inr (.inr (.inl rfl))
      · exact absurd (.inr ⟨hlen, hsync⟩) hnot

/-- What is left of a buffer with neither a sync nor a line. -/
theorem held_of_silent (hsilent : Silent b) (hgives : givesUp b = false)
    (hfront : beginsWithBinarySyncPrefix b = false) : Held o b := by
  rcases eq_or_ne b [] with rfl | hne
  · exact ⟨.inl rfl, by simp⟩
  · have hstart : startsSentence b = true := by
      by_contra hnot
      rw [Bool.not_eq_true] at hnot
      rw [givesUp_iff.mpr ⟨hne, hnot, hfront⟩] at hgives
      exact absurd hgives (by simp)
    refine ⟨.inr (.inr (.inr (.inr ⟨hstart, findNewline_eq_none_iff.mp hsilent.2, hsilent.1⟩))), ?_⟩
    intro hhead
    rw [startsSentence, hhead] at hstart
    exact absurd hstart (by decide)

theorem givesUp_of_front (h : beginsWithBinarySyncPrefix b = true) : givesUp b = false := by
  simp [givesUp, h]

/-- What a drain leaves at a last place. -/
theorem held_drain_last (hlast : readSegment o x.rest = none) :
    Held o ((bytesReader o).drain x.rest).2 ↔ ¬x.Strands o := by
  have hstrands : x.Strands o ↔ ∃ k, (∀ i < k, givesUp (x.rest.drop i) = true) ∧
      beginsWithBinarySyncPrefix (x.rest.drop k) = true ∧
      (o.binaryMaxFrameSize < (x.rest.drop k).length ∨
        3 ≤ (x.rest.drop k).length ∧ startsWithSync (x.rest.drop k) = false) :=
    ⟨fun h => h.2, fun h => ⟨hlast, h⟩⟩
  -- the only candidate for the stranded bytes is what the drain leaves
  have key : ∀ m, (∀ i < m, givesUp (x.rest.drop i) = true) → givesUp (x.rest.drop m) = false →
      (x.Strands o ↔ beginsWithBinarySyncPrefix (x.rest.drop m) = true ∧
        (o.binaryMaxFrameSize < (x.rest.drop m).length ∨
          3 ≤ (x.rest.drop m).length ∧ startsWithSync (x.rest.drop m) = false)) := by
    intro m hall hend
    rw [hstrands]
    constructor
    · rintro ⟨k, hk, hfront, hlong⟩
      obtain rfl := gives_unique hk (givesUp_of_front hfront) hall hend
      exact ⟨hfront, hlong⟩
    · rintro ⟨hfront, hlong⟩
      exact ⟨m, hall, hfront, hlong⟩
  rcases readSegment_eq_none_iff.mp hlast with ⟨hsync, hwait⟩ | hsilent
  · have hfront := beginsWithBinarySyncPrefix_of_sync hsync
    rw [drain_of_waiting hlast (givesUp_of_front hfront),
      key 0 (by omega) (givesUp_of_front (by rwa [List.drop_zero])), List.drop_zero,
      held_of_front_iff hfront fun _ => hwait]
    simp [hfront]
  · obtain ⟨m, hall, hend, hdrain⟩ := drain_of_silent (o := o) hsilent
    rw [hdrain, key m hall hend]
    have hrest := hsilent.drop m
    cases hfront : beginsWithBinarySyncPrefix (x.rest.drop m) with
    | false => simpa using held_of_silent hrest hend hfront
    | true =>
      rw [held_of_front_iff hfront]
      · simp
      · intro hsync
        have hne : x.rest.drop m ≠ [] := by
          intro h
          rw [h] at hsync
          exact absurd hsync (by decide)
        have hzero := (firstMatch_eq_zero_iff hne).mpr hsync
        rw [← findBinarySync, hrest.1] at hzero
        exact absurd hzero (by simp)

/-- **One drain.** It leaves what it should, unless a place of the buffer strands. -/
theorem held_drain_iff (o : UnicoreTransportOptions) (b : Bytes) :
    Held o ((bytesReader o).drain b).2 ↔
      ∀ x, Place.Reaches o (Place.start b) x → ¬x.Strands o := by
  have hdrain : ∀ x, Place.Reaches o (Place.start b) x →
      ((bytesReader o).drain b).2 = ((bytesReader o).drain x.rest).2 := by
    intro x hx
    obtain ⟨path, hpath⟩ := drain_of_reaches hx
    have hrest : (bytesReader o).drain b = _ := hpath.drain_rest (seen_le_of_reaches hx)
    rw [hrest]
  constructor
  · intro hheld x hx hstrands
    rw [hdrain x hx, held_drain_last hstrands.1] at hheld
    exact hheld hstrands
  · intro hall
    obtain ⟨x, hx, hlast⟩ := exists_last_place o b
    rw [hdrain x hx, held_drain_last hlast]
    exact hall x hx

end Drain

/-! ### Runs -/

/-- The operations on a transport. -/
inductive Op where
  | append (data : Bytes)
  | drain
  | clear
  deriving DecidableEq, Repr

/-- One operation; the events of a drain are not looked at. -/
def Op.apply (t : UnicoreTransport) : Op → UnicoreTransport
  | append data => t.append data
  | drain => t.drain.2
  | clear => t.clear

/-- A run of operations. -/
def runOps (ops : List Op) (t : UnicoreTransport) : UnicoreTransport := ops.foldl Op.apply t

theorem options_runOps (ops : List Op) (t : UnicoreTransport) :
    (runOps ops t).options = t.options := by
  induction ops generalizing t with
  | nil => rfl
  | cons op ops ih =>
    have happly : (op.apply t).options = t.options := by
      cases op with
      | append data => rfl
      | drain => exact (congrArg options (drain_eq_history t)).trans (options_run [.drain] t)
      | clear => rfl
    exact (ih _).trans happly

/-- The buffer after a drain of the transport. -/
theorem buffer_drain {o : UnicoreTransportOptions} (hbin : o.enableBinary = true)
    {t : UnicoreTransport} (ho : t.options = o) :
    t.drain.2.buffer = ((bytesReader o).drain t.buffer).2 := by
  have hhist := (history_run_eq hbin [.drain] t ho).2
  rw [drain_eq_history]
  exact hhist

/-- **The residue of every drain of a run.** The buffer is what it should be after every drain if
and only if no drain starts from a buffer with a place that strands. -/
theorem held_runOps_iff (strict : Bool) (max : ℕ) (ops : List Op) :
    let o := binaryOptions strict max
    (∀ before after, ops = before ++ .drain :: after →
      Held o (runOps (before ++ [.drain]) (fresh o)).buffer) ↔
    (∀ before after, ops = before ++ .drain :: after →
      ∀ x, Place.Reaches o (Place.start (runOps before (fresh o)).buffer) x → ¬x.Strands o) := by
  intro o
  refine forall_congr' fun before => forall_congr' fun after => imp_congr_right fun _ => ?_
  have hstep : runOps (before ++ [.drain]) (fresh o) = (runOps before (fresh o)).drain.2 := by
    rw [runOps, List.foldl_append]
    rfl
  have hbuf : (runOps before (fresh o)).drain.2.buffer = _ :=
    buffer_drain (o := o) rfl (options_runOps before (fresh o))
  rw [hstep, hbuf, held_drain_iff]

/-- Three bytes that are no sync and stay in the buffer. -/
theorem not_held_partial_sync :
    ¬Held (binaryOptions true 4096)
      (runOps [.append [0xAA, 0x44, 0x00], .drain] (fresh (binaryOptions true 4096))).buffer := by
  decide

end UnicoreGnss
