import Rips.Basic

/-!
# Payloads and the streaming `BasicEthernetPayload`

A `Payload` reports its length and writes itself into a caller's buffer.  The buffer may be
shorter than the payload: `BasicEthernetPayload` then keeps an offset and streams the rest of
its bytes into the buffers of later calls.  This file proves that the stream loses,
duplicates and reorders nothing, for every payload and every sequence of buffers.
-/

namespace Rips

/-- The `Payload` trait.  `build` returns the payload's new state and the buffer as it leaves
it, or `none` where the code panics; a `&mut [u8]` cannot change its length. -/
structure Payload (σ : Type) where
  len : σ → Nat
  build : σ → List UInt8 → Option (σ × List UInt8)
  build_length : ∀ {s buffer s' buffer'},
    build s buffer = some (s', buffer') → buffer'.length = buffer.length

/-- The `EthernetPayload` trait: a payload that names its EtherType. -/
structure EthernetPayload (σ : Type) extends Payload σ where
  etherType : σ → EtherType

/-- Successive `build` calls on one payload, one per buffer, as a datalink makes them when it
asks for several frames in a row. -/
def Payload.buildEach {σ : Type} (payload : Payload σ) (s : σ) :
    List (List UInt8) → Option (σ × List (List UInt8))
  | [] => some (s, [])
  | buffer :: rest =>
    match payload.build s buffer with
    | none => none
    | some (s, out) => (payload.buildEach s rest).map fun r => (r.1, out :: r.2)

@[simp] theorem Payload.buildEach_nil {σ : Type} (payload : Payload σ) (s : σ) :
    payload.buildEach s [] = some (s, []) := rfl

theorem Payload.buildEach_cons_of_build {σ : Type} {payload : Payload σ} {s s' : σ}
    {buffer out : List UInt8} (rest : List (List UInt8))
    (hbuild : payload.build s buffer = some (s', out)) :
    payload.buildEach s (buffer :: rest) =
      (payload.buildEach s' rest).map fun r => (r.1, out :: r.2) := by
  simp only [buildEach, hbuild]

theorem Payload.buildEach_cons_eq_some {σ : Type} {payload : Payload σ} {s final : σ}
    {buffer : List UInt8} {rest outs : List (List UInt8)} :
    payload.buildEach s (buffer :: rest) = some (final, outs) ↔
      ∃ s' out outs', payload.build s buffer = some (s', out) ∧
        payload.buildEach s' rest = some (final, outs') ∧ outs = out :: outs' := by
  cases hbuild : payload.build s buffer with
  | none => simp [buildEach, hbuild]
  | some r =>
    obtain ⟨s', out⟩ := r
    simp only [buildEach, hbuild, Option.map_eq_some', Option.some.injEq]
    constructor
    · rintro ⟨⟨_, outs'⟩, hrun, hout⟩
      simp only [Prod.mk.injEq] at hout
      obtain ⟨rfl, rfl⟩ := hout
      exact ⟨s', out, outs', rfl, hrun, rfl⟩
    · rintro ⟨_, _, outs', hbuild', hrun, rfl⟩
      obtain ⟨rfl, rfl⟩ := Prod.mk.inj hbuild'
      exact ⟨(final, outs'), hrun, rfl⟩

/-! ## `BasicEthernetPayload` -/

structure BasicEthernetPayload where
  etherType : EtherType
  offset : Nat
  payload : List UInt8
  deriving DecidableEq, Repr

namespace BasicEthernetPayload

def new (etherType : EtherType) (payload : List UInt8) : BasicEthernetPayload :=
  ⟨etherType, 0, payload⟩

def len (self : BasicEthernetPayload) : Nat := self.payload.length

def build (self : BasicEthernetPayload) (buffer : List UInt8) :
    Option (BasicEthernetPayload × List UInt8) := do
  let start := self.offset
  let stop := min (← usizeAdd start buffer.length) self.payload.length
  let self := { self with offset := stop }
  let count ← usizeSub stop start
  let src ← sliceRange self.payload start stop
  let buffer ← copyFromSlice buffer count src
  pure (self, buffer)

/-- One call from an offset inside the payload copies the next
`min buffer.len() (payload.len() - offset)` bytes to the start of the buffer and leaves the
rest of the buffer as it was. -/
theorem build_spec (self : BasicEthernetPayload) (buffer : List UInt8)
    (hoffset : self.offset ≤ self.payload.length) (hpayload : self.payload.length ≤ isizeMax)
    (hbuffer : buffer.length ≤ isizeMax) :
    self.build buffer =
      some ({ self with
          offset := self.offset + min buffer.length (self.payload.length - self.offset) },
        (self.payload.drop self.offset).take
            (min buffer.length (self.payload.length - self.offset)) ++
          buffer.drop (min buffer.length (self.payload.length - self.offset))) := by
  have hsum : self.offset + buffer.length < 2 ^ 64 := by unfold isizeMax at *; omega
  obtain ⟨w, hw⟩ : ∃ w, min buffer.length (self.payload.length - self.offset) = w := ⟨_, rfl⟩
  have hstop : min (self.offset + buffer.length) self.payload.length = self.offset + w := by
    omega
  have hsrc : ((self.payload.drop self.offset).take w).length = w := by simp; omega
  rw [hw]
  simp only [build, Option.bind_eq_bind, usizeAdd_of_lt hsum, Option.some_bind, hstop,
    usizeSub_of_le (Nat.le_add_right _ _), Nat.add_sub_cancel_left,
    sliceRange_of_le (Nat.le_add_right self.offset w)
      (by omega : self.offset + w ≤ self.payload.length),
    copyFromSlice_of_le (by omega : w ≤ buffer.length) hsrc]
  rfl

theorem build_length {self self' : BasicEthernetPayload} {buffer out : List UInt8}
    (h : self.build buffer = some (self', out)) : out.length = buffer.length := by
  simp only [build, Option.bind_eq_bind, Option.bind_eq_some] at h
  obtain ⟨_, -, _, -, src, -, out', hcopy, hout⟩ := h
  simp only [Option.pure_def, Option.some.injEq, Prod.mk.injEq] at hout
  unfold copyFromSlice at hcopy
  split_ifs at hcopy with hbound
  simp only [Option.some.injEq] at hcopy
  rw [← hout.2, ← hcopy]
  simp only [List.length_append, List.length_drop, hbound.2]
  omega

theorem build_etherType {self self' : BasicEthernetPayload} {buffer out : List UInt8}
    (h : self.build buffer = some (self', out)) : self'.etherType = self.etherType := by
  simp only [build, Option.bind_eq_bind, Option.bind_eq_some] at h
  obtain ⟨_, -, _, -, _, -, _, -, hout⟩ := h
  simp only [Option.pure_def, Option.some.injEq, Prod.mk.injEq] at hout
  rw [← hout.1]

def toEthernetPayload : EthernetPayload BasicEthernetPayload where
  len := len
  build := build
  build_length := build_length
  etherType := etherType

private theorem take_append_drop_take_min (p : List UInt8) (o n total : Nat) :
    (p.drop o).take (min n (p.length - o)) ++ (p.drop (o + min n (p.length - o))).take total =
      (p.drop o).take (n + total) := by
  by_cases hn : n ≤ p.length - o
  · rw [min_eq_left hn, List.take_add, List.drop_drop]
  · have hlength : (p.drop o).length ≤ min n (p.length - o) := by simp; omega
    have hend : p.drop (o + min n (p.length - o)) = [] := List.drop_eq_nil_of_le (by omega)
    have hall : (p.drop o).length ≤ n + total := by simp; omega
    rw [hend, List.take_nil, List.append_nil, List.take_of_length_le hlength,
      List.take_of_length_le hall]

/-- Successive calls from any offset inside the payload: call `i` writes a chunk of
`min bᵢ.len() (payload.len() - oᵢ)` bytes at the start of its buffer, `oᵢ` being the offset
before it, and leaves the rest of the buffer; the chunks join into the payload's next bytes. -/
theorem buildEach_spec (etherType : EtherType) (p : List UInt8) (hp : p.length ≤ isizeMax) :
    ∀ (buffers : List (List UInt8)) (o : Nat), o ≤ p.length →
      (∀ b ∈ buffers, b.length ≤ isizeMax) →
      ∃ chunks : List (List UInt8),
        toEthernetPayload.buildEach ⟨etherType, o, p⟩ buffers =
          some (⟨etherType, min (o + (buffers.map List.length).sum) p.length, p⟩,
            List.zipWith (fun chunk b => chunk ++ b.drop chunk.length) chunks buffers) ∧
        chunks.length = buffers.length ∧
        (∀ i (hc : i < chunks.length) (hb : i < buffers.length), chunks[i].length =
          min buffers[i].length
            (p.length - min (o + ((buffers.take i).map List.length).sum) p.length)) ∧
        chunks.flatten = (p.drop o).take (buffers.map List.length).sum
  | [], o, ho, _ =>
    ⟨[], by
      simp only [Payload.buildEach_nil, List.map_nil, List.sum_nil, Nat.add_zero,
        min_eq_left ho, List.zipWith_nil_left],
      rfl, fun _ hc => absurd hc (Nat.not_lt_zero _), rfl⟩
  | b :: rest, o, ho, hbuffers => by
    have hbuild := build_spec ⟨etherType, o, p⟩ b ho hp (hbuffers b (List.mem_cons_self _ _))
    obtain ⟨chunks, hrun, hlength, hchunk, hjoin⟩ := buildEach_spec etherType p hp rest
      (o + min b.length (p.length - o)) (by omega)
      (fun b' hb' => hbuffers b' (List.mem_cons_of_mem _ hb'))
    have hw : ((p.drop o).take (min b.length (p.length - o))).length =
        min b.length (p.length - o) := by
      rw [List.length_take, List.length_drop]
      omega
    refine ⟨(p.drop o).take (min b.length (p.length - o)) :: chunks, ?_, congrArg (· + 1) hlength,
      ?_, ?_⟩
    · rw [Payload.buildEach_cons_of_build rest hbuild, hrun]
      simp only [Option.map_some', List.zipWith_cons_cons, hw, List.map_cons, List.sum_cons]
      congr 3
      omega
    · intro i hc hb
      cases i with
      | zero =>
        simp only [List.getElem_cons_zero, List.take_zero, List.map_nil, List.sum_nil,
          Nat.add_zero, min_eq_left ho, hw]
      | succ i =>
        simp only [List.getElem_cons_succ, List.take_succ_cons, List.map_cons, List.sum_cons]
        rw [hchunk i (Nat.lt_of_succ_lt_succ hc) (Nat.lt_of_succ_lt_succ hb)]
        congr 2
        omega
    · simp only [List.flatten_cons, hjoin, List.map_cons, List.sum_cons]
      exact take_append_drop_take_min p o b.length _

/-- The stream of a fresh payload over any buffers: no call panics, each writes the next
`min bᵢ.len() (payload.len() - oᵢ)` bytes at the start of its buffer and nothing else, the
offset ends at `min (b₁.len() + ... + bₖ.len()) payload.len()`, and the written chunks join
into `payload[0..b₁.len() + ... + bₖ.len()]`. -/
theorem buildEach_new_streams (etherType : EtherType) (p : List UInt8)
    (buffers : List (List UInt8)) (hp : p.length ≤ isizeMax)
    (hbuffers : ∀ b ∈ buffers, b.length ≤ isizeMax) :
    ∃ chunks : List (List UInt8),
      toEthernetPayload.buildEach (new etherType p) buffers =
        some (⟨etherType, min (buffers.map List.length).sum p.length, p⟩,
          List.zipWith (fun chunk b => chunk ++ b.drop chunk.length) chunks buffers) ∧
      chunks.length = buffers.length ∧
      (∀ i (hc : i < chunks.length) (hb : i < buffers.length), chunks[i].length =
        min buffers[i].length (p.length - min ((buffers.take i).map List.length).sum p.length)) ∧
      chunks.flatten = p.take (buffers.map List.length).sum := by
  simpa only [Nat.zero_add, List.drop_zero] using
    buildEach_spec etherType p hp buffers 0 (Nat.zero_le _) hbuffers

theorem buildEach_new_streams_five_six_seven :
    ([5, 6, 7] : List UInt8).length ≤ isizeMax ∧
    (∀ b ∈ ([[], [0, 0], [0, 0, 0]] : List (List UInt8)), b.length ≤ isizeMax) ∧
    ∃ chunks : List (List UInt8),
      toEthernetPayload.buildEach (new ⟨0x0806⟩ [5, 6, 7]) [[], [0, 0], [0, 0, 0]] =
        some (⟨⟨0x0806⟩, min (([[], [0, 0], [0, 0, 0]] : List (List UInt8)).map List.length).sum
            ([5, 6, 7] : List UInt8).length, [5, 6, 7]⟩,
          List.zipWith (fun chunk b => chunk ++ b.drop chunk.length) chunks
            [[], [0, 0], [0, 0, 0]]) ∧
      chunks.length = ([[], [0, 0], [0, 0, 0]] : List (List UInt8)).length ∧
      (∀ i (hc : i < chunks.length) (hb : i < ([[], [0, 0], [0, 0, 0]] : List (List UInt8)).length),
        chunks[i].length = min ([[], [0, 0], [0, 0, 0]] : List (List UInt8))[i].length
          (([5, 6, 7] : List UInt8).length -
            min ((([[], [0, 0], [0, 0, 0]] : List (List UInt8)).take i).map List.length).sum
              ([5, 6, 7] : List UInt8).length)) ∧
      chunks.flatten = ([5, 6, 7] : List UInt8).take
        (([[], [0, 0], [0, 0, 0]] : List (List UInt8)).map List.length).sum :=
  have hp : ([5, 6, 7] : List UInt8).length ≤ isizeMax := by decide
  have hb : ∀ b ∈ ([[], [0, 0], [0, 0, 0]] : List (List UInt8)), b.length ≤ isizeMax := by decide
  ⟨hp, hb, buildEach_new_streams ⟨0x0806⟩ [5, 6, 7] [[], [0, 0], [0, 0, 0]] hp hb⟩

/-- The source's `build_with_data` test: one byte per call, empty buffers in between. -/
example : toEthernetPayload.buildEach (new ⟨0x0806⟩ [5, 6, 7]) [[], [0], [0], [0], []] =
    some (⟨⟨0x0806⟩, 3, [5, 6, 7]⟩, [[], [5], [6], [7], []]) := by decide

end BasicEthernetPayload

end Rips
