import Rips.Ethernet.Payload

/-!
# Ethernet frames: `EthernetBuilder` and `EthernetTxImpl`

`EthernetTxImpl::send` asks its `Tx` for frames of `size` plus the header size, each filled by
an `EthernetBuilder`: the builder writes the header through `MutableEthernetPacket` and lets
the payload write the rest of the frame.  The datalink lends the frame buffers and runs the
builder on each in turn.

The main result says what every frame of a send holds, for every payload, frame count and
frame size: the header of the sender, and after it exactly what the payload left in an
`size`-byte buffer on that call.  For `BasicEthernetPayload` the frames carry the payload's
bytes in order.
-/

namespace Rips

/-! ## The Ethernet II header -/

def EthernetPacket.minimumPacketSize : Nat := 14

namespace MutableEthernetPacket

/-- `set_destination`: bytes `0..6` of a frame of at least `minimum_packet_size()` bytes. -/
def setDestination (frame : List UInt8) (mac : MacAddr) : List UInt8 :=
  mac.octets ++ frame.drop 6

def setSource (frame : List UInt8) (mac : MacAddr) : List UInt8 :=
  frame.take 6 ++ mac.octets ++ frame.drop 12

def setEthertype (frame : List UInt8) (et : EtherType) : List UInt8 :=
  frame.take 12 ++ et.octets ++ frame.drop 14

end MutableEthernetPacket

namespace EthernetPacket

def getDestination (frame : List UInt8) : List UInt8 := frame.take 6

def getSource (frame : List UInt8) : List UInt8 := (frame.drop 6).take 6

def getEthertype (frame : List UInt8) : List UInt8 := (frame.drop 12).take 2

def payload (frame : List UInt8) : List UInt8 := frame.drop 14

end EthernetPacket

/-- A frame whose header was written with `dst`, `src` and `et` reads them back, and its
payload is what followed the header. -/
theorem ethernetPacket_fields (dst src : MacAddr) (et : EtherType) (body : List UInt8) :
    EthernetPacket.getDestination (dst.octets ++ src.octets ++ et.octets ++ body) = dst.octets ∧
    EthernetPacket.getSource (dst.octets ++ src.octets ++ et.octets ++ body) = src.octets ∧
    EthernetPacket.getEthertype (dst.octets ++ src.octets ++ et.octets ++ body) = et.octets ∧
    EthernetPacket.payload (dst.octets ++ src.octets ++ et.octets ++ body) = body := by
  simp [EthernetPacket.getDestination, EthernetPacket.getSource, EthernetPacket.getEthertype,
    EthernetPacket.payload, MacAddr.octets, EtherType.octets]

@[simp] theorem drop_header (dst src : MacAddr) (et : EtherType) (body : List UInt8) :
    (dst.octets ++ (src.octets ++ (et.octets ++ body))).drop 14 = body := by
  simp [MacAddr.octets, EtherType.octets]

@[simp] theorem take_header (dst src : MacAddr) (et : EtherType) (body : List UInt8) :
    (dst.octets ++ (src.octets ++ (et.octets ++ body))).take 14 =
      dst.octets ++ (src.octets ++ et.octets) := by
  simp [MacAddr.octets, EtherType.octets]

theorem setEthertype_setDestination_setSource (frame : List UInt8) (src dst : MacAddr)
    (et : EtherType) (hframe : EthernetPacket.minimumPacketSize ≤ frame.length) :
    MutableEthernetPacket.setEthertype
        (MutableEthernetPacket.setDestination (MutableEthernetPacket.setSource frame src) dst) et =
      dst.octets ++ src.octets ++ et.octets ++ frame.drop 14 := by
  unfold EthernetPacket.minimumPacketSize at hframe
  simp only [MutableEthernetPacket.setEthertype, MutableEthernetPacket.setDestination,
    MutableEthernetPacket.setSource]
  simp [List.take_append_eq_append_take, List.drop_append_eq_append_drop, MacAddr.octets,
    List.drop_take, Nat.min_eq_left (show 6 ≤ frame.length by omega)]

/-! ## `EthernetBuilder` -/

structure EthernetBuilder (σ : Type) where
  src : MacAddr
  dst : MacAddr
  payload : σ

namespace EthernetBuilder

variable {σ : Type}

def new (src dst : MacAddr) (payload : σ) : EthernetBuilder σ := ⟨src, dst, payload⟩

def len (P : EthernetPayload σ) (self : EthernetBuilder σ) : Nat :=
  EthernetPacket.minimumPacketSize + P.len self.payload

/-- `EthernetBuilder::build`; `MutableEthernetPacket::new(buffer).unwrap()` panics on a buffer
shorter than the header. -/
def build (P : EthernetPayload σ) (self : EthernetBuilder σ) (buffer : List UInt8) :
    Option (EthernetBuilder σ × List UInt8) :=
  if buffer.length < EthernetPacket.minimumPacketSize then none
  else
    let pkg := MutableEthernetPacket.setSource buffer self.src
    let pkg := MutableEthernetPacket.setDestination pkg self.dst
    let pkg := MutableEthernetPacket.setEthertype pkg (P.etherType self.payload)
    (P.build self.payload (pkg.drop 14)).map fun r =>
      ({ self with payload := r.1 }, pkg.take 14 ++ r.2)

/-- One frame: the header of the builder, then exactly what the payload leaves in the
`buffer.len() - 14` bytes after it. -/
theorem build_spec (P : EthernetPayload σ) (self : EthernetBuilder σ) (buffer : List UInt8)
    (hbuffer : EthernetPacket.minimumPacketSize ≤ buffer.length) :
    build P self buffer = (P.build self.payload (buffer.drop 14)).map fun r =>
      ({ self with payload := r.1 },
        self.dst.octets ++ self.src.octets ++ (P.etherType self.payload).octets ++ r.2) := by
  have hheader := setEthertype_setDestination_setSource buffer self.src self.dst
    (P.etherType self.payload) hbuffer
  simp only [build, if_neg (Nat.not_lt.mpr hbuffer), hheader, List.append_assoc, drop_header,
    take_header]

theorem build_length {P : EthernetPayload σ} {self self' : EthernetBuilder σ}
    {buffer out : List UInt8} (h : build P self buffer = some (self', out)) :
    out.length = buffer.length := by
  by_cases hbuffer : EthernetPacket.minimumPacketSize ≤ buffer.length
  · rw [build_spec P self buffer hbuffer, Option.map_eq_some'] at h
    obtain ⟨⟨s', body⟩, hbody, hout⟩ := h
    simp only [Prod.mk.injEq] at hout
    rw [← hout.2, List.length_append, P.build_length hbody, List.length_drop]
    simp only [EthernetPacket.minimumPacketSize] at hbuffer
    simp
    omega
  · simp [build, Nat.lt_of_not_le hbuffer] at h

def toPayload (P : EthernetPayload σ) : Payload (EthernetBuilder σ) where
  len := len P
  build := build P
  build_length := build_length

/-- Every frame of a run of the builder over buffers of at least 14 bytes keeps its buffer's
length, carries the builder's header with the EtherType the payload names before that call,
and after the header exactly what the payload's call leaves there. -/
theorem buildEach_spec (P : EthernetPayload σ) (src dst : MacAddr) :
    ∀ (slots : List (List UInt8)) (s : σ) (final : EthernetBuilder σ) (frames : List (List UInt8)),
      (∀ slot ∈ slots, EthernetPacket.minimumPacketSize ≤ slot.length) →
      (toPayload P).buildEach ⟨src, dst, s⟩ slots = some (final, frames) →
      ∃ states : List σ, states.length = slots.length + 1 ∧ states.head? = some s ∧
        frames.length = slots.length ∧
        ∀ i (hs : i < slots.length) (hf : i < frames.length) (hst : i + 1 < states.length),
          frames[i].length = slots[i].length ∧
          frames[i] = dst.octets ++ src.octets ++ (P.etherType states[i]).octets ++
            frames[i].drop 14 ∧
          P.build states[i] (slots[i].drop 14) = some (states[i + 1], frames[i].drop 14)
  | [], s, final, frames, _, hrun => by
    simp only [Payload.buildEach_nil, Option.some.injEq, Prod.mk.injEq] at hrun
    obtain ⟨-, rfl⟩ := hrun
    exact ⟨[s], rfl, rfl, rfl, fun i hs => absurd hs (Nat.not_lt_zero i)⟩
  | slot :: rest, s, final, frames, hslots, hrun => by
    obtain ⟨b', out, outs', hbuild, hrest, rfl⟩ := Payload.buildEach_cons_eq_some.mp hrun
    have hlength := (toPayload P).build_length hbuild
    change build P ⟨src, dst, s⟩ slot = some (b', out) at hbuild
    rw [build_spec P _ slot (hslots slot (List.mem_cons_self _ _))] at hbuild
    obtain ⟨⟨s1, body⟩, hbody, hb'⟩ := Option.map_eq_some'.mp hbuild
    obtain ⟨rfl, rfl⟩ := Prod.mk.inj hb'
    obtain ⟨states, hlen, hhead, hflen, hframes⟩ := buildEach_spec P src dst rest s1 final outs'
      (fun x hx => hslots x (List.mem_cons_of_mem _ hx)) hrest
    rcases states with _ | ⟨s1', tail⟩
    · exact absurd hlen.symm (Nat.succ_ne_zero _)
    · simp only [List.head?_cons, Option.some.injEq] at hhead
      subst hhead
      refine ⟨s :: s1' :: tail, congrArg (· + 1) hlen, rfl, congrArg (· + 1) hflen, ?_⟩
      intro i hs hf hst
      cases i with
      | zero =>
        simp only [List.length_append, MacAddr.octets_length, EtherType.octets_length] at hlength
        exact ⟨by simp; omega, by simp, by simpa using hbody⟩
      | succ i =>
        simpa only [List.getElem_cons_succ] using hframes i (Nat.lt_of_succ_lt_succ hs)
          (Nat.lt_of_succ_lt_succ hf) (Nat.lt_of_succ_lt_succ hst)

/-- When the payload's EtherType does not change as it writes, a run of the builder is the
payload's run over the bytes after each header, with that one header put in front. -/
theorem buildEach_eq_of_etherType_stable (P : EthernetPayload σ) (src dst : MacAddr)
    (hstable : ∀ {s s' buffer out}, P.build s buffer = some (s', out) →
      P.etherType s' = P.etherType s) :
    ∀ (slots : List (List UInt8)) (s : σ),
      (∀ slot ∈ slots, EthernetPacket.minimumPacketSize ≤ slot.length) →
      (toPayload P).buildEach ⟨src, dst, s⟩ slots =
        (P.buildEach s (slots.map (List.drop 14))).map fun r =>
          (⟨src, dst, r.1⟩, r.2.map fun body =>
            dst.octets ++ src.octets ++ (P.etherType s).octets ++ body)
  | [], s, _ => rfl
  | slot :: rest, s, hslots => by
    have hstep : (toPayload P).build ⟨src, dst, s⟩ slot = _ :=
      build_spec P ⟨src, dst, s⟩ slot (hslots slot (List.mem_cons_self _ _))
    cases hbody : P.build s (slot.drop 14) with
    | none => simp [Payload.buildEach, hstep, hbody]
    | some r =>
      obtain ⟨s1, body⟩ := r
      rw [Payload.buildEach_cons_of_build rest (by rw [hstep, hbody]; rfl), List.map_cons,
        Payload.buildEach_cons_of_build _ hbody,
        buildEach_eq_of_etherType_stable P src dst hstable rest s1
          (fun x hx => hslots x (List.mem_cons_of_mem _ hx)), hstable hbody]
      cases P.buildEach s1 (rest.map (List.drop 14)) <;> rfl

end EthernetBuilder

/-! ## `EthernetTxImpl` -/

/-- The arguments of one `Tx::send` call: the frame count, the frame size and the filler. -/
structure TxCall (σ : Type) where
  numPackets : Nat
  packetSize : Nat
  payload : Payload σ
  state : σ

structure EthernetTxImpl (τ : Type) where
  src : MacAddr
  dst : MacAddr
  tx : τ
  deriving DecidableEq, Repr

namespace EthernetTxImpl

variable {τ σ : Type}

def new (tx : τ) (src dst : MacAddr) : EthernetTxImpl τ := ⟨src, dst, tx⟩

/-- `EthernetTxImpl::send`: the call it makes on `self.tx`, or `none` where
`size + minimum_packet_size()` overflows. -/
def send (self : EthernetTxImpl τ) (packets size : Nat) (payload : EthernetPayload σ)
    (state : σ) : Option (TxCall (EthernetBuilder σ)) := do
  let builder := EthernetBuilder.new self.src self.dst state
  let totalSize ← usizeAdd size EthernetPacket.minimumPacketSize
  pure ⟨packets, totalSize, EthernetBuilder.toPayload payload, builder⟩

theorem send_eq (self : EthernetTxImpl τ) (packets size : Nat) (payload : EthernetPayload σ)
    (state : σ) (hsize : size + EthernetPacket.minimumPacketSize < 2 ^ 64) :
    self.send packets size payload state =
      some ⟨packets, size + EthernetPacket.minimumPacketSize, EthernetBuilder.toPayload payload,
        ⟨self.src, self.dst, state⟩⟩ := by
  unfold EthernetPacket.minimumPacketSize at hsize
  simp [send, EthernetPacket.minimumPacketSize, usizeAdd_of_lt hsize, EthernetBuilder.new]

private theorem sum_map_length_drop (slots : List (List UInt8)) (size : Nat)
    (hslots : ∀ slot ∈ slots, slot.length = size + EthernetPacket.minimumPacketSize) :
    ((slots.map (List.drop 14)).map List.length).sum = slots.length * size := by
  induction slots with
  | nil => simp
  | cons slot rest ih =>
    have hslot := hslots slot (List.mem_cons_self _ _)
    simp only [List.map_cons, List.sum_cons, List.length_drop, List.length_cons, hslot,
      ih (fun x hx => hslots x (List.mem_cons_of_mem _ hx)), EthernetPacket.minimumPacketSize]
    rw [Nat.succ_mul]
    omega

theorem send_isSome_iff (self : EthernetTxImpl τ) (packets size : Nat)
    (payload : EthernetPayload σ) (state : σ) :
    (∃ call, self.send packets size payload state = some call) ↔
      size + EthernetPacket.minimumPacketSize < 2 ^ 64 := by
  constructor
  · rintro ⟨call, hcall⟩
    by_contra hsize
    simp only [send, usizeAdd, if_neg hsize, Option.bind_eq_bind, Option.none_bind,
      reduceCtorEq] at hcall
  · exact fun hsize => ⟨_, send_eq self packets size payload state hsize⟩

/-- A send of `packets` frames of `size` payload bytes panics exactly when `size + 14`
overflows; otherwise it asks the `Tx` for `packets` frames of `size + 14` bytes, and every
frame the datalink has filled carries the sender's addresses, the EtherType the payload named
before that frame, and after the header exactly what the payload wrote into a `size`-byte
buffer on that call.  With a `BasicEthernetPayload` the frames carry, after their headers,
chunks that join into the payload's first `packets * size` bytes. -/
theorem send_frames (self : EthernetTxImpl τ) (packets size : Nat) :
    (∀ {σ : Type} (P : EthernetPayload σ) (state : σ),
      ((∃ call, self.send packets size P state = some call) ↔
        size + EthernetPacket.minimumPacketSize < 2 ^ 64) ∧
      ∀ call, self.send packets size P state = some call →
        call.numPackets = packets ∧ call.packetSize = size + EthernetPacket.minimumPacketSize ∧
        ∀ (slots : List (List UInt8)) (final : EthernetBuilder σ) (frames : List (List UInt8)),
          slots.length = packets → (∀ slot ∈ slots, slot.length = call.packetSize) →
          call.payload.buildEach call.state slots = some (final, frames) →
          ∃ states : List σ, states.length = packets + 1 ∧ states.head? = some state ∧
            frames.length = packets ∧
            ∀ i (hs : i < slots.length) (hf : i < frames.length) (hst : i + 1 < states.length),
              frames[i].length = size + EthernetPacket.minimumPacketSize ∧
              EthernetPacket.getDestination frames[i] = self.dst.octets ∧
              EthernetPacket.getSource frames[i] = self.src.octets ∧
              EthernetPacket.getEthertype frames[i] = (P.etherType states[i]).octets ∧
              P.build states[i] (slots[i].drop 14) =
                some (states[i + 1], EthernetPacket.payload frames[i])) ∧
    (∀ (etherType : EtherType) (p : List UInt8) (slots : List (List UInt8)),
      slots.length = packets →
      (∀ slot ∈ slots, slot.length = size + EthernetPacket.minimumPacketSize) →
      p.length ≤ isizeMax → size + EthernetPacket.minimumPacketSize ≤ isizeMax →
      ∃ call chunks,
        self.send packets size BasicEthernetPayload.toEthernetPayload
          (BasicEthernetPayload.new etherType p) = some call ∧
        call.payload.buildEach call.state slots =
          some (⟨self.src, self.dst, ⟨etherType, min (packets * size) p.length, p⟩⟩,
            List.zipWith (fun chunk slot => self.dst.octets ++ self.src.octets ++
              etherType.octets ++ chunk ++ (slot.drop 14).drop chunk.length) chunks slots) ∧
        chunks.flatten = p.take (packets * size)) := by
  refine ⟨fun P state => ⟨send_isSome_iff self packets size P state, ?_⟩, ?_⟩
  · intro call hcall
    have hsize := (send_isSome_iff self packets size P state).mp ⟨call, hcall⟩
    rw [send_eq self packets size P state hsize, Option.some.injEq] at hcall
    subst hcall
    refine ⟨rfl, rfl, ?_⟩
    intro slots final frames hlength hslots hrun
    obtain ⟨states, hlen, hhead, hflen, hframes⟩ := EthernetBuilder.buildEach_spec P self.src
      self.dst slots state final frames
      (fun slot h => by rw [hslots slot h]; exact Nat.le_add_left _ _) hrun
    refine ⟨states, by rw [hlen, hlength], hhead, by rw [hflen, hlength], ?_⟩
    intro i hs hf hst
    obtain ⟨hframe, hheader, hbuild⟩ := hframes i hs hf hst
    have hfields := ethernetPacket_fields self.dst self.src (P.etherType states[i])
      (frames[i].drop 14)
    rw [← hheader] at hfields
    exact ⟨by rw [hframe, hslots _ (List.getElem_mem _)], hfields.1, hfields.2.1, hfields.2.2.1,
      hbuild⟩
  · intro etherType p slots hlength hslots hp hslice
    have hsize : size + EthernetPacket.minimumPacketSize < 2 ^ 64 := by
      unfold isizeMax at hslice; omega
    have hbodies : ∀ b ∈ slots.map (List.drop 14), b.length ≤ isizeMax := by
      simp only [List.mem_map]
      rintro _ ⟨slot, hslot, rfl⟩
      simp [hslots slot hslot]
      omega
    obtain ⟨chunks, hrun, -, -, hjoin⟩ := BasicEthernetPayload.buildEach_spec etherType p hp
      (slots.map (List.drop 14)) 0 (Nat.zero_le _) hbodies
    rw [sum_map_length_drop slots size hslots, hlength, Nat.zero_add] at hrun
    rw [sum_map_length_drop slots size hslots, hlength, List.drop_zero] at hjoin
    refine ⟨_, chunks, send_eq self packets size _ _ hsize, ?_, hjoin⟩
    rw [EthernetBuilder.buildEach_eq_of_etherType_stable _ _ _
      BasicEthernetPayload.build_etherType slots _
      (fun slot h => by rw [hslots slot h]; exact Nat.le_add_left _ _)]
    simp only [BasicEthernetPayload.new, hrun, Option.map_some', List.map_zipWith,
      List.zipWith_map_right, List.append_assoc]
    rfl

end EthernetTxImpl

end Rips
