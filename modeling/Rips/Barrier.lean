import Rips.Ethernet.Tx

/-!
# The transmit barrier

Every interface sends through one `TxBarrier`: the datalink sender and a 64-bit version.  A
`TxImpl` handle copies the version when it is made, and a send on it reaches the datalink only
while the barrier still holds that version.  `inc` moves the version on, with wrap-around,
and so invalidates every handle made before it.

The datalink is seen through the sends it has received.  Each send is recorded with the
Ethernet addresses its frames carry and with what it carries above Ethernet, as far as the
stack's own protocols go; `EthernetTxImpl.transmit_frames` ties the record to the frames that
`EthernetTxImpl::send` has the datalink fill.
-/

namespace Rips

/-- What a send carries above the Ethernet header. -/
inductive Transmission where
  /-- `ArpRequestTx::send(sender_ip, target_ip)`. -/
  | arpRequest (senderIp targetIp : Ipv4Addr)
  /-- `ArpReplyTx::send(sender_ip, target_mac, target_ip)`. -/
  | arpReply (senderIp : Ipv4Addr) (targetMac : MacAddr) (targetIp : Ipv4Addr)
  /-- A send on an `Ipv4TxImpl`; its payload is the application's. -/
  | ipv4 (src dst : Ipv4Addr)
  deriving DecidableEq, Repr

/-- One `build_and_send` call as the datalink receives it. -/
structure DatalinkSend where
  src : MacAddr
  dst : MacAddr
  payload : Transmission
  deriving DecidableEq, Repr

/-- `TxBarrier`: the datalink sender, seen through the sends it has received, and the
version. -/
structure TxBarrier where
  sent : List DatalinkSend
  version : UInt64
  deriving DecidableEq, Repr

namespace TxBarrier

def new : TxBarrier := ⟨[], 0⟩

/-- `TxBarrier::inc`: `wrapping_add(1)`. -/
def inc (self : TxBarrier) : TxBarrier := { self with version := self.version + 1 }

/-- `io_result_to_tx_result`: `None` is a full buffer, `Some(Err e)` the datalink's error. -/
def ioResultToTxResult (r : Option (Except IoError Unit)) : TxResult :=
  match r with
  | none => .error (.other "Insufficient buffer space")
  | some (.error e) => .error (.ioError e)
  | some (.ok ()) => .ok ()

/-- `TxBarrier::send`: the datalink receives the send and answers `answer`. -/
def send (self : TxBarrier) (frames : DatalinkSend) (answer : Option (Except IoError Unit)) :
    TxBarrier × TxResult :=
  ({ self with sent := self.sent ++ [frames] }, ioResultToTxResult answer)

@[simp] theorem inc_sent (self : TxBarrier) : self.inc.sent = self.sent := rfl

@[simp] theorem send_sent (self : TxBarrier) (frames : DatalinkSend)
    (answer : Option (Except IoError Unit)) :
    (self.send frames answer).1.sent = self.sent ++ [frames] := rfl

@[simp] theorem send_version (self : TxBarrier) (frames : DatalinkSend)
    (answer : Option (Except IoError Unit)) :
    (self.send frames answer).1.version = self.version := rfl

theorem inc_version_toNat (self : TxBarrier) :
    self.inc.version.toNat = (self.version.toNat + 1) % 2 ^ 64 := by
  simp [inc, UInt64.add_def, UInt64.toNat, BitVec.toNat_add]

end TxBarrier

theorem version_eq_iff (a b : UInt64) : a = b ↔ a.toNat = b.toNat :=
  ⟨fun h => h ▸ rfl, UInt64.toNat.inj⟩

/-- `TxImpl`: the version its barrier held when the handle was made; the `Arc` it holds is
the barrier of its interface. -/
structure TxImpl where
  version : UInt64
  deriving DecidableEq, Repr

/-- `TxImpl::send`: under the barrier's lock, a stale version fails with `InvalidTx` and
leaves the barrier alone; a current one hands the send to `TxBarrier::send`. -/
def TxImpl.send (self : TxImpl) (barrier : TxBarrier) (frames : DatalinkSend)
    (answer : Option (Except IoError Unit)) : TxBarrier × TxResult :=
  if self.version ≠ barrier.version then (barrier, .error .invalidTx)
  else barrier.send frames answer

theorem TxImpl.send_of_ne {self : TxImpl} {barrier : TxBarrier} (h : self.version ≠ barrier.version)
    (frames : DatalinkSend) (answer : Option (Except IoError Unit)) :
    self.send barrier frames answer = (barrier, .error .invalidTx) := if_pos h

theorem TxImpl.send_of_eq {self : TxImpl} {barrier : TxBarrier} (h : self.version = barrier.version)
    (frames : DatalinkSend) (answer : Option (Except IoError Unit)) :
    self.send barrier frames answer = barrier.send frames answer := if_neg (not_not.mpr h)

theorem TxImpl.send_sent (self : TxImpl) (barrier : TxBarrier) (frames : DatalinkSend)
    (answer : Option (Except IoError Unit)) :
    (self.send barrier frames answer).1.sent =
      if self.version = barrier.version then barrier.sent ++ [frames] else barrier.sent := by
  by_cases h : self.version = barrier.version
  · simp [send_of_eq h, h]
  · simp [send_of_ne h, h]

@[simp] theorem TxImpl.send_version (self : TxImpl) (barrier : TxBarrier) (frames : DatalinkSend)
    (answer : Option (Except IoError Unit)) :
    (self.send barrier frames answer).1.version = barrier.version := by
  by_cases h : self.version = barrier.version
  · simp [send_of_eq h]
  · simp [send_of_ne h]

/-- `EthernetTxImpl<TxImpl>::send` as the datalink sees it: one send through the handle's
barrier check, whose frames carry the handle's addresses. -/
def EthernetTxImpl.transmit (self : EthernetTxImpl TxImpl) (barrier : TxBarrier)
    (payload : Transmission) (answer : Option (Except IoError Unit)) : TxBarrier × TxResult :=
  self.tx.send barrier ⟨self.src, self.dst, payload⟩ answer

/-- What `transmit` records of a send that reaches the datalink is what its frames carry: for
every payload, frame count and frame size that fit, every frame the datalink fills for the
`EthernetTxImpl::send` call has the recorded destination and source. -/
theorem EthernetTxImpl.transmit_frames {self : EthernetTxImpl TxImpl} {barrier : TxBarrier}
    {payload : Transmission} {answer : Option (Except IoError Unit)} {d : DatalinkSend}
    (hsent : (self.transmit barrier payload answer).1.sent = barrier.sent ++ [d])
    {σ : Type} (P : EthernetPayload σ) (state : σ) {packets size : Nat}
    {call : TxCall (EthernetBuilder σ)} (hcall : self.send packets size P state = some call)
    {slots : List (List UInt8)} (hslots : ∀ slot ∈ slots, slot.length = call.packetSize)
    {final : EthernetBuilder σ} {frames : List (List UInt8)}
    (hrun : call.payload.buildEach call.state slots = some (final, frames)) :
    d.payload = payload ∧ ∀ frame ∈ frames,
      EthernetPacket.getDestination frame = d.dst.octets ∧
        EthernetPacket.getSource frame = d.src.octets := by
  have hd : d = ⟨self.src, self.dst, payload⟩ := by
    rw [transmit, TxImpl.send_sent] at hsent
    split_ifs at hsent
    · exact (List.singleton_inj.mp (List.append_cancel_left hsent)).symm
    · simpa using congrArg List.length hsent
  subst hd
  have hsize := (send_isSome_iff self packets size P state).mp ⟨call, hcall⟩
  rw [send_eq self packets size P state hsize, Option.some.injEq] at hcall
  subst hcall
  obtain ⟨states, hlen, -, hflen, hframes⟩ := EthernetBuilder.buildEach_spec P self.src self.dst
    slots state final frames (fun slot h => by rw [hslots slot h]; exact Nat.le_add_left _ _) hrun
  refine ⟨rfl, fun frame hframe => ?_⟩
  obtain ⟨i, hi, rfl⟩ := List.getElem_of_mem hframe
  obtain ⟨-, hheader, -⟩ := hframes i (hflen ▸ hi) hi (by omega)
  have hfields := ethernetPacket_fields self.dst self.src (P.etherType states[i])
    (frames[i].drop 14)
  rw [← hheader] at hfields
  exact ⟨hfields.1, hfields.2.1⟩

end Rips
