import Rips.Race

/-!
# The race model against the atomic `ipv4_tx`

`StackInterface.ipv4Tx` takes a call in one step, with the worker's update for the ARP reply
folded in.  The race model of `Race` takes it lock step by lock step, beside the worker.  On the
schedule in which nothing comes between the call's own steps and the worker's processing of the
one reply, the two agree: the application's result is the atomic call's result, and the
interface ends as the atomic call leaves it, barrier, datalink log and waiter queues included.
What `Race` finds therefore comes from the other schedules only.
-/

namespace Rips

theorem ArpTable.nextWaiter_mem_insert_get {self : ArpTable} {ip : Ipv4Addr}
    (h : self.table.lookup ip = none) (mac : MacAddr) :
    self.nextWaiter ∈ ((self.get ip).2.insert ip mac).2.1 := by
  simp [ArpTable.get, h, ArpTable.insert]

theorem lookup_map_waiters {ws : List Nat} {w : Nat} (h : w ∈ ws) (mac : MacAddr) :
    (ws.map fun w => (w, mac)).lookup w = some mac := by
  induction ws with
  | nil => cases h
  | cons w' ws ih =>
    by_cases hw : w = w'
    · simp [List.lookup, hw]
    · simp [List.lookup, beq_false_of_ne hw, ih (List.mem_of_ne_of_mem hw h)]

def AppPc.result : AppPc → Option (StackResult Ipv4TxImpl)
  | .returned _ tx => some (.ok tx)
  | .failed e => some (.error e)
  | _ => none

namespace RaceState

/-- The schedule of an `ipv4_tx` call to `hop` that nothing interrupts: the lookup, and for an
unknown hop the ARP request; when the request went out, the receive thread queues the peer's
reply, the worker inserts it and calls `inc`, and the call wakes; last `ethernet_tx`. -/
def serialSchedule (iface : StackInterface) (hop : Ipv4Addr)
    (requestAnswer : Option (Except IoError Unit)) (reply : MacAddr) : List RaceEvent :=
  match iface.arpTable.table.lookup hop with
  | some _ => [.get, .ethernetTx]
  | none =>
    match TxBarrier.ioResultToTxResult requestAnswer with
    | .error _ => [.get, .request requestAnswer]
    | .ok () =>
      [.get, .request requestAnswer, .arpReply hop reply, .insert, .inc, .recv, .ethernetTx]

/-- On the serial schedule the race model refines the atomic `ipv4_tx`: from any interface, for
a call past `closest_local_ip`, the application returns what `StackInterface.ipv4Tx` returns
and the interface ends as `StackInterface.ipv4Tx` leaves it. -/
theorem run_serialSchedule (iface : StackInterface) (dst : Ipv4Addr) (gw : Option Ipv4Addr)
    {src : Ipv4Addr} (hsrc : iface.closestLocalIp (gw.getD dst) = some src)
    (requestAnswer : Option (Except IoError Unit)) (reply : MacAddr) :
    (run (start iface ⟨dst, gw.getD dst, src⟩ [])
        (serialSchedule iface (gw.getD dst) requestAnswer reply)).app.result =
      some (iface.ipv4Tx dst gw requestAnswer reply).1 ∧
    (run (start iface ⟨dst, gw.getD dst, src⟩ [])
        (serialSchedule iface (gw.getD dst) requestAnswer reply)).shared.iface =
      (iface.ipv4Tx dst gw requestAnswer reply).2 := by
  cases hmac : iface.arpTable.table.lookup (gw.getD dst) with
  | some mac =>
    rw [iface.ipv4Tx_of_lookup_some dst gw requestAnswer reply hsrc hmac]
    simp [serialSchedule, hmac, run, step, start, ArpTable.get_of_lookup_some hmac, withArpTable,
      AppPc.result, InterfaceRun.start, InterfaceRun.step]
  | none =>
    rw [iface.ipv4Tx_of_lookup_none dst gw requestAnswer reply hsrc hmac]
    have hrecv := lookup_map_waiters (ArpTable.nextWaiter_mem_insert_get hmac reply) reply
    rw [ArpTable.get_of_lookup_none hmac] at hrecv
    cases hanswer : TxBarrier.ioResultToTxResult requestAnswer <;>
    simp [serialSchedule, hmac, hanswer, hrecv, run, step, start,
      ArpTable.get_of_lookup_none hmac, withArpTable, AppPc.result, InterfaceRun.start,
      InterfaceRun.step, InterfaceRun.run, InterfaceRun.withBarrier, StackInterface.ethernetTx,
      StackInterfaceData.transmit_ethernetTx, StackInterfaceThread.updateArp]

theorem run_serialSchedule_eth0 :
    eth0.closestLocalIp ⟨10, 0, 0, 2⟩ = some ⟨10, 0, 0, 1⟩ ∧
    (run (start eth0 ⟨⟨10, 0, 0, 2⟩, ⟨10, 0, 0, 2⟩, ⟨10, 0, 0, 1⟩⟩ [])
        (serialSchedule eth0 ⟨10, 0, 0, 2⟩ (some (.ok ()))
          (MacAddr.new 0 0x11 0x22 0x33 0x44 0x55))).app.result =
      some (eth0.ipv4Tx ⟨10, 0, 0, 2⟩ none (some (.ok ()))
        (MacAddr.new 0 0x11 0x22 0x33 0x44 0x55)).1 ∧
    (run (start eth0 ⟨⟨10, 0, 0, 2⟩, ⟨10, 0, 0, 2⟩, ⟨10, 0, 0, 1⟩⟩ [])
        (serialSchedule eth0 ⟨10, 0, 0, 2⟩ (some (.ok ()))
          (MacAddr.new 0 0x11 0x22 0x33 0x44 0x55))).shared.iface =
      (eth0.ipv4Tx ⟨10, 0, 0, 2⟩ none (some (.ok ()))
        (MacAddr.new 0 0x11 0x22 0x33 0x44 0x55)).2 :=
  have hsrc : eth0.closestLocalIp ⟨10, 0, 0, 2⟩ = some ⟨10, 0, 0, 1⟩ := by decide
  ⟨hsrc, run_serialSchedule eth0 ⟨10, 0, 0, 2⟩ none hsrc (some (.ok ()))
    (MacAddr.new 0 0x11 0x22 0x33 0x44 0x55)⟩

end RaceState

end Rips
