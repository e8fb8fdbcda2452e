import Rips.Barrier

/-!
# The ARP table and the ARP transmitters

The `arp` module is not among the source files, so the table and the two transmitters are
written from the spec: the table answers a lookup at once or hands out a one-shot waiter, and
an insert binds the address, wakes every waiter of it with the new MAC and says whether the
binding changed.  The transmitters send one ARP frame through the Ethernet transmitter they
are built on; its destination is that transmitter's.
-/

namespace Rips

/-- Modelled from the spec: `ArpTable`, the IP → MAC cache of an interface with, for every IP
still being resolved, the queue of one-shot waiters of its pending lookups.  A waiter is named
by its channel; `nextWaiter` names the next fresh one. -/
structure ArpTable where
  table : AList (fun _ : Ipv4Addr => MacAddr)
  listeners : AList (fun _ : Ipv4Addr => List Nat)
  nextWaiter : Nat
  deriving DecidableEq

namespace ArpTable

def new : ArpTable := ⟨∅, ∅, 0⟩

/-- Modelled from the spec: `ArpTable::get`: a known MAC at once, otherwise a fresh waiter
enqueued under `ip`, whose receiver goes to the caller. -/
def get (self : ArpTable) (ip : Ipv4Addr) : Except Nat MacAddr × ArpTable :=
  match self.table.lookup ip with
  | some mac => (.ok mac, self)
  | none =>
    (.error self.nextWaiter,
      { self with
        listeners :=
          self.listeners.insert ip ((self.listeners.lookup ip).getD [] ++ [self.nextWaiter])
        nextWaiter := self.nextWaiter + 1 })

/-- Modelled from the spec: `ArpTable::insert`: binds `ip` to `mac`, drains the waiters of `ip`
(each is sent `mac`) and answers whether the binding changed. -/
def insert (self : ArpTable) (ip : Ipv4Addr) (mac : MacAddr) : Bool × List Nat × ArpTable :=
  (self.table.lookup ip != some mac, (self.listeners.lookup ip).getD [],
    { self with table := self.table.insert ip mac, listeners := self.listeners.erase ip })

theorem get_of_lookup_some {self : ArpTable} {ip : Ipv4Addr} {mac : MacAddr}
    (h : self.table.lookup ip = some mac) : self.get ip = (.ok mac, self) := by
  simp [get, h]

theorem get_of_lookup_none {self : ArpTable} {ip : Ipv4Addr} (h : self.table.lookup ip = none) :
    self.get ip = (.error self.nextWaiter,
      { self with
        listeners :=
          self.listeners.insert ip ((self.listeners.lookup ip).getD [] ++ [self.nextWaiter])
        nextWaiter := self.nextWaiter + 1 }) := by
  simp [get, h]

@[simp] theorem get_table (self : ArpTable) (ip : Ipv4Addr) :
    (self.get ip).2.table = self.table := by
  unfold get
  split <;> rfl

@[simp] theorem insert_changed (self : ArpTable) (ip : Ipv4Addr) (mac : MacAddr) :
    (self.insert ip mac).1 = true ↔ self.table.lookup ip ≠ some mac := by
  simp [insert]

@[simp] theorem insert_table (self : ArpTable) (ip : Ipv4Addr) (mac : MacAddr) :
    (self.insert ip mac).2.2.table = self.table.insert ip mac := rfl

end ArpTable

/-- Modelled from the spec: `ArpRequestTx`, an ARP request transmitter over an Ethernet
transmitter. -/
structure ArpRequestTx where
  ethernet : EthernetTxImpl TxImpl

/-- Modelled from the spec: `ArpRequestTx::send(sender_ip, target_ip)`: one request frame through
the Ethernet transmitter. -/
def ArpRequestTx.send (self : ArpRequestTx) (barrier : TxBarrier) (senderIp targetIp : Ipv4Addr)
    (answer : Option (Except IoError Unit)) : TxBarrier × TxResult :=
  self.ethernet.transmit barrier (.arpRequest senderIp targetIp) answer

/-- Modelled from the spec: `ArpReplyTx`, an ARP reply transmitter over an Ethernet
transmitter. -/
structure ArpReplyTx where
  ethernet : EthernetTxImpl TxImpl

/-- Modelled from the spec: `ArpReplyTx::send(sender_ip, target_mac, target_ip)`: one reply frame
through the Ethernet transmitter. -/
def ArpReplyTx.send (self : ArpReplyTx) (barrier : TxBarrier) (senderIp : Ipv4Addr)
    (targetMac : MacAddr) (targetIp : Ipv4Addr) (answer : Option (Except IoError Unit)) :
    TxBarrier × TxResult :=
  self.ethernet.transmit barrier (.arpReply senderIp targetMac targetIp) answer

end Rips
