import Mathlib

/-!
# Addresses, errors and the Rust primitives of the stack

The stack speaks in MAC and IPv4 addresses, IPv4 networks and the error types of its public
surface.  The types that live outside `stack.rs` and `ethernet_tx.rs` (the `Interface`
handle, `TxError`, `StackError`) are written from the spec's data model and error design.

Every `HashMap` of the source is an `AList`: its keys are unique by construction and its
iteration order, which the source leaves unspecified, is the order of the entries.  An update
through a `Mutex` inside a map value is `AList.replace`, which keeps that order.

The slicing and `usize` primitives return `none` where Rust panics, so that a proof that a
function never panics is a proof that its model is `some`.
-/

namespace Rips

/-! ## Addresses -/

structure MacAddr where
  a : UInt8
  b : UInt8
  c : UInt8
  d : UInt8
  e : UInt8
  f : UInt8
  deriving DecidableEq, Repr

def MacAddr.new (a b c d e f : UInt8) : MacAddr := ⟨a, b, c, d, e, f⟩

def MacAddr.octets (mac : MacAddr) : List UInt8 := [mac.a, mac.b, mac.c, mac.d, mac.e, mac.f]

@[simp] theorem MacAddr.octets_length (mac : MacAddr) : mac.octets.length = 6 := rfl

structure Ipv4Addr where
  a : UInt8
  b : UInt8
  c : UInt8
  d : UInt8
  deriving DecidableEq, Repr

def Ipv4Addr.new (a b c d : UInt8) : Ipv4Addr := ⟨a, b, c, d⟩

def Ipv4Addr.toBits (ip : Ipv4Addr) : Nat :=
  ip.a.toNat * 2 ^ 24 + ip.b.toNat * 2 ^ 16 + ip.c.toNat * 2 ^ 8 + ip.d.toNat

/-- The `Display` of an address, as the error messages print it. -/
instance : ToString Ipv4Addr where
  toString ip := toString ip.a ++ "." ++ toString ip.b ++ "." ++ toString ip.c ++ "." ++
    toString ip.d

/-- `ipnetwork::Ipv4Network`: an address and a prefix length of at most 32. -/
structure Ipv4Network where
  addr : Ipv4Addr
  prefixLen : Nat
  prefixLen_le : prefixLen ≤ 32
  deriving DecidableEq

def Ipv4Network.ip (net : Ipv4Network) : Ipv4Addr := net.addr

/-- `Ipv4Network::contains`: the first `prefixLen` bits of `ip` are those of the network. -/
def Ipv4Network.contains (net : Ipv4Network) (ip : Ipv4Addr) : Bool :=
  net.addr.toBits / 2 ^ (32 - net.prefixLen) == ip.toBits / 2 ^ (32 - net.prefixLen)

structure SocketAddrV4 where
  ip : Ipv4Addr
  port : Nat
  deriving DecidableEq, Repr

/-- `std::net::SocketAddr`; the IPv6 variant carries nothing the stack reads. -/
inductive SocketAddr where
  | v4 (addr : SocketAddrV4)
  | v6
  deriving DecidableEq, Repr

structure EtherType where
  val : UInt16
  deriving DecidableEq, Repr

def EtherType.octets (et : EtherType) : List UInt8 :=
  [(et.val >>> 8).toUInt8, et.val.toUInt8]

@[simp] theorem EtherType.octets_length (et : EtherType) : et.octets.length = 2 := rfl

/-- Modelled from the spec: `Interface`, the handle of a host NIC, is its name and MAC. -/
structure Interface where
  name : String
  mac : MacAddr
  deriving DecidableEq, Repr

/-! ## Errors -/

/-- `std::io::ErrorKind`, the kinds the stack produces. -/
inductive IoErrorKind where
  | invalidInput
  | addrInUse
  | addrNotAvailable
  | other
  deriving DecidableEq, Repr

/-- `std::io::Error`: a kind and a message. -/
structure IoError where
  kind : IoErrorKind
  msg : String
  deriving DecidableEq, Repr

/-- Modelled from the spec: `TxError`, the error of a send (stale barrier version, an error
of the datalink, or any other failure). -/
inductive TxError where
  | invalidTx
  | ioError (e : IoError)
  | other (msg : String)
  deriving DecidableEq, Repr

abbrev TxResult := Except TxError Unit

/-- Modelled from the spec: `StackError`; a `TxError` surfaces unchanged through `?`. -/
inductive StackError where
  | illegalArgument
  | noRouteToHost
  | invalidInterface
  | txError (e : TxError)
  deriving DecidableEq, Repr

abbrev StackResult (α : Type) := Except StackError α

/-! ## Rust primitives -/

/-- `isize::MAX`: no slice or vector of bytes is longer. -/
def isizeMax : Nat := 2 ^ 63 - 1

/-- `a + b` on `usize`, which panics on overflow. -/
def usizeAdd (a b : Nat) : Option Nat := if a + b < 2 ^ 64 then some (a + b) else none

/-- `a - b` on `usize`, which panics below zero. -/
def usizeSub (a b : Nat) : Option Nat := if b ≤ a then some (a - b) else none

/-- `xs[start..stop]`, which panics unless `start ≤ stop ≤ xs.len()`. -/
def sliceRange {α : Type} (xs : List α) (start stop : Nat) : Option (List α) :=
  if start ≤ stop ∧ stop ≤ xs.length then some ((xs.drop start).take (stop - start)) else none

/-- `buffer[0..n].copy_from_slice(src)`, which panics when `n > buffer.len()` or when the
lengths differ. -/
def copyFromSlice {α : Type} (buffer : List α) (n : Nat) (src : List α) : Option (List α) :=
  if n ≤ buffer.length ∧ src.length = n then some (src ++ buffer.drop n) else none

theorem usizeAdd_of_lt {a b : Nat} (h : a + b < 2 ^ 64) : usizeAdd a b = some (a + b) :=
  if_pos h

theorem usizeSub_of_le {a b : Nat} (h : b ≤ a) : usizeSub a b = some (a - b) :=
  if_pos h

theorem sliceRange_of_le {α : Type} {xs : List α} {start stop : Nat}
    (hstart : start ≤ stop) (hstop : stop ≤ xs.length) :
    sliceRange xs start stop = some ((xs.drop start).take (stop - start)) :=
  if_pos ⟨hstart, hstop⟩

theorem copyFromSlice_of_le {α : Type} {buffer src : List α} {n : Nat}
    (hn : n ≤ buffer.length) (hsrc : src.length = n) :
    copyFromSlice buffer n src = some (src ++ buffer.drop n) :=
  if_pos ⟨hn, hsrc⟩

/-! ## Maps -/

section Maps

variable {α : Type} {β : α → Type} [DecidableEq α]

private theorem kreplace_cons (a : α) (b : β a) (head : Sigma β) (tail : List (Sigma β)) :
    List.kreplace a b (head :: tail) =
      if a = head.1 then ⟨a, b⟩ :: tail else head :: List.kreplace a b tail := by
  unfold List.kreplace
  split_ifs with h
  · exact List.lookmap_cons_some _ _ (if_pos h)
  · exact List.lookmap_cons_none _ _ (if_neg h)

private theorem dlookup_kreplace_of_ne {a a' : α} {b : β a} (h : a' ≠ a) :
    ∀ l : List (Sigma β), (l.kreplace a b).dlookup a' = l.dlookup a'
  | [] => rfl
  | head :: tail => by
    rw [kreplace_cons]
    split_ifs with hhead
    · subst hhead
      rw [List.dlookup_cons_ne _ ⟨_, b⟩ h, List.dlookup_cons_ne _ head h]
    · by_cases ha' : a' = head.1
      · subst ha'
        rw [List.dlookup_cons_eq, List.dlookup_cons_eq]
      · rw [List.dlookup_cons_ne _ _ ha', List.dlookup_cons_ne _ _ ha',
          dlookup_kreplace_of_ne h tail]

private theorem dlookup_kreplace_self {a : α} {b : β a} :
    ∀ l : List (Sigma β), a ∈ l.keys → (l.kreplace a b).dlookup a = some b
  | [], h => absurd h (List.not_mem_nil _)
  | head :: tail, h => by
    rw [kreplace_cons]
    split_ifs with hhead
    · exact List.dlookup_cons_eq _ _ _
    · rw [List.dlookup_cons_ne _ _ hhead]
      exact dlookup_kreplace_self tail ((List.mem_cons.mp h).resolve_left hhead)

private theorem kreplace_of_dlookup {a : α} {b : β a} :
    ∀ l : List (Sigma β), l.dlookup a = some b → l.kreplace a b = l
  | [], h => nomatch h
  | ⟨a', b'⟩ :: tail, h => by
    rw [kreplace_cons]
    split_ifs with hhead
    · subst hhead
      rw [List.dlookup_cons_eq, Option.some.injEq] at h
      rw [h]
    · rw [List.dlookup_cons_ne _ _ hhead] at h
      rw [kreplace_of_dlookup tail h]

theorem lookup_replace_of_ne {a a' : α} {b : β a} (s : AList β) (h : a' ≠ a) :
    (s.replace a b).lookup a' = s.lookup a' :=
  dlookup_kreplace_of_ne h s.entries

theorem lookup_replace_self {a : α} {b : β a} {s : AList β} (h : a ∈ s) :
    (s.replace a b).lookup a = some b :=
  dlookup_kreplace_self s.entries (AList.mem_keys.mp h)

theorem replace_of_lookup {a : α} {b : β a} {s : AList β} (h : s.lookup a = some b) :
    s.replace a b = s :=
  AList.ext (kreplace_of_dlookup s.entries h)

end Maps

end Rips
