import Crabnet.SessionTypes

/-! Addresses, prefixes and error chains of the networking code. How an address
reads as text is the business of the libraries that print and parse it. -/
namespace Crabnet.NetworkTypes
open SessionTypes

inductive IpAddr where
  | v4 (bits : BitVec 32)
  | v6 (bits : BitVec 128)
  deriving DecidableEq, Repr

namespace IpAddr

def isIpv4 : IpAddr → Bool
  | v4 _ => true
  | v6 _ => false

def maxPrefixLen : IpAddr → Nat
  | v4 _ => 32
  | v6 _ => 128

def network (prefixLen : Nat) : IpAddr → IpAddr
  | v4 bits => v4 (.ofNat 32 (bits.toNat - bits.toNat % 2 ^ (32 - prefixLen)))
  | v6 bits => v6 (.ofNat 128 (bits.toNat - bits.toNat % 2 ^ (128 - prefixLen)))

end IpAddr

def SocketAddr.ip : SocketAddr → IpAddr
  | .v4 ip _ => .v4 ip
  | .v6 ip _ _ _ => .v6 ip

structure IpNet where
  addr : IpAddr
  prefixLen : Nat
  fits : prefixLen ≤ addr.maxPrefixLen
  deriving DecidableEq

namespace IpNet

def new (addr : IpAddr) (prefixLen : Nat) : Option IpNet :=
  if fits : prefixLen ≤ addr.maxPrefixLen then some ⟨addr, prefixLen, fits⟩ else none

def ofAddr (addr : IpAddr) : IpNet := ⟨addr, addr.maxPrefixLen, Nat.le_refl _⟩

def trunc (n : IpNet) : IpNet where
  addr := n.addr.network n.prefixLen
  prefixLen := n.prefixLen
  fits := by
    have fits := n.fits
    cases address : n.addr with
    | v4 _ | v6 _ =>
      rw [address] at fits
      exact fits

def contains (n : IpNet) (address : IpAddr) : Bool :=
  n.addr.isIpv4 == address.isIpv4 && n.addr.network n.prefixLen == address.network n.prefixLen

end IpNet

theorem maskTwice (width bits size : Nat) (bound : bits < 2 ^ width) :
    (BitVec.ofNat width (bits - bits % size)).toNat = bits - bits % size ∧
      (bits - bits % size) - (bits - bits % size) % size = bits - bits % size := by
  have smaller : bits - bits % size < 2 ^ width := Nat.lt_of_le_of_lt (Nat.sub_le _ _) bound
  have aligned : (bits - bits % size) % size = 0 := Nat.sub_mod_eq_zero_of_mod_eq (Nat.mod_mod bits size).symm
  rw [BitVec.toNat_ofNat, Nat.mod_eq_of_lt smaller, aligned]
  exact ⟨rfl, rfl⟩

theorem networkTwice (address : IpAddr) (prefixLen : Nat) :
    (address.network prefixLen).network prefixLen = address.network prefixLen := by
  cases address with
  | v4 bits =>
    obtain ⟨value, again⟩ := maskTwice 32 bits.toNat (2 ^ (32 - prefixLen)) bits.isLt
    simp only [IpAddr.network, value, again]
  | v6 bits =>
    obtain ⟨value, again⟩ := maskTwice 128 bits.toNat (2 ^ (128 - prefixLen)) bits.isLt
    simp only [IpAddr.network, value, again]

theorem truncTwice (n : IpNet) : n.trunc.trunc = n.trunc := by
  simp only [IpNet.trunc, networkTwice]

class AddressText where
  addr : IpAddr → String
  net : IpNet → String
  socket : SocketAddr → String
  parseAddr : String → Option IpAddr
  parseNet : String → Option IpNet
  quoted : String → String

structure Failure where
  chain : List String
  deriving DecidableEq, Repr

namespace Failure

def of (message : String) : Failure := ⟨[message]⟩
def context (message : String) (e : Failure) : Failure := ⟨message :: e.chain⟩

def display (e : Failure) : String := ": ".intercalate e.chain

end Failure

def ensure (holds : Bool) (message : String) : Except Failure Unit :=
  if holds then .ok () else .error (.of message)

def required {α : Type} (value : Option α) (message : String) : Except Failure α :=
  match value with
  | some a => .ok a
  | none => .error (.of message)

end Crabnet.NetworkTypes
