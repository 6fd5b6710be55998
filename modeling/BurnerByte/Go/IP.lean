import Mathlib.Algebra.Group.Nat.Defs
import Mathlib.Tactic.Common

/-!
# IP addresses and networks

A `net.IP` holds 4 or 16 bytes. The 16-byte form of an IPv4 address is the IPv4-mapped IPv6
address, and the functions of the package treat both forms alike: what they say of an address
depends on its 16-byte form only. A network of IPv4 addresses contains their mapped forms, and a
network of other IPv6 addresses contains no IPv4 address.
-/

namespace Go

/-- An address of 4 or of 16 bytes, as a number. -/
inductive IP where
  | v4 (addr : BitVec 32)
  | v6 (addr : BitVec 128)
  deriving DecidableEq

/-- The IPv4-mapped form of an IPv4 address. -/
def mapped (a : BitVec 32) : BitVec 128 := BitVec.ofNat 128 (0xffff * 2 ^ 32 + a.toNat)

theorem toNat_mapped (a : BitVec 32) : (mapped a).toNat = 0xffff * 2 ^ 32 + a.toNat := by
  have hlt := a.isLt
  rw [mapped, BitVec.toNat_ofNat]
  omega

theorem mapped_inj {a b : BitVec 32} (h : mapped a = mapped b) : a = b := by
  have heq := congrArg BitVec.toNat h
  rw [toNat_mapped, toNat_mapped] at heq
  exact BitVec.eq_of_toNat_eq (by omega)

namespace IP

def as16 : IP → BitVec 128
  | v4 a => mapped a
  | v6 a => a

/-- Go's `IP.To4`. -/
def to4 : IP → Option (BitVec 32)
  | v4 a => some a
  | v6 a => if a.toNat / 2 ^ 32 = 0xffff then some (BitVec.ofNat 32 a.toNat) else none

theorem to4_eq_some_iff {ip : IP} {a : BitVec 32} : ip.to4 = some a ↔ ip.as16 = mapped a := by
  cases ip with
  | v4 b =>
    constructor
    · intro h
      cases h
      rfl
    · intro h
      rw [to4, mapped_inj h]
  | v6 b =>
    have hb := b.isLt
    have ha := a.isLt
    have hmapped := toNat_mapped a
    simp only [to4, as16]
    split
    · rw [Option.some.injEq, ← BitVec.toNat_inj, ← BitVec.toNat_inj, BitVec.toNat_ofNat, hmapped]
      omega
    rename_i hprefix
    refine iff_of_false (fun h => nomatch h) fun h => hprefix ?_
    rw [h, hmapped]
    omega

/-- Both forms of an address have the same IPv4 address, if any. -/
theorem to4_v6_as16 (ip : IP) : (v6 ip.as16).to4 = ip.to4 := by
  apply Option.ext
  intro a
  rw [to4_eq_some_iff, to4_eq_some_iff]
  rfl

/-- Go's `IP.Equal`. -/
def equal (ip other : IP) : Bool := ip.as16 = other.as16

def isUnspecified (ip : IP) : Bool := ip.equal (v4 0#32) || ip.equal (v6 0#128)

def isLoopback (ip : IP) : Bool :=
  match ip.to4 with
  | some a => a.toNat / 2 ^ 24 = 127
  | none => ip.equal (v6 1#128)

def isLinkLocalUnicast (ip : IP) : Bool :=
  match ip.to4 with
  | some a => a.toNat / 2 ^ 16 = 169 * 2 ^ 8 + 254
  | none => ip.as16.toNat / 2 ^ 118 = 0xfe80 / 2 ^ 6

def isLinkLocalMulticast (ip : IP) : Bool :=
  match ip.to4 with
  | some a => a.toNat / 2 ^ 8 = 224 * 2 ^ 16
  | none => ip.as16.toNat / 2 ^ 120 = 0xff && ip.as16.toNat / 2 ^ 112 % 2 ^ 4 = 2

/-- Only addresses of 16 bytes are such, and a mapped one does not begin with `ff`. -/
def isInterfaceLocalMulticast : IP → Bool
  | v4 _ => false
  | v6 a => a.toNat / 2 ^ 120 = 0xff && a.toNat / 2 ^ 112 % 2 ^ 4 = 1

/-! What the predicates say of an IPv4 address, and of any other. -/

section

variable {ip : IP} {a : BitVec 32}

theorem isUnspecified_iff : ip.isUnspecified = true ↔ ip.as16 = mapped 0#32 ∨ ip.as16 = 0#128 := by
  rw [isUnspecified, Bool.or_eq_true, equal, equal, decide_eq_true_eq, decide_eq_true_eq]
  rfl

theorem isUnspecified_of_to4 (h : ip.to4 = some a) :
    ip.isUnspecified = true ↔ a.toNat = 0 := by
  have hpos : mapped a ≠ 0#128 := by
    intro hzero
    have hnum := congrArg BitVec.toNat hzero
    rw [toNat_mapped, BitVec.toNat_zero] at hnum
    omega
  rw [isUnspecified_iff, to4_eq_some_iff.mp h, or_iff_left hpos, ← BitVec.toNat_inj, toNat_mapped,
    toNat_mapped, BitVec.toNat_zero]
  omega

theorem isUnspecified_of_to4_none (h : ip.to4 = none) :
    ip.isUnspecified = true ↔ ip.as16.toNat = 0 := by
  have hne : ip.as16 ≠ mapped 0#32 := by
    intro hmapped
    rw [to4_eq_some_iff.mpr hmapped] at h
    cases h
  rw [isUnspecified_iff, or_iff_right hne, ← BitVec.toNat_inj, BitVec.toNat_zero]

theorem isLoopback_of_to4 (h : ip.to4 = some a) :
    ip.isLoopback = true ↔ a.toNat / 2 ^ 24 = 127 := by
  rw [isLoopback, h]
  exact decide_eq_true_iff

theorem isLoopback_of_to4_none (h : ip.to4 = none) :
    ip.isLoopback = true ↔ ip.as16.toNat = 1 := by
  have hone : ip.as16 = 1#128 ↔ ip.as16.toNat = 1 := by
    rw [← BitVec.toNat_inj]
    rfl
  rw [isLoopback, h]
  exact decide_eq_true_iff.trans hone

theorem isLinkLocalUnicast_of_to4 (h : ip.to4 = some a) :
    ip.isLinkLocalUnicast = true ↔ a.toNat / 2 ^ 16 = 169 * 2 ^ 8 + 254 := by
  rw [isLinkLocalUnicast, h]
  exact decide_eq_true_iff

theorem isLinkLocalUnicast_of_to4_none (h : ip.to4 = none) :
    ip.isLinkLocalUnicast = true ↔ ip.as16.toNat / 2 ^ 118 = 0xfe80 / 2 ^ 6 := by
  rw [isLinkLocalUnicast, h]
  exact decide_eq_true_iff

theorem isLinkLocalMulticast_of_to4 (h : ip.to4 = some a) :
    ip.isLinkLocalMulticast = true ↔ a.toNat / 2 ^ 8 = 224 * 2 ^ 16 := by
  rw [isLinkLocalMulticast, h]
  exact decide_eq_true_iff

theorem isLinkLocalMulticast_of_to4_none (h : ip.to4 = none) :
    ip.isLinkLocalMulticast = true ↔
      ip.as16.toNat / 2 ^ 120 = 0xff ∧ ip.as16.toNat / 2 ^ 112 % 2 ^ 4 = 2 := by
  rw [isLinkLocalMulticast, h]
  simp only [Bool.and_eq_true, decide_eq_true_eq]

theorem isInterfaceLocalMulticast_of_to4 (h : ip.to4 = some a) :
    ip.isInterfaceLocalMulticast = false := by
  have ha := a.isLt
  cases ip with
  | v4 b => rfl
  | v6 b =>
    have hb : b = mapped a := to4_eq_some_iff.mp h
    have hnum := toNat_mapped a
    rw [← hb] at hnum
    simp only [isInterfaceLocalMulticast, Bool.and_eq_false_iff, decide_eq_false_iff_not]
    left
    omega

theorem isInterfaceLocalMulticast_of_to4_none (h : ip.to4 = none) :
    ip.isInterfaceLocalMulticast = true ↔
      ip.as16.toNat / 2 ^ 120 = 0xff ∧ ip.as16.toNat / 2 ^ 112 % 2 ^ 4 = 1 := by
  cases ip with
  | v4 b => cases h
  | v6 b => simp only [isInterfaceLocalMulticast, as16, Bool.and_eq_true, decide_eq_true_eq]

end

end IP

/-! ## Networks -/

/-- A network number with the length of its prefix. -/
inductive IPNet where
  | v4 (number : BitVec 32) (ones : Nat)
  | v6 (number : BitVec 128) (ones : Nat)
  deriving DecidableEq

/-- The network in the family of its number: a network of mapped addresses is one of IPv4
addresses. -/
def IPNet.numberAndMask : IPNet → IPNet
  | v4 number ones => v4 number ones
  | v6 number ones =>
    match (IP.v6 number).to4 with
    | some a => v4 a (ones - 96)
    | none => v6 number ones

/-- Go's `IPNet.Contains`. -/
def IPNet.contains (net : IPNet) (ip : IP) : Bool :=
  match net.numberAndMask, ip.to4 with
  | .v4 number ones, some a => a.toNat / 2 ^ (32 - ones) = number.toNat / 2 ^ (32 - ones)
  | .v4 _ _, none => false
  | .v6 _ _, some _ => false
  | .v6 number ones, none =>
    ip.as16.toNat / 2 ^ (128 - ones) = number.toNat / 2 ^ (128 - ones)

section

variable {number4 : BitVec 32} {number6 : BitVec 128} {ones : Nat} {ip : IP} {a : BitVec 32}

theorem IPNet.contains_v4_of_to4 (h : ip.to4 = some a) :
    (v4 number4 ones).contains ip = true ↔
      a.toNat / 2 ^ (32 - ones) = number4.toNat / 2 ^ (32 - ones) := by
  simp only [contains, numberAndMask, h, decide_eq_true_eq]

theorem IPNet.contains_v4_of_to4_none (h : ip.to4 = none) :
    (v4 number4 ones).contains ip = false := by
  simp only [contains, numberAndMask, h]

theorem IPNet.contains_v6_of_to4 (hnumber : (IP.v6 number6).to4 = none) (h : ip.to4 = some a) :
    (v6 number6 ones).contains ip = false := by
  simp only [contains, numberAndMask, hnumber, h]

theorem IPNet.contains_v6_of_to4_none (hnumber : (IP.v6 number6).to4 = none) (h : ip.to4 = none) :
    (v6 number6 ones).contains ip = true ↔
      ip.as16.toNat / 2 ^ (128 - ones) = number6.toNat / 2 ^ (128 - ones) := by
  simp only [contains, numberAndMask, hnumber, h, decide_eq_true_eq]

end

end Go
