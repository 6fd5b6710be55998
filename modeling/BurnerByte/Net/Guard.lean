import BurnerByte.Go.HostPort

/-!
# The guard of outgoing connections

A target named by a user must not lead into internal address space. A name is resolved and all
its addresses are checked, and what is dialled is the text of a checked address, never the
name: a second lookup may have another answer.

`Internal` is the blocked set in plain terms, as intervals of numbers. A list of addresses
that passed the check is a `SafeIPs`, which no other list can become.
-/

namespace BurnerByte.Netguard

open Go

/-! ## The blocked set -/

def cidrs : List String :=
  [ "10.0.0.0/8", "172.16.0.0/12", "192.168.0.0/16", "127.0.0.0/8", "169.254.0.0/16"
  , "100.64.0.0/10", "192.0.0.0/24", "198.18.0.0/15", "::1/128", "fc00::/7", "fe80::/10" ]

def blockedRanges : List IPNet := cidrs.filterMap fun c => parseCIDR (lit c)

/-- The source's `IsBlocked`, where `none` is the nil address. -/
def isBlocked : Option IP → Bool
  | none => true
  | some ip =>
    if ip.isUnspecified || ip.isLoopback || ip.isLinkLocalUnicast || ip.isLinkLocalMulticast ||
        ip.isInterfaceLocalMulticast then true
    else
      -- an IPv4-mapped address is measured against the IPv4 ranges
      let natural := (ip.to4.map IP.v4).getD ip
      blockedRanges.any fun n => n.contains natural

/-- The number of a dotted address. -/
def quad (a b c d : Nat) : Nat := value 256 [a, b, c, d]

/-- The blocked IPv4 addresses, from the first to the last of each block. -/
def internal4 : List (Nat × Nat) :=
  [ (quad 0 0 0 0, quad 0 0 0 0)
  , (quad 10 0 0 0, quad 10 255 255 255)
  , (quad 100 64 0 0, quad 100 127 255 255)
  , (quad 127 0 0 0, quad 127 255 255 255)
  , (quad 169 254 0 0, quad 169 254 255 255)
  , (quad 172 16 0 0, quad 172 31 255 255)
  , (quad 192 0 0 0, quad 192 0 0 255)
  , (quad 192 168 0 0, quad 192 168 255 255)
  , (quad 198 18 0 0, quad 198 19 255 255)
  , (quad 224 0 0 0, quad 224 0 0 255) ]

/-- The blocked intervals of other IPv6 addresses: `::` and `::1`, `fc00::/7` and `fe80::/10`. -/
def internal6 : List (Nat × Nat) :=
  [ (0, 1)
  , (0xfc00 * 2 ^ 112, 0xfe00 * 2 ^ 112 - 1)
  , (0xfe80 * 2 ^ 112, 0xfec0 * 2 ^ 112 - 1) ]

/-- Multicast addresses whose scope is the interface or the link. -/
def isLocalMulticast (n : Nat) : Prop :=
  n / 2 ^ 120 = 0xff ∧ (n / 2 ^ 112 % 16 = 1 ∨ n / 2 ^ 112 % 16 = 2)

/-- The blocked set. An IPv4-mapped address is judged as its IPv4 address. -/
def Internal (ip : IP) : Prop :=
  match ip.to4 with
  | some a => ∃ range ∈ internal4, range.1 ≤ a.toNat ∧ a.toNat ≤ range.2
  | none =>
    (∃ range ∈ internal6, range.1 ≤ ip.as16.toNat ∧ ip.as16.toNat ≤ range.2) ∨
      isLocalMulticast ip.as16.toNat

theorem blockedRanges_eq : blockedRanges =
    [ .v4 0x0a000000#32 8, .v4 0xac100000#32 12, .v4 0xc0a80000#32 16, .v4 0x7f000000#32 8
    , .v4 0xa9fe0000#32 16, .v4 0x64400000#32 10, .v4 0xc0000000#32 24, .v4 0xc6120000#32 15
    , .v6 1#128 128, .v6 0xfc000000000000000000000000000000#128 7
    , .v6 0xfe800000000000000000000000000000#128 10 ] := by
  decide +kernel

theorem isBlocked_some (ip : IP) :
    isBlocked (some ip) = true ↔
      (ip.isUnspecified = true ∨ ip.isLoopback = true ∨ ip.isLinkLocalUnicast = true ∨
        ip.isLinkLocalMulticast = true ∨ ip.isInterfaceLocalMulticast = true) ∨
      ∃ n ∈ blockedRanges, n.contains ((ip.to4.map IP.v4).getD ip) = true := by
  unfold isBlocked
  dsimp only
  split
  · rename_i hkind
    simp only [Bool.or_eq_true, or_assoc] at hkind
    exact iff_of_true rfl (.inl hkind)
  rename_i hkind
  simp only [Bool.or_eq_true, or_assoc] at hkind
  rw [List.any_eq_true, or_iff_right hkind]

theorem to4_loopback : (IP.v6 1#128).to4 = none := by decide

theorem to4_uniqueLocal : (IP.v6 0xfc000000000000000000000000000000#128).to4 = none := by decide

theorem to4_linkLocal : (IP.v6 0xfe800000000000000000000000000000#128).to4 = none := by decide

variable {ip : IP} {use : Lookup}

/-- The check tells exactly the blocked set. -/
theorem isBlocked_iff (ip : IP) : isBlocked (some ip) = true ↔ Internal ip := by
  unfold Internal
  cases h : ip.to4 with
  | some a =>
    have ha := a.isLt
    have hself : (IP.v4 a).to4 = some a := rfl
    rw [isBlocked_some, IP.isUnspecified_of_to4 h, IP.isLoopback_of_to4 h,
      IP.isLinkLocalUnicast_of_to4 h, IP.isLinkLocalMulticast_of_to4 h,
      IP.isInterfaceLocalMulticast_of_to4 h, h, Option.map_some, Option.getD_some, blockedRanges_eq]
    simp only [List.exists_mem_cons_iff, List.not_mem_nil, false_and, exists_false,
      IPNet.contains_v4_of_to4 hself, IPNet.contains_v6_of_to4 to4_loopback hself,
      IPNet.contains_v6_of_to4 to4_uniqueLocal hself, IPNet.contains_v6_of_to4 to4_linkLocal hself,
      internal4, quad, value, List.foldl_cons, List.foldl_nil, BitVec.toNat_ofNat,
      Bool.false_eq_true, or_false]
    omega
  | none =>
    have hlt := ip.as16.isLt
    rw [isBlocked_some, IP.isUnspecified_of_to4_none h, IP.isLoopback_of_to4_none h,
      IP.isLinkLocalUnicast_of_to4_none h, IP.isLinkLocalMulticast_of_to4_none h,
      IP.isInterfaceLocalMulticast_of_to4_none h, h, Option.map_none, Option.getD_none,
      blockedRanges_eq]
    simp only [List.exists_mem_cons_iff, List.not_mem_nil, false_and, exists_false,
      IPNet.contains_v4_of_to4_none h, IPNet.contains_v6_of_to4_none to4_loopback h,
      IPNet.contains_v6_of_to4_none to4_uniqueLocal h,
      IPNet.contains_v6_of_to4_none to4_linkLocal h, internal6, isLocalMulticast,
      BitVec.toNat_ofNat, Bool.false_eq_true, or_false, false_or]
    omega

theorem Internal.congr {other : IP} (h : ip.as16 = other.as16) : Internal ip ↔ Internal other := by
  have hto4 : ip.to4 = other.to4 := by rw [← IP.to4_v6_as16, h, IP.to4_v6_as16]
  unfold Internal
  rw [hto4, h]

/-! ## Resolving -/

/-- One lookup: what the resolver answers to each name. Two lookups of a name may differ. -/
abbrev Lookup := Bytes → Option (List IP)

/-- Why a target is refused. -/
inductive Refusal where
  | address (why : String)
  | blocked (host ip : Bytes)
  | cannotResolve (host : Bytes)
  | noAddresses (host : Bytes)
  deriving DecidableEq

/-- Addresses that passed the check. -/
structure SafeIPs where
  ips : List IP
  ne_nil : ips ≠ []
  safe : ∀ ip ∈ ips, isBlocked (some ip) = false

/-- The address that is dialled. -/
def SafeIPs.first (s : SafeIPs) : IP := s.ips.head s.ne_nil

theorem SafeIPs.not_internal_first (s : SafeIPs) : ¬ Internal s.first := by
  rw [← isBlocked_iff, s.safe s.first (List.head_mem s.ne_nil)]
  exact Bool.false_ne_true

theorem safe_singleton (h : ¬ isBlocked (some ip) = true) :
    ∀ other ∈ [ip], isBlocked (some other) = false := by
  intro other hother
  rw [List.mem_singleton.mp hother]
  exact Bool.eq_false_iff.mpr h

/-- A literal is checked as it is; of a name every address is checked. -/
def resolveSafe (lookup : Lookup) (host : Bytes) : Except Refusal SafeIPs :=
  match parseIP host with
  | some literal =>
    if h : isBlocked (some literal) = true then .error (.blocked host literal.string)
    else .ok ⟨[literal], List.cons_ne_nil literal [], safe_singleton h⟩
  | none =>
    match lookup host with
    | none => .error (.cannotResolve host)
    | some [] => .error (.noAddresses host)
    | some (addr :: addrs) =>
      match h : (addr :: addrs).find? fun ip => isBlocked (some ip) with
      | some ip => .error (.blocked host ip.string)
      | none => .ok ⟨addr :: addrs, List.cons_ne_nil addr addrs,
        fun ip hip => Bool.eq_false_iff.mpr (List.find?_eq_none.mp h ip hip)⟩

/-! ## Dialling -/

/-- A connection: the text given to the dialer, and the address it went to. -/
structure Connection where
  target : Bytes
  ip : IP
  deriving DecidableEq

/-- The connections that a `net.Dialer` may open to a target. A host that is an address is
connected to; any other is looked up, and an empty one is the local system. -/
def dial (lookup : Lookup) (target : Bytes) : List Connection :=
  match splitHostPort target with
  | .error _ => []
  | .ok (host, _) =>
    let ips :=
      if host = [] then [.v4 0x7f000001#32, .v6 1#128]
      else
        match parseAddr host with
        | some ip => [ip]
        | none => (lookup host).getD []
    ips.map fun ip => ⟨target, ip⟩

/-- The guarded dial function. Its own lookup and that of the dialer are `check` and `use`. -/
def dialContext (check use : Lookup) (addr : Bytes) : Except Refusal (List Connection) :=
  match splitHostPort addr with
  | .error why => .error (.address why)
  | .ok (host, port) =>
    match resolveSafe check host with
    | .error refusal => .error refusal
    | .ok safe => .ok (dial use (joinHostPort safe.first.string port))

/-- An integer as `fmt.Sprint` writes it. It has at most nineteen digits. -/
def sprint (n : Int) : Bytes :=
  let digits := (shortDigits 10 19 n.natAbs).map digitByte
  if n < 0 then lit "-" ++ digits else digits

/-- The source's `Dial`, for callers without a transport. -/
def dialHost (check use : Lookup) (host : Bytes) (port : Int) : Except Refusal (List Connection) :=
  match resolveSafe check host with
  | .error refusal => .error refusal
  | .ok safe => .ok (dial use (joinHostPort safe.first.string (sprint port)))

/-- The connection goes to the address that its target spells, and not into the blocked set. -/
def Connection.Safe (conn : Connection) : Prop :=
  ∃ (ip : IP) (port : Bytes),
    conn.target = joinHostPort ip.string port ∧ conn.ip.as16 = ip.as16 ∧ ¬ Internal conn.ip

/-- What is dialled at a checked address goes there, whatever a lookup would answer. -/
theorem dial_safe {port : Bytes} (hport : IsPort port) (hip : ¬ Internal ip) {conn : Connection}
    (hconn : conn ∈ dial use (joinHostPort ip.string port)) : conn.Safe := by
  obtain ⟨addr, haddr, has16⟩ := Option.map_eq_some_iff.mp (parseIP_string ip)
  have hne : ip.string ≠ [] := by
    intro hnil
    rw [hnil] at haddr
    cases haddr
  have hbrackets := brackets_not_mem_string ip
  rw [dial, splitHostPort_joinHostPort hport hbrackets.1 hbrackets.2] at hconn
  simp only [if_neg hne, haddr, List.map_cons, List.map_nil, List.mem_singleton] at hconn
  subst hconn
  have hsame : addr.as16 = ip.as16 := IP.v6.inj has16
  exact ⟨ip, port, rfl, hsame, fun h => hip ((Internal.congr hsame).mp h)⟩

variable {check : Lookup} {conns : List Connection}

theorem dialContext_safe {addr : Bytes} (h : dialContext check use addr = .ok conns) :
    ∀ conn ∈ conns, conn.Safe := by
  unfold dialContext at h
  split at h
  · cases h
  rename_i host port hsplit
  split at h
  · cases h
  rename_i safe hsafe
  cases h
  exact fun conn hconn =>
    dial_safe (isPort_of_splitHostPort hsplit) safe.not_internal_first hconn

/-- A name that is rebound between the check and the connection. -/
example : dialContext (fun _ => some [.v4 0x08080808#32]) (fun _ => some [.v4 0x7f000001#32])
      (lit "hooks.test:443")
    = .ok [⟨lit "8.8.8.8:443", .v4 0x08080808#32⟩] := by
  decide +kernel

theorem isPort_sprint (n : Int) : IsPort (sprint n) := by
  have hbyte : ∀ b ∈ sprint n, b = 45 ∨ ∃ d < 10, b = digitByte d := by
    intro b hb
    unfold sprint at hb
    split at hb
    · rcases List.mem_append.mp hb with hminus | hdigit
      · exact .inl (List.mem_singleton.mp hminus)
      · exact .inr (exists_of_mem_digits (by decide) hdigit)
    · exact .inr (exists_of_mem_digits (by decide) hb)
  refine ⟨fun h => ?_, fun h => ?_, fun h => ?_⟩
  · rcases hbyte colon h with hminus | ⟨d, hd, hdigit⟩
    · exact absurd hminus (by decide)
    have hsep := isSeparator_digitByte (show d < 16 by omega)
    rw [← hdigit] at hsep
    cases hsep
  · rcases hbyte openBracket h with hminus | ⟨d, hd, hdigit⟩
    · exact absurd hminus (by decide)
    · exact (bracket_ne_digitByte (by omega)).1 hdigit
  · rcases hbyte closeBracket h with hminus | ⟨d, hd, hdigit⟩
    · exact absurd hminus (by decide)
    · exact (bracket_ne_digitByte (by omega)).2 hdigit

theorem dialHost_safe {host : Bytes} {port : Int} (h : dialHost check use host port = .ok conns) :
    ∀ conn ∈ conns, conn.Safe := by
  unfold dialHost at h
  split at h
  · cases h
  rename_i safe hsafe
  cases h
  exact fun conn hconn => dial_safe (isPort_sprint port) safe.not_internal_first hconn

end BurnerByte.Netguard
