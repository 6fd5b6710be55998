import BurnerByte.Auth.Middleware
import BurnerByte.Go.HostPort

/-!
# The client's address

Behind a reverse proxy the peer of a connection is the proxy, which names the client in a header.
Such headers are believed only if the peer is a configured proxy. The address is resolved once,
kept in the request's context, and read from there by the rate limiters and by the allowlist
of API keys.

Of a peer that is not trusted no header has any influence. A trusted proxy appends the
address it saw to the list `X-Forwarded-For`, which may be spread over several lines, and
the resolver reads the end of the first line.
-/

namespace BurnerByte.ClientIP

open Go

/-- The values of a header's lines, by their canonical name. -/
abbrev Header := String → List Bytes

/-- Go's `Header.Get`: the value of the first line. -/
def Header.get (header : Header) (name : String) : Bytes := (header name).headD []

structure Request where
  /-- The peer's address, as the kernel reported it. -/
  remoteAddr : Bytes
  header : Header

/-- The address without its port, or the whole text if it has none. -/
def extractIP (addr : Bytes) : Bytes :=
  match splitHostPort addr with
  | .ok (host, _) => host
  | .error _ => addr

/-! ## The resolver -/

/-- A bare address is a single host. -/
def singleHost (cidr : Bytes) : Bytes :=
  if slash ∈ cidr then cidr
  else
    match parseIP cidr with
    | some ip => if ip.to4 = none then cidr ++ lit "/128" else cidr ++ lit "/32"
    | none => cidr ++ lit "/32"

section

variable (trustedProxies : List Bytes) (c : Resolver) (r : Served)

/-- The configured networks. Entries that are none are skipped. -/
def parseTrustedNets : List IPNet :=
  trustedProxies.filterMap fun cidr => parseCIDR (singleHost cidr)

structure Resolver where
  trustedNets : List IPNet

def Resolver.new : Resolver := ⟨parseTrustedNets trustedProxies⟩

def Resolver.isTrusted (ip : Bytes) : Bool :=
  match parseIP ip with
  | none => false
  | some parsed => c.trustedNets.any fun net => net.contains parsed

def comma : UInt8 := 44

/-- The text, if it is an address. -/
def addressText (ip : Bytes) : Option Bytes :=
  if ip ≠ [] ∧ (parseIP ip).isSome then some ip else none

/-- The rightmost entry of a line. -/
def rightmost (xff : Bytes) : Option Bytes :=
  if xff = [] then none else addressText (trimSpace ((xff.splitOn comma).getLastD []))

def xForwardedFor : String := "X-Forwarded-For"

/-- The canonical form of `X-Real-IP`. -/
def xRealIP : String := "X-Real-Ip"

def Resolver.resolve (r : Request) : Bytes :=
  let peer := extractIP r.remoteAddr
  if c.trustedNets = [] ∨ c.isTrusted peer = false then peer
  else
    match rightmost (r.header.get xForwardedFor) with
    | some ip => ip
    | none => (addressText (trimSpace (r.header.get xRealIP))).getD peer

/-! ## The request's context -/

/-- A request in the chain of handlers, with the address that its context carries. -/
structure Served where
  request : Request
  clientIP : Option Bytes

/-- The middleware of the resolver. -/
def Resolver.middleware (r : Request) : Served := ⟨r, some (c.resolve r)⟩

/-- A request that did not pass the middleware. -/
def bare (r : Request) : Served := ⟨r, none⟩

def fromContext : Option Bytes := r.clientIP.filter (· ≠ [])

/-- The source's `From`. -/
def fromRequest : Bytes := (fromContext r).getD (extractIP r.request.remoteAddr)

/-! ## Its readers -/

/-- The rate limiters, each with what its key depends on. The general one counts the requests of
a user, whose id is given as text, or of an address if there is no user. -/
inductive Limiter where
  | general (userID : Option Bytes)
  | login
  | demo
  | forgotPassword

/-- The source's `RateLimiter.RealIP`, where `c` is the limiter's own resolver. -/
def realIP : Bytes := (fromContext r).getD (c.resolve r.request)

def Limiter.key : Limiter → Bytes
  | general (some userID) => lit "user:" ++ userID
  | general none => lit "ip:" ++ realIP c r
  | login => lit "login:" ++ realIP c r
  | demo => lit "demo:" ++ realIP c r
  | forgotPassword => lit "forgot:" ++ realIP c r

end

/-! ## Peers that are not trusted -/

variable {c : Resolver} {r : Request}

theorem resolve_of_untrusted (h : c.isTrusted (extractIP r.remoteAddr) = false) :
    c.resolve r = extractIP r.remoteAddr :=
  if_pos (.inr h)

theorem fromContext_getD {r : Served} {ip : Bytes} (h : r.clientIP = some ip) :
    (fromContext r).getD ip = ip := by
  rw [fromContext, h, Option.filter_some]
  split <;> rfl

theorem fromRequest_of_untrusted (h : c.isTrusted (extractIP r.remoteAddr) = false) :
    fromRequest (c.middleware r) = extractIP r.remoteAddr :=
  fromContext_getD (congrArg some (resolve_of_untrusted h))

theorem realIP_middleware (c : Resolver) (r : Request) : realIP c (c.middleware r) = c.resolve r :=
  fromContext_getD rfl

/-- No header of a peer that is not trusted has any influence on the resolved address, on the
limiters' keys for a given user, or on what an API key's allowlist says of the request. -/
theorem headers_of_untrusted_ignored (trustedProxies : List Bytes) (r r' : Request)
    (haddr : r.remoteAddr = r'.remoteAddr)
    (huntrusted : (Resolver.new trustedProxies).isTrusted (extractIP r.remoteAddr) = false) :
    let c := Resolver.new trustedProxies
    c.resolve r = c.resolve r' ∧
      ∀ chain ∈ [c.middleware, bare],
        (∀ limiter : Limiter, limiter.key c (chain r) = limiter.key c (chain r')) ∧
        ∀ env now s token,
          Auth.keyContext env now s token (fromRequest (chain r)) =
            Auth.keyContext env now s token (fromRequest (chain r')) := by
  intro c
  have huntrusted' : c.isTrusted (extractIP r'.remoteAddr) = false := by rwa [← haddr]
  have hresolve : c.resolve r = c.resolve r' := by
    rw [resolve_of_untrusted huntrusted, resolve_of_untrusted huntrusted', haddr]
  -- both readers agree on the two requests, in either chain
  have hread : ∀ chain ∈ [c.middleware, bare],
      realIP c (chain r) = realIP c (chain r') ∧
        fromRequest (chain r) = fromRequest (chain r') := by
    intro chain hchain
    simp only [List.mem_cons, List.not_mem_nil, or_false] at hchain
    rcases hchain with rfl | rfl
    · rw [realIP_middleware, realIP_middleware, fromRequest_of_untrusted huntrusted,
        fromRequest_of_untrusted huntrusted', haddr]
      exact ⟨hresolve, rfl⟩
    · exact ⟨hresolve, congrArg extractIP haddr⟩
  refine ⟨hresolve, fun chain hchain => ⟨fun limiter => ?_, fun env now s token => ?_⟩⟩
  · have hreal := (hread chain hchain).1
    cases limiter with
    | general userID =>
      cases userID with
      | none => rw [Limiter.key, hreal, Limiter.key]
      | some userID => rfl
    | _ => rw [Limiter.key, hreal, Limiter.key]
  · rw [(hread chain hchain).2]

/-- A request of which each named header has one line. -/
def requestFrom (remoteAddr : String) (lines : List (String × String)) : Request :=
  ⟨lit remoteAddr, fun name => (lines.filter (·.1 = name)).map fun line => lit line.2⟩

/-- The proxies `10.0.0.0/8`, with an entry that is no network. -/
def tenNet : List Bytes := [lit "10.0.0.0/8", lit "proxy.internal"]

/-- A client that names the loopback address is taken for what it is. -/
theorem spoofed_headers_ignored :
    (Resolver.new tenNet).resolve (requestFrom "198.51.100.7:44321"
        [("X-Forwarded-For", "127.0.0.1"), ("X-Real-Ip", "127.0.0.1")])
      = lit "198.51.100.7" := by
  have hignored := headers_of_untrusted_ignored tenNet
    (requestFrom "198.51.100.7:44321"
      [("X-Forwarded-For", "127.0.0.1"), ("X-Real-Ip", "127.0.0.1")])
    (requestFrom "198.51.100.7:44321" []) rfl (by decide +kernel)
  rw [hignored.1]
  decide +kernel

/-! ## Proxies that append -/

/-- How a proxy appends an address to the list: to one of its lines, after a comma and
optional white space, or as a line of its own. -/
inductive Append where
  | toLine (i : Nat) (space : Bytes)
  | newLine

namespace Append

def apply (addr : Bytes) : Append → List Bytes → List Bytes
  | toLine i space, lines => lines.modify i fun line => line ++ comma :: (space ++ addr)
  | newLine, lines => lines ++ [addr]

/-- The line exists, and what separates the address from it is white space. -/
def Possible : Append → List Bytes → Prop
  | toLine i space, lines => i < lines.length ∧ ∀ b ∈ space, b = 32 ∨ b = 9
  | newLine, _ => True

/-- The address ends up in the first line. -/
def IsFirst : Append → List Bytes → Prop
  | toLine i _, _ => i = 0
  | newLine, lines => lines = []

/-- Otherwise the first line stays as the client sent it. -/
theorem headD_apply {way : Append} {lines : List Bytes} (h : ¬ way.IsFirst lines) (addr : Bytes) :
    (way.apply addr lines).headD [] = lines.headD [] := by
  cases way with
  | toLine i space =>
    obtain ⟨i, rfl⟩ := Nat.exists_eq_succ_of_ne_zero h
    cases lines <;> rfl
  | newLine =>
    cases lines with
    | nil => exact absurd rfl h
    | cons line lines => rfl

end Append

/-- The client's request as the proxy sends it on. -/
def Request.append (r : Request) (way : Append) (addr : Bytes) : Request :=
  { r with
    header := Function.update r.header xForwardedFor (way.apply addr (r.header xForwardedFor)) }

theorem get_append_xForwardedFor (r : Request) (way : Append) (addr : Bytes) :
    (r.append way addr).header.get xForwardedFor =
      (way.apply addr (r.header xForwardedFor)).headD [] := by
  simp [Request.append, Header.get]

theorem get_append_xRealIP (r : Request) (way : Append) (addr : Bytes) :
    (r.append way addr).header.get xRealIP = r.header.get xRealIP := by
  simp [Request.append, Header.get, show xRealIP ≠ xForwardedFor by decide]

/-- An appended address is the rightmost entry of its line. -/
theorem rightmost_append {addr : Bytes} (haddr : (parseIP addr).isSome = true) {space : Bytes}
    (hspace : ∀ b ∈ space, b = 32 ∨ b = 9) (line : Bytes) :
    rightmost addr = some addr ∧ rightmost (line ++ comma :: (space ++ addr)) = some addr := by
  obtain ⟨ip, hip⟩ := Option.isSome_iff_exists.mp haddr
  have hne : addr ≠ [] := by
    rintro rfl
    cases hip
  have hvisible : ∀ b ∈ addr, isVisible b = true :=
    fun b hb => isVisible_of_isAddressByte (isAddressByte_of_parseIP hip hb)
  have hcomma : comma ∉ space ++ addr := by
    intro hmem
    rcases List.mem_append.mp hmem with hmem | hmem
    · exact absurd (hspace comma hmem) (by decide)
    · exact absurd (isAddressByte_of_parseIP hip hmem) (by decide)
  have htext : addressText addr = some addr := if_pos ⟨hne, haddr⟩
  constructor
  · have hcomma' : comma ∉ addr := fun hmem => hcomma (List.mem_append_right space hmem)
    have htrim := @trimSpace_append_visible [] addr (List.forall_mem_nil _) hvisible
    rw [List.nil_append] at htrim
    rw [rightmost, if_neg hne, List.splitOn_eq_singleton hcomma', List.getLastD_cons,
      List.getLastD_nil, htrim, htext]
  · have hnonempty : line ++ comma :: (space ++ addr) ≠ [] := by simp
    have hsplit : (line ++ comma :: (space ++ addr)).splitOn comma
        = line.splitOn comma ++ [space ++ addr] := by
      rw [← List.splitOn_eq_singleton hcomma]
      exact List.splitOnP_append_cons line (space ++ addr) (beq_self_eq_true comma)
    rw [rightmost, if_neg hnonempty, hsplit, List.getLastD_concat,
      trimSpace_append_visible hspace hvisible, htext]

theorem resolve_append (h : c.isTrusted (extractIP r.remoteAddr) = true) (way : Append)
    (addr : Bytes) :
    c.resolve (r.append way addr) =
      (rightmost ((way.apply addr (r.header xForwardedFor)).headD [])).getD
        ((addressText (trimSpace (r.header.get xRealIP))).getD (extractIP r.remoteAddr)) := by
  have hnets : c.trustedNets ≠ [] := by
    intro hnil
    unfold Resolver.isTrusted at h
    split at h
    · cases h
    · simp [hnil] at h
  have hcond : ¬ (c.trustedNets = [] ∨
      c.isTrusted (extractIP (r.append way addr).remoteAddr) = false) := by
    rintro (hnil | huntrusted)
    · exact hnets hnil
    · exact Bool.noConfusion (h.symm.trans huntrusted)
  rw [← get_append_xForwardedFor, ← get_append_xRealIP r way addr]
  unfold Resolver.resolve
  rw [if_neg hcond]
  split
  · rename_i ip hip
    rw [hip]
    rfl
  rename_i hnone
  rw [hnone]
  rfl

/-- The address that a trusted proxy appends is the resolved one, whatever address it is,
exactly if it is appended to the first line of the list. -/
theorem resolve_append_iff (c : Resolver) (r : Request) (way : Append)
    (htrusted : c.isTrusted (extractIP r.remoteAddr) = true)
    (hpossible : way.Possible (r.header xForwardedFor)) :
    (∀ addr, (parseIP addr).isSome = true → c.resolve (r.append way addr) = addr) ↔
      way.IsFirst (r.header xForwardedFor) := by
  constructor
  · intro h
    by_contra hfirst
    have hone := h (lit "1.1.1.1") (by decide +kernel)
    have htwo := h (lit "2.2.2.2") (by decide +kernel)
    rw [resolve_append htrusted, Append.headD_apply hfirst] at hone htwo
    exact absurd (hone.symm.trans htwo) (by decide)
  · intro hfirst addr haddr
    rw [resolve_append htrusted]
    cases way with
    | toLine i space =>
      obtain rfl : i = 0 := hfirst
      obtain ⟨hlines, hspace⟩ := hpossible
      obtain ⟨line, lines, hcons⟩ := List.exists_cons_of_length_pos hlines
      rw [hcons]
      change (rightmost (line ++ comma :: (space ++ addr))).getD _ = addr
      rw [(rightmost_append haddr hspace line).2]
      rfl
    | newLine =>
      have hnil : r.header xForwardedFor = [] := hfirst
      rw [hnil]
      change (rightmost addr).getD _ = addr
      rw [(rightmost_append haddr (List.forall_mem_nil _) []).1]
      rfl

/-- A client without such a line, behind a proxy that writes one. -/
theorem first_line_resolved :
    (Resolver.new tenNet).resolve
        ((requestFrom "10.1.2.3:9000" [("X-Real-Ip", "127.0.0.1")]).append .newLine
          (lit "203.0.113.9"))
      = lit "203.0.113.9" :=
  (resolve_append_iff (Resolver.new tenNet)
    (requestFrom "10.1.2.3:9000" [("X-Real-Ip", "127.0.0.1")]) .newLine (by decide +kernel)
    trivial).mpr rfl (lit "203.0.113.9") (by decide +kernel)

/-- A client that sent a line itself, behind a proxy that adds one of its own, is taken for the
address that it names. -/
theorem client_line_believed :
    (Resolver.new tenNet).isTrusted (extractIP (lit "10.1.2.3:9000")) = true ∧
      (Resolver.new tenNet).resolve
          ((requestFrom "10.1.2.3:9000" [("X-Forwarded-For", "127.0.0.1")]).append .newLine
            (lit "203.0.113.9"))
        = lit "127.0.0.1" := by
  decide +kernel

end BurnerByte.ClientIP
