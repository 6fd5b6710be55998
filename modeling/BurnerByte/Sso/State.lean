import BurnerByte.Core.Tickets
import BurnerByte.Sso.Credentials

/-!
# The state of an SSO flow

A redirect to a provider stores a record under a random state: what the flow is for, and
where to send the browser in the end. The callback of the provider brings the state back
and consumes the record. It takes what the flow is for from the record, but the provider
from its own path and the place to return to from a cookie. A state that was issued for
one provider is thus accepted by the callback of another, and the cookie selects among the
allowed origins.
-/

namespace BurnerByte.Sso

open Account Handler Expiring

/-! ## Redirects -/

/-- What the handlers know when a request arrives: the configuration, and the providers in
memory. -/
structure Site where
  frontendURL : String
  allowedOrigins : List String
  isProviderConfigured : String → Bool
  customClaims : String → List String
  redirectURL : String → String → Except String String
  stateTTL : Nat

/-- The `Referer` header, as `url.Parse` takes it. -/
inductive Referer where
  | absent
  | malformed
  | parsed (scheme host : String)

structure RedirectRequest where
  provider : String
  /-- The random state, if one can be drawn. -/
  state : Option String
  intent : String
  origin : String
  referer : Referer
  /-- The user who is signed in. -/
  user : Option UUID
  /-- Whether Redis stores the record. -/
  stored : Bool
  now : Nat

structure SSOStateData where
  intent : String
  userID : Option UUID
  origin : String

/-- A request, and what the handlers know when it arrives. -/
structure Redirect where
  site : Site
  req : RedirectRequest

/-- The records in Redis, with the redirect that stored each of them. -/
abbrev States := Tickets String SSOStateData Redirect

/-- The cookies that a redirect sets, and where it leads. -/
structure Sent where
  stateCookie : String
  originCookie : String
  location : String

/-- Where the request comes from, as far as it says. -/
def Redirect.requestOrigin (r : Redirect) : String :=
  if r.req.origin ≠ "" then r.req.origin
  else
    match r.req.referer with
    | .parsed scheme host => scheme ++ "://" ++ host
    | _ => r.site.frontendURL

def Redirect.origin (r : Redirect) : String :=
  if r.site.allowedOrigins.contains r.requestOrigin then r.requestOrigin else r.site.frontendURL

/-- The intent to record, and the account to link. Any other intent is taken for a login. -/
def RedirectRequest.link (req : RedirectRequest) : Except HttpError (String × Option UUID) :=
  if req.intent = "link" then
    match req.user with
    | none => .error ⟨401, "sign in before linking an SSO account"⟩
    | some userID => .ok ("link", some userID)
  else .ok ("", none)

def ssoRedirect (states : States) (r : Redirect) : Except HttpError Sent × States :=
  if !r.site.isProviderConfigured r.req.provider then
    (.error ⟨404, "SSO provider not configured"⟩, states)
  else
    match r.req.state, r.req.link with
    | none, _ => (.error ⟨500, "failed to generate state"⟩, states)
    | some _, .error err => (.error err, states)
    | some state, .ok (intent, linkUser) =>
      if !r.req.stored then (.error ⟨500, "failed to start SSO"⟩, states)
      else
        -- the provider is not part of the record
        let states := states.issue state ⟨intent, linkUser, r.origin⟩
          (some (r.req.now + r.site.stateTTL)) r
        match r.site.redirectURL r.req.provider state with
        | .error _ => (.error ⟨500, "internal server error"⟩, states)
        | .ok location => (.ok ⟨state, r.origin, location⟩, states)

/-! ## Callbacks -/

structure CallbackRequest where
  provider : String
  stateCookie : Option String
  stateParam : String
  originCookie : Option String
  /-- What the provider answers when the code is exchanged. -/
  response : Except String Response
  /-- Whether Redis answers when the state is consumed. -/
  consumable : Bool
  /-- Whether Redis stores the code that the browser exchanges for the tokens. -/
  codeStored : Bool
  now : Nat

/-- What a callback acts on. -/
structure Acts where
  provider : String
  intent : String
  linkUser : Option UUID
  origin : String

/-- The origin that the cookie names, if it is an allowed one. -/
def Site.returnOrigin (site : Site) (cookie : Option String) : String :=
  match cookie with
  | none => site.frontendURL
  | some value =>
    if value ≠ "" ∧ (value = site.frontendURL ∨ value ∈ site.allowedOrigins) then value
    else site.frontendURL

/-- The first part of `SSOCallback`, which ends with what to act on. -/
def acceptCallback (site : Site) (states : States) (req : CallbackRequest) :
    Except HttpError Acts × States :=
  if !site.isProviderConfigured req.provider then
    (.error ⟨404, "SSO provider not configured"⟩, states)
  else
    match req.stateCookie with
    | none => (.error (badRequest "missing state cookie"), states)
    | some cookie =>
      if req.stateParam = "" ∨ cookie ≠ req.stateParam then
        (.error (badRequest "invalid state parameter"), states)
      else if !req.consumable then (.error (badRequest "invalid or expired state"), states)
      else
        let redeemed := states.redeem req.now req.stateParam
        match redeemed.1 with
        | none => (.error (badRequest "invalid or expired state"), redeemed.2)
        | some data =>
          -- the origin of the record is not looked at
          (.ok ⟨req.provider, data.intent, data.userID, site.returnOrigin req.originCookie⟩,
            redeemed.2)

/-- Where the browser is sent. -/
inductive Answer where
  | loginError (origin message : String)
  | profileError (origin message : String)
  | profileLinked (origin provider : String)
  | sessionConflict (origin : String)
  | signedIn (origin : String) (signedIn : SignedIn)

def ssoLoginErrorMessage (msg : String) : String :=
  if containsText msg "is not verified by" || containsText msg "requires an invite" ||
      containsText msg "is not allowed for this invite" || containsText msg "locked to SSO" ||
      containsText msg "locked to password" then msg
  else "we couldn't complete the sign-in. Please try again or contact your administrator."

def ssoLinkErrorMessage (msg : String) : String :=
  if containsText msg "already linked to another account" || containsText msg "already have a" ||
      containsText msg "locked to" then msg
  else "we couldn't link this account. Please try again."

/-- The database and the records of flows. -/
structure Flows where
  platform : Platform
  states : States

/-- A redirect, a callback, or anything else that changes the database. -/
inductive Event where
  | redirect (r : Redirect)
  | callback (site : Site) (req : CallbackRequest) (faults : Faults) (draws : Draws)
  | other (p : Platform)

section

variable (cfg : Config)

def Acts.link (acts : Acts) (p : Platform) (userID : UUID) (result : SSOCallbackResult) :
    Answer × Platform :=
  match linkSSOIdentity cfg p.svc userID result with
  | (.error err, svc) => (.profileError acts.origin (ssoLinkErrorMessage err), { p with svc })
  | (.ok (), svc) => (.profileLinked acts.origin acts.provider, { p with svc })

def Acts.login (acts : Acts) (faults : Faults) (p : Platform) (result : SSOCallbackResult)
    (draws : Draws) (codeStored : Bool) : Except HttpError Answer × Platform :=
  match ssoLogin cfg faults p result draws with
  | (.error err, p) =>
    if err = "session limit reached" then (.ok (.sessionConflict acts.origin), p)
    else (.ok (.loginError acts.origin (ssoLoginErrorMessage err)), p)
  | (.ok signedIn, p) =>
    if codeStored then (.ok (.signedIn acts.origin signedIn), p)
    else (.error ⟨500, "failed to store SSO code"⟩, p)

/-- The second part of `SSOCallback`: link the identity, or sign in. -/
def Acts.perform (acts : Acts) (site : Site) (faults : Faults) (p : Platform)
    (req : CallbackRequest) (draws : Draws) : Except HttpError Answer × Platform :=
  match req.response.bind (handleCallback acts.provider (site.customClaims acts.provider)) with
  | .error _ =>
    (.ok (.loginError acts.origin "could not verify the sign-in response. Please try again."), p)
  | .ok result =>
    match acts.linkUser with
    | some userID =>
      if acts.intent = "link" then
        let linked := acts.link cfg p userID result
        (.ok linked.1, linked.2)
      else acts.login cfg faults p result draws req.codeStored
    | none => acts.login cfg faults p result draws req.codeStored

def ssoCallback (site : Site) (faults : Faults) (flows : Flows) (req : CallbackRequest)
    (draws : Draws) : Except HttpError Answer × Flows :=
  match acceptCallback site flows.states req with
  | (.error err, states) => (.error err, { flows with states })
  | (.ok acts, states) =>
    let performed := acts.perform cfg site faults flows.platform req draws
    (performed.1, ⟨performed.2, states⟩)

def Flows.step (flows : Flows) : Event → Flows
  | .redirect r => { flows with states := (ssoRedirect flows.states r).2 }
  | .callback site req faults draws => (ssoCallback cfg site faults flows req draws).2
  | .other p => { flows with platform := p }

end

/-! ## The redirect behind a callback -/

/-- The record of a state is the one that a redirect of the given kind stores. -/
structure Stores (kind : Redirect → Prop) (state : String) (data : SSOStateData) (r : Redirect) :
    Prop where
  ofKind : kind r
  state : r.req.state = some state
  link : r.req.link = .ok (data.intent, data.userID)

section

variable {cfg : Config} {site : Site} {states states' : States} {flows : Flows}
  {kind : Redirect → Prop} {req : CallbackRequest} {acts : Acts}

theorem traced_ssoRedirect {r : Redirect} (h : states.Traced (Stores kind)) (hr : kind r) :
    (ssoRedirect states r).2.Traced (Stores kind) := by
  unfold ssoRedirect
  split
  · exact h
  split
  · exact h
  · exact h
  rename_i state intent linkUser hstate hlink
  split
  · exact h
  have hstores : Stores kind state ⟨intent, linkUser, r.origin⟩ r := ⟨hr, hstate, hlink⟩
  have hissue := h.issue (some (r.req.now + r.site.stateTTL)) hstores
  split
  · exact hissue
  · exact hissue

/-- A callback is refused before it looks for the record, or consumes it, and is accepted only if
it has found one. -/
theorem acceptCallback_cases (site : Site) (states : States) (req : CallbackRequest) :
    (∃ err, acceptCallback site states req = (.error err, states)) ∨
      (∃ err, acceptCallback site states req =
        (.error err, (states.redeem req.now req.stateParam).2)) ∨
      ∃ data, states.store.get req.now req.stateParam = some data ∧
        acceptCallback site states req =
          (.ok ⟨req.provider, data.intent, data.userID, site.returnOrigin req.originCookie⟩,
            (states.redeem req.now req.stateParam).2) := by
  unfold acceptCallback
  iterate 4
    split
    · exact .inl ⟨_, rfl⟩
  dsimp only
  split
  · exact .inr (.inl ⟨_, rfl⟩)
  rename_i data hdata
  exact .inr (.inr ⟨data, hdata, rfl⟩)

theorem acceptCallback_states (site : Site) (states : States) (req : CallbackRequest) :
    (acceptCallback site states req).2 = states ∨
      (acceptCallback site states req).2 = (states.redeem req.now req.stateParam).2 := by
  obtain ⟨_, heq⟩ | ⟨_, heq⟩ | ⟨_, _, heq⟩ := acceptCallback_cases site states req
  · exact .inl (congrArg Prod.snd heq)
  · exact .inr (congrArg Prod.snd heq)
  · exact .inr (congrArg Prod.snd heq)

theorem acceptCallback_eq_ok (h : acceptCallback site states req = (.ok acts, states')) :
    ∃ data, states.store.get req.now req.stateParam = some data ∧
      acts = ⟨req.provider, data.intent, data.userID, site.returnOrigin req.originCookie⟩ ∧
      states' = (states.redeem req.now req.stateParam).2 := by
  obtain ⟨_, heq⟩ | ⟨_, heq⟩ | ⟨data, hget, heq⟩ := acceptCallback_cases site states req
  · cases heq.symm.trans h
  · cases heq.symm.trans h
  · cases heq.symm.trans h
    exact ⟨data, hget, rfl, rfl⟩

theorem ssoCallback_states (cfg : Config) (site : Site) (faults : Faults) (flows : Flows)
    (req : CallbackRequest) (draws : Draws) :
    (ssoCallback cfg site faults flows req draws).2.states =
      (acceptCallback site flows.states req).2 := by
  unfold ssoCallback
  split
  · rename_i haccept
    rw [haccept]
  · rename_i haccept
    rw [haccept]

theorem traced_step (h : flows.states.Traced (Stores kind)) {e : Event}
    (he : ∀ r, e = .redirect r → kind r) : (flows.step cfg e).states.Traced (Stores kind) := by
  cases e with
  | redirect r => exact traced_ssoRedirect h (he r rfl)
  | callback site req faults draws =>
    simp only [Flows.step]
    rw [ssoCallback_states]
    cases acceptCallback_states site flows.states req with
    | inl hkept =>
      rw [hkept]
      exact h
    | inr hredeemed =>
      rw [hredeemed]
      exact h.redeem req.now req.stateParam
  | other p => exact h

/-! ## What a callback is bound to -/

/-- The callback acts for the redirect, on everything that the redirect asked for. -/
structure Acts.BoundTo (acts : Acts) (r : Redirect) : Prop where
  provider : acts.provider = r.req.provider
  link : r.req.link = .ok (acts.intent, acts.linkUser)
  origin : acts.origin = r.origin

/-- The cookie names the origin, or names none that is allowed while the origin is the
default. -/
def Site.Names (site : Site) (cookie : Option String) (origin : String) : Prop :=
  (cookie = some origin ∧ origin ≠ "" ∧ origin ∈ site.allowedOrigins) ∨
    (origin = site.frontendURL ∧
      ∀ value, cookie = some value → value ≠ "" → value ∈ site.allowedOrigins → value = origin)

theorem Site.returnOrigin_eq_iff {cookie : Option String} {origin : String} :
    site.returnOrigin cookie = origin ↔ site.Names cookie origin := by
  cases cookie with
  | none =>
    simp [Site.returnOrigin, Site.Names, eq_comm]
  | some value =>
    unfold Site.returnOrigin Site.Names
    dsimp only
    split
    · rename_i hallowed
      constructor
      · intro horigin
        subst horigin
        by_cases hmem : value ∈ site.allowedOrigins
        · exact .inl ⟨rfl, hallowed.1, hmem⟩
        refine .inr ⟨hallowed.2.resolve_right hmem, ?_⟩
        intro value' hvalue _ _
        exact (Option.some.inj hvalue).symm
      · rintro (⟨hvalue, _⟩ | ⟨horigin, hnames⟩)
        · exact Option.some.inj hvalue
        · cases hallowed.2 with
          | inl hdefault => exact hdefault.trans horigin.symm
          | inr hmem => exact hnames value rfl hallowed.1 hmem
    · rename_i hrefused
      constructor
      · intro horigin
        refine .inr ⟨horigin.symm, ?_⟩
        intro value' hvalue hempty hmem
        cases hvalue
        exact absurd ⟨hempty, .inr hmem⟩ hrefused
      · rintro (⟨hvalue, hempty, hmem⟩ | ⟨horigin, _⟩)
        · cases hvalue
          exact absurd ⟨hempty, .inr hmem⟩ hrefused
        · exact horigin.symm

/-- A callback that is accepted after a run comes from the redirect that stored its state. It
acts for that redirect if and only if it arrives at the path of the same provider and its
cookie names the origin of the redirect. -/
theorem callback_bound_iff {events : List Event} (hempty : flows.states = .empty)
    (hok : acceptCallback site (Trace.run (Flows.step cfg) flows events).states req =
      (.ok acts, states')) :
    ∃ r, Event.redirect r ∈ events ∧
      (Trace.run (Flows.step cfg) flows events).states.cause req.stateParam = some r ∧
      r.req.state = some req.stateParam ∧ r.req.link = .ok (acts.intent, acts.linkUser) ∧
      (acts.BoundTo r ↔ req.provider = r.req.provider ∧ site.Names req.originCookie r.origin) := by
  have hstart : flows.states.Traced (Stores fun r => Event.redirect r ∈ events) := by
    rw [hempty]
    exact Tickets.traced_empty
  have hstep : ∀ (flows : Flows) e,
      flows.states.Traced (Stores fun r => Event.redirect r ∈ events) → e ∈ events →
      (flows.step cfg e).states.Traced (Stores fun r => Event.redirect r ∈ events) := by
    intro flows e h he
    refine traced_step h ?_
    rintro r rfl
    exact he
  have htraced := Trace.run_induct_of_mem hstep hstart fun e he => he
  obtain ⟨data, hget, rfl, _⟩ := acceptCallback_eq_ok hok
  obtain ⟨r, hcause, hstores⟩ := Tickets.Traced.cause_of_get htraced hget
  refine ⟨r, hstores.ofKind, hcause, hstores.state, hstores.link, ?_⟩
  constructor
  · intro hbound
    exact ⟨hbound.provider, Site.returnOrigin_eq_iff.mp hbound.origin⟩
  · rintro ⟨hprovider, hnames⟩
    exact ⟨hprovider, hstores.link, Site.returnOrigin_eq_iff.mpr hnames⟩

end

/-! ## A state on the path of another provider -/

/-- A site with two frontends and two providers. -/
def sampleSite : Site where
  frontendURL := "https://app"
  allowedOrigins := ["https://app", "https://beta"]
  isProviderConfigured name := name = "google" || name = "github"
  customClaims _ := []
  redirectURL provider state := .ok (provider ++ "?state=" ++ state)
  stateTTL := 600

/-- A login with Google that starts at the first frontend. -/
def sampleRedirect : Redirect where
  site := sampleSite
  req := ⟨"google", some "s1", "", "https://app", .absent, none, true, 0⟩

/-- A callback with the state of that login. -/
def sampleCallback (provider originCookie : String) (response : Response) : CallbackRequest where
  provider := provider
  stateCookie := some "s1"
  stateParam := "s1"
  originCookie := some originCookie
  response := .ok response
  consumable := true
  codeStored := true
  now := 1

def googleCallback : CallbackRequest :=
  sampleCallback "google" "https://app"
    (.oidc [("sub", .string "g7"), ("email", .string "eve@corp.example")])

def gitHubCallback : CallbackRequest :=
  sampleCallback "github" "https://beta" (.github ⟨7, "eve", "Eve", "eve@corp.example"⟩ (.ok []))

def sampleFlows : Flows := ⟨freshPlatform, .empty⟩

def redirected : Flows := Trace.run (Flows.step sampleConfig) sampleFlows [.redirect sampleRedirect]

theorem same_provider_bound :
    ∃ r acts, (acceptCallback sampleSite redirected.states googleCallback).1 = .ok acts ∧
      Event.redirect r ∈ [Event.redirect sampleRedirect] ∧ acts.BoundTo r := by
  obtain ⟨acts, hok⟩ : ∃ acts, (acceptCallback sampleSite redirected.states
      googleCallback).1 = .ok acts := ⟨_, rfl⟩
  obtain ⟨r, hmem, _, _, _, hbound⟩ := callback_bound_iff rfl (Prod.ext hok rfl)
  refine ⟨r, acts, hok, hmem, hbound.mpr ?_⟩
  obtain rfl : r = sampleRedirect := by simpa using hmem
  exact ⟨rfl, .inl ⟨rfl, by decide, by decide⟩⟩

/-- GitHub's callback accepts the state of the redirect to Google and signs its user in, and the
cookie sends the browser to the other frontend. -/
theorem crossed_provider_accepted :
    (ssoCallback sampleConfig sampleSite noFaults redirected
        gitHubCallback sampleDraws).2.platform.svc.sessions.rows.map Session.ssoProviderName =
        [some "github"] ∧
      ∃ acts, (acceptCallback sampleSite redirected.states gitHubCallback).1 = .ok acts ∧
        acts.provider = "github" ∧ acts.origin = "https://beta" ∧
        sampleRedirect.req.provider = "google" ∧ sampleRedirect.origin = "https://app" :=
  ⟨by decide +kernel, _, rfl, rfl, by decide +kernel, rfl, by decide +kernel⟩

end BurnerByte.Sso
