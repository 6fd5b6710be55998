import BurnerByte.Sso.Login

/-!
# Restricting a provider to domains

The providers that can complete a login are kept in memory. They come from the database
and from the configuration file, and each has its list of allowed domains. A login does not
look at that list: it asks the database for the provider again. If the database has no such
provider, or does not answer, the check is skipped.
-/

namespace BurnerByte.Sso

open Go Sql Account

/-- A provider that can complete a login, and that is restricted to some domains. Its name
fits the columns of users, identities and sessions. -/
structure Restricted (discovers : SSOProvider → Bool) (rows : List SSOProvider) (file : SSOConfig)
    (provider : SSOProvider) : Prop where
  loaded : loadProviders discovers rows file provider.name = some provider
  fits : varchar 50 provider.name = some provider.name
  list : provider.allowedDomains ≠ ""

/-- The provider that the database returns has a list, and the domain is not on it. -/
def Refuses (cfg : Config) (lookup : Except String SSOProvider) (domain : String) : Prop :=
  ∃ row, lookup = .ok row ∧ row.allowedDomains ≠ "" ∧
    isDomainAllowed cfg domain row.allowedDomains = false

section

variable {cfg : Config} {faults : Faults} {p p' : Platform} {result : SSOCallbackResult}
  {domain : String} {draws : Draws}

section

variable (hdomain : extractEmailDomain cfg (lowerText cfg.casing result.email) = some domain)

include hdomain

theorem checkDomain_eq_ok_iff {dir : Directory} : checkDomain cfg faults dir result = .ok domain ↔
      ¬ Refuses cfg (providerByName faults .providerDomains dir result.provider) domain := by
  unfold checkDomain Refuses
  rw [hdomain]
  cases providerByName faults .providerDomains dir result.provider with
  | error err => simp
  | ok provider =>
    simp

theorem checkDomain_domain {dir : Directory} {other : String}
    (h : checkDomain cfg faults dir result = .ok other) : other = domain := by
  unfold checkDomain at h
  rw [hdomain] at h
  dsimp only at h
  split at h
  · exact (Except.ok.inj h).symm
  · exact (Except.ok.inj (Outcome.guard_eq_ok.mp h).2).symm

end

/-! ## A login that succeeds -/

/-- The one statement that may fail, with the answer of the lookup. -/
def lookupFaults (lookup : Except String SSOProvider) : Faults
  | .providerDomains =>
    match lookup with
    | .error err => some err
    | .ok _ => none
  | _ => none

/-- A user with an identity at the provider, and without a session. -/
def memberPlatform (lookup : Except String SSOProvider) (name : String) : Platform where
  svc := {
    accounts := sampleService.accounts
    sessions := .empty
    identities := [⟨name, "1", 1⟩]
    setupCompleted := true }
  dir := {
    providers := lookup.toOption.toList
    mappings := []
    orgs := []
    teams := []
    invites := []
    orgMembers := .empty
    teamMembers := .empty }

def memberResult (name email : String) : SSOCallbackResult := ⟨email, false, "", name, "1", []⟩

variable {lookup : Except String SSOProvider} {name : String}

theorem providerByName_member (hname : ∀ row, lookup = .ok row → row.name = name) :
    providerByName (lookupFaults lookup) .providerDomains (memberPlatform lookup name).dir name =
      lookup := by
  cases lookup with
  | error err => rfl
  | ok row =>
    have hrow := hname row rfl
    simp [providerByName, Faults.run, lookupFaults, Directory.getByName, memberPlatform,
      Except.toOption, hrow]

theorem exists_issueTokens {svc : Service} (hempty : svc.sessions = .empty) (cfg : Config)
    (id : UUID) (user : User) (provider : Option String) (issue : Issue) :
    ∃ tokens svc', issueTokens cfg svc id user provider issue = (.ok tokens, svc') := by
  obtain ⟨sessions, hinsert⟩ : ∃ sessions,
      svc.sessions.insert (issue.session cfg id provider) = some sessions := by
    rw [hempty]
    exact Table.exists_insert fun old hold => absurd hold (Table.not_mem_empty old)
  unfold issueTokens Service.insertSession
  rw [hinsert]
  exact ⟨_, _, rfl⟩

/-- Without sessions there is room for one. -/
theorem exists_finishSSOLogin {q : Platform} (hempty : q.svc.sessions = .empty)
    (hname : varchar 50 result.provider = some name) (cfg : Config) (chosen : Chosen)
    (draws : Draws) :
    ∃ signedIn p', finishSSOLogin cfg (lookupFaults lookup) q result chosen draws =
      (.ok signedIn, p') := by
  have hlimit := resolveSessionLimit_pos cfg chosen.user
  have hactive : ∀ now, q.svc.active chosen.id now = [] := by
    intro now
    rw [Service.active, hempty]
    rfl
  have hroom : makeRoom cfg (lookupFaults lookup) q.svc chosen.id chosen.user draws =
      .ok q.svc := by
    simp [makeRoom, lookupFaults, hactive, hlimit]
  have hagain : makeRoomAgain cfg (lookupFaults lookup) q.svc chosen.id chosen.user
      draws.issue.now = q.svc := by
    simp [makeRoomAgain, lookupFaults, hactive, hlimit.ne']
  obtain ⟨tokens, svc, htokens⟩ := exists_issueTokens hempty cfg chosen.id chosen.user (some name)
    draws.issue
  have hstart : startSession cfg (lookupFaults lookup) q.svc chosen.id chosen.user result.provider
      draws.issue = (.ok tokens, svc) := by
    simp only [startSession, lookupFaults, hagain, hname, htokens]
  unfold finishSSOLogin
  rw [hroom]
  dsimp only
  rw [hstart]
  exact ⟨_, _, rfl⟩

/-- The member can sign in whenever the check of the domain lets them. -/
theorem exists_member_login {email : String} (hfits : varchar 50 name = some name)
    (hdomain : checkDomain cfg (lookupFaults lookup) (memberPlatform lookup name).dir
      (memberResult name email) = .ok domain)
    (draws : Draws) :
    ∃ signedIn p', ssoLogin cfg (lookupFaults lookup) (memberPlatform lookup name)
      (memberResult name email) draws = (.ok signedIn, p') := by
  have hfound : findAccount cfg (lookupFaults lookup) (memberPlatform lookup name)
      (memberResult name email) = .ok (.linked 1 sampleUser) := by
    have hidentity : (memberPlatform lookup name).svc.findIdentity name "1" =
        some ⟨name, "1", 1⟩ := by
      simp [Service.findIdentity, memberPlatform]
    have huser : (memberPlatform lookup name).svc.accounts.getByID 1 = some sampleUser := rfl
    simp only [findAccount, lookupFaults, memberResult, hidentity, huser]
  have hlock : checkAuthMethodLock sampleUser "sso" = .ok () := rfl
  obtain ⟨q, hlinked⟩ := exists_ssoLinked (lookupFaults lookup) (memberPlatform lookup name)
    (memberResult name email) 1 hlock
  have hempty : q.svc.sessions = .empty := by
    obtain ⟨accounts, heq⟩ := ssoLinked_eq (lookupFaults lookup) (memberPlatform lookup name)
      (memberResult name email) 1 sampleUser
    rw [hlinked] at heq
    exact congrArg (fun p : Platform => p.svc.sessions) heq
  unfold ssoLogin selectAccount
  rw [hdomain]
  rw [hfound]
  dsimp only
  rw [hlinked]
  exact exists_finishSSOLogin hempty hfits cfg _ draws

/-- Every login through a restricted provider has an allowed domain if and only if the domain
is allowed anyway, or the database returns the provider with a list that the domain is not on. -/
theorem restricted_login_iff {discovers : SSOProvider → Bool} {rows : List SSOProvider}
    {file : SSOConfig} {provider : SSOProvider} {email : String}
    (hprovider : Restricted discovers rows file provider)
    (hdomain : extractEmailDomain cfg (lowerText cfg.casing email) = some domain)
    (hlookup : ∀ row, lookup = .ok row → row.name = provider.name) :
    (∀ faults p result draws signedIn p', result.provider = provider.name → result.email = email →
      providerByName faults .providerDomains p.dir result.provider = lookup →
      ssoLogin cfg faults p result draws = (.ok signedIn, p') →
      isDomainAllowed cfg domain provider.allowedDomains = true) ↔
    isDomainAllowed cfg domain provider.allowedDomains = true ∨ Refuses cfg lookup domain := by
  constructor
  · intro hall
    rw [or_iff_not_imp_right]
    intro hrefuses
    have hfound : providerByName (lookupFaults lookup) .providerDomains
        (memberPlatform lookup provider.name).dir (memberResult provider.name email).provider =
        lookup := providerByName_member hlookup
    have hmember : extractEmailDomain cfg
        (lowerText cfg.casing (memberResult provider.name email).email) = some domain := hdomain
    have hcheck : checkDomain cfg (lookupFaults lookup) (memberPlatform lookup provider.name).dir
        (memberResult provider.name email) = .ok domain := by
      rw [checkDomain_eq_ok_iff hmember, hfound]
      exact hrefuses
    obtain ⟨signedIn, p', hlogin⟩ := exists_member_login hprovider.fits hcheck sampleDraws
    exact hall _ _ _ _ signedIn p' rfl rfl hfound hlogin
  · intro hcondition faults p result draws signedIn p' _ hemail hfound hlogin
    obtain ⟨other, _, _, _, hcheck, _⟩ := ssoLogin_eq_ok hlogin
    have hdomain : extractEmailDomain cfg (lowerText cfg.casing result.email) = some domain := by
      rw [hemail]
      exact hdomain
    obtain rfl := checkDomain_domain hdomain hcheck
    have hopen := (checkDomain_eq_ok_iff hdomain).mp hcheck
    rw [hfound] at hopen
    exact hcondition.resolve_right hopen

end

/-! ## The provider of the configuration file -/

def sampleFile : SSOConfig where
  provider := "google"
  clientID := "id"
  clientSecret := "secret"
  autoProvision := false
  defaultOrgRole := ""
  defaultTeamRole := ""
  allowedDomains := "corp"

theorem sampleFile_restricted : Restricted (fun _ => true) [] sampleFile sampleFile.toProvider :=
  ⟨rfl, by decide +kernel, by decide⟩

/-- Splitting moves past a character that is not a comma. -/
theorem splitOnAux_next {s : String} {b i : String.Pos.Raw} {parts : List String}
    (hend : i.atEnd s = false) (hchar : (i.get s == String.Pos.Raw.get "," 0) = false) :
    s.splitOnAux "," b i 0 parts = s.splitOnAux "," b (i.next s) 0 parts := by
  rw [String.splitOnAux, hend, hchar]
  rfl

theorem splitOn_corp : "corp".splitOn "," = ["corp"] := by
  rw [String.splitOn, if_neg (by decide)]
  iterate 4 rw [splitOnAux_next (by decide +kernel) (by decide +kernel)]
  rw [String.splitOnAux, if_pos (by decide +kernel)]
  decide +kernel

theorem isDomainAllowed_sampleFile (domain : String) :
    isDomainAllowed sampleConfig domain sampleFile.toProvider.allowedDomains =
      decide ("corp" = domain) := by
  have htrim : trimText (lowerText sampleConfig.casing "corp") = "corp" := by decide +kernel
  unfold isDomainAllowed
  rw [show sampleFile.toProvider.allowedDomains = "corp" from rfl, splitOn_corp]
  simp [htrim]

theorem allowed_domain_signs_in :
    Restricted (fun _ => true) [] sampleFile sampleFile.toProvider ∧
      ∀ faults p result draws signedIn p', result.provider = "google" →
        result.email = "ann@corp" →
        providerByName faults .providerDomains p.dir result.provider = .error "timeout" →
        ssoLogin sampleConfig faults p result draws = (.ok signedIn, p') →
        isDomainAllowed sampleConfig "corp" sampleFile.toProvider.allowedDomains = true := by
  have hdomain : extractEmailDomain sampleConfig (lowerText sampleConfig.casing "ann@corp") =
      some "corp" := by decide +kernel
  have hallowed := isDomainAllowed_sampleFile "corp"
  refine ⟨sampleFile_restricted, ?_⟩
  exact (restricted_login_iff sampleFile_restricted hdomain (fun _ h => by cases h)).mpr
    (.inl hallowed)

/-- The database does not have the provider, and so its list is not looked at. -/
theorem other_domain_signs_in :
    loadProviders (fun _ => true) [] sampleFile "google" = some sampleFile.toProvider ∧
      (ssoLogin sampleConfig noFaults (memberPlatform (.error "not found") "google")
        (memberResult "google" "eve@evil") sampleDraws).1.toOption.isSome = true ∧
      extractEmailDomain sampleConfig "eve@evil" = some "evil" ∧
      isDomainAllowed sampleConfig "evil" sampleFile.toProvider.allowedDomains = false :=
  ⟨rfl, by decide +kernel, by decide +kernel, isDomainAllowed_sampleFile "evil"⟩

end BurnerByte.Sso
