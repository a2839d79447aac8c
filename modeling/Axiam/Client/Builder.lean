import Axiam.Client.Access
import Axiam.Core.OriginReading

/-!
# Building a client

`Client::Builder` (`src/client.cpp`): what its setters and `build` refuse, and what that settles for
every request of the client that comes out.  `ensure_secure_scheme` reads the base URL by hand;
`reading` is RFC 3986's division of the same text, and the path of a request is only appended to it.
-/

namespace Axiam.Client

open Axiam.Lib Axiam.Memo Uri

/-! ## The base URL -/

/-- The host of an authority, behind what may be a user. -/
def plainHost (authority : Str) : Str :=
  match afterLast 64 authority with
  | 91 :: inner =>
      match cut 93 inner with
      | some (literal, _) => literal
      | none => []
  | authority =>
      match cut 58 authority with
      | some (host, _) => host
      | none => authority

/-- `ensure_secure_scheme`: `https`, or `http` on a loopback host. -/
def ensureSecureScheme (baseUrl : Str) : Except Exc Unit :=
  match cutAt "://" baseUrl with
  | none => .error (.invalidArgument "AxiamClient: base_url must be an absolute https:// URL")
  | some (scheme, rest) =>
      let host := lower (plainHost (rest.takeWhile (!endsAuthority ·)))
      if lower scheme = str "https" then .ok ()
      else if lower scheme ≠ str "http" then
        .error (.invalidArgument (str "AxiamClient: base_url scheme '" ++ lower scheme ++
          "' is not supported; https:// is required"))
      else if isLoopbackHost host then .ok ()
      else
        .error (.invalidArgument (str "AxiamClient: refusing a plaintext http:// base_url for host '" ++
          host ++ "' (CONTRACT §6 requires https; http is allowed only for localhost, 127.0.0.1 " ++
          "and ::1)"))

example : ensureSecureScheme "http://localhost:8080" = .ok () := by decide
example : (ensureSecureScheme "http://localhost@a.example").toOption = none := by decide

/-- What a scheme and a host must be for a request to go out. -/
def Secure (scheme host : Str) : Prop :=
  lower scheme = str "https" ∨ (lower scheme = str "http" ∧ isLoopbackHost (lower host) = true)

/-- Of what stands in front of a query, the authority is what stands in front of a slash. -/
theorem takeWhile_endsPath (s : Str) :
    (s.takeWhile (!endsPath ·)).takeWhile (· != 47) = s.takeWhile (!endsAuthority ·) := by
  rw [List.takeWhile_takeWhile]
  congr 1
  funext c
  cases h47 : c == 47 <;> cases h63 : c == 63 <;> cases h35 : c == 35 <;>
    simp [endsAuthority, endsPath, bne, h47, h63, h35]

/-- Where a text has a scheme and an authority, `://` stands between them. -/
theorem reading_cut {url s : Str} {a : Authority} (h : reading url = some (s, a)) :
    ∃ rest, cutAt (str "://") url = some (s, rest) ∧
      Authority.ofText (rest.takeWhile (!endsAuthority ·)) = some a := by
  obtain ⟨hcolon, -⟩ := reading_scheme h
  obtain ⟨scheme, hscheme, h⟩ := Option.bind_eq_some_iff.mp h
  obtain ⟨text, htext, h⟩ := Option.bind_eq_some_iff.mp h
  obtain ⟨a', ha, h⟩ := Option.bind_eq_some_iff.mp h
  cases h
  obtain ⟨r, hhier, rfl⟩ : ∃ r, url.takeWhile (!endsPath ·) = s ++ 58 :: 47 :: 47 :: r ∧
      r.takeWhile (· != 47) = text := by
    simp only [reference, schemeRest] at hscheme htext
    cases hcut : cut 58 (url.takeWhile (!endsPath ·)) with
    | none => simp [hcut] at hscheme
    | some parts =>
        by_cases hno : parts.1 = [] ∨ 47 ∈ parts.1
        · simp [hcut, hno] at hscheme
        · simp only [hcut, hno, if_false] at hscheme htext
          cases hscheme
          obtain ⟨heq, -⟩ := cut_eq_some (a := parts.1) (b := parts.2) hcut
          unfold authorityPath at htext
          split at htext
          · next r hrest =>
              rw [hrest] at heq
              exact ⟨r, heq, Option.some.inj htext⟩
          · cases htext
  have hr : ∀ c ∈ r, (!endsPath c) = true := fun c hc => by
    have hmem : c ∈ url.takeWhile (!endsPath ·) := by
      rw [hhier]
      simp [hc]
    simpa using List.mem_takeWhile_imp hmem
  have hstops := dropWhile_stops endsPath url
  have hurl : url = s ++ (str "://" ++ (r ++ url.dropWhile (!endsPath ·))) := by
    conv_lhs => rw [← List.takeWhile_append_dropWhile (p := (!endsPath ·)) (l := url), hhier]
    simp only [List.append_assoc, List.cons_append]
    rfl
  generalize url.dropWhile (!endsPath ·) = tail at hstops hurl
  have htake : (r ++ tail).takeWhile (!endsPath ·) = r :=
    (takeWhile_append_of_stop hr (hstops.imp_right fun h => by
      obtain ⟨c, rest, heq, hc⟩ := h
      exact ⟨c, rest, heq, by rw [hc]; rfl⟩)).1
  refine ⟨r ++ tail, ?_, ?_⟩
  · have hmark : cutAt (str "://") (str "://" ++ (r ++ tail)) = some ([], r ++ tail) :=
      cutAt_self _ _
    rw [hurl, show str "://" = 58 :: [47, 47] from rfl, cutAt_skip hcolon]
    rw [show str "://" = 58 :: [47, 47] from rfl] at hmark
    rw [hmark, Option.map_some, List.append_nil]
  · rw [← takeWhile_endsPath, htake]
    exact ha

/-- What is appended to a text stands behind its first mark. -/
theorem cutAt_concat {pattern s a b : Str} (h : cutAt pattern s = some (a, b)) (more : Str) :
    cutAt pattern (s ++ more) = some (a, b ++ more) := by
  induction s generalizing a with
  | nil =>
      unfold cutAt at h
      split at h
      · next hpattern =>
          cases h
          subst hpattern
          cases more <;> simp [cutAt]
      · cases h
  | cons c rest ih =>
      unfold cutAt at h
      rw [List.cons_append, cutAt]
      split at h
      · next hprefix =>
          cases h
          obtain ⟨tail, htail⟩ := List.isPrefixOf_iff_prefix.mp hprefix
          rw [← List.cons_append, ← htail, List.append_assoc,
            if_pos (List.isPrefixOf_iff_prefix.mpr (List.prefix_append _ _)), List.drop_left,
            List.drop_left]
      · next hnot =>
          obtain ⟨⟨a', b'⟩, hrest, heq⟩ := Option.map_eq_some_iff.mp h
          cases heq
          have hlength : pattern.length ≤ (c :: rest).length := by
            rw [cutAt_eq_some hrest]
            simp only [List.length_cons, List.length_append]
            omega
          have hnot' : ¬pattern.isPrefixOf (c :: (rest ++ more)) = true := fun hlong =>
            hnot (List.isPrefixOf_iff_prefix.mpr (List.prefix_of_prefix_length_le
              (List.isPrefixOf_iff_prefix.mp hlong)
              (List.cons_append ▸ List.prefix_append (c :: rest) more) hlength))
          rw [if_neg hnot', ih hrest]
          rfl

theorem plainHost_of_bracket {authority inner : Str} (h : afterLast 64 authority = 91 :: inner) :
    plainHost authority = ((cut 93 inner).map Prod.fst).getD [] := by
  unfold plainHost
  rw [h]
  cases hcut : cut 93 inner <;> simp only [hcut, Option.map_none, Option.map_some, Option.getD]

theorem plainHost_of_plain {authority : Str} (h : ∀ inner, afterLast 64 authority ≠ 91 :: inner) :
    plainHost authority = ((cut 58 (afterLast 64 authority)).map Prod.fst).getD
      (afterLast 64 authority) := by
  unfold plainHost
  generalize afterLast 64 authority = text at h ⊢
  cases hcut : cut 58 text <;> simp only [hcut, Option.map_none, Option.map_some, Option.getD]

/-- The host of an authority that reads. -/
theorem plainHost_eq {text : Str} {a : Authority} (h : Authority.ofText text = some a) :
    plainHost text = a.host := by
  have hparts := Authority.ofText_eq_some h
  by_cases hbracket : ∃ inner, afterLast 64 text = 91 :: inner
  · obtain ⟨inner, hinner⟩ := hbracket
    rw [hinner] at hparts
    obtain ⟨⟨literal, after⟩, hcut, hafter⟩ := Option.bind_eq_some_iff.mp hparts
    rw [plainHost_of_bracket hinner, hcut]
    simp only at hafter
    split at hafter
    · exact congrArg (·.2.1) (Option.some.inj hafter)
    · exact congrArg (·.2.1) (Option.some.inj hafter)
    · cases hafter
  · rw [plainHost_of_plain fun inner heq => hbracket ⟨inner, heq⟩]
    unfold hostPort at hparts
    split at hparts
    · next inner heq => exact absurd ⟨inner, heq⟩ hbracket
    · cases hcut : cut 58 (afterLast 64 text) with
      | none =>
          rw [hcut] at hparts
          exact congrArg (·.2.1) (Option.some.inj hparts)
      | some parts =>
          rw [hcut] at hparts
          exact congrArg (·.2.1) (Option.some.inj hparts)

/-- And where `://` stands behind what may be a scheme, the text has one. -/
theorem reading_of_cut {url s rest : Str} (hcut : cutAt (str "://") url = some (s, rest))
    (hne : s ≠ []) (hcolon : 58 ∉ s) (hplain : ∀ c ∈ s, endsAuthority c = false) :
    reading url = (Authority.ofText (rest.takeWhile (!endsAuthority ·))).map (s, ·) := by
  have hends : ∀ c ∈ s ++ str "://", (!endsPath c) = true := by
    intro c hc
    rcases List.mem_append.mp hc with hc | hc
    · have hnot := hplain c hc
      simp only [endsAuthority, Bool.or_eq_false_iff] at hnot
      simp [endsPath, hnot]
    · exact forall_mem_of_all (by decide : (str "://").all (fun d => decide ((!endsPath d) = true))) c hc
  have hslash : 47 ∉ s := fun hc => absurd (hplain 47 hc) (by decide)
  have htake : url.takeWhile (!endsPath ·) = s ++ 58 :: 47 :: 47 :: rest.takeWhile (!endsPath ·) := by
    rw [cutAt_eq_some hcut, ← List.append_assoc, List.takeWhile_append_of_pos hends,
      List.append_assoc]
    rfl
  have hauthority : (rest.takeWhile (!endsPath ·)).takeWhile (· != 47) =
      rest.takeWhile (!endsAuthority ·) := takeWhile_endsPath rest
  have hscheme : schemeRest (url.takeWhile (!endsPath ·)) =
      (some s, 47 :: 47 :: rest.takeWhile (!endsPath ·)) := by
    unfold schemeRest
    rw [htake, cut_append _ hcolon]
    simp [hne, hslash]
  unfold reading reference
  rw [hscheme]
  simp only [authorityPath, hauthority, Option.bind_eq_bind, Option.bind_some]
  cases Authority.ofText (rest.takeWhile (!endsAuthority ·)) <;> rfl

/-- An authority ends where a path begins. -/
theorem takeWhile_append_slash (s : Str) {path : Str} (hpath : path.head? = some 47) :
    (s ++ path).takeWhile (!endsAuthority ·) = s.takeWhile (!endsAuthority ·) := by
  obtain ⟨rest, rfl⟩ := List.head?_eq_some_iff.mp hpath
  induction s with
  | nil => rfl
  | cons c s ih =>
      rw [List.cons_append, List.takeWhile_cons, List.takeWhile_cons, ih]

section

variable {url s : Str} {a : Authority}

theorem ensureSecureScheme_of_cut {scheme rest : Str}
    (hcut : cutAt (str "://") url = some (scheme, rest)) :
    ensureSecureScheme url = .ok () ↔
      Secure scheme (plainHost (rest.takeWhile (!endsAuthority ·))) := by
  unfold ensureSecureScheme Secure
  rw [hcut]
  by_cases hhttps : lower scheme = str "https"
  · simp [hhttps]
  · by_cases hhttp : lower scheme = str "http"
    · cases hhost : isLoopbackHost (lower (plainHost (rest.takeWhile (!endsAuthority ·)))) with
      | true => simp [hhttp, hhost]
      | false => simp [hhttp, hhost]
    · simp [hhttps, hhttp]

/-- Of the texts that read as a scheme and an authority, those are accepted that are secure. -/
theorem ensureSecureScheme_iff (h : reading url = some (s, a)) :
    ensureSecureScheme url = .ok () ↔ Secure s a.host := by
  obtain ⟨rest, hcut, hread⟩ := reading_cut h
  rw [ensureSecureScheme_of_cut hcut, plainHost_eq hread]

theorem ensureSecureScheme_literal :
    ensureSecureScheme "HTTP://a.example@[::1]:8080/x" = .ok () ↔ Secure "HTTP" "::1" :=
  ensureSecureScheme_iff (a := ⟨some "a.example", true, "::1", some "8080"⟩) (by decide)

/-- A path that is appended to a text that was accepted leaves its scheme and its authority alone,
and they are secure. -/
theorem secure_of_appended {path : Str} (hok : ensureSecureScheme url = .ok ())
    (hpath : path.head? = some 47) (h : reading (url ++ path) = some (s, a)) :
    reading url = some (s, a) ∧ Secure s a.host := by
  obtain ⟨whole, hwhole, hread⟩ := reading_cut h
  cases hcut : cutAt (str "://") url with
  | none =>
      rw [ensureSecureScheme, hcut] at hok
      cases hok
  | some parts =>
      obtain ⟨scheme, rest⟩ := parts
      rw [cutAt_concat hcut path] at hwhole
      cases hwhole
      rw [takeWhile_append_slash rest hpath] at hread
      have hsecure := (ensureSecureScheme_of_cut hcut).mp hok
      rw [plainHost_eq hread] at hsecure
      obtain ⟨hcolon, hplain⟩ := reading_scheme h
      have hne : s ≠ [] := by
        rintro rfl
        rcases hsecure with h | ⟨h, -⟩ <;> cases h
      exact ⟨by rw [reading_of_cut hcut hne hcolon hplain, hread]; rfl, hsecure⟩

end

/-! ## The builder -/

/-- `kOidcDiscoveryTtlFloorSeconds`. -/
def kOidcDiscoveryTtlFloorSeconds : Int := 300

/-- `kOidcMaxClockSkewSeconds`. -/
def kOidcMaxClockSkewSeconds : Int := 60

/-- What the setters have settled so far; the durations are in the units of their setters. -/
structure Builder where
  baseUrl : Str := []
  tenantSlug : Option Str := none
  tenantId : Option Str := none
  orgSlug : Option Str := none
  orgId : Option Str := none
  maxConcurrentRequests : Nat := 16
  customCaPem : Str := []
  clientCertPem : Str := []
  clientKeyPem : Str := []
  actingTenantId : Option Str := none
  connectTimeout : Int := 10000
  requestTimeout : Int := 30000
  retryEnabled : Bool := true
  decisionMemoTtl : Int := 0
  oidcClientId : Option Str := none
  oidcClientSecret : Option Str := none
  oidcDiscoveryTtl : Int := kOidcDiscoveryTtlFloorSeconds
  oidcClockSkew : Int := kOidcMaxClockSkewSeconds

/-- A call of a setter. -/
inductive Setting where
  | baseUrl (url : Str)
  | tenantSlug (slug : Str)
  | tenantId (id : Str)
  | oidcClientId (id : Str)
  | oidcClientSecret (secret : Str)
  | oidcDiscoveryTtl (ttl : Int)
  | oidcClockSkew (skew : Int)
  | retryEnabled (enabled : Bool)
  | decisionMemoTtl (ttl : Int)
  | orgSlug (slug : Str)
  | orgId (id : Str)
  | withCustomCa (caPem : Str)
  | withClientCert (certPem keyPem : Str)
  | withActingTenant (tenantId : Str)
  | connectTimeout (ms : Int)
  | requestTimeout (ms : Int)
  | maxConcurrentRequests (n : Nat)

/-- `find("-----BEGIN")` finds something. -/
def looksLikePem (s : Str) : Bool := (cutAt "-----BEGIN" s).isSome

/-- One setter. -/
def Builder.set (b : Builder) : Setting → Except Exc Builder
  -- the slashes at the end go, however many
  | .baseUrl url => .ok { b with baseUrl := (url.reverse.dropWhile (· == 47)).reverse }
  | .tenantSlug slug => .ok { b with tenantSlug := some slug }
  | .tenantId id => .ok { b with tenantId := some id }
  | .oidcClientId id => .ok { b with oidcClientId := some id }
  | .oidcClientSecret secret =>
      .ok (if secret = [] then b else { b with oidcClientSecret := some secret })
  | .oidcDiscoveryTtl ttl => .ok { b with oidcDiscoveryTtl := ttl }
  | .oidcClockSkew skew => .ok { b with oidcClockSkew := skew }
  | .retryEnabled enabled => .ok { b with retryEnabled := enabled }
  | .decisionMemoTtl ttl => .ok { b with decisionMemoTtl := ttl }
  | .orgSlug slug => .ok { b with orgSlug := some slug }
  | .orgId id => .ok { b with orgId := some id }
  | .withCustomCa caPem =>
      if looksLikePem caPem then .ok { b with customCaPem := caPem }
      else .error (.invalidArgument "with_custom_ca: expected PEM-encoded certificate")
  | .withClientCert certPem keyPem =>
      if looksLikePem certPem && looksLikePem keyPem then
        .ok { b with clientCertPem := certPem, clientKeyPem := keyPem }
      else
        .error (.invalidArgument
          "with_client_cert: expected PEM cert chain and PEM private key")
  | .withActingTenant tenantId =>
      if looksLikeUuid tenantId then .ok { b with actingTenantId := some tenantId }
      else
        .error (.invalidArgument (str "with_acting_tenant: \"" ++ tenantId ++ "\" is not a UUID " ++
          "(CONTRACT.md §5.2 rule 1) — the server silently ignores a value that does not parse " ++
          "and acts on the caller's own tenant instead"))
  | .connectTimeout ms => .ok { b with connectTimeout := ms }
  | .requestTimeout ms => .ok { b with requestTimeout := ms }
  | .maxConcurrentRequests n => .ok { b with maxConcurrentRequests := if n = 0 then 1 else n }

/-- A builder after some setters; one that throws leaves it as it is. -/
def configure (settings : List Setting) : Builder :=
  settings.foldl (fun b setting => (b.set setting).toOption.getD b) {}

/-- `is_blank`. -/
def isBlank (v : Option Str) : Bool :=
  v.any fun s => s.all fun c => c == 32 || c == 9 || c == 13 || c == 10

/-- What `build` puts into the client. -/
structure Config where
  baseUrl : Str
  tenantSlug : Option Str
  tenantId : Option Str
  orgSlug : Option Str
  orgId : Option Str
  tenantHeader : Str
  actingTenantId : Option Str
  customCaPem : Str
  clientCertPem : Str
  clientKeyPem : Str
  connectTimeoutMs : Int
  requestTimeoutMs : Int
  maxConcurrentRequests : Nat
  presentsClientCertificate : Bool
  oidcClientId : Option Str
  oidcClientSecret : Option Str
  oidcDiscoveryTtl : Int
  oidcClockSkew : Int
  retryEnabled : Bool
  memoTtl : Int

/-- What a client must name. -/
def Builder.checkTenant (b : Builder) : Except Exc Unit :=
  if b.tenantSlug = none ∧ b.tenantId = none then
    .error (.auth "AxiamClient: tenant_slug or tenant_id is required (no default tenant)")
  else if isBlank b.tenantSlug then
    .error (.auth ("AxiamClient: tenant_slug must not be blank — there is no default tenant; to " ++
      "sign in an organization-level principal, name the organization's reserved tenant, whose " ++
      "slug is \"organization\" (§5, §5.2.1)"))
  else if isBlank b.tenantId then
    .error (.auth "AxiamClient: tenant_id must not be blank (§5, §5.2.1)")
  else if isBlank b.orgSlug then
    .error (.auth ("AxiamClient: org_slug must not be blank — omit it entirely, or name the " ++
      "organization (§5.1, §5.2.1)"))
  else .ok ()

/-- The members of the client, the durations of OIDC and of the memo brought into their bounds. -/
def Builder.config (b : Builder) : Config where
  baseUrl := b.baseUrl
  tenantSlug := b.tenantSlug
  tenantId := b.tenantId
  orgSlug := b.orgSlug
  orgId := b.orgId
  tenantHeader := b.tenantId.getD (b.tenantSlug.getD [])
  actingTenantId := b.actingTenantId
  customCaPem := b.customCaPem
  clientCertPem := b.clientCertPem
  clientKeyPem := b.clientKeyPem
  connectTimeoutMs := b.connectTimeout
  requestTimeoutMs := b.requestTimeout
  maxConcurrentRequests := b.maxConcurrentRequests
  presentsClientCertificate := b.clientCertPem ≠ []
  oidcClientId := b.oidcClientId
  oidcClientSecret := b.oidcClientSecret
  oidcDiscoveryTtl := max b.oidcDiscoveryTtl kOidcDiscoveryTtlFloorSeconds
  oidcClockSkew := max 0 (min b.oidcClockSkew kOidcMaxClockSkewSeconds)
  retryEnabled := b.retryEnabled
  memoTtl := (DecisionMemo.build (milliseconds b.decisionMemoTtl) : DecisionMemo Unit).ttl

/-- `build`. -/
def Builder.build (b : Builder) : Except Exc Config := do
  if b.baseUrl = [] then .error (.invalidArgument "AxiamClient: base_url is required")
  ensureSecureScheme b.baseUrl
  b.checkTenant
  pure b.config

/-- The client that was built; `env` has the functions it calls that are not its own. -/
def Config.env (config : Config) (env : Env) : Env :=
  { env with
    baseUrl := config.baseUrl
    tenantSlug := config.tenantSlug
    tenantId := config.tenantId
    orgSlug := config.orgSlug
    orgId := config.orgId
    tenantHeader := config.tenantHeader
    presentsClientCertificate := config.presentsClientCertificate
    retryEnabled := config.retryEnabled }

/-! ## What is built -/

/-- What the setters keep: every value they take has been checked by then, or will be. -/
structure Builder.Sound (b : Builder) : Prop where
  acting : ActingOk b.actingTenantId
  secret : b.oidcClientSecret ≠ some []
  identity : (b.clientCertPem = [] ∧ b.clientKeyPem = []) ∨
    (looksLikePem b.clientCertPem = true ∧ looksLikePem b.clientKeyPem = true)
  connections : 0 < b.maxConcurrentRequests

theorem Builder.Sound.set {b c : Builder} {setting : Setting} (h : b.Sound)
    (hset : b.set setting = .ok c) : c.Sound := by
  cases setting with
  | withActingTenant tenantId =>
      simp only [Builder.set] at hset
      by_cases huuid : looksLikeUuid tenantId = true
      · rw [if_pos huuid] at hset
        cases hset
        exact { h with acting := fun t ht => by cases ht; exact huuid }
      · rw [if_neg huuid] at hset
        cases hset
  | withClientCert certPem keyPem =>
      simp only [Builder.set] at hset
      by_cases hpem : (looksLikePem certPem && looksLikePem keyPem) = true
      · rw [if_pos hpem] at hset
        cases hset
        exact { h with identity := .inr (Bool.and_eq_true_iff.mp hpem) }
      · rw [if_neg hpem] at hset
        cases hset
  | withCustomCa caPem =>
      simp only [Builder.set] at hset
      split at hset
      · cases hset
        exact ⟨h.acting, h.secret, h.identity, h.connections⟩
      · cases hset
  | oidcClientSecret secret =>
      cases hset
      by_cases hempty : secret = []
      · rw [if_pos hempty]
        exact h
      · rw [if_neg hempty]
        exact { h with secret := fun heq => hempty (Option.some.inj heq) }
  | maxConcurrentRequests n =>
      cases hset
      refine { h with connections := ?_ }
      show 0 < if n = 0 then 1 else n
      split <;> omega
  | _ =>
      cases hset
      exact ⟨h.acting, h.secret, h.identity, h.connections⟩

/-- Whatever is set, in whatever order, and whichever setters throw. -/
theorem configure_sound (settings : List Setting) : (configure settings).Sound := by
  suffices h : ∀ b : Builder, b.Sound →
      (settings.foldl (fun b setting => (b.set setting).toOption.getD b) b).Sound from
    h {} ⟨nofun, nofun, .inl ⟨rfl, rfl⟩, by decide⟩
  induction settings with
  | nil => exact fun b h => h
  | cons setting settings ih =>
      intro b h
      refine ih _ ?_
      show ((b.set setting).toOption.getD b).Sound
      cases hset : b.set setting with
      | error e => exact h
      | ok c => exact h.set hset

/-- What `build` lets through. -/
structure Config.Sound (config : Config) : Prop where
  scheme : ensureSecureScheme config.baseUrl = .ok ()
  tenant : isBlank (some config.tenantHeader) = false
  acting : ActingOk config.actingTenantId
  secret : config.oidcClientSecret ≠ some []
  identity : config.presentsClientCertificate = true ↔
    looksLikePem config.clientCertPem = true ∧ looksLikePem config.clientKeyPem = true
  connections : 0 < config.maxConcurrentRequests
  discovery : kOidcDiscoveryTtlFloorSeconds ≤ config.oidcDiscoveryTtl
  skew : 0 ≤ config.oidcClockSkew ∧ config.oidcClockSkew ≤ kOidcMaxClockSkewSeconds
  memo : 0 ≤ config.memoTtl ∧ config.memoTtl ≤ kMemoMaxTtl

/-- What is built has passed the checks of the base URL and of the tenant. -/
theorem Builder.build_eq_ok {b : Builder} {config : Config} (h : b.build = .ok config) :
    ensureSecureScheme b.baseUrl = .ok () ∧ b.checkTenant = .ok () ∧ config = b.config := by
  unfold Builder.build at h
  by_cases hempty : b.baseUrl = []
  · rw [if_pos hempty] at h
    cases h
  · rw [if_neg hempty] at h
    cases hscheme : ensureSecureScheme b.baseUrl with
    | error e =>
        rw [hscheme] at h
        cases h
    | ok _ =>
        cases htenant : b.checkTenant with
        | error e =>
            rw [hscheme, htenant] at h
            cases h
        | ok _ =>
            rw [hscheme, htenant] at h
            cases h
            exact ⟨rfl, rfl, rfl⟩

/-- The identifier in the header is one that was named, and none that was named is blank. -/
theorem Builder.tenantHeader_named {b : Builder} (h : b.checkTenant = .ok ()) :
    isBlank (some (b.tenantId.getD (b.tenantSlug.getD []))) = false := by
  unfold Builder.checkTenant at h
  by_cases hnone : b.tenantSlug = none ∧ b.tenantId = none
  · rw [if_pos hnone] at h
    cases h
  by_cases hslug : isBlank b.tenantSlug = true
  · rw [if_neg hnone, if_pos hslug] at h
    cases h
  by_cases hid : isBlank b.tenantId = true
  · rw [if_neg hnone, if_neg hslug, if_pos hid] at h
    cases h
  rw [Bool.not_eq_true] at hslug hid
  cases htenant : b.tenantId with
  | some id => rwa [htenant] at hid
  | none =>
      cases hs : b.tenantSlug with
      | some slug => rwa [hs] at hslug
      | none => exact absurd ⟨hs, htenant⟩ hnone

theorem memoTtl_bounds (requested : Int) :
    0 ≤ (DecisionMemo.build requested : DecisionMemo Unit).ttl ∧
      (DecisionMemo.build requested : DecisionMemo Unit).ttl ≤ kMemoMaxTtl := by
  unfold DecisionMemo.build kMemoMaxTtl milliseconds
  simp only
  split <;> omega

/-- Whatever is set, a client that is built is sound. -/
theorem build_sound (settings : List Setting) {config : Config}
    (h : (configure settings).build = .ok config) : config.Sound := by
  have hsound := configure_sound settings
  generalize configure settings = b at h hsound
  obtain ⟨hscheme, htenant, rfl⟩ := Builder.build_eq_ok h
  have hpem : ∀ pem : Str, looksLikePem pem = true → pem ≠ [] := by
    rintro _ hpem rfl
    exact absurd hpem (by decide)
  refine ⟨hscheme, Builder.tenantHeader_named htenant, hsound.acting, hsound.secret, ?_,
    hsound.connections, Int.le_max_right _ _, ?_, memoTtl_bounds _⟩
  · show decide (b.clientCertPem ≠ []) = true ↔
      looksLikePem b.clientCertPem = true ∧ looksLikePem b.clientKeyPem = true
    rcases hsound.identity with ⟨hcert, hkey⟩ | ⟨hcert, hkey⟩
    · rw [hcert, hkey]
      decide
    · simp [hcert, hkey, hpem _ hcert]
  · show 0 ≤ max 0 (min b.oidcClockSkew kOidcMaxClockSkewSeconds) ∧
      max 0 (min b.oidcClockSkew kOidcMaxClockSkewSeconds) ≤ kOidcMaxClockSkewSeconds
    unfold kOidcMaxClockSkewSeconds
    omega

/-- Every request of a client that was built names a tenant.  Where its URL reads, it goes to the
scheme and the authority of the base URL, in the clear to the machine itself only. -/
theorem built_requests_secure {δ : Type} (settings : List Setting) {config : Config}
    (hbuild : (configure settings).build = .ok config) (env : Env) (s : Impl δ)
    (method body : Str) {path : Str} (hpath : path.head? = some 47) :
    let req := buildRequest (config.env env) s method path body
    (∃ tenant, req.headers.find? "X-Tenant-ID" = some tenant ∧ isBlank (some tenant) = false) ∧
      ∀ scheme a, reading req.url = some (scheme, a) →
        reading config.baseUrl = some (scheme, a) ∧ Secure scheme a.host := by
  have hsound := build_sound settings hbuild
  refine ⟨⟨config.tenantHeader, ?_, hsound.tenant⟩, fun scheme a hread => ?_⟩
  · show HeaderMap.find? _ _ = _
    unfold buildRequest
    simp only [List.append_assoc]
    rw [find?_header_ne _ _ (by decide), find?_header_ne _ _ (by decide),
      find?_header_ne _ _ (by decide), find?_header_ne _ _ (by decide),
      find?_header_ne _ _ (by decide)]
    rfl
  · exact secure_of_appended hsound.scheme hpath hread

/-- A plaintext base URL of the machine itself, a trailing slash and a setter that throws. -/
def localSettings : List Setting :=
  [.baseUrl "http://localhost:8080/", .tenantSlug "acme", .withActingTenant "acme"]

theorem local_requests_secure :
    ∃ config, (configure localSettings).build = .ok config ∧ ∀ env : Env,
      let req := buildRequest (config.env env) ({} : Impl) "POST" "/api/v1/auth/login" []
      (∃ tenant, req.headers.find? "X-Tenant-ID" = some tenant ∧ isBlank (some tenant) = false) ∧
        ∀ scheme a, reading req.url = some (scheme, a) →
          reading config.baseUrl = some (scheme, a) ∧ Secure scheme a.host :=
  have hbuild : (configure localSettings).build = .ok (configure localSettings).config := rfl
  ⟨_, hbuild, fun env => built_requests_secure localSettings hbuild env {} "POST" [] (by decide)⟩

end Axiam.Client
