import Axiam.Mcp.Challenge

/-!
# Protected-resource metadata

`protected_resource_metadata`, `mcp_challenges`, `is_metadata_document_request` and
`check_mcp_configuration_matches` (`src/mcp.cpp`).  The URL a document is served at is derived from
the resource's identifier, and the four agree on it.
-/

namespace Axiam.Mcp

open Axiam.Lib

/-! ## The document -/

structure ProtectedResourceMetadataDocument where
  resource : Str
  authorizationServers : List Str
  scopesSupported : List Str
  bearerMethodsSupported : List Str
  resourceDocumentation : Option Str

structure ProtectedResourceMetadataOptions where
  resource : Str
  authorizationServers : List Str
  scopesSupported : List Str := []
  bearerMethodsSupported : List Str := [str "header"]
  resourceDocumentation : Option Str := none

structure ProtectedResourceMetadata where
  document : ProtectedResourceMetadataDocument
  metadataPath : Str
  metadataUrl : Str

def kMetadataPrefix : Str := "/.well-known/oauth-protected-resource"

/-- `derive_metadata_path`: an empty path and a bare `/` both reach the root form. -/
def deriveMetadataPath (resourcePath : Str) : Str :=
  if resourcePath = [] ∨ resourcePath = str "/" then kMetadataPrefix
  else kMetadataPrefix ++ resourcePath

/-- A rule, and what is thrown of options that break it. -/
def demand (rule : Bool) (why : Str) : Except Str Unit := if rule then .ok () else .error why

/-- The entries of `authorization_servers`, those before them being `seen`. -/
def checkServers (seen : List Str) : List Str → Except Str Unit
  | [] => .ok ()
  | entry :: rest => do
      let _ ← requireAbsoluteUri "authorization_servers" entry kIdentifier
      demand (!seen.contains entry)
        (refusal "authorization_servers" (str "duplicate entry \"" ++ entry ++ str "\""))
      checkServers (entry :: seen) rest

/-- The entries of `scopes_supported`. -/
def checkScopes (seen : List Str) : List Str → Except Str Unit
  | [] => .ok ()
  | scope :: rest => do
      demand (isAll scope isNqchar) (refusal "scopes_supported" (str "\"" ++ scope ++
        str ("\" is not a scope token — one or more NQCHAR (no space, " ++
          "no '\"', no '\\', no control character, no non-ASCII)")))
      demand (!seen.contains scope)
        (refusal "scopes_supported" (str "duplicate scope \"" ++ scope ++ str "\""))
      checkScopes (scope :: seen) rest

def checkDocumentation : Option Str → Except Str Unit
  | none => .ok ()
  | some url => (requireAbsoluteUri "resource_documentation" url kLocator).map fun _ => ()

/-- `protected_resource_metadata`. -/
def protectedResourceMetadata (options : ProtectedResourceMetadataOptions) :
    Except Str ProtectedResourceMetadata := do
  let parsed ← requireAbsoluteUri "resource" options.resource kIdentifier
  demand (options.authorizationServers != []) (refusal "authorization_servers"
    (str ("must name at least one authorization server — a document that names none " ++
      "answers none of the question the client asked")))
  checkServers [] options.authorizationServers
  checkScopes [] options.scopesSupported
  demand (options.bearerMethodsSupported == [str "header"]) (refusal "bearer_methods_supported"
    (str ("must be exactly [\"header\"] in this contract version — §10's guard reads a " ++
      "bearer credential from the Authorization header alone")))
  checkDocumentation options.resourceDocumentation
  let metadataPath := deriveMetadataPath parsed.path
  return {
    document := {
      resource := options.resource
      authorizationServers := options.authorizationServers
      scopesSupported := options.scopesSupported
      bearerMethodsSupported := [str "header"]
      resourceDocumentation := options.resourceDocumentation }
    metadataPath := metadataPath
    metadataUrl := parsed.scheme ++ str "://" ++ parsed.authority ++ metadataPath }

/-! ## The challenges of a configuration -/

structure McpChallenges where
  resourceMetadataUrl : Str
  expectedAudience : Str
  metadataPath : Str
  noCredential : Str
  invalidToken : Str

/-- `mcp_challenges`. -/
def mcpChallenges (resourceMetadataUrl expectedAudience : Str) : Except Str McpChallenges := do
  demand (expectedAudience != []) (refusal "resource_metadata_url"
    (str ("requires expected_audience to be set on the same configuration (CONTRACT.md " ++
      "§28.5 rule 2) — announcing a resource identifier obliges this server to check " ++
      "that an inbound token's `aud` is that identifier, and a resource server that " ++
      "announces itself without checking is opened by a token minted for somebody else")))
  let parsed ← requireAbsoluteUri "resource_metadata_url" resourceMetadataUrl kLocator
  let noCredential ← bearerChallenge { resourceMetadataUrl := resourceMetadataUrl }
  let invalidToken ← bearerChallenge
    { resourceMetadataUrl := resourceMetadataUrl, error := some .invalidToken }
  return {
    resourceMetadataUrl := resourceMetadataUrl
    expectedAudience := expectedAudience
    metadataPath := if parsed.path = [] then str "/" else parsed.path
    noCredential := noCredential
    invalidToken := invalidToken }

/-- `mcp_insufficient_scope_challenge`. -/
def mcpInsufficientScopeChallenge (challenges : McpChallenges) (scope : Str) : Except Str Str :=
  bearerChallenge {
    resourceMetadataUrl := challenges.resourceMetadataUrl
    error := some .insufficientScope
    scope := some scope }

/-- `is_metadata_document_request`. -/
def isMetadataDocumentRequest (challenges : Option McpChallenges) (method path : Str) : Bool :=
  match challenges with
  | none => false
  | some challenges =>
      if method ≠ "GET" ∧ method ≠ "HEAD" then false
      else path.takeWhile (!Uri.endsPath ·) == challenges.metadataPath

/-- `check_mcp_configuration_matches`. -/
def checkMcpConfigurationMatches (challenges : Option McpChallenges)
    (metadata : ProtectedResourceMetadata) : Except Str Unit :=
  match challenges with
  | none => .ok ()
  | some challenges =>
      if challenges.resourceMetadataUrl ≠ metadata.metadataUrl then
        .error (refusal "resource_metadata_url"
          (str "is \"" ++ challenges.resourceMetadataUrl ++
            str "\" but this document is published at \"" ++ metadata.metadataUrl ++
            str ("\" — the challenge would point at a document " ++
              "that is not this resource server's")))
      else if challenges.expectedAudience ≠ metadata.document.resource then
        .error (refusal "expected_audience"
          (str "is \"" ++ challenges.expectedAudience ++
            str "\" but this document announces \"" ++ metadata.document.resource ++
            str ("\" — the document would announce one identifier " ++
              "while the guard checked `aud` against another, so every token the flow " ++
              "produced would be refused")))
      else .ok ()

/-! ## The URL that is derived -/

/-- The URI of the document that describes a resource. -/
def ParsedUri.metadata (p : ParsedUri) : ParsedUri := { p with path := deriveMetadataPath p.path }

theorem deriveMetadataPath_plain {path : Str} (h : ∀ c ∈ path, Uri.endsPath c = false) :
    ∀ c ∈ deriveMetadataPath path, Uri.endsPath c = false := by
  have hwellKnown : ∀ c ∈ kMetadataPrefix, Uri.endsPath c = false :=
    forall_mem_of_all (by decide)
  unfold deriveMetadataPath
  split
  · exact hwellKnown
  · intro c hc
    rcases List.mem_append.mp hc with hc | hc
    · exact hwellKnown c hc
    · exact h c hc

theorem deriveMetadataPath_eq_cons (path : Str) :
    ∃ rest, deriveMetadataPath path = 47 :: rest := by
  have hwellKnown : kMetadataPrefix = 47 :: kMetadataPrefix.tail := by decide
  unfold deriveMetadataPath
  split
  · exact ⟨_, hwellKnown⟩
  · rw [hwellKnown]
    exact ⟨_, rfl⟩

/-- A derived path is derived from one path, or from the empty one and the bare slash. -/
theorem deriveMetadataPath_cases {a b : Str} (h : deriveMetadataPath a = deriveMetadataPath b) :
    a = b ∨ (a = [] ∨ a = str "/") ∧ (b = [] ∨ b = str "/") := by
  have hself {path : Str} (hpath : kMetadataPrefix = kMetadataPrefix ++ path) : path = [] := by
    have hlength := congrArg List.length hpath
    rw [List.length_append] at hlength
    exact List.length_eq_zero_iff.mp (by omega)
  unfold deriveMetadataPath at h
  split_ifs at h with ha hb hb
  · exact .inr ⟨ha, hb⟩
  · exact absurd (.inl (hself h)) hb
  · exact absurd (.inl (hself h.symm)) ha
  · exact .inl (List.append_cancel_left h)

theorem ParsedUri.Bare.metadata {p : ParsedUri} (h : p.Bare) : p.metadata.Bare where
  scheme := h.scheme
  authority_ne := h.authority_ne
  authority := h.authority
  path := .inr (deriveMetadataPath_eq_cons p.path)
  path_plain := deriveMetadataPath_plain h.path_plain
  noQuery := h.noQuery
  noFragment := h.noFragment

/-- What is accepted is a bare URI, and what is derived is its metadata's. -/
theorem protectedResourceMetadata_ok {options : ProtectedResourceMetadataOptions}
    {result : ProtectedResourceMetadata} (h : protectedResourceMetadata options = .ok result) :
    ∃ p : ParsedUri, p.Bare ∧ isSecure p = true ∧ options.resource = p.text ∧
      result.document.resource = options.resource ∧
      result.metadataPath = deriveMetadataPath p.path ∧ result.metadataUrl = p.metadata.text := by
  unfold protectedResourceMetadata at h
  obtain ⟨p, hp, h⟩ := except_bind_eq_ok.mp h
  obtain ⟨hparse, hquery, hfragment, hsecure⟩ := requireAbsoluteUri_eq_ok.mp hp
  obtain ⟨hbare, htext⟩ := bare_of_parse hparse (by simpa [kIdentifier] using hquery)
    (by simpa [kIdentifier] using hfragment)
  obtain ⟨_, _, h⟩ := except_bind_eq_ok.mp h
  obtain ⟨_, _, h⟩ := except_bind_eq_ok.mp h
  obtain ⟨_, _, h⟩ := except_bind_eq_ok.mp h
  obtain ⟨_, _, h⟩ := except_bind_eq_ok.mp h
  obtain ⟨_, _, h⟩ := except_bind_eq_ok.mp h
  cases h
  refine ⟨p, hbare, hsecure, htext, rfl, rfl, ?_⟩
  simp only [ParsedUri.text, ParsedUri.metadata, List.append_assoc]

/-- Of two resources with one document the second is the first, or the two differ in a slash
behind the authority. -/
theorem resource_of_metadata_eq {p q : ParsedUri} (hp : p.Bare) (hq : q.Bare)
    (h : p.metadata.text = q.metadata.text) :
    p.text = q.text ∨
      p.scheme = q.scheme ∧ p.authority = q.authority ∧
        (p.path = [] ∨ p.path = str "/") ∧ (q.path = [] ∨ q.path = str "/") := by
  have hsame : p.metadata = q.metadata := by
    have hparse := hp.metadata.parse
    rw [h, hq.metadata.parse] at hparse
    exact (Option.some.inj hparse).symm
  have hscheme : p.metadata.scheme = q.metadata.scheme := congrArg ParsedUri.scheme hsame
  have hauthority : p.metadata.authority = q.metadata.authority :=
    congrArg ParsedUri.authority hsame
  have hpaths : p.metadata.path = q.metadata.path := congrArg ParsedUri.path hsame
  change p.scheme = q.scheme at hscheme
  change p.authority = q.authority at hauthority
  rcases deriveMetadataPath_cases hpaths with hpath | hroots
  · left
    unfold ParsedUri.text
    rw [hscheme, hauthority, hpath]
  · exact .inr ⟨hscheme, hauthority, hroots⟩

/-- The challenges for a document's URL, where that has the characters of a URL. -/
theorem mcpChallenges_metadata {p : ParsedUri} (hp : p.Bare) (hsecure : isSecure p = true)
    (hchars : ∀ c ∈ p.text, isNqchar c = true) :
    ∃ challenges, mcpChallenges p.metadata.text p.text = .ok challenges ∧
      challenges.resourceMetadataUrl = p.metadata.text ∧ challenges.expectedAudience = p.text ∧
      challenges.metadataPath = deriveMetadataPath p.path := by
  -- the URL is made of the resource's own characters and the well-known path
  have hurl : ∀ c ∈ p.metadata.text, isNqchar c = true := by
    intro c hc
    have hwellKnown : ∀ c ∈ kMetadataPrefix, isNqchar c = true := forall_mem_of_all (by decide)
    have hpart : c ∈ p.text ∨ c ∈ kMetadataPrefix := by
      simp only [ParsedUri.text, ParsedUri.metadata, deriveMetadataPath, List.mem_append] at hc ⊢
      rcases hc with hc | hc | hc | hc
      · exact .inl (.inl hc)
      · exact .inl (.inr (.inl hc))
      · exact .inl (.inr (.inr (.inl hc)))
      · split at hc
        · exact .inr hc
        · rcases List.mem_append.mp hc with hc | hc
          · exact .inr hc
          · exact .inl (.inr (.inr (.inr hc)))
    rcases hpart with hc | hc
    · exact hchars c hc
    · exact hwellKnown c hc
  have hparse : parseAbsoluteUri p.metadata.text = some p.metadata := hp.metadata.parse
  have hrepresentable (error : Option BearerChallengeError)
      (herror : ∀ e ∈ error, ∃ name, e.name? = some name) :
      BearerChallengeOptions.Representable
        { resourceMetadataUrl := p.metadata.text, error := error } :=
    ⟨herror, by simp, by simp, ⟨p.metadata, hparse, hsecure⟩, hurl⟩
  obtain ⟨noCredential, hnoCredential⟩ :
      ∃ out, bearerChallenge { resourceMetadataUrl := p.metadata.text } = .ok out :=
    ⟨_, bearerChallenge_eq_ok.mpr ⟨hrepresentable none (by simp), rfl⟩⟩
  obtain ⟨invalidToken, hinvalidToken⟩ : ∃ out, bearerChallenge
      { resourceMetadataUrl := p.metadata.text, error := some .invalidToken } = .ok out :=
    ⟨_, bearerChallenge_eq_ok.mpr
      ⟨hrepresentable (some .invalidToken) (by simp [BearerChallengeError.name?]), rfl⟩⟩
  have hrequire : requireAbsoluteUri "resource_metadata_url" p.metadata.text kLocator =
      .ok p.metadata :=
    requireAbsoluteUri_eq_ok.mpr ⟨hparse, fun _ => rfl, fun _ => rfl, hsecure⟩
  have hne : (p.text != []) = true := by
    have hmark : str "://" ≠ [] := by decide
    simp [ParsedUri.text, hmark]
  obtain ⟨rest, hrest⟩ := deriveMetadataPath_eq_cons p.path
  have hpath : p.metadata.path ≠ [] := by
    show deriveMetadataPath p.path ≠ []
    rw [hrest]
    exact List.cons_ne_nil 47 rest
  refine ⟨⟨p.metadata.text, p.text, p.metadata.path, noCredential, invalidToken⟩, ?_, rfl, rfl, rfl⟩
  unfold mcpChallenges demand
  rw [hne, if_pos rfl, hrequire]
  simp only [bind, Except.bind, hnoCredential, hinvalidToken, if_neg hpath]
  rfl

/-- A request for a document's path, with a query or without, is one for the document. -/
theorem isMetadataDocumentRequest_get {challenges : McpChallenges} {path : Str}
    (hpath : challenges.metadataPath = path) (hplain : ∀ c ∈ path, Uri.endsPath c = false)
    (query : Option Str) :
    isMetadataDocumentRequest (some challenges) "GET" (path ++ Uri.marked 63 query) = true := by
  have hplain : ∀ c ∈ path, (!Uri.endsPath c) = true := by
    intro c hc
    rw [hplain c hc]
    rfl
  have hstop : Uri.marked 63 query = [] ∨
      ∃ c rest, Uri.marked 63 query = c :: rest ∧ (!Uri.endsPath c) = false := by
    cases query with
    | none => exact .inl rfl
    | some q => exact .inr ⟨63, q, rfl, by decide⟩
  unfold isMetadataDocumentRequest
  rw [(Uri.takeWhile_append_of_stop hplain hstop).1]
  simp [hpath]

/-- The URL of a document is its resource's with the derived path, no two resources share one but
for a slash behind the authority, and the challenges for it lead to it. -/
theorem metadata_agrees {options : ProtectedResourceMetadataOptions}
    {result : ProtectedResourceMetadata} (h : protectedResourceMetadata options = .ok result) :
    (∃ p, parseAbsoluteUri options.resource = some p ∧
      parseAbsoluteUri result.metadataUrl =
        some ⟨p.scheme, p.authority, result.metadataPath, false, false⟩) ∧
    (∀ options' result', protectedResourceMetadata options' = .ok result' →
      result'.metadataUrl = result.metadataUrl →
      options'.resource = options.resource ∨
        ∃ p q, parseAbsoluteUri options.resource = some p ∧
          parseAbsoluteUri options'.resource = some q ∧
            p.scheme = q.scheme ∧ p.authority = q.authority ∧
              (p.path = [] ∧ q.path = "/" ∨ p.path = "/" ∧ q.path = [])) ∧
    ((∀ c ∈ options.resource, isNqchar c = true) →
      ∃ challenges, mcpChallenges result.metadataUrl options.resource = .ok challenges ∧
        (∀ query, isMetadataDocumentRequest (some challenges) "GET"
          (result.metadataPath ++ Uri.marked 63 query) = true) ∧
        checkMcpConfigurationMatches (some challenges) result = .ok ()) := by
  obtain ⟨p, hp, hsecure, hresource, hdocument, hpath, hurl⟩ := protectedResourceMetadata_ok h
  refine ⟨⟨p, ?_, ?_⟩, fun options' result' h' hsame => ?_, fun hchars => ?_⟩
  · rw [hresource, hp.parse]
  · have hbare : p.metadata =
        ⟨p.scheme, p.authority, deriveMetadataPath p.path, false, false⟩ := by
      unfold ParsedUri.metadata
      rw [hp.noQuery, hp.noFragment]
    rw [hurl, hp.metadata.parse, hpath, hbare]
  · obtain ⟨q, hq, -, hresource', -, -, hurl'⟩ := protectedResourceMetadata_ok h'
    rw [hurl, hurl'] at hsame
    rw [hresource, hresource', hp.parse, hq.parse]
    rcases resource_of_metadata_eq hp hq hsame.symm with htext | ⟨hscheme, hauthority, hp', hq'⟩
    · exact .inl htext.symm
    · by_cases hpaths : p.path = q.path
      · left
        unfold ParsedUri.text
        rw [hscheme, hauthority, hpaths]
      · refine .inr ⟨p, q, rfl, rfl, hscheme, hauthority, ?_⟩
        rcases hp' with hp' | hp' <;> rcases hq' with hq' | hq'
        · exact absurd (hp'.trans hq'.symm) hpaths
        · exact .inl ⟨hp', hq'⟩
        · exact .inr ⟨hp', hq'⟩
        · exact absurd (hp'.trans hq'.symm) hpaths
  · rw [hresource] at hchars
    obtain ⟨challenges, hchallenges, hnamed, haudience, hserved⟩ :=
      mcpChallenges_metadata hp hsecure hchars
    refine ⟨challenges, ?_, fun query => ?_, ?_⟩
    · rw [hurl, hresource, hchallenges]
    · rw [hpath]
      exact isMetadataDocumentRequest_get hserved (deriveMetadataPath_plain hp.path_plain) query
    · unfold checkMcpConfigurationMatches
      simp only [hnamed, haudience, hurl, hdocument, hresource, ne_eq, not_true_eq_false, if_false]

/-- A resource behind a path. -/
def sampleResource : ProtectedResourceMetadataOptions where
  resource := "https://rs.example/mcp/"
  authorizationServers := [str "https://idp.example"]

/-- The theorem at it. -/
theorem sampleResource_agrees : ∃ challenges, mcpChallenges
    "https://rs.example/.well-known/oauth-protected-resource/mcp/" "https://rs.example/mcp/" =
      .ok challenges := by
  have haccepted : ∃ result, protectedResourceMetadata sampleResource = .ok result ∧
      result.metadataUrl = "https://rs.example/.well-known/oauth-protected-resource/mcp/" :=
    ⟨_, rfl, rfl⟩
  obtain ⟨result, hresult, hurl⟩ := haccepted
  obtain ⟨-, -, hchallenges⟩ := metadata_agrees hresult
  obtain ⟨challenges, hok, -⟩ := hchallenges (forall_mem_of_all (by decide))
  rw [hurl] at hok
  exact ⟨challenges, hok⟩

end Axiam.Mcp
