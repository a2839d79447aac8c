import Axiam.Jwks.Verifier

/-!
# What a verified token is

`verify_with_reason` in terms of its parts: the header names a key, the cache holds it, and the
signature over the first two parts of the token is that key's.  The payload is a part of the token
alone, so whoever verifies it reads the same one.
-/

namespace Axiam.Jwks

open Axiam.Lib

section

variable {env : Env} {s t : Verifier} {jwt payload : Str}

/-- The header of the token says `EdDSA` and names `kid`. -/
def NamesKey (env : Env) (jwt kid : Str) : Prop :=
  ∃ header, headerOf env jwt = some header ∧ readHeader header = .ok (some kid)

/-- `payload` is what the token carries, under a signature of the key. -/
def SignedBy (env : Env) (jwk : Ed25519Jwk) (jwt payload : Str) : Prop :=
  ∃ header body sig rawPub rawSig, splitJwt jwt = some (header, body, sig) ∧
    base64urlDecode jwk.xB64url = some rawPub ∧ base64urlDecode sig = some rawSig ∧
    rawPub.length = 32 ∧ rawSig.length = 64 ∧
    env.ed25519Verify rawPub (header ++ str "." ++ body) rawSig = true ∧
    base64urlDecode body = some payload

/-- The signature verifies under the key the token names, as the cache holds it once it was
looked up. -/
def Authentic (env : Env) (s : Verifier) (jwt payload : Str) : Prop :=
  ∃ kid jwk found t, NamesKey env jwt kid ∧ findKey env kid s = (.ok found, t) ∧
    t.keys kid = some jwk ∧ SignedBy env jwk jwt payload

theorem checkSignature_ok_iff (jwk : Ed25519Jwk) :
    checkSignature env jwt jwk = .ok payload ↔ SignedBy env jwk jwt payload := by
  unfold checkSignature
  constructor
  · intro h
    rcases hsplit : splitJwt jwt with _ | ⟨header, body, sig⟩ <;> rw [hsplit] at h
    · cases h
    rcases hpub : base64urlDecode jwk.xB64url with _ | rawPub
    · simp [hpub] at h
    rcases hsig : base64urlDecode sig with _ | rawSig
    · simp [hpub, hsig] at h
    simp only [hpub, hsig] at h
    split_ifs at h with hverify
    rcases hbody : base64urlDecode body with _ | text
    · simp [hbody] at h
    · simp only [hbody, Except.ok.injEq] at h
      subst h
      exact ⟨header, body, sig, rawPub, rawSig, hsplit, hpub, hsig, hverify.1, hverify.2.1,
        hverify.2.2, hbody⟩
  · rintro ⟨header, body, sig, rawPub, rawSig, hsplit, hpub, hsig, hlength, hlength', hverify,
      hbody⟩
    simp only [hsplit, hpub, hsig, hbody]
    rw [if_pos ⟨hlength, hlength', hverify⟩]

/-- A key that is found is the one the cache holds. -/
theorem findKey_cached {kid : Str} {found : Option Ed25519Jwk}
    (h : findKey env kid s = (.ok found, t)) : t.keys kid = found := by
  unfold findKey at h
  obtain ⟨_, u, -, h⟩ := Prog.bind_eq_ok.mp h
  obtain ⟨v, u', hread, h⟩ := Prog.bind_eq_ok.mp h
  cases hread
  rcases hkey : u.keys kid with _ | jwk
  · simp only [hkey] at h
    obtain ⟨time, w, hnow, h⟩ := Prog.bind_eq_ok.mp h
    have hkeys : w.keys = u.keys := by
      cases hnow
      rfl
    by_cases hcool : time < u.refetchCooldownUntil
    · rw [if_pos hcool] at h
      cases h
      rw [hkeys, hkey]
    · -- the second fetch: what it left is read back at once
      rw [if_neg hcool] at h
      obtain ⟨_, _, -, h⟩ := Prog.bind_eq_ok.mp h
      obtain ⟨_, _, -, h⟩ := Prog.bind_eq_ok.mp h
      obtain ⟨_, _, hread, h⟩ := Prog.bind_eq_ok.mp h
      cases hread
      cases h
      rfl
  · simp only [hkey] at h
    cases h
    exact hkey

/-- A token is verified exactly when it is authentic. -/
theorem verifyWithReason_ok_iff :
    (verifyWithReason env jwt s).1 = .ok (.ok payload) ↔ Authentic env s jwt payload := by
  unfold verifyWithReason Authentic NamesKey
  rcases hheader : headerOf env jwt with _ | header
  · simp
  rcases hread : readHeader header with e | kid?
  · simp [hread, liftJson, Prog.bind_run]
  rcases kid? with _ | kid
  · simp [hread, liftJson, Prog.bind_run]
  · have hnames : ∀ kid', (∃ h, some header = some h ∧ readHeader h = .ok (some kid')) ↔ kid' = kid := by
      intro kid'
      constructor
      · rintro ⟨_, hsome, h⟩
        cases hsome
        rw [hread] at h
        simpa using h.symm
      · rintro rfl
        exact ⟨header, rfl, hread⟩
    simp only [hnames, hread, liftJson]
    rw [Prog.bind_run_ok (Prog.lift_run _ _)]
    simp only
    rw [Prog.bind_run]
    rcases hfind : findKey env kid s with ⟨e | jwk?, u⟩
    · simp [hfind]
    · have hcached := findKey_cached hfind
      rcases jwk? with _ | jwk
      · simp [hfind, hcached]
      · simp [hfind, hcached, checkSignature_ok_iff]

/-- The payload is the token's: it depends on no key. -/
theorem SignedBy.payload_eq {env' : Env} {jwk jwk' : Ed25519Jwk} {payload' : Str}
    (h : SignedBy env jwk jwt payload) (h' : SignedBy env' jwk' jwt payload') :
    payload = payload' := by
  obtain ⟨header, body, sig, rawPub, rawSig, hsplit, -, -, -, -, -, hbody⟩ := h
  obtain ⟨header', body', sig', rawPub', rawSig', hsplit', -, -, -, -, -, hbody'⟩ := h'
  rw [hsplit] at hsplit'
  cases hsplit'
  rw [hbody] at hbody'
  cases hbody'
  rfl

theorem Authentic.payload_eq {env' : Env} {s' : Verifier} {payload' : Str}
    (h : Authentic env s jwt payload) (h' : Authentic env' s' jwt payload') :
    payload = payload' := by
  obtain ⟨_, _, _, _, -, -, -, hsigned⟩ := h
  obtain ⟨_, _, _, _, -, -, -, hsigned'⟩ := h'
  exact hsigned.payload_eq hsigned'

end

/-! ## One key -/

/-- A verifier that trusts every signature of a key. -/
def trustingEnv (parse : Parser) : Env where
  baseUrl := "https://axiam.example"
  cacheTtl := 300
  parse := parse
  ed25519Verify := fun _ _ _ => true
  transport := fun _ _ => .ok {}
  clock := fun _ => 0

/-- A cache of one key, `k`. -/
def oneKey : Verifier where
  keys := fun kid => if kid = str "k" then some ⟨"k", List.replicate 43 65⟩ else none
  haveKeys := true

/-- A token whose header is the text `h` and whose payload is the text `i`. -/
def tokenOfKey : Str := str "aA.aQ." ++ List.replicate 86 65

/-- The header that names `k`. -/
def headerOfKey : Json := .object [("alg", .string "EdDSA"), ("kid", .string "k")]

theorem tokenOfKey_authentic {parse : Parser} (hheader : parse (str "h") = some headerOfKey) :
    Authentic (trustingEnv parse) oneKey tokenOfKey (str "i") := by
  have hsplit : splitJwt tokenOfKey = some (str "aA", str "aQ", List.replicate 86 65) := by
    decide
  have hdecode : base64urlDecode (str "aA") = some (str "h") := by decide
  refine ⟨str "k", ⟨"k", List.replicate 43 65⟩, _, _, ⟨headerOfKey, ?_, by decide⟩, rfl, rfl, ?_⟩
  · unfold headerOf
    rw [hsplit]
    show (base64urlDecode (str "aA")).bind parse = _
    rw [hdecode]
    exact hheader
  · exact ⟨_, _, _, List.replicate 32 0, List.replicate 64 0, hsplit, by decide,
      by decide, rfl, rfl, rfl, by decide⟩

end Axiam.Jwks
