import Axiam.Core.Uri
import Axiam.Ssf.Sorting

/-!
# The first failing step

The nine steps of a verification, each as what must hold of the token, of the keys the receiver
then holds and of the store.  A token is accepted when all nine hold; a refusal tells the first
one that fails.  Two steps may also be left undecided: the keys could not be fetched, or the store
was not asked or could not answer.
-/

namespace Axiam.Ssf

open Axiam.Lib

/-- The steps, in their order. -/
inductive Step where
  | parts | typ | alg | key | signature | iss | aud | members | replay
  deriving DecidableEq

namespace Step

def number : Step → Nat
  | .parts => 1
  | .typ => 2
  | .alg => 3
  | .key => 4
  | .signature => 5
  | .iss => 6
  | .aud => 7
  | .members => 8
  | .replay => 9

/-- What a refusal at a step tells. -/
def reason : Step → SetFailureReason
  | .parts => .malformed
  | .typ => .invalidType
  | .alg | .key | .signature => .invalidKey
  | .iss => .invalidIssuer
  | .aud => .invalidAudience
  | .members => .invalidRequest
  | .replay => .replayed

theorem number_injective {s t : Step} (h : s.number = t.number) : s = t := by
  cases s <;> cases t <;> simp [number] at h ⊢

end Step

/-- What a token opens to: two JSON objects and a signature, each behind base64url. -/
def Opens (env : Env) (set : Str) (p : SetParts) : Prop :=
  ∃ a b c, set = a ++ 46 :: (b ++ 46 :: c) ∧ 46 ∉ a ∧ 46 ∉ b ∧ 46 ∉ c ∧
    (∃ bytes, base64urlDecode a = some bytes ∧ env.parse bytes = some p.header) ∧
    (∃ bytes, base64urlDecode b = some bytes ∧ env.parse bytes = some p.claims) ∧
    p.header.isObject = true ∧ p.claims.isObject = true ∧
    base64urlDecode c = some p.signature ∧ p.signingInput = a ++ 46 :: b

/-- A verification: the token, the `jti` it was polled under, if it was, and whether the store is
asked. -/
structure Verification where
  set : Str
  expectedJti : Option Str
  askStore : Bool

section

variable (env : Env) (v : Verification) (r : Receiver)

/-- The header names a key. -/
def SetParts.Names (p : SetParts) (kid : Str) : Prop :=
  kid ≠ [] ∧ p.header.find? "kid" = some (.string kid)

/-- Among the keys the receiver holds, once it has looked, is the header's. -/
def SetParts.HasKey (p : SetParts) (key : Str) : Prop :=
  ∃ kid found m, p.Names kid ∧ keyFor env kid r = (.ok found, m) ∧ m.cache.keys kid = some key

/-- The members a SET must carry, and those it must not. -/
structure SetParts.Carries (p : SetParts) (jti : Str) : Prop where
  noExp : p.claims.find? "exp" = none
  noSub : p.claims.find? "sub" = none
  id : p.claims.find? "jti" = some (.string jti)
  id_ne : jti ≠ []
  expected : ∀ e ∈ v.expectedJti, e = jti
  iat : ∃ iat, p.claims.find? "iat" = some (.integer iat)
  subId : ∃ members, p.claims.find? "sub_id" = some (.object members)
  events : ∃ event, p.claims.find? "events" = some (.object [event])

/-- What a step asks of a token that opened. -/
def SetParts.Holds (p : SetParts) : Step → Prop
  | .parts => True
  | .typ => ∃ typ, p.header.find? "typ" = some (.string typ) ∧
      (lower typ = str "secevent+jwt" ∨ lower typ = str "application/secevent+jwt")
  | .alg => p.header.find? "alg" = some (.string "EdDSA")
  | .key => ∃ key, p.HasKey env r key
  | .signature => ∃ key, p.HasKey env r key ∧
      env.ed25519Verify key p.signingInput p.signature = true
  | .iss => p.claims.find? "iss" = some (.string env.config.issuer)
  | .aud => p.claims.find? "aud" = some (.string env.config.audience) ∨
      ∃ items, p.claims.find? "aud" = some (.array items) ∧ .string env.config.audience ∈ items
  | .members => ∃ jti, p.Carries v jti
  | .replay => v.askStore = true ∧ ∃ jti, p.Carries v jti ∧ env.store r.asked jti = .ok true

/-- A step holds of a verification. -/
def Verification.Holds (s : Step) : Prop := ∃ p, Opens env v.set p ∧ p.Holds env v r s

/-- A step has no answer: the fetch of the keys failed with `e`, or the store. -/
def Verification.Undecided (e : Exc) : Step → Prop
  | .key => ∃ p kid m, Opens env v.set p ∧ p.Names kid ∧ keyFor env kid r = (.error e, m)
  | .replay =>
      (v.askStore = false ∧ ∃ what, e = .network what kReplayStoreUnavailable) ∨
        ∃ p jti thrown what, Opens env v.set p ∧ p.Carries v jti ∧
          env.store r.asked jti = .error thrown ∧ e = .network what kReplayStoreUnavailable
  | _ => False

/-- The first step that does not hold. -/
def Verification.Stops (s : Step) : Prop :=
  ¬v.Holds env r s ∧ ∀ t : Step, t.number < s.number → v.Holds env r t

end

/-! ## The parts -/

section

variable {env : Env} {v : Verification} {r : Receiver}

theorem threeParts_eq_some {s a b c : Str} :
    threeParts s = some (a, b, c) ↔
      s = a ++ 46 :: (b ++ 46 :: c) ∧ 46 ∉ a ∧ 46 ∉ b ∧ 46 ∉ c := by
  unfold threeParts
  constructor
  · intro h
    obtain ⟨⟨a', rest⟩, hfirst, hrest⟩ := Option.bind_eq_some_iff.mp h
    obtain ⟨⟨b', c'⟩, hsecond, hlast⟩ := Option.bind_eq_some_iff.mp hrest
    by_cases hc : 46 ∈ c'
    · simp [hc] at hlast
    · simp only [if_neg hc, Option.some.injEq, Prod.mk.injEq] at hlast
      obtain ⟨rfl, rfl, rfl⟩ := hlast
      obtain ⟨rfl, ha⟩ := cut_eq_some hfirst
      obtain ⟨rfl, hb⟩ := cut_eq_some hsecond
      exact ⟨rfl, ha, hb, hc⟩
  · intro h
    obtain ⟨rfl, ha, hb, hc⟩ := h
    simp [cut_append _ ha, cut_append _ hb, hc]

theorem jsonObjectOf_eq_some {part : Str} {j : Json} :
    jsonObjectOf env part = some j ↔
      (∃ bytes, base64urlDecode part = some bytes ∧ env.parse bytes = some j) ∧
        j.isObject = true := by
  unfold jsonObjectOf
  rw [Option.filter_eq_some_iff, Option.bind_eq_some_iff]

/-- Step 1 is passed by what opens. -/
theorem openSet_eq_ok {set : Str} {p : SetParts} :
    openSet env set = .ok p ↔ Opens env set p := by
  unfold openSet Opens
  constructor
  · intro h
    cases hthree : threeParts set with
    | none =>
        rw [hthree] at h
        cases h
    | some parts =>
        obtain ⟨a, b, c⟩ := parts
        obtain ⟨hset, ha, hb, hc⟩ := threeParts_eq_some.mp hthree
        rw [hthree] at h
        simp only at h
        cases hheader : jsonObjectOf env a with
        | none =>
            rw [hheader] at h
            cases h
        | some header =>
            cases hclaims : jsonObjectOf env b with
            | none =>
                rw [hheader, hclaims] at h
                cases h
            | some claims =>
                cases hsignature : base64urlDecode c with
                | none =>
                    rw [hheader, hclaims, hsignature] at h
                    cases h
                | some signature =>
                    rw [hheader, hclaims, hsignature] at h
                    cases h
                    obtain ⟨hopen, hobject⟩ := jsonObjectOf_eq_some.mp hheader
                    obtain ⟨hopen', hobject'⟩ := jsonObjectOf_eq_some.mp hclaims
                    exact ⟨a, b, c, hset, ha, hb, hc, hopen, hopen', hobject, hobject',
                      hsignature, by rw [List.append_assoc]; rfl⟩
  · intro h
    obtain ⟨a, b, c, hset, ha, hb, hc, hopen, hopen', hobject, hobject', hsignature, hinput⟩ := h
    rw [threeParts_eq_some.mpr ⟨hset, ha, hb, hc⟩]
    simp only [jsonObjectOf_eq_some.mpr ⟨hopen, hobject⟩,
      jsonObjectOf_eq_some.mpr ⟨hopen', hobject'⟩, hsignature]
    cases p
    simp only at hinput
    rw [hinput, List.append_assoc]
    rfl

theorem openSet_error {set : Str} {e : Exc} (h : openSet env set = .error e) :
    ∃ why, e = refusal .malformed why := by
  unfold openSet at h
  split at h
  · cases h
    exact ⟨_, rfl⟩
  · split at h
    · cases h
    · cases h
      exact ⟨_, rfl⟩

theorem Opens.unique {set : Str} {p q : SetParts} (hp : Opens env set p) (hq : Opens env set q) :
    p = q :=
  Except.ok.inj ((openSet_eq_ok.mpr hp).symm.trans (openSet_eq_ok.mpr hq))

/-- Of a token that opened a step holds when it holds of its parts. -/
theorem Opens.holds_iff {p : SetParts} (hp : Opens env v.set p) (s : Step) :
    v.Holds env r s ↔ p.Holds env v r s := by
  constructor
  · intro h
    obtain ⟨q, hq, h⟩ := h
    rwa [hp.unique hq]
  · exact fun h => ⟨p, hp, h⟩

/-! ## The members -/

theorem stringMember_eq {j : Json} {key s : Str} (hs : s ≠ []) :
    stringMember j key = s ↔ j.find? key = some (.string s) := by
  rw [← Json.stringMember_eq_some]
  unfold stringMember
  cases j.stringMember? key with
  | none => simp [Ne.symm hs]
  | some text => simp

theorem typIsSecevent_iff {p : SetParts} :
    typIsSecevent p.header = true ↔ p.Holds env v r .typ := by
  unfold typIsSecevent SetParts.Holds
  simp only [← Json.stringMember_eq_some]
  cases p.header.stringMember? "typ" with
  | none => simp
  | some text => simp

theorem audOk_iff {p : SetParts} : audOk env p.claims = true ↔ p.Holds env v r .aud := by
  unfold audOk SetParts.Holds
  cases hfind : p.claims.find? "aud" with
  | none => simp
  | some member =>
      cases member with
      | array items =>
          simp only [List.any_eq_true, beq_iff_eq, Option.some.injEq, reduceCtorEq, false_or,
            Json.array.injEq, exists_eq_left']
          constructor
          · intro h
            obtain ⟨a, ha, hstring⟩ := h
            cases a <;> cases hstring
            exact ha
          · exact fun h => ⟨_, h, rfl⟩
      | _ => simp

theorem setMembers_eq_some {claims : Json} {jti eventType : Str} {iat : Int} {subId event : Json} :
    setMembers claims = some (jti, iat, subId, eventType, event) ↔
      claims.find? "jti" = some (.string jti) ∧ jti ≠ [] ∧
        claims.find? "iat" = some (.integer iat) ∧
        (claims.find? "sub_id" = some subId ∧ subId.isObject = true) ∧
        claims.find? "events" = some (.object [(eventType, event)]) := by
  unfold setMembers
  constructor
  · intro h
    obtain ⟨id, hid, h₁⟩ := Option.bind_eq_some_iff.mp h
    by_cases hempty : id = []
    · simp [hempty] at h₁
    · simp only [if_neg hempty] at h₁
      obtain ⟨iatJson, hiat, h₂⟩ := Option.bind_eq_some_iff.mp h₁
      cases iatJson <;> try cases h₂
      obtain ⟨sub, hsub, h₃⟩ := Option.bind_eq_some_iff.mp h₂
      obtain ⟨events, hevents, h₄⟩ := Option.bind_eq_some_iff.mp h₃
      split at h₄
      · cases h₄
        exact ⟨Json.stringMember_eq_some.mp hid, hempty, hiat, Option.filter_eq_some_iff.mp hsub, hevents⟩
      · cases h₄
  · intro h
    obtain ⟨hid, hne, hiat, hsub, hevents⟩ := h
    simp [Json.stringMember_eq_some.mpr hid, hne, hiat, Option.filter_eq_some_iff.mpr hsub, hevents]

theorem not_carries_iff {p : SetParts} : (¬∃ jti, p.Carries v jti) ↔
    (p.claims.contains "exp" || p.claims.contains "sub") = true ∨ setMembers p.claims = none ∨
      ∃ found, setMembers p.claims = some found ∧ v.expectedJti.any (· != found.1) = true := by
  have hcontains : (p.claims.contains "exp" || p.claims.contains "sub") = false ↔
      p.claims.find? "exp" = none ∧ p.claims.find? "sub" = none := by
    simp [Json.contains]
  constructor
  · intro hno
    by_contra hcode
    rw [not_or, not_or, not_exists, Bool.not_eq_true, hcontains] at hcode
    obtain ⟨⟨hexp, hsub⟩, hmembers, hexpected⟩ := hcode
    obtain ⟨⟨jti, iat, subId, eventType, event⟩, hfound⟩ := Option.ne_none_iff_exists'.mp hmembers
    obtain ⟨hid, hne, hiat, ⟨hsubId, hobject⟩, hevents⟩ := setMembers_eq_some.mp hfound
    refine hno ⟨jti, hexp, hsub, hid, hne, fun e he => ?_, ⟨iat, hiat⟩, ?_, ⟨_, hevents⟩⟩
    · have hsame := hexpected (jti, iat, subId, eventType, event)
      rw [not_and, show v.expectedJti = some e from he] at hsame
      simpa using hsame hfound
    · cases subId <;> cases hobject
      exact ⟨_, hsubId⟩
  · intro hcode hcarries
    obtain ⟨jti, hcarries⟩ := hcarries
    obtain ⟨iat, hiat⟩ := hcarries.iat
    obtain ⟨members, hsubId⟩ := hcarries.subId
    obtain ⟨⟨eventType, event⟩, hevents⟩ := hcarries.events
    have hfound := setMembers_eq_some.mpr
      ⟨hcarries.id, hcarries.id_ne, hiat, ⟨hsubId, rfl⟩, hevents⟩
    have hclean := hcontains.mpr ⟨hcarries.noExp, hcarries.noSub⟩
    rw [hclean, hfound] at hcode
    rcases hcode with h | h | ⟨found, h, hother⟩
    · cases h
    · cases h
    · cases h
      cases hexpected : v.expectedJti with
      | none =>
          rw [hexpected] at hother
          cases hother
      | some e =>
          rw [hexpected] at hother
          have hsame := hcarries.expected e hexpected
          simp [hsame] at hother

/-! ## The key -/

/-- What `key_for` answers is what the receiver then holds. -/
theorem keyFor_held {kid : Str} {found : Option Str} {m : Receiver}
    (h : keyFor env kid r = (.ok found, m)) : found = m.cache.keys kid := by
  rcases keyFor_cases h with ⟨e, herror, -⟩ | ⟨t, -, hlooks⟩
  · cases herror
  · cases hlooks with
    | hit hkey => exact hkey.symm
    | unknown hkey _ => exact hkey.symm
    | refetched _ _ => rfl

/-- A header names one key, and one is found. -/
theorem SetParts.HasKey.unique {p : SetParts} {kid key found : Str} {m : Receiver}
    (hkid : p.Names kid) (hkey : keyFor env kid r = (.ok (some key), m))
    (h : p.HasKey env r found) : found = key := by
  obtain ⟨kid', _, m', hkid', hfound, hheld⟩ := h
  have hsame := hkid.2.symm.trans hkid'.2
  cases hsame
  rw [hkey] at hfound
  cases hfound
  exact Option.some.inj (hheld.symm.trans (keyFor_held hkey).symm)

/-- Step 8 alone. -/
def checkMembers (env : Env) (p : SetParts) (expectedJti : Option Str) :
    Except Exc SecurityEvent :=
  if p.claims.contains "exp" || p.claims.contains "sub" then
    .error (refusal .invalidRequest "a SET carries no exp and no sub")
  else match setMembers p.claims with
    | none => .error (refusal .invalidRequest
        "a SET needs a jti, a numeric iat, an object sub_id and exactly one event")
    | some (jti, iat, subId, eventType, event) =>
        if expectedJti.any (· != jti) then
          .error (refusal .invalidRequest "the poll key is not the SET's jti")
        else .ok {
          jti := jti
          iat := Json.wrapInt64 iat
          iss := stringMember p.claims "iss"
          audJson := env.dump ((p.claims.find? "aud").getD .null)
          txn := p.claims.stringMember? "txn"
          eventType := eventType
          eventJson := env.dump event
          subIdJson := env.dump subId }

theorem checkMembers_refuses (env : Env) {p : SetParts} (h : ¬∃ jti, p.Carries v jti) :
    ∃ why, checkMembers env p v.expectedJti = .error (refusal .invalidRequest why) := by
  unfold checkMembers
  by_cases hextra : (p.claims.contains "exp" || p.claims.contains "sub") = true
  · rw [if_pos hextra]
    exact ⟨_, rfl⟩
  · rw [if_neg hextra]
    rcases not_carries_iff.mp h with h | h | ⟨found, hfound, hother⟩
    · exact absurd h hextra
    · rw [h]
      exact ⟨_, rfl⟩
    · rw [hfound]
      simp only [hother, if_true]
      exact ⟨_, rfl⟩

theorem checkMembers_ok (env : Env) {p : SetParts} {jti : Str} (h : p.Carries v jti) :
    ∃ event, checkMembers env p v.expectedJti = .ok event ∧ event.jti = jti := by
  have hcode := not_carries_iff.not.mp (not_not.mpr ⟨jti, h⟩)
  rw [not_or, not_or, not_exists] at hcode
  obtain ⟨hextra, hmembers, hexpected⟩ := hcode
  obtain ⟨found, hfound⟩ := Option.ne_none_iff_exists'.mp hmembers
  have hother := hexpected found
  rw [not_and] at hother
  obtain ⟨id, iat, subId, eventType, event⟩ := found
  have hid : id = jti := by
    have hsame := (setMembers_eq_some.mp hfound).1.symm.trans h.id
    cases hsame
    rfl
  subst hid
  unfold checkMembers
  rw [if_neg hextra, hfound]
  simp only [if_neg (hother hfound)]
  exact ⟨_, rfl, rfl⟩

/-- Steps 5 to 8 on the key that was found: an event when all hold, and else the refusal of the
first that does not. -/
theorem checkClaims_settles {p : SetParts} {kid key : Str} {m : Receiver}
    (hissuer : env.config.issuer ≠ []) (hkid : p.Names kid)
    (hkey : keyFor env kid r = (.ok (some key), m)) :
    (∃ event, checkClaims env p key v.expectedJti = .ok event ∧ p.Carries v event.jti ∧
        p.Holds env v r .signature ∧ p.Holds env v r .iss ∧ p.Holds env v r .aud) ∨
      ∃ s why, 4 < s.number ∧ s.number < 9 ∧ ¬p.Holds env v r s ∧
        (∀ t : Step, 4 < t.number → t.number < s.number → p.Holds env v r t) ∧
        checkClaims env p key v.expectedJti = .error (refusal s.reason why) := by
  by_cases hverifies : env.ed25519Verify key p.signingInput p.signature = true
  case neg =>
    refine .inr ⟨.signature, str "the signature does not verify", by decide, by decide, ?_, ?_, ?_⟩
    · intro hholds
      obtain ⟨found, hfound, hsignature⟩ := hholds
      rw [hfound.unique hkid hkey] at hsignature
      exact hverifies hsignature
    · intro t hlow hhigh
      cases t <;> simp [Step.number] at hlow hhigh
    · unfold checkClaims
      rw [if_neg hverifies]
      rfl
  case pos =>
  have hsignature : p.Holds env v r .signature :=
    ⟨key, ⟨kid, _, m, hkid, hkey, (keyFor_held hkey).symm⟩, hverifies⟩
  by_cases hiss : stringMember p.claims "iss" = env.config.issuer
  case neg =>
    refine .inr ⟨.iss, str "iss is not the configured issuer", by decide, by decide, ?_, ?_, ?_⟩
    · exact fun hholds => hiss ((stringMember_eq hissuer).mpr hholds)
    · intro t hlow hhigh
      cases t <;> simp [Step.number] at hlow hhigh
      exact hsignature
    · unfold checkClaims
      rw [if_pos hverifies, if_pos hiss]
      rfl
  case pos =>
  have hissHolds : p.Holds env v r .iss := (stringMember_eq hissuer).mp hiss
  by_cases haud : audOk env p.claims = true
  case neg =>
    refine .inr ⟨.aud, str "aud does not name this receiver", by decide, by decide, ?_, ?_, ?_⟩
    · exact fun hholds => haud (audOk_iff.mpr hholds)
    · intro t hlow hhigh
      cases t <;> simp [Step.number] at hlow hhigh
      · exact hsignature
      · exact hissHolds
    · unfold checkClaims
      rw [if_pos hverifies, if_neg (not_not.mpr hiss), if_neg haud]
      rfl
  case pos =>
  have haudHolds : p.Holds env v r .aud := audOk_iff.mp haud
  -- past the first three checks only the members are left
  have hrun : checkClaims env p key v.expectedJti = checkMembers env p v.expectedJti := by
    unfold checkClaims checkMembers
    rw [if_pos hverifies, if_neg (not_not.mpr hiss), if_pos haud]
    by_cases hextra : (p.claims.contains "exp" || p.claims.contains "sub") = true
    · simp only [hextra]
      rfl
    · simp only [hextra]
      cases setMembers p.claims with
      | none => rfl
      | some found =>
          by_cases hother : v.expectedJti.any (· != found.1) = true
          · simp only [hother]
            rfl
          · simp only [hother]
            rfl
  by_cases hmembers : ∃ jti, p.Carries v jti
  · obtain ⟨jti, hcarries⟩ := hmembers
    obtain ⟨event, hevent, hjti⟩ := checkMembers_ok env hcarries
    refine .inl ⟨event, hrun.trans hevent, ?_, hsignature, hissHolds, haudHolds⟩
    rw [hjti]
    exact hcarries
  · obtain ⟨why, hrefused⟩ := checkMembers_refuses env hmembers
    refine .inr ⟨.members, why, by decide, by decide, hmembers, ?_, hrun.trans hrefused⟩
    intro t hlow hhigh
    cases t <;> simp [Step.number] at hlow hhigh
    · exact hsignature
    · exact hissHolds
    · exact haudHolds

/-! ## A run -/

theorem Opens.stops {p : SetParts} (hp : Opens env v.set p) {s : Step}
    (hno : ¬p.Holds env v r s)
    (hbefore : ∀ t : Step, t.number < s.number → p.Holds env v r t) : v.Stops env r s :=
  ⟨fun h => hno ((hp.holds_iff s).mp h), fun t ht => (hp.holds_iff t).mpr (hbefore t ht)⟩

/-- How a verification ends at the first step that does not hold. -/
structure Ends (env : Env) (v : Verification) (r : Receiver) (s : Step)
    (out : Except Exc SecurityEvent) (r' : Receiver) : Prop where
  stops : v.Stops env r s
  told : ∃ e, out = .error e ∧ (v.Undecided env r e s ∨
    (∀ e', ¬v.Undecided env r e' s) ∧ ∃ why, e = refusal s.reason why)
  asked : s = .replay ∧ v.askStore = true ∧ (∃ jti, r'.asked = r.asked ++ [jti]) ∨
    (s ≠ .replay ∨ v.askStore = false) ∧ r'.asked = r.asked

/-- Or all of them hold. -/
structure Passes (env : Env) (v : Verification) (r : Receiver)
    (out : Except Exc SecurityEvent) (r' : Receiver) : Prop where
  holds : ∀ s, v.Holds env r s
  told : ∃ event, out = .ok event
  asked : v.askStore = true ∧ ∃ jti, r'.asked = r.asked ++ [jti]

/-- The header of a token that opened. -/
theorem headerKid_of_opens {p : SetParts} (hp : Opens env v.set p) :
    headerKid env v.set =
      if typIsSecevent p.header = false then
        .error (refusal .invalidType "typ is not secevent+jwt")
      else if stringMember p.header "alg" ≠ str "EdDSA" then
        .error (refusal .invalidKey "alg is not EdDSA")
      else if stringMember p.header "kid" = [] then
        .error (refusal .invalidKey "the header names no kid")
      else .ok (p, stringMember p.header "kid") := by
  unfold headerKid
  rw [openSet_eq_ok.mpr hp]
  by_cases htyp : typIsSecevent p.header = true
  · by_cases halg : stringMember p.header "alg" = str "EdDSA"
    · by_cases hkid : stringMember p.header "kid" = []
      · simp [bind, Except.bind, throw, throwThe, MonadExceptOf.throw, htyp, halg, hkid]
      · simp [bind, Except.bind, pure, Except.pure, htyp, halg, hkid]
    · simp [bind, Except.bind, throw, throwThe, MonadExceptOf.throw, htyp, halg]
  · simp [bind, Except.bind, throw, throwThe, MonadExceptOf.throw, htyp]

/-- A refusal that no lookup of a key comes before. -/
theorem Ends.early {s : Step} {why : Str} (hstops : v.Stops env r s) (hreplay : s ≠ .replay)
    (hdecided : ∀ e, ¬v.Undecided env r e s) :
    Ends env v r s (.error (refusal s.reason why)) r :=
  ⟨hstops, ⟨_, rfl, .inr ⟨hdecided, why, rfl⟩⟩, .inr ⟨.inl hreplay, rfl⟩⟩

/-- Step 9, when the others hold. -/
theorem replay_settles {p : SetParts} (hp : Opens env v.set p) {event : SecurityEvent}
    (hcarries : p.Carries v event.jti)
    (hbefore : ∀ t : Step, t.number < 9 → p.Holds env v r t) {m : Receiver}
    (hasked : m.asked = r.asked) {out : Except Exc SecurityEvent} {r' : Receiver}
    (h : (if v.askStore then do
        let firstSight ← checkAndRecord env event.jti
        if firstSight then pure event
        else throw (refusal .replayed "this jti was already accepted")
      else throw (.network
        ("ssf: the replay store could not answer earlier in this poll batch and is not asked " ++
          "again (CONTRACT.md §34.2 P1)") kReplayStoreUnavailable) :
      Prog Receiver Exc SecurityEvent) m = (out, r')) :
    Passes env v r out r' ∨ Ends env v r .replay out r' := by
  have hunique : ∀ jti, p.Carries v jti → jti = event.jti := fun jti hjti => by
    have hsame := hjti.id.symm.trans hcarries.id
    cases hsame
    rfl
  by_cases hask : v.askStore = true
  case neg =>
    -- the batch has given up on the store
    rw [if_neg hask] at h
    cases h
    rw [Bool.not_eq_true] at hask
    have hno : ¬p.Holds env v r .replay := fun hholds => by
      have hasks := hholds.1
      rw [hask] at hasks
      cases hasks
    exact .inr ⟨hp.stops hno hbefore, ⟨_, rfl, .inl (.inl ⟨hask, _, rfl⟩)⟩,
      .inr ⟨.inr hask, hasked⟩⟩
  case pos =>
  rw [if_pos hask, Prog.bind_run] at h
  unfold checkAndRecord at h
  rw [hasked] at h
  have hwritten : ∀ jti, ({ m with asked := r.asked ++ [jti] } : Receiver).asked =
      r.asked ++ [jti] := fun _ => rfl
  cases hstore : env.store r.asked event.jti with
  | error thrown =>
      rw [hstore] at h
      cases h
      have hno : ¬p.Holds env v r .replay := fun hholds => by
        obtain ⟨-, jti, hjti, hfresh⟩ := hholds
        rw [hunique jti hjti, hstore] at hfresh
        cases hfresh
      exact .inr ⟨hp.stops hno hbefore,
        ⟨_, rfl, .inl (.inr ⟨p, event.jti, thrown, _, hp, hcarries, hstore, rfl⟩)⟩,
        .inl ⟨rfl, hask, event.jti, rfl⟩⟩
  | ok fresh =>
      rw [hstore] at h
      cases fresh with
      | true =>
          cases h
          refine .inl ⟨fun s => (hp.holds_iff s).mpr ?_, ⟨event, rfl⟩, hask, event.jti, rfl⟩
          by_cases hlast : s = .replay
          · subst hlast
            exact ⟨hask, event.jti, hcarries, hstore⟩
          · refine hbefore s ?_
            cases s <;> simp [Step.number] at hlast ⊢
      | false =>
          cases h
          have hno : ¬p.Holds env v r .replay := fun hholds => by
            obtain ⟨-, jti, hjti, hfresh⟩ := hholds
            rw [hunique jti hjti, hstore] at hfresh
            cases hfresh
          have hdecided : ∀ e, ¬v.Undecided env r e .replay := fun e hundecided => by
            rcases hundecided with ⟨hnot, -⟩ | ⟨q, jti, thrown, what, hq, hjti, hthrown, -⟩
            · rw [hask] at hnot
              cases hnot
            · cases hp.unique hq
              rw [hunique jti hjti, hstore] at hthrown
              cases hthrown
          exact .inr ⟨hp.stops hno hbefore, ⟨_, rfl, .inr ⟨hdecided, _, rfl⟩⟩,
            .inl ⟨rfl, hask, event.jti, rfl⟩⟩

/-- The first three steps, and that there is a `kid`: a refusal is that of the first that does not
hold. -/
theorem headerKid_settles {e : Exc} (h : headerKid env v.set = .error e) :
    ∃ s, Ends env v r s (.error e) r := by
  cases hopen : openSet env v.set with
  | error e' =>
      obtain ⟨why, rfl⟩ := openSet_error hopen
      -- what does not open is malformed, whatever the reason
      have hheader : headerKid env v.set = .error (refusal .malformed why) := by
        unfold headerKid
        rw [hopen]
        rfl
      rw [hheader] at h
      cases h
      refine ⟨.parts, Ends.early ⟨fun hholds => ?_, fun t ht => ?_⟩ (by decide) fun e hno => hno⟩
      · obtain ⟨p, hp, -⟩ := hholds
        rw [openSet_eq_ok.mpr hp] at hopen
        cases hopen
      · cases t <;> simp [Step.number] at ht
  | ok p =>
  have hp : Opens env v.set p := openSet_eq_ok.mp hopen
  rw [headerKid_of_opens hp] at h
  by_cases htyp : typIsSecevent p.header = true
  case neg =>
    rw [if_pos (Bool.not_eq_true _ ▸ htyp)] at h
    cases h
    refine ⟨.typ, Ends.early (hp.stops (fun hholds => htyp (typIsSecevent_iff.mpr hholds))
      fun t ht => ?_) (by decide) fun e hno => hno⟩
    cases t <;> simp [Step.number] at ht
    trivial
  case pos =>
  have htypHolds : p.Holds env v r .typ := typIsSecevent_iff.mp htyp
  rw [htyp, if_neg (by simp)] at h
  by_cases halg : stringMember p.header "alg" = str "EdDSA"
  case neg =>
    rw [if_pos halg] at h
    cases h
    refine ⟨.alg, Ends.early (hp.stops (fun hholds =>
      halg ((stringMember_eq (by decide)).mpr hholds)) fun t ht => ?_) (by decide) fun e hno => hno⟩
    cases t <;> simp [Step.number] at ht
    · trivial
    · exact htypHolds
  case pos =>
  have halgHolds : p.Holds env v r .alg := (stringMember_eq (by decide)).mp halg
  rw [if_neg (not_not.mpr halg)] at h
  by_cases hkid : stringMember p.header "kid" = []
  case neg =>
    rw [if_neg hkid] at h
    cases h
  case pos =>
    rw [if_pos hkid] at h
    cases h
    -- an empty `kid` names no key
    have hnameless : ∀ kid, ¬p.Names kid := fun kid hnames => by
      rw [(stringMember_eq hnames.1).mpr hnames.2] at hkid
      exact hnames.1 hkid
    refine ⟨.key, Ends.early (hp.stops (fun hholds => ?_) fun t ht => ?_) (by decide)
      fun e hno => ?_⟩
    · obtain ⟨key, kid, _, _, hnames, -⟩ := hholds
      exact hnameless kid hnames
    · cases t <;> simp [Step.number] at ht
      · trivial
      · exact htypHolds
      · exact halgHolds
    · obtain ⟨q, kid, _, hq, hnames, -⟩ := hno
      cases hp.unique hq
      exact hnameless kid hnames

/-- A header that is read holds to the first three steps and names its `kid`. -/
theorem headerKid_holds {p : SetParts} {kid : Str} (h : headerKid env v.set = .ok (p, kid)) :
    Opens env v.set p ∧ p.Names kid ∧ ∀ t : Step, t.number < 4 → p.Holds env v r t := by
  cases hopen : openSet env v.set with
  | error e =>
      unfold headerKid at h
      rw [hopen] at h
      cases h
  | ok q =>
  have hp : Opens env v.set q := openSet_eq_ok.mp hopen
  rw [headerKid_of_opens hp] at h
  split_ifs at h with htyp halg hkid
  cases h
  refine ⟨hp, ⟨hkid, (stringMember_eq hkid).mp rfl⟩, fun t ht => ?_⟩
  cases t <;> simp [Step.number] at ht
  · trivial
  · exact typIsSecevent_iff.mp (Bool.eq_true_of_not_eq_false htyp)
  · exact (stringMember_eq (by decide)).mp (not_not.mp halg)

section

variable {p : SetParts} {kid : Str} {m : Receiver} (hp : Opens env v.set p) (hnames : p.Names kid)
  (hbefore : ∀ t : Step, t.number < 4 → p.Holds env v r t)

theorem SetParts.Names.eq {kid' : Str} (hnames : p.Names kid) (hnames' : p.Names kid') :
    kid' = kid := by
  have hsame := hnames'.2.symm.trans hnames.2
  cases hsame
  rfl

include hp hnames hbefore

/-- Step 4, where the lookup of the key fails. -/
theorem key_unread {e : Exc} (hkey : keyFor env kid r = (.error e, m)) (hasked : m.asked = r.asked) :
    Ends env v r .key (.error e) m := by
  refine ⟨hp.stops (fun hholds => ?_) hbefore, ⟨e, rfl, .inl ⟨p, kid, _, hp, hnames, hkey⟩⟩,
    .inr ⟨.inl (by decide), hasked⟩⟩
  obtain ⟨key, kid', _, _, hnames', hrun, -⟩ := hholds
  rw [hnames.eq hnames', hkey] at hrun
  cases hrun

/-- And where there is no such key. -/
theorem key_missing (hkey : keyFor env kid r = (.ok none, m)) (hasked : m.asked = r.asked)
    (why : Str) : Ends env v r .key (.error (refusal .invalidKey why)) m := by
  refine ⟨hp.stops (fun hholds => ?_) hbefore, ⟨_, rfl, .inr ⟨fun e hundecided => ?_, why, rfl⟩⟩,
    .inr ⟨.inl (by decide), hasked⟩⟩
  · obtain ⟨key, kid', _, _, hnames', hrun, hheld⟩ := hholds
    rw [hnames.eq hnames', hkey] at hrun
    cases hrun
    rw [hnames.eq hnames', ← keyFor_held hkey] at hheld
    cases hheld
  · obtain ⟨q, kid', _, hq, hnames', hrun⟩ := hundecided
    cases hp.unique hq
    rw [hnames.eq hnames', hkey] at hrun
    cases hrun

/-- Steps 5 to 9, on the key that was found. -/
theorem claims_settle (hissuer : env.config.issuer ≠ []) {key : Str}
    (hkey : keyFor env kid r = (.ok (some key), m)) (hasked : m.asked = r.asked)
    {out : Except Exc SecurityEvent} {r' : Receiver}
    (h : (Prog.lift (checkClaims env p key v.expectedJti) >>= fun event =>
      if v.askStore then do
        let firstSight ← checkAndRecord env event.jti
        if firstSight then pure event
        else throw (refusal .replayed "this jti was already accepted")
      else throw (.network
        ("ssf: the replay store could not answer earlier in this poll batch and is not asked " ++
          "again (CONTRACT.md §34.2 P1)") kReplayStoreUnavailable) :
      Prog Receiver Exc SecurityEvent) m = (out, r')) :
    Passes env v r out r' ∨ ∃ s, Ends env v r s out r' := by
  have hkeyHolds : p.Holds env v r .key := ⟨key, kid, _, m, hnames, hkey, (keyFor_held hkey).symm⟩
  rw [Prog.bind_run, Prog.lift_run] at h
  rcases checkClaims_settles (v := v) hissuer hnames hkey with
    ⟨event, hevent, hcarries, hsignature, hiss, haud⟩ | ⟨s, why, hlow, hhigh, hno, hbetween, hrefused⟩
  · rw [hevent] at h
    have hall : ∀ t : Step, t.number < 9 → p.Holds env v r t := by
      intro t ht
      by_cases hfirst : t.number < 4
      · exact hbefore t hfirst
      · cases t <;> simp [Step.number] at ht hfirst
        · exact hkeyHolds
        · exact hsignature
        · exact hiss
        · exact haud
        · exact ⟨event.jti, hcarries⟩
    exact (replay_settles hp hcarries hall hasked h).imp_right fun hends => ⟨.replay, hends⟩
  · rw [hrefused] at h
    cases h
    refine .inr ⟨s, hp.stops hno fun t ht => ?_, ⟨_, rfl, .inr ⟨fun e hundecided => ?_, why, rfl⟩⟩,
      .inr ⟨.inl fun hlast => ?_, hasked⟩⟩
    · by_cases hfirst : t.number < 4
      · exact hbefore t hfirst
      · by_cases hfour : t.number = 4
        · rw [Step.number_injective (t := .key) hfour]
          exact hkeyHolds
        · exact hbetween t (by omega) ht
    · cases s <;> simp [Step.number] at hlow hhigh <;> exact hundecided
    · rw [hlast] at hhigh
      simp [Step.number] at hhigh

end

/-- A verification passes, or ends at the first step that does not hold. -/
theorem verify_settles (hissuer : env.config.issuer ≠ []) {out : Except Exc SecurityEvent}
    {r' : Receiver} (h : verify env v.set v.expectedJti v.askStore r = (out, r')) :
    Passes env v r out r' ∨ ∃ s, Ends env v r s out r' := by
  unfold verify at h
  cases hheader : headerKid env v.set with
  | error e =>
      rw [hheader] at h
      cases h
      exact .inr (headerKid_settles hheader)
  | ok header =>
  obtain ⟨p, kid⟩ := header
  obtain ⟨hp, hnames, hbefore⟩ := headerKid_holds (r := r) hheader
  rw [hheader] at h
  simp only at h
  unfold judge at h
  rw [Prog.bind_run] at h
  have hasked := keyFor_asked env kid r
  rcases hkey : keyFor env kid r with ⟨found, m⟩
  rw [hkey] at h hasked
  cases found with
  | error e =>
      cases h
      exact .inr ⟨.key, key_unread hp hnames hbefore hkey hasked⟩
  | ok found =>
      cases found with
      | none =>
          cases h
          exact .inr ⟨.key, key_missing hp hnames hbefore hkey hasked _⟩
      | some key => exact claims_settle hp hnames hbefore hissuer hkey hasked h

/-! ## Deciding by the first failing step -/

/-- Only one step can be the first that does not hold. -/
theorem Verification.Stops.unique {s t : Step} (hs : v.Stops env r s) (ht : v.Stops env r t) :
    s = t := by
  apply Step.number_injective
  rcases Nat.lt_trichotomy s.number t.number with hlt | heq | hgt
  · exact absurd (ht.2 s hlt) hs.1
  · exact heq
  · exact absurd (hs.2 t hgt) ht.1

/-- The store is asked by a verification that may ask it and whose steps 1 to 8 hold. -/
def Verification.Asks (env : Env) (v : Verification) (r : Receiver) : Prop :=
  v.askStore = true ∧ ∀ t : Step, t ≠ .replay → v.Holds env r t

/-- What the store was asked, at the first step that does not hold. -/
theorem Ends.asks_iff {s : Step} {out : Except Exc SecurityEvent} {r' : Receiver}
    (h : Ends env v r s out r') :
    (v.Asks env r → ∃ jti, r'.asked = r.asked ++ [jti]) ∧
      (¬v.Asks env r → r'.asked = r.asked) := by
  rcases h.asked with ⟨rfl, hask, hasked⟩ | ⟨hnot, hasked⟩
  · refine ⟨fun _ => hasked, fun hno => ?_⟩
    refine absurd ⟨hask, fun t ht => h.stops.2 t ?_⟩ hno
    cases t <;> simp [Step.number] at ht ⊢
  · refine ⟨fun hasks => ?_, fun _ => hasked⟩
    rcases hnot with hearly | hforbidden
    · exact absurd (hasks.2 s hearly) h.stops.1
    · have hask := hasks.1
      rw [hforbidden] at hask
      cases hask

/-- A verification accepts when the nine steps hold.  When they do not it fails at the first that
does not, with that step's reason unless the step has no answer, and the store is asked when
steps 1 to 8 hold and the verification may ask it. -/
theorem verify_decides (env : Env) (v : Verification) (r : Receiver)
    (hissuer : env.config.issuer ≠ []) :
    let run := verify env v.set v.expectedJti v.askStore r
    ((∃ event, run.1 = .ok event) ↔ ∀ s, v.Holds env r s) ∧
      ((∃ e, run.1 = .error e) → ∃ s, v.Stops env r s) ∧
      (∀ s, v.Stops env r s → ∃ e, run.1 = .error e ∧
        (v.Undecided env r e s ∨
          (∀ e', ¬v.Undecided env r e' s) ∧ ∃ why, e = refusal s.reason why)) ∧
      (v.Asks env r → ∃ jti, run.2.asked = r.asked ++ [jti]) ∧
      (¬v.Asks env r → run.2.asked = r.asked) := by
  intro run
  have hrun : verify env v.set v.expectedJti v.askStore r = (run.1, run.2) := rfl
  rcases verify_settles hissuer hrun with hpasses | ⟨s, hends⟩
  · obtain ⟨event, hevent⟩ := hpasses.told
    have hasks : v.Asks env r := ⟨hpasses.asked.1, fun t _ => hpasses.holds t⟩
    refine ⟨⟨fun _ => hpasses.holds, fun _ => ⟨event, hevent⟩⟩, fun herror => ?_, fun s hs => ?_,
      fun _ => hpasses.asked.2, fun hno => absurd hasks hno⟩
    · obtain ⟨e, herror⟩ := herror
      rw [hevent] at herror
      cases herror
    · exact absurd (hpasses.holds s) hs.1
  · obtain ⟨e, herror, htold⟩ := hends.told
    refine ⟨⟨fun hok => ?_, fun hall => absurd (hall s) hends.stops.1⟩,
      fun _ => ⟨s, hends.stops⟩, fun t ht => ?_, hends.asks_iff⟩
    · obtain ⟨event, hok⟩ := hok
      rw [herror] at hok
      cases hok
    · rw [ht.unique hends.stops]
      exact ⟨e, herror, htold⟩

end

/-- The signed SET, as it is verified in a batch whose store has failed. -/
def unaskedMail : Verification where
  set := signedSet
  expectedJti := some (str "j2")
  askStore := false

/-- What that verification ends with. -/
def unaskedVerdict : Except Exc SecurityEvent × Receiver :=
  verify (mailbox "timeout") unaskedMail.set unaskedMail.expectedJti unaskedMail.askStore {}

/-- The theorem at it. -/
theorem unaskedMail_decides : (∃ event, unaskedVerdict.1 = .ok event) ↔
    ∀ s, unaskedMail.Holds (mailbox "timeout") {} s :=
  (verify_decides (mailbox "timeout") unaskedMail {} (by decide)).1

/-- The error it ends with, the store not asked, and the key found. -/
theorem unaskedVerdict_reads :
    (match unaskedVerdict.1 with
      | .error (.network _ cause) => decide (cause = kReplayStoreUnavailable)
      | _ => false) = true ∧
    unaskedVerdict.2.asked = [] ∧
    (keyFor (mailbox "timeout") (str "a") {}).1.toOption.isSome = true ∧
    (openSet (mailbox "timeout") unaskedMail.set).toOption.map (fun p => stringMember p.header "kid") =
      some (str "a") := by
  decide +kernel

/-- Steps 1 to 8 hold of the signed SET, and the store is not asked. -/
theorem batch_leaves_unasked :
    ¬((∀ t : Step, t ≠ .replay → unaskedMail.Holds (mailbox "timeout") {} t) ↔
      ∃ jti, unaskedVerdict.2.asked = [] ++ [jti]) := by
  obtain ⟨hcause, hasked, hkey, hkid⟩ := unaskedVerdict_reads
  have hnever : ¬∃ jti, unaskedVerdict.2.asked = [] ++ [jti] := fun h => by
    obtain ⟨jti, h⟩ := h
    rw [hasked] at h
    cases h
  refine fun hiff => hnever (hiff.mp ?_)
  have hrun : verify (mailbox "timeout") unaskedMail.set unaskedMail.expectedJti
      unaskedMail.askStore {} = (unaskedVerdict.1, unaskedVerdict.2) :=
    (Prod.eta _).symm
  rcases verify_settles (by decide) hrun with hpasses | ⟨s, hends⟩
  · obtain ⟨-, jti, hwritten⟩ := hpasses.asked
    exact absurd ⟨jti, hwritten⟩ hnever
  · obtain ⟨e, herror, hundecided | ⟨-, why, hrefused⟩⟩ := hends.told
    · cases s with
      | key =>
          obtain ⟨p, kid, m, hp, hnames, hfetch⟩ := hundecided
          rw [openSet_eq_ok.mpr hp] at hkid
          have hnamed : stringMember p.header "kid" = str "a" := Option.some.inj hkid
          rw [← (stringMember_eq hnames.1).mpr hnames.2, hnamed] at hfetch
          rw [hfetch] at hkey
          cases hkey
      | replay =>
          intro t ht
          refine hends.stops.2 t ?_
          cases t <;> simp [Step.number] at ht ⊢
      | _ => exact hundecided.elim
    · rw [herror, hrefused] at hcause
      cases hcause

end Axiam.Ssf
