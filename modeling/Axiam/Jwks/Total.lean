import Axiam.Jwks.Verifier
import Mathlib.Data.List.Induction

/-!
# When the verifier returns, and what it leaves cached

The entry points of the verifier, over a transport that answers.  Each makes at most two
fetches, and `Op.fetches` says from the state before which responses they get.  The entry
point returns with a whole key set exactly when the header and those documents can be read
and no unusable document replaces a key set.
-/

namespace Axiam.Jwks

open Axiam.Lib

/-- What a client asks of the verifier. -/
inductive Op where
  | verifyWithReason (jwt : Str)
  | verifySignatureOnlyUnchecked (jwt : Str)
  | refreshKeys

/-- The token of an entry point. -/
def Op.jwt? : Op → Option Str
  | .verifyWithReason jwt | .verifySignatureOnlyUnchecked jwt => some jwt
  | .refreshKeys => none

def Op.run (env : Env) : Op → Prog Verifier Exc Unit
  | .verifyWithReason jwt => do
      let _ ← Jwks.verifyWithReason env jwt
      pure ()
  | .verifySignatureOnlyUnchecked jwt => do
      let _ ← Jwks.verifySignatureOnlyUnchecked env jwt
      pure ()
  | .refreshKeys => Jwks.refreshKeys env

/-- The environment with a transport that always answers. -/
def Env.answering (env : Env) (web : List HttpRequest → HttpRequest → HttpResponse) : Env :=
  { env with transport := fun sent req => .ok (web sent req) }

/-- The members of the key document a response carries, if it carries one. -/
def documentOf (parse : Parser) (resp : HttpResponse) : Option (List Json) :=
  if delivered resp then itemsOf parse resp.body else none

/-- **What the verifier owes.** The entry point returns, and the cache is what it was or
the usable keys of one document fetched by it. -/
def Op.Settles (env : Env) (op : Op) (s : Verifier) : Prop :=
  ∃ s', op.run env s = (.ok (), s') ∧
    (s'.keys = s.keys ∨ ∃ resp ∈ s'.received.drop s.received.length, ∃ items,
      documentOf env.parse resp = some items ∧ s'.keys = usableKeys items)

/-! ## The responses an entry point gets -/

section

variable (env : Env) (web : List HttpRequest → HttpRequest → HttpResponse) (s : Verifier)

/-- The keys after a response, read without a throw. -/
def keysAfter (parse : Parser) (keys : KeySet) (resp : HttpResponse) : KeySet :=
  if delivered resp then
    match itemsOf parse resp.body with
    | some items => usableKeys items
    | none => fun _ => none
  else keys

/-- The `kid` a token asks for, when its header names `EdDSA`. -/
def eddsaKid? (jwt : Str) : Option Str :=
  (headerOf env jwt).bind fun header =>
    if memberText header "alg" = str "EdDSA" then some (memberText header "kid") else none

/-- The first fetch of a verification: none while the cached keys are not due. -/
def firstFetch : List HttpResponse :=
  if s.warm env (env.clock s.ticks) then [] else [web s.sent (jwksRequest env)]

/-- The requests after the first fetch. -/
def sentAfterFirst : List HttpRequest :=
  if s.warm env (env.clock s.ticks) then s.sent else s.sent ++ [jwksRequest env]

/-- The fetches made for a `kid`: a second one when the keys do not have it and the
cooldown is over. -/
def kidFetches (kid : Str) : List HttpResponse :=
  if (firstFetch env web s).foldl (keysAfter env.parse) s.keys kid = none ∧
      s.refetchCooldownUntil ≤ env.clock (s.ticks + 1) then
    firstFetch env web s ++ [web (sentAfterFirst env s) (jwksRequest env)]
  else firstFetch env web s

/-- The fetches made for a token: none before its header asks for a key. -/
def jwtFetches (jwt : Str) : List HttpResponse :=
  match eddsaKid? env jwt with
  | none => []
  | some kid => kidFetches env web s kid

/-- The responses an entry point gets, from the state before. -/
def Op.fetches (op : Op) : List HttpResponse :=
  match op.jwt? with
  | none => [web s.sent (jwksRequest env)]
  | some jwt => jwtFetches env web s jwt

end

/-! ## What can be read -/

/-- A header the verifier can read. -/
def ReadableHeader (header : Json) : Prop :=
  header.isObject = true ∧ header.StringOrAbsent "alg" ∧
    (memberText header "alg" = str "EdDSA" → header.StringOrAbsent "kid")

/-- The token of an entry point has a header that can be read, if it has one. -/
def Op.HeaderReadable (env : Env) (op : Op) : Prop :=
  ∀ jwt, op.jwt? = some jwt → ∀ header, headerOf env jwt = some header → ReadableHeader header

/-- A response whose document, if it carries one, can be read. -/
def ReadableResponse (parse : Parser) (resp : HttpResponse) : Prop :=
  ∀ items, documentOf parse resp = some items → ∀ k ∈ items, ReadableKey k

/-- No unusable body takes a key set away: when the last body fetched with status 200 is no
key document, there was no key before, or a document fetched before has no usable key. -/
def NotEmptied (parse : Parser) (keys : KeySet) (fetched : List HttpResponse) : Prop :=
  ∀ resp, (fetched.filter delivered).getLast? = some resp → itemsOf parse resp.body = none →
    (keys = fun _ => none) ∨ ∃ earlier ∈ fetched, ∃ items,
      documentOf parse earlier = some items ∧ usableKeys items = fun _ => none

section

variable {env : Env} {web : List HttpRequest → HttpRequest → HttpResponse}

theorem readHeader_of_readable {header : Json} (h : ReadableHeader header) :
    readHeader header = .ok
      (if memberText header "alg" = str "EdDSA" then some (memberText header "kid") else none) := by
  obtain ⟨hobject, halg, hkid⟩ := h
  unfold readHeader
  rw [valueString_of_readable hobject halg]
  by_cases heddsa : memberText header "alg" = str "EdDSA"
  · rw [valueString_of_readable hobject (hkid heddsa)]
    simp [heddsa, bind, Except.bind, pure, Except.pure]
  · simp [heddsa, bind, Except.bind, pure, Except.pure]

theorem readHeader_of_unreadable {header : Json} (h : ¬ReadableHeader header) :
    ∃ e, readHeader header = .error e := by
  unfold ReadableHeader at h
  unfold readHeader
  by_cases halg : header.isObject = true ∧ header.StringOrAbsent "alg"
  · obtain ⟨e, he⟩ := valueString_of_unreadable (j := header) "kid" (by tauto)
    rw [valueString_of_readable halg.1 halg.2, he]
    have heddsa : memberText header "alg" = str "EdDSA" := by tauto
    exact ⟨e, by simp [heddsa, bind, Except.bind]⟩
  · obtain ⟨e, he⟩ := valueString_of_unreadable "alg" halg
    rw [he]
    exact ⟨e, rfl⟩

/-- The walk over readable members adds their usable keys. -/
theorem addAll_of_readable (items : List Json) (h : ∀ k ∈ items, ReadableKey k) (s : Verifier) :
    addAll items s = (.ok (),
      { s with keys := items.foldl (fun keys k => keys.insert (usableKey? k)) s.keys }) := by
  induction items generalizing s with
  | nil => rfl
  | cons k rest ih =>
      unfold addAll
      rw [readJwk_of_readable (h k List.mem_cons_self)]
      simp only [liftJson, Prog.bind_run, Prog.lift_run, Prog.modify_run]
      rw [ih fun k' hk' => h k' (List.mem_cons_of_mem _ hk')]
      rfl

/-- The walk throws at a member it cannot read. -/
theorem addAll_of_unreadable (items : List Json) (h : ¬∀ k ∈ items, ReadableKey k)
    (s : Verifier) : ∃ e s', addAll items s = (.error e, s') := by
  induction items generalizing s with
  | nil => simp at h
  | cons k rest ih =>
      unfold addAll
      by_cases hk : ReadableKey k
      · rw [readJwk_of_readable hk]
        simp only [liftJson, Prog.bind_run, Prog.lift_run, Prog.modify_run]
        apply ih
        intro hrest
        apply h
        intro k' hk'
        rcases List.mem_cons.mp hk' with rfl | hk'
        · exact hk
        · exact hrest k' hk'
      · obtain ⟨e, he⟩ := readJwk_of_unreadable hk
        rw [he]
        exact ⟨_, _, rfl⟩

/-- A verifier after one more exchange, with the cache as it is. -/
def Verifier.exchanged (s : Verifier) (req : HttpRequest) (resp : HttpResponse) : Verifier :=
  { s with
    ticks := s.ticks + 1, sent := s.sent ++ [req], received := s.received ++ [resp] }

theorem ensureKeys_warm {s : Verifier} (hwarm : s.warm env (env.clock s.ticks) = true) :
    ensureKeysLocked env s = (.ok (), { s with ticks := s.ticks + 1 }) := by
  have hstill : ({ s with ticks := s.ticks + 1 } : Verifier).warm env (env.clock s.ticks) = true :=
    hwarm
  unfold ensureKeysLocked
  simp only [Prog.bind_run, now, Prog.read_run]
  rw [if_pos hstill]
  rfl

/-- What is fetched for a `kid`, from the state after the first fetch. -/
theorem kidFetches_eq {s m : Verifier} {kid : Str}
    (hkeys : m.keys = (firstFetch env web s).foldl (keysAfter env.parse) s.keys)
    (hsent : m.sent = sentAfterFirst env s) (hticks : m.ticks = s.ticks + 1)
    (hcooldown : m.refetchCooldownUntil = s.refetchCooldownUntil) :
    kidFetches env web s kid =
      if m.keys kid = none ∧ m.refetchCooldownUntil ≤ env.clock m.ticks then
        firstFetch env web s ++ [web m.sent (jwksRequest env)]
      else firstFetch env web s := by
  rw [hkeys, hsent, hticks, hcooldown]
  rfl

/-- The refetch for an unknown `kid` starts from a cache that is due. -/
def Verifier.refetching (s : Verifier) (time : Int) : Verifier :=
  { s with
    ticks := s.ticks + 1
    refetchCooldownUntil := time + kOidcJwksRefetchCooldownSeconds
    haveKeys := false }

theorem refetching_due (s : Verifier) (time now : Int) : (s.refetching time).warm env now = false := rfl

/-- The key lookup from the state after the first fetch. -/
theorem findKey_second {s m : Verifier} {kid : Str} (hrun : ensureKeysLocked env s = (.ok (), m)) :
    findKey env kid s = match m.keys kid with
      | some jwk => (.ok (some jwk), m)
      | none =>
          if env.clock m.ticks < m.refetchCooldownUntil then
            (.ok none, { m with ticks := m.ticks + 1 })
          else match ensureKeysLocked env (m.refetching (env.clock m.ticks)) with
            | (.ok _, m') => (.ok (m'.keys kid), m')
            | (.error e, m') => (.error e, m') := by
  unfold findKey
  simp only [Prog.bind_run, hrun, Prog.read_run]
  rcases m.keys kid with _ | jwk
  · simp only [Prog.bind_run, now]
    by_cases hcool : env.clock m.ticks < m.refetchCooldownUntil
    · rw [if_pos hcool, if_pos hcool]
      rfl
    · rw [if_neg hcool, if_neg hcool]
      simp only [Prog.bind_run, Prog.modify_run, Prog.read_run]
      unfold Verifier.refetching
      rcases ensureKeysLocked env _ with ⟨_ | _, m'⟩ <;> rfl
  · rfl

section Answering

variable (hanswers : ∀ sent req, env.transport sent req = .ok (web sent req)) {s : Verifier}
include hanswers

/-- A due cache is fetched: the response decides. -/
theorem ensureKeys_due (hdue : s.warm env (env.clock s.ticks) = false) :
    ensureKeysLocked env s =
      (if delivered (web s.sent (jwksRequest env)) = false then pure ()
        else do
          loadFromJson env (web s.sent (jwksRequest env)).body
          Prog.modify fun t => { t with fetchedAt := env.clock s.ticks, haveKeys := true })
        (s.exchanged (jwksRequest env) (web s.sent (jwksRequest env))) := by
  have hstill : ({ s with ticks := s.ticks + 1 } : Verifier).warm env (env.clock s.ticks) = false :=
    hdue
  unfold ensureKeysLocked
  simp only [Prog.bind_run, now, Prog.read_run]
  rw [if_neg (by rw [hstill]; decide)]
  simp only [Prog.bind_run, transport, hanswers]
  rfl

/-- A fetch that can be read leaves the keys of its document. -/
theorem ensureKeys_of_readable (hdue : s.warm env (env.clock s.ticks) = false)
    (hread : ReadableResponse env.parse (web s.sent (jwksRequest env))) :
    ∃ fetchedAt haveKeys, ensureKeysLocked env s = (.ok (),
      { s.exchanged (jwksRequest env) (web s.sent (jwksRequest env)) with
        keys := keysAfter env.parse s.keys (web s.sent (jwksRequest env))
        fetchedAt := fetchedAt, haveKeys := haveKeys }) := by
  rw [ensureKeys_due hanswers hdue]
  generalize web s.sent (jwksRequest env) = resp at hread ⊢
  unfold keysAfter
  unfold ReadableResponse documentOf at hread
  by_cases hdelivered : delivered resp = true
  · rw [if_pos hdelivered] at hread
    rw [if_neg (by simp [hdelivered]), if_pos hdelivered]
    unfold loadFromJson
    refine ⟨env.clock s.ticks, true, ?_⟩
    rcases hitems : itemsOf env.parse resp.body with _ | items
    · simp only [Prog.bind_run, Prog.modify_run]
      rfl
    · simp only [Prog.bind_run, Prog.modify_run]
      rw [addAll_of_readable items (hread items hitems)]
      rfl
  · have hdelivered : delivered resp = false := by simpa using hdelivered
    rw [if_pos hdelivered]
    refine ⟨s.fetchedAt, s.haveKeys, ?_⟩
    simp only [hdelivered]
    rfl

/-- A document that cannot be read throws. -/
theorem ensureKeys_of_unreadable (hdue : s.warm env (env.clock s.ticks) = false)
    (hread : ¬ReadableResponse env.parse (web s.sent (jwksRequest env))) :
    ∃ e s', ensureKeysLocked env s = (.error e, s') := by
  rw [ensureKeys_due hanswers hdue]
  generalize web s.sent (jwksRequest env) = resp at hread ⊢
  unfold ReadableResponse documentOf at hread
  by_cases hdelivered : delivered resp = true
  · rw [if_pos hdelivered] at hread
    rw [if_neg (by simp [hdelivered])]
    push Not at hread
    obtain ⟨items, hitems, k, hk, hbad⟩ := hread
    unfold loadFromJson
    rw [hitems]
    obtain ⟨e, s', hthrow⟩ := addAll_of_unreadable items (fun hall => hbad (hall k hk))
      { s.exchanged (jwksRequest env) resp with keys := fun _ => none }
    simp only [Prog.bind_run, Prog.modify_run]
    rw [hthrow]
    exact ⟨e, s', rfl⟩
  · rw [if_neg hdelivered] at hread
    simp at hread

/-! ## The first fetch and the second -/

/-- The state after the fetches `fetched`. -/
def Verifier.After (s : Verifier) (parse : Parser) (fetched : List HttpResponse)
    (s' : Verifier) : Prop :=
  s'.received = s.received ++ fetched ∧ s'.keys = fetched.foldl (keysAfter parse) s.keys

/-- The first step of a verification, when its response can be read. -/
theorem ensureKeys_first (hread : ∀ resp ∈ firstFetch env web s, ReadableResponse env.parse resp) :
    ∃ s', ensureKeysLocked env s = (.ok (), s') ∧
      s.After env.parse (firstFetch env web s) s' ∧ s'.sent = sentAfterFirst env s ∧
      s'.ticks = s.ticks + 1 ∧ s'.refetchCooldownUntil = s.refetchCooldownUntil := by
  unfold firstFetch at hread ⊢
  unfold sentAfterFirst Verifier.After
  by_cases hwarm : s.warm env (env.clock s.ticks) = true
  · rw [if_pos hwarm, if_pos hwarm]
    exact ⟨_, ensureKeys_warm hwarm, ⟨by simp, rfl⟩, rfl, rfl, rfl⟩
  · rw [if_neg hwarm] at hread ⊢
    rw [if_neg hwarm]
    obtain ⟨_, _, hrun⟩ := ensureKeys_of_readable hanswers (by simpa using hwarm)
      (hread _ (by simp))
    exact ⟨_, hrun, ⟨rfl, rfl⟩, rfl, rfl, rfl⟩

theorem ensureKeys_first_throws
    (hread : ¬∀ resp ∈ firstFetch env web s, ReadableResponse env.parse resp) :
    ∃ e s', ensureKeysLocked env s = (.error e, s') := by
  unfold firstFetch at hread
  by_cases hwarm : s.warm env (env.clock s.ticks) = true
  · rw [if_pos hwarm] at hread
    simp at hread
  · rw [if_neg hwarm] at hread
    exact ensureKeys_of_unreadable hanswers (by simpa using hwarm) (by simpa using hread)

/-- The key lookup, when everything it fetches can be read. -/
theorem findKey_of_readable {kid : Str}
    (hread : ∀ resp ∈ kidFetches env web s kid, ReadableResponse env.parse resp) :
    ∃ out s', findKey env kid s = (.ok out, s') ∧
      s.After env.parse (kidFetches env web s kid) s' := by
  have hfirst : ∀ resp ∈ firstFetch env web s, ReadableResponse env.parse resp := by
    intro resp hresp
    apply hread
    unfold kidFetches
    split
    · exact List.mem_append_left _ hresp
    · exact hresp
  obtain ⟨m, hrun, ⟨hreceived, hkeys⟩, hsent, hticks, hcooldown⟩ := ensureKeys_first hanswers hfirst
  have hplan : kidFetches env web s kid = _ := kidFetches_eq hkeys hsent hticks hcooldown
  rw [findKey_second hrun]
  rcases hkid : m.keys kid with _ | jwk
  · rw [hkid] at hplan
    by_cases hcool : env.clock m.ticks < m.refetchCooldownUntil
    · rw [if_neg (by omega)] at hplan
      rw [hplan]
      dsimp only
      rw [if_pos hcool]
      exact ⟨_, _, rfl, hreceived, hkeys⟩
    · rw [if_pos ⟨rfl, by omega⟩] at hplan
      rw [hplan] at hread ⊢
      dsimp only
      rw [if_neg hcool]
      obtain ⟨_, _, hagain⟩ := ensureKeys_of_readable hanswers
        (refetching_due m (env.clock m.ticks) _) (hread (web m.sent (jwksRequest env)) (by simp))
      rw [hagain]
      refine ⟨_, _, rfl, ?_, ?_⟩
      · show m.received ++ _ = _
        rw [hreceived, List.append_assoc]
        rfl
      · rw [List.foldl_append, ← hkeys]
        rfl
  · rw [hkid, if_neg (by simp)] at hplan
    rw [hplan]
    exact ⟨_, _, rfl, hreceived, hkeys⟩

/-- The key lookup throws at the first document it cannot read. -/
theorem findKey_of_unreadable {kid : Str}
    (hread : ¬∀ resp ∈ kidFetches env web s kid, ReadableResponse env.parse resp) :
    ∃ e s', findKey env kid s = (.error e, s') := by
  by_cases hfirst : ∀ resp ∈ firstFetch env web s, ReadableResponse env.parse resp
  · obtain ⟨m, hrun, ⟨_, hkeys⟩, hsent, hticks, hcooldown⟩ := ensureKeys_first hanswers hfirst
    rw [kidFetches_eq hkeys hsent hticks hcooldown] at hread
    rw [findKey_second hrun]
    by_cases hsecond : m.keys kid = none ∧ m.refetchCooldownUntil ≤ env.clock m.ticks
    · rw [if_pos hsecond] at hread
      rw [hsecond.1]
      dsimp only
      rw [if_neg (by omega)]
      have hbad : ¬ReadableResponse env.parse (web m.sent (jwksRequest env)) := by
        intro hgood
        apply hread
        intro resp hresp
        rcases List.mem_append.mp hresp with hresp | hresp
        · exact hfirst resp hresp
        · rw [List.mem_singleton.mp hresp]
          exact hgood
      obtain ⟨e, s', hthrow⟩ := ensureKeys_of_unreadable hanswers
        (refetching_due m (env.clock m.ticks) _) hbad
      rw [hthrow]
      exact ⟨e, s', rfl⟩
    · rw [if_neg hsecond] at hread
      exact absurd hfirst hread
  · obtain ⟨e, s', hthrow⟩ := ensureKeys_first_throws hanswers hfirst
    unfold findKey
    rw [Prog.bind_run, hthrow]
    exact ⟨e, s', rfl⟩

/-! ## The entry points -/

/-- A verification returns when the header and what it fetches can be read. -/
theorem verifyWithReason_of_readable {jwt : Str}
    (hheader : ∀ header, headerOf env jwt = some header → ReadableHeader header)
    (hread : ∀ resp ∈ jwtFetches env web s jwt, ReadableResponse env.parse resp) :
    ∃ out s', verifyWithReason env jwt s = (.ok out, s') ∧
      s.After env.parse (jwtFetches env web s jwt) s' := by
  unfold jwtFetches eddsaKid? at hread ⊢
  unfold verifyWithReason
  rcases hopen : headerOf env jwt with _ | header
  · exact ⟨_, s, rfl, by simp, rfl⟩
  rw [hopen] at hread
  simp only [Option.bind_some] at hread ⊢
  rw [readHeader_of_readable (hheader header hopen)]
  simp only [liftJson, Prog.bind_run, Prog.lift_run]
  by_cases heddsa : memberText header "alg" = str "EdDSA"
  · rw [if_pos heddsa] at hread ⊢
    obtain ⟨out, s', hrun, hafter⟩ := findKey_of_readable hanswers hread
    simp only [Prog.bind_run, hrun]
    rcases out with _ | jwk
    · exact ⟨_, s', rfl, hafter⟩
    · exact ⟨_, s', rfl, hafter⟩
  · rw [if_neg heddsa]
    exact ⟨_, s, rfl, by simp, rfl⟩

/-- A verification throws when the header or a document it fetches cannot be read. -/
theorem verifyWithReason_of_unreadable {jwt : Str}
    (hbad : ¬((∀ header, headerOf env jwt = some header → ReadableHeader header) ∧
      ∀ resp ∈ jwtFetches env web s jwt, ReadableResponse env.parse resp)) :
    ∃ e s', verifyWithReason env jwt s = (.error e, s') := by
  unfold jwtFetches eddsaKid? at hbad
  unfold verifyWithReason
  rcases hopen : headerOf env jwt with _ | header
  · simp [hopen] at hbad
  rw [hopen] at hbad
  simp only [Option.some.injEq, forall_eq', Option.bind_some] at hbad
  by_cases hheader : ReadableHeader header
  · dsimp only
    rw [readHeader_of_readable hheader]
    simp only [liftJson, Prog.bind_run, Prog.lift_run]
    by_cases heddsa : memberText header "alg" = str "EdDSA"
    · rw [if_pos heddsa] at hbad ⊢
      obtain ⟨e, s', hthrow⟩ := findKey_of_unreadable hanswers
        (fun hread => hbad ⟨hheader, hread⟩)
      simp only [Prog.bind_run, hthrow]
      exact ⟨e, s', rfl⟩
    · rw [if_neg heddsa] at hbad
      simp [hheader] at hbad
  · obtain ⟨e, he⟩ := readHeader_of_unreadable hheader
    dsimp only
    rw [he]
    exact ⟨_, _, rfl⟩

/-- An entry point returns when all it reads can be read. -/
theorem Op.run_of_readable {op : Op} (hheader : op.HeaderReadable env)
    (hread : ∀ resp ∈ op.fetches env web s, ReadableResponse env.parse resp) :
    ∃ s', op.run env s = (.ok (), s') ∧ s.After env.parse (op.fetches env web s) s' := by
  cases op with
  | verifyWithReason jwt =>
      obtain ⟨out, s', hrun, hafter⟩ :=
        verifyWithReason_of_readable hanswers (hheader jwt rfl) hread
      refine ⟨s', ?_, hafter⟩
      show (Jwks.verifyWithReason env jwt >>= fun _ => pure ()) s = _
      rw [Prog.bind_run, hrun]
      rfl
  | verifySignatureOnlyUnchecked jwt =>
      obtain ⟨out, s', hrun, hafter⟩ :=
        verifyWithReason_of_readable hanswers (hheader jwt rfl) hread
      refine ⟨s', ?_, hafter⟩
      show (Jwks.verifySignatureOnlyUnchecked env jwt >>= fun _ => pure ()) s = _
      unfold Jwks.verifySignatureOnlyUnchecked
      rw [Prog.bind_run, Prog.bind_run, hrun]
      cases out <;> rfl
  | refreshKeys =>
      show ∃ s', Jwks.refreshKeys env s = (.ok (), s') ∧ _
      unfold Jwks.refreshKeys
      rw [Prog.bind_run, Prog.modify_run]
      obtain ⟨_, _, hrun⟩ := ensureKeys_of_readable hanswers
        (s := { s with haveKeys := false }) rfl (hread (web s.sent (jwksRequest env)) (by
          simp [Op.fetches, Op.jwt?]))
      dsimp only
      rw [hrun]
      exact ⟨_, rfl, rfl, rfl⟩

/-- An entry point throws when something it reads cannot be read. -/
theorem Op.run_of_unreadable {op : Op}
    (hbad : ¬(op.HeaderReadable env ∧
      ∀ resp ∈ op.fetches env web s, ReadableResponse env.parse resp)) :
    ∃ e s', op.run env s = (.error e, s') := by
  cases op with
  | verifyWithReason jwt =>
      obtain ⟨e, s', hthrow⟩ := verifyWithReason_of_unreadable hanswers (s := s)
        (fun ⟨hheader, hread⟩ => hbad ⟨fun _ heq => by cases heq; exact hheader, hread⟩)
      refine ⟨e, s', ?_⟩
      show (Jwks.verifyWithReason env jwt >>= fun _ => pure ()) s = _
      rw [Prog.bind_run, hthrow]
  | verifySignatureOnlyUnchecked jwt =>
      obtain ⟨e, s', hthrow⟩ := verifyWithReason_of_unreadable hanswers (s := s)
        (fun ⟨hheader, hread⟩ => hbad ⟨fun _ heq => by cases heq; exact hheader, hread⟩)
      refine ⟨e, s', ?_⟩
      show (Jwks.verifySignatureOnlyUnchecked env jwt >>= fun _ => pure ()) s = _
      unfold Jwks.verifySignatureOnlyUnchecked
      rw [Prog.bind_run, Prog.bind_run, hthrow]
  | refreshKeys =>
      have hresp : ¬ReadableResponse env.parse (web s.sent (jwksRequest env)) := by
        intro hgood
        apply hbad
        refine ⟨?_, by simpa [Op.fetches, Op.jwt?] using hgood⟩
        intro jwt heq
        cases heq
      obtain ⟨e, s', hthrow⟩ := ensureKeys_of_unreadable hanswers
        (s := { s with haveKeys := false }) rfl hresp
      refine ⟨e, s', ?_⟩
      show Jwks.refreshKeys env s = _
      unfold Jwks.refreshKeys
      rw [Prog.bind_run, Prog.modify_run]
      exact hthrow

end Answering

/-- The keys after a list of responses are decided by the last document among them. -/
theorem foldl_keysAfter (parse : Parser) (keys : KeySet) (fetched : List HttpResponse) :
    fetched.foldl (keysAfter parse) keys =
      match (fetched.filter delivered).getLast? with
      | none => keys
      | some resp => keysAfter parse keys resp := by
  induction fetched using List.reverseRecOn with
  | nil => rfl
  | append_singleton rest resp ih =>
      rw [List.foldl_append, ih, List.filter_append]
      by_cases hdelivered : delivered resp = true
      · rw [List.filter_cons_of_pos hdelivered]
        simp [keysAfter, hdelivered]
      · rw [List.filter_cons_of_neg hdelivered, List.filter_nil, List.append_nil]
        simp only [List.foldl_cons, List.foldl_nil, keysAfter, hdelivered]
        rfl

end

/-- **A result and a whole key set, exactly when what is read can be read.** For every
entry point, every state of the verifier and every way the transport answers. -/
theorem settles_iff (env : Env) (web : List HttpRequest → HttpRequest → HttpResponse) (op : Op)
    (s : Verifier) :
    op.Settles (env.answering web) s ↔
      op.HeaderReadable env ∧
        (∀ resp ∈ op.fetches env web s, ReadableResponse env.parse resp) ∧
        NotEmptied env.parse s.keys (op.fetches env web s) := by
  have hanswers : ∀ sent req, (env.answering web).transport sent req = .ok (web sent req) :=
    fun _ _ => rfl
  constructor
  · rintro ⟨s', hrun, hkeys⟩
    have hread : op.HeaderReadable env ∧
        ∀ resp ∈ op.fetches env web s, ReadableResponse env.parse resp := by
      by_contra hbad
      obtain ⟨e, _, hthrow⟩ := Op.run_of_unreadable hanswers (s := s) hbad
      rw [hthrow] at hrun
      cases hrun
    refine ⟨hread.1, hread.2, ?_⟩
    obtain ⟨t, hrun', hreceived, hafter⟩ :=
      Op.run_of_readable hanswers (s := s) hread.1 hread.2
    rw [hrun'] at hrun
    cases hrun
    rw [foldl_keysAfter] at hafter
    intro resp hlast hunusable
    -- the last document emptied the cache
    have hempty : s'.keys = fun _ => none := by
      have hdelivered : delivered resp = true :=
        (List.mem_filter.mp (List.mem_of_getLast? hlast)).2
      rw [hafter]
      change (match (List.filter delivered (op.fetches env web s)).getLast? with
        | none => s.keys
        | some resp => keysAfter env.parse s.keys resp) = _
      rw [hlast]
      simp only [keysAfter, hdelivered, if_true, hunusable]
    rcases hkeys with hsame | ⟨doc, hdoc, items, hitems, husable⟩
    · exact .inl (by rw [← hsame, hempty])
    · rw [hreceived, List.drop_left] at hdoc
      exact .inr ⟨doc, hdoc, items, hitems, by rw [← husable, hempty]⟩
  · rintro ⟨hheader, hread, hkept⟩
    obtain ⟨s', hrun, hreceived, hafter⟩ := Op.run_of_readable hanswers (s := s) hheader hread
    refine ⟨s', hrun, ?_⟩
    rw [hreceived, List.drop_left]
    rw [foldl_keysAfter] at hafter
    change s'.keys = (match (List.filter delivered (op.fetches env web s)).getLast? with
        | none => s.keys
        | some resp => keysAfter env.parse s.keys resp) at hafter
    rcases hlast : (List.filter delivered (op.fetches env web s)).getLast? with _ | resp
    · rw [hlast] at hafter
      exact .inl hafter
    · rw [hlast] at hafter
      obtain ⟨hmem, hdelivered⟩ := List.mem_filter.mp (List.mem_of_getLast? hlast)
      simp only [keysAfter, hdelivered, if_true] at hafter
      rcases hitems : itemsOf env.parse resp.body with _ | items <;> rw [hitems] at hafter
      · rcases hkept resp hlast hitems with hsame | ⟨doc, hdoc, items, hdocument, husable⟩
        · exact .inl (by rw [hafter, hsame])
        · exact .inr ⟨doc, hdoc, items, hdocument, by rw [hafter, husable]⟩
      · refine .inr ⟨resp, hmem, items, ?_, hafter⟩
        unfold documentOf
        rw [if_pos hdelivered]
        exact hitems

/-! ## A page in the place of the keys -/

/-- A verifier that holds one key. -/
def populated : Verifier where
  keys := Function.update (fun _ => none) "a"
    (some ⟨"a", "11qYAYKxCrfVS_7TyWQHOg7hcvPapiMlrwIaaPcHURo"⟩)
  haveKeys := true

/-- The page is not JSON. -/
def pageEnv : Env where
  baseUrl := "https://idp.example"
  cacheTtl := 300
  parse := tableParser []
  ed25519Verify := fun _ _ _ => false
  transport := fun _ _ => .ok {}
  clock := fun n => n

/-- A proxy's error page, sent with status 200. -/
def pageWeb : List HttpRequest → HttpRequest → HttpResponse :=
  fun _ _ => { status := 200, body := "<html></html>" }

/-- A refresh answered by the page takes the key away. -/
theorem refresh_empties :
    ¬∀ (env : Env) (web : List HttpRequest → HttpRequest → HttpResponse) (op : Op)
      (s : Verifier), op.Settles (env.answering web) s := by
  intro hall
  obtain ⟨s', hrun, hkeys⟩ := hall pageEnv pageWeb .refreshKeys populated
  have hnone : s'.keys "a" = none := by
    have hrun' : (Op.refreshKeys.run (pageEnv.answering pageWeb) populated).2.keys "a" = none := by
      decide
    rw [hrun] at hrun'
    exact hrun'
  rcases hkeys with hsame | ⟨resp, _, items, hitems, _⟩
  · rw [hsame] at hnone
    revert hnone
    decide
  · have hnothing : documentOf pageEnv.parse resp = none := by
      unfold documentOf
      split <;> rfl
    have : documentOf pageEnv.parse resp = some items := hitems
    rw [hnothing] at this
    cases this

end Axiam.Jwks
