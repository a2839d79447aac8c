import Axiam.Core.Digits
import Axiam.Core.JsonText
import Axiam.Reactor.Replay
import Axiam.Reactor.Reply

/-!
# What the MAC of an event covers

`canonical_event` puts quoted texts, a dumped document and two numbers one behind the other.  Each
of them ends where its reader can tell, so the signed bytes determine every field of the event that
the handler gets: no member that the canonical form leaves out reaches it.
-/

namespace Axiam.Reactor

open Axiam.Lib

variable (lib : Library)

/-- The bytes the MAC of a body is taken over. -/
def canonicalBytes (body : Str) : Option Str := (lib.parse body).map (canonicalEvent lib)

/-- The event of a message, as the handler gets it. -/
def eventOf (message : Json) : ReactorEvent where
  tenantId := stringOf message "tenant_id"
  event := stringOf message "event"
  correlationId := stringOf message "correlation_id"
  payloadJson := lib.dump ((message.find? "payload").getD .null)
  timeoutMs := integerOf message "timeout_ms"
  nonce := stringOf message "nonce"

/-- The canonical form, member by member. -/
theorem canonicalEvent_eq (message : Json) : canonicalEvent lib message =
    str "\x7b\"tenant_id\":" ++ (quoted (eventOf lib message).tenantId ++
      (str ",\"event\":" ++ (quoted (eventOf lib message).event ++
        (str ",\"correlation_id\":" ++ (quoted (eventOf lib message).correlationId ++
          (str ",\"payload\":" ++ ((eventOf lib message).payloadJson ++ 44 ::
            (str "\"timeout_ms\":" ++ (toStr (eventOf lib message).timeoutMs ++ 44 ::
              (str "\"key_version\":" ++ (toStr (integerOf message "key_version") ++ 44 ::
                (str "\"nonce\":" ++ (quoted (eventOf lib message).nonce ++
                  (str ",\"issued_at\":" ++ (quoted (stringOf message "issued_at") ++
                    str ",\"hmac_signature\":null\x7d"))))))))))))))) := by
  have hopen : str "\x7b" ++ str "\"tenant_id\":" = str "\x7b\"tenant_id\":" := by decide
  have hclose : str ",\"hmac_signature\":null" ++ str "\x7d" =
      str ",\"hmac_signature\":null\x7d" := by decide
  have hcomma (s t : String) (h : str s = 44 :: str t) (r : Str) : str s ++ r = 44 :: (str t ++ r) := by
    rw [h, List.cons_append]
  unfold canonicalEvent eventOf
  simp only [List.append_assoc]
  rw [hclose, hcomma ",\"timeout_ms\":" "\"timeout_ms\":" (by decide),
    hcomma ",\"key_version\":" "\"key_version\":" (by decide),
    hcomma ",\"nonce\":" "\"nonce\":" (by decide), ← hopen]
  simp only [List.append_assoc]

/-- A number ends at the comma behind it. -/
theorem toStr_comma {i j : Int} {r r' : Str} (h : toStr i ++ 44 :: r = toStr j ++ 44 :: r') :
    i = j ∧ r = r' := by
  have hprompt := Prompt.upTo toStr_injective comma_notMem_toStr
  refine hprompt i j r r' ?_
  simpa only [List.append_assoc, List.singleton_append] using h

/-- Equal signed bytes, equal events. -/
theorem canonicalEvent_inj (hdump : ∀ j, JsonText (lib.dump j)) {message message' : Json}
    (h : canonicalEvent lib message = canonicalEvent lib message') :
    eventOf lib message = eventOf lib message' := by
  rw [canonicalEvent_eq, canonicalEvent_eq] at h
  obtain ⟨htenant, h⟩ := quoted_prompt _ _ _ _ (List.append_cancel_left h)
  obtain ⟨hevent, h⟩ := quoted_prompt _ _ _ _ (List.append_cancel_left h)
  obtain ⟨hcorrelation, h⟩ := quoted_prompt _ _ _ _ (List.append_cancel_left h)
  -- the document ends at the comma outside of its brackets
  obtain ⟨hpayload, h⟩ := JsonText.append_comma_inj (hdump _) (hdump _)
    (List.append_cancel_left h)
  obtain ⟨htimeout, h⟩ := toStr_comma (List.append_cancel_left h)
  obtain ⟨-, h⟩ := toStr_comma (List.append_cancel_left h)
  obtain ⟨hnonce, -⟩ := quoted_prompt _ _ _ _ (List.append_cancel_left h)
  simp only [eventOf, ReactorEvent.mk.injEq]
  exact ⟨htenant, hevent, hcorrelation, hpayload, htimeout, hnonce⟩

/-! ## Accepted bodies -/

/-- A body that passed steps 1 to 3 is signed over its canonical form. -/
theorem freshMessage_signed {lib : Library} {signingKey body : Str} {now : Int} {message : Json}
    (h : freshMessage lib signingKey body now = .ok message) :
    lib.parse body = some message ∧ message.stringMember? "hmac_signature" =
      some (lib.hmacSha256Hex signingKey (canonicalEvent lib message)) := by
  simp only [freshMessage, bind, Except.bind, pure, Except.pure, throw, throwThe,
    MonadExceptOf.throw] at h
  -- every refusing branch contradicts `h`; the one that is left compared the signature
  repeat' split at h
  all_goals first
    | contradiction
    | simp_all [constantTimeEquals_iff]

theorem identify_eq_ok {lib : Library} {message : Json} {expectedTenant : Str} {e : ReactorEvent}
    (h : identify lib message expectedTenant = .ok e) : e = eventOf lib message := by
  unfold identify at h
  split at h
  · exact nomatch h
  · split at h
    · exact nomatch h
    · exact (Except.ok.inj h).symm

/-- What acceptance says of a body: it is signed, and its event is that of its message. -/
theorem reactorVerifyEvent_accepts {lib : Library} {signingKey body expectedTenant : Str}
    {now : Int} {seen after : Option SeenNonces} {e : ReactorEvent}
    (h : reactorVerifyEvent lib signingKey body expectedTenant now seen = (.ok e, after)) :
    ∃ message, lib.parse body = some message ∧ message.stringMember? "hmac_signature" =
      some (lib.hmacSha256Hex signingKey (canonicalEvent lib message)) ∧
        e = eventOf lib message := by
  unfold reactorVerifyEvent at h
  split at h
  · exact nomatch congrArg Prod.fst h
  · rename_i message hfresh
    obtain ⟨hparse, hsigned⟩ := freshMessage_signed hfresh
    refine ⟨message, hparse, hsigned, ?_⟩
    split at h
    · exact identify_eq_ok (congrArg Prod.fst h)
    · simp only at h
      split at h
      · exact nomatch congrArg Prod.fst h
      · exact identify_eq_ok (congrArg Prod.fst h)

/-- Two bodies accepted under one key, whenever and by whom, with the same signed bytes: they carry
the same signature over these bytes, and the handler gets the same event of both. -/
theorem mac_binds_event (hdump : ∀ j, JsonText (lib.dump j)) {signingKey : Str}
    {body expectedTenant : Str} {now : Int} {seen after : Option SeenNonces} {e : ReactorEvent}
    {body' expectedTenant' : Str} {now' : Int} {seen' after' : Option SeenNonces}
    {e' : ReactorEvent}
    (h : reactorVerifyEvent lib signingKey body expectedTenant now seen = (.ok e, after))
    (h' : reactorVerifyEvent lib signingKey body' expectedTenant' now' seen' = (.ok e', after'))
    (hbytes : canonicalBytes lib body = canonicalBytes lib body') :
    (∃ bytes message message', canonicalBytes lib body = some bytes ∧
      lib.parse body = some message ∧ lib.parse body' = some message' ∧
      message.stringMember? "hmac_signature" = some (lib.hmacSha256Hex signingKey bytes) ∧
      message'.stringMember? "hmac_signature" = some (lib.hmacSha256Hex signingKey bytes)) ∧
    e = e' := by
  obtain ⟨message, hparse, hsigned, rfl⟩ := reactorVerifyEvent_accepts h
  obtain ⟨message', hparse', hsigned', rfl⟩ := reactorVerifyEvent_accepts h'
  have hcanonical : canonicalEvent lib message = canonicalEvent lib message' := by
    simp only [canonicalBytes, hparse, hparse', Option.map_some, Option.some.injEq] at hbytes
    exact hbytes
  refine ⟨⟨canonicalEvent lib message, message, message', ?_, hparse, hparse', hsigned, ?_⟩,
    canonicalEvent_inj lib hdump hcanonical⟩
  · rw [canonicalBytes, hparse]
    rfl
  · rw [hcanonical]
    exact hsigned'

/-! ## An event with a member more -/

/-- The event, and a member in front of it that no one signed. -/
def paddedBody : Str := str "\x7b\"extra\":\"x\"," ++ eventBody.drop 1

def paddedEvent : Json :=
  match signedEvent with
  | .object members => .object (members.take 2 ++ (str "extra", Json.string "x") :: members.drop 2)
  | other => other

def paddingLibrary : Library :=
  { eventLibrary with
    parse := tableParser [(eventBody, signedEvent), (paddedBody, paddedEvent)] }

theorem paddingLibrary_dump (j : Json) : JsonText (paddingLibrary.dump j) := by
  show JsonText (str "\x7b\x7d")
  exact @Enclosed.brackets false 123 125 [] [] (by decide) (by decide) .nil .nil

/-- Both are accepted, and the handler cannot tell them apart. -/
theorem padded_event_bound :
    (∃ bytes message message', canonicalBytes paddingLibrary eventBody = some bytes ∧
      paddingLibrary.parse eventBody = some message ∧
      paddingLibrary.parse paddedBody = some message' ∧
      message.stringMember? "hmac_signature" = some (paddingLibrary.hmacSha256Hex "k" bytes) ∧
      message'.stringMember? "hmac_signature" = some (paddingLibrary.hmacSha256Hex "k" bytes)) ∧
    acceptedEvent = acceptedEvent := by
  have hboth : reactorVerifyEvent paddingLibrary "k" eventBody "t" 1767225600 none =
      (.ok acceptedEvent, none) ∧
    reactorVerifyEvent paddingLibrary "k" paddedBody "t" 1767225600 none =
      (.ok acceptedEvent, none) ∧
    canonicalBytes paddingLibrary eventBody = canonicalBytes paddingLibrary paddedBody := by
    have hfirst : (reactorVerifyEvent paddingLibrary "k" eventBody "t" 1767225600 none).1 =
        .ok acceptedEvent := by decide +kernel
    have hpadded : (reactorVerifyEvent paddingLibrary "k" paddedBody "t" 1767225600 none).1 =
        .ok acceptedEvent := by decide +kernel
    have hnone (body : Str) : (reactorVerifyEvent paddingLibrary "k" body "t" 1767225600 none).2 =
        none := by
      unfold reactorVerifyEvent
      split <;> rfl
    exact ⟨Prod.ext hfirst (hnone _), Prod.ext hpadded (hnone _), by decide +kernel⟩
  exact mac_binds_event paddingLibrary paddingLibrary_dump hboth.1 hboth.2.1 hboth.2.2

end Axiam.Reactor
