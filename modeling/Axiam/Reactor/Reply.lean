import Axiam.Core.Error
import Axiam.Lib.Code
import Axiam.Reactor.Verify

/-!
# Signing a reactor reply

`reactor_canonical_reply` and `reactor_build_reply` (`src/reactor.cpp`): a handler's decision in
the server's field order, `hmac_signature` present and null, and the same text with the signature
over it in the place of the null.  A text between quotes ends at the first quote its escapes do not
contain, so the canonical form is read back in one way only.
-/

namespace Axiam.Reactor

open Axiam.Lib

/-! ## Decisions -/

/-- A `std::map` of strings: its entries in key order, one for each key. -/
structure Patch where
  entries : List (Str × Str)
  sorted : entries.Pairwise fun a b => a.1 < b.1

def Patch.empty : Patch := ⟨[], .nil⟩

theorem Patch.eq_of_entries {p q : Patch} (h : p.entries = q.entries) : p = q := by
  cases p
  cases q
  cases h
  rfl

structure ReactorDecision where
  decision : Str
  reason : Option Str := none
  patch : Patch := .empty
  requireMfa : Bool := false

namespace ReactorDecision

def allow : ReactorDecision := { decision := "allow" }

def allowWithStepUp : ReactorDecision := { decision := "allow", requireMfa := true }

/-- An empty reason is left out. -/
def deny (reason : Str) : ReactorDecision :=
  { decision := "deny", reason := if reason = [] then none else some reason }

def mutate (patch : Patch) : ReactorDecision := { decision := "mutate", patch := patch }

end ReactorDecision

/-! ## The canonical form -/

/-- The entries behind the first, and the closing brace. -/
def patchEntries : List (Str × Str) → Str
  | [] => str "\x7d"
  | (key, value) :: rest => str "," ++ quoted key ++ str ":" ++ quoted value ++ patchEntries rest

/-- `canonical_patch`. -/
def canonicalPatch (patch : Patch) : Str :=
  str "\x7b" ++ match patch.entries with
    | [] => str "\x7d"
    | (key, value) :: rest => quoted key ++ str ":" ++ quoted value ++ patchEntries rest

/-- A member that is left out when there is nothing to say. -/
def optionalMember (mark : Str) (text : Option Str) : Str :=
  match text with
  | some t => mark ++ t
  | none => []

/-- `reactor_canonical_reply`. -/
def canonicalReply (correlationId tenantId event : Str) (decision : ReactorDecision)
    (nonce issuedAt : Str) : Str :=
  str "\x7b" ++ str "\"correlation_id\":" ++ quoted correlationId ++
    str ",\"tenant_id\":" ++ quoted tenantId ++ str ",\"event\":" ++ quoted event ++
    str ",\"decision\":" ++ quoted decision.decision ++
    optionalMember ",\"reason\":" (decision.reason.map quoted) ++
    optionalMember ",\"patch\":"
      (if decision.patch.entries = [] then none else some (canonicalPatch decision.patch)) ++
    optionalMember ",\"require_mfa\":true" (if decision.requireMfa then some [] else none) ++
    str ",\"key_version\":" ++ toStr kKeyVersion ++ str ",\"nonce\":" ++ quoted nonce ++
    str ",\"issued_at\":" ++ quoted issuedAt ++ str ",\"hmac_signature\":null" ++ str "\x7d"

/-! ## The signature in its place -/

/-- `rfind`: where the last occurrence begins. -/
def rfind (pattern : Str) : Str → Option Nat
  | [] => if pattern = [] then some 0 else none
  | c :: rest =>
      match rfind pattern rest with
      | some at_ => some (at_ + 1)
      | none => if pattern.isPrefixOf (c :: rest) then some 0 else none

def placeholder : Str := "\"hmac_signature\":null"

/-- What takes the place of the last `placeholder`; without one, the whole text stands before it
and the sum of `npos` and its length wraps. -/
def spliceSignature (canonical signature : Str) : Str :=
  let signed := str "\"hmac_signature\":\"" ++ signature ++ str "\""
  match rfind placeholder canonical with
  | some at_ => canonical.take at_ ++ signed ++ canonical.drop (at_ + placeholder.length)
  | none => canonical ++ signed ++ canonical.drop (placeholder.length - 1)

/-- `reactor_build_reply`: two refusals, then the signed text. -/
def buildReply (lib : Library) (signingKey correlationId tenantId event : Str)
    (decision : ReactorDecision) (nonce issuedAt : Str) : Except Exc Str :=
  if decision.requireMfa ∧ event ≠ "login.post_auth" then
    .error (.auth "require_mfa is valid on login.post_auth only (CONTRACT.md §22.4 row 7)")
  else if decision.decision = "mutate" ∧ decision.patch.entries = [] then
    .error (.auth "a mutate answer requires a non-empty patch (malformed_mutation)")
  else
    let canonical := canonicalReply correlationId tenantId event decision nonce issuedAt
    .ok (spliceSignature canonical (lib.hmacSha256Hex signingKey canonical))

/-! ## Quoted texts -/

/-- The spelling of one byte between quotes. -/
def escapeByte (c : UInt8) : Str :=
  if c = 34 then "\\\""
  else if c = 92 then "\\\\"
  else if c = 8 then "\\b"
  else if c = 12 then "\\f"
  else if c = 10 then "\\n"
  else if c = 13 then "\\r"
  else if c = 9 then "\\t"
  else if c < 0x20 then str "\\u00" ++ hexByte c
  else [c]

theorem jsonEscape_eq (value : Str) : jsonEscape value = value.flatMap escapeByte := rfl

/-- A spelling is the byte itself, a backslash and a letter, or a backslash and the code. -/
theorem escapeByte_shape (c : UInt8) :
    (escapeByte c = [c] ∧ c ≠ 92 ∧ c ≠ 34) ∨ (∃ d, escapeByte c = [92, d] ∧ d ≠ 117) ∨
      ∃ x y, escapeByte c = [92, 117, 48, 48, x, y] := by
  unfold escapeByte
  split
  · exact .inr (.inl ⟨34, by decide, by decide⟩)
  split
  · exact .inr (.inl ⟨92, by decide, by decide⟩)
  split
  · exact .inr (.inl ⟨98, by decide, by decide⟩)
  split
  · exact .inr (.inl ⟨102, by decide, by decide⟩)
  split
  · exact .inr (.inl ⟨110, by decide, by decide⟩)
  split
  · exact .inr (.inl ⟨114, by decide, by decide⟩)
  split
  · exact .inr (.inl ⟨116, by decide, by decide⟩)
  split
  · exact .inr (.inr ⟨_, _, rfl⟩)
  · exact .inl ⟨rfl, by assumption, by assumption⟩

/-- The byte a spelling stands for. -/
def unescapeByte : Str → UInt8
  | [c] => c
  | [_, d] =>
      if d = 98 then 8 else if d = 102 then 12 else if d = 110 then 10 else if d = 114 then 13
      else if d = 116 then 9 else d
  | [_, _, _, _, x, y] =>
      let value (d : UInt8) : UInt8 := if d < 58 then d - 48 else d - 87
      value x * 16 + value y
  | _ => 0

theorem unescape_escapeByte (c : UInt8) : unescapeByte (escapeByte c) = c := by
  revert c
  apply forall_byte
  decide +kernel

theorem escapeByte_prompt : Prompt escapeByte := by
  intro c c' r r' h
  have hword : escapeByte c = escapeByte c' ∧ r = r' := by
    rcases escapeByte_shape c with ⟨hc, hne, -⟩ | ⟨d, hc, hd⟩ | ⟨x, y, hc⟩ <;>
      rcases escapeByte_shape c' with ⟨hc', hne', -⟩ | ⟨d', hc', hd'⟩ | ⟨x', y', hc'⟩ <;>
        rw [hc, hc'] at h ⊢ <;> simp_all
  refine ⟨?_, hword.2⟩
  rw [← unescape_escapeByte c, hword.1, unescape_escapeByte]

/-- A quoted text ends at its closing quote, whatever is in it. -/
theorem quoted_prompt : Prompt quoted := by
  have hword : Prompt fun value : Str => value.flatMap escapeByte ++ [34] := by
    refine Prompt.word escapeByte_prompt (fun c hc => ?_) fun c r hc => ?_ <;>
      rcases escapeByte_shape c with ⟨h, -, hne⟩ | ⟨d, h, -⟩ | ⟨x, y, h⟩ <;> rw [h] at hc <;>
        simp_all
  intro value value' r r' h
  refine hword.lit [34] value value' r r' ?_
  simpa only [quoted, jsonEscape_eq, show str "\"" = [34] by decide, List.append_assoc] using h

/-! ## The canonical form is read back in one way -/

/-- One entry of a patch. -/
theorem entry_prompt : Prompt fun e : Str × Str => quoted e.1 ++ str ":" ++ quoted e.2 := by
  have hseq := quoted_prompt.seq (quoted_prompt.lit (str ":"))
  intro e e' r r' h
  refine hseq e e' r r' ?_
  simpa only [List.append_assoc] using h

theorem patchEntries_prompt : Prompt patchEntries := by
  intro entries
  induction entries with
  | nil =>
      intro entries' r r' h
      cases entries' with
      | nil => exact ⟨rfl, List.append_cancel_left h⟩
      | cons e rest => exact absurd (congrArg (List.take 1) h) (by
          simp only [patchEntries, List.append_assoc]
          exact show str "\x7d" ≠ str "," by decide)
  | cons e rest ih =>
      intro entries' r r' h
      cases entries' with
      | nil => exact absurd (congrArg (List.take 1) h) (by
          simp only [patchEntries, List.append_assoc]
          exact show str "," ≠ str "\x7d" by decide)
      | cons e' rest' =>
          simp only [patchEntries, List.append_assoc] at h
          obtain ⟨rfl, hrest⟩ := entry_prompt e e' _ _
            (by simpa only [List.append_assoc] using List.append_cancel_left h)
          obtain ⟨rfl, hend⟩ := ih rest' r r' hrest
          exact ⟨rfl, hend⟩

theorem quoted_ne_close (s r : Str) (r' : Str) : quoted s ++ r ≠ str "\x7d" ++ r' := by
  intro h
  have hfirst := congrArg (List.take 1) h
  simp only [quoted, List.append_assoc] at hfirst
  exact absurd hfirst (show str "\"" ≠ str "\x7d" by decide)

theorem canonicalPatch_prompt : Prompt canonicalPatch := by
  intro p p' r r' h
  have hentries : p.entries = p'.entries ∧ r = r' := by
    unfold canonicalPatch at h
    rw [List.append_assoc, List.append_assoc] at h
    have h := List.append_cancel_left h
    cases hp : p.entries with
    | nil =>
        cases hp' : p'.entries with
        | nil =>
            rw [hp, hp'] at h
            exact ⟨rfl, List.append_cancel_left h⟩
        | cons e rest =>
            rw [hp, hp'] at h
            simp only [List.append_assoc] at h
            exact absurd h.symm (quoted_ne_close _ _ _)
    | cons e rest =>
        cases hp' : p'.entries with
        | nil =>
            rw [hp, hp'] at h
            simp only [List.append_assoc] at h
            exact absurd h (quoted_ne_close _ _ _)
        | cons e' rest' =>
            rw [hp, hp'] at h
            obtain ⟨rfl, hrest⟩ := entry_prompt e e' _ _ (by
              simpa only [List.append_assoc] using h)
            obtain ⟨rfl, hend⟩ := patchEntries_prompt _ _ _ _ hrest
            exact ⟨rfl, hend⟩
  exact ⟨Patch.eq_of_entries hentries.1, hentries.2⟩

/-- Two texts that differ within the first `n` bytes begin nothing in common. -/
theorem append_ne_of_take (n : Nat) {a b r r' : Str} (ha : n ≤ a.length) (hb : n ≤ b.length)
    (h : a.take n ≠ b.take n) : a ++ r ≠ b ++ r' := by
  intro heq
  have htake := congrArg (List.take n) heq
  rw [List.take_append_of_le_length ha, List.take_append_of_le_length hb] at htake
  exact h htake

/-- An optional member is there exactly when its mark is, if the rest does not begin with it. -/
theorem optionalMember_inj {mark : Str} {x x' : Option Str} {r r' : Str}
    (hr : ∀ t, r ≠ mark ++ t) (hr' : ∀ t, r' ≠ mark ++ t)
    (h : optionalMember mark x ++ r = optionalMember mark x' ++ r') :
    (x = none ∧ x' = none ∧ r = r') ∨ ∃ t t', x = some t ∧ x' = some t' ∧ t ++ r = t' ++ r' := by
  cases x with
  | none =>
      cases x' with
      | none => exact .inl ⟨rfl, rfl, h⟩
      | some t' =>
          simp only [optionalMember, List.append_assoc] at h
          exact absurd h (hr _)
  | some t =>
      cases x' with
      | none =>
          simp only [optionalMember, List.append_assoc] at h
          exact absurd h.symm (hr' _)
      | some t' =>
          simp only [optionalMember, List.append_assoc] at h
          exact .inr ⟨t, t', rfl, rfl, List.append_cancel_left h⟩

/-- What follows the decision, from the optional members on. -/
structure Tail where
  decision : ReactorDecision
  nonce : Str
  issuedAt : Str

namespace Tail

/-- The members that are always there. -/
def closing (t : Tail) : Str :=
  str ",\"key_version\":" ++ (toStr kKeyVersion ++ (str ",\"nonce\":" ++ (quoted t.nonce ++
    (str ",\"issued_at\":" ++ (quoted t.issuedAt ++ (str ",\"hmac_signature\":null" ++
      str "\x7d"))))))

def fromMfa (t : Tail) : Str :=
  optionalMember ",\"require_mfa\":true" (if t.decision.requireMfa then some [] else none) ++
    t.closing

def fromPatch (t : Tail) : Str :=
  optionalMember ",\"patch\":"
    (if t.decision.patch.entries = [] then none else some (canonicalPatch t.decision.patch)) ++
    t.fromMfa

def fromReason (t : Tail) : Str :=
  optionalMember ",\"reason\":" (t.decision.reason.map quoted) ++ t.fromPatch

theorem closing_inj {t t' : Tail} (h : t.closing = t'.closing) :
    t.nonce = t'.nonce ∧ t.issuedAt = t'.issuedAt := by
  have h := List.append_cancel_left (List.append_cancel_left (List.append_cancel_left h))
  obtain ⟨hnonce, hrest⟩ := quoted_prompt _ _ _ _ h
  obtain ⟨hissued, -⟩ := quoted_prompt _ _ _ _ (List.append_cancel_left hrest)
  exact ⟨hnonce, hissued⟩

/-- The marks begin differently, so each tail begins with its own. -/
theorem fromMfa_marked (t : Tail) {mark : Str} (hlength : 5 ≤ mark.length)
    (hmfa : (str ",\"require_mfa\":true").take 5 ≠ mark.take 5)
    (hversion : (str ",\"key_version\":").take 5 ≠ mark.take 5) (u : Str) :
    t.fromMfa ≠ mark ++ u := by
  unfold fromMfa closing
  cases t.decision.requireMfa with
  | false =>
      show str ",\"key_version\":" ++ (_ : Str) ≠ _
      exact append_ne_of_take 5 (by decide) hlength hversion
  | true =>
      simp only [if_true, optionalMember, List.append_nil]
      exact append_ne_of_take 5 (by decide) hlength hmfa

theorem fromPatch_marked (t : Tail) {mark : Str} (hlength : 5 ≤ mark.length)
    (hpatch : (str ",\"patch\":").take 5 ≠ mark.take 5)
    (hmfa : (str ",\"require_mfa\":true").take 5 ≠ mark.take 5)
    (hversion : (str ",\"key_version\":").take 5 ≠ mark.take 5) (u : Str) :
    t.fromPatch ≠ mark ++ u := by
  unfold fromPatch
  split
  · exact t.fromMfa_marked hlength hmfa hversion u
  · simp only [optionalMember, List.append_assoc]
    exact append_ne_of_take 5 (by decide) hlength hpatch

theorem fromMfa_inj {t t' : Tail} (h : t.fromMfa = t'.fromMfa) :
    t.decision.requireMfa = t'.decision.requireMfa ∧ t.nonce = t'.nonce ∧
      t.issuedAt = t'.issuedAt := by
  have hclosing (u : Tail) (v : Str) : u.closing ≠ str ",\"require_mfa\":true" ++ v :=
    append_ne_of_take 5 (by decide) (by decide) (by decide)
  rcases optionalMember_inj (hclosing t) (hclosing t') h with ⟨hno, hno', hrest⟩ |
    ⟨x, x', hx, hx', hrest⟩
  · have hflag : t.decision.requireMfa = t'.decision.requireMfa := by simp_all
    exact ⟨hflag, closing_inj hrest⟩
  · have hflag : t.decision.requireMfa = t'.decision.requireMfa := by
      cases hm : t.decision.requireMfa <;> cases hm' : t'.decision.requireMfa <;> simp_all
    have hboth : x = [] ∧ x' = [] := by
      cases hm : t.decision.requireMfa <;> cases hm' : t'.decision.requireMfa <;> simp_all
    rw [hboth.1, hboth.2] at hrest
    exact ⟨hflag, closing_inj hrest⟩

theorem fromPatch_inj {t t' : Tail} (h : t.fromPatch = t'.fromPatch) :
    t.decision.patch = t'.decision.patch ∧ t.fromMfa = t'.fromMfa := by
  have hafter (u : Tail) (v : Str) : u.fromMfa ≠ str ",\"patch\":" ++ v :=
    u.fromMfa_marked (by decide) (by decide) (by decide) v
  rcases optionalMember_inj (hafter t) (hafter t') h with ⟨hno, hno', hrest⟩ |
    ⟨x, x', hx, hx', hrest⟩
  · refine ⟨Patch.eq_of_entries ?_, hrest⟩
    by_cases hp : t.decision.patch.entries = [] <;>
      by_cases hp' : t'.decision.patch.entries = [] <;> simp_all
  · have hpatch : x = canonicalPatch t.decision.patch := by
      split at hx <;> simp_all
    have hpatch' : x' = canonicalPatch t'.decision.patch := by
      split at hx' <;> simp_all
    rw [hpatch, hpatch'] at hrest
    exact canonicalPatch_prompt _ _ _ _ hrest

theorem fromReason_inj {t t' : Tail} (h : t.fromReason = t'.fromReason) :
    t.decision.reason = t'.decision.reason ∧ t.fromPatch = t'.fromPatch := by
  have hafter (u : Tail) (v : Str) : u.fromPatch ≠ str ",\"reason\":" ++ v :=
    u.fromPatch_marked (by decide) (by decide) (by decide) (by decide) v
  rcases optionalMember_inj (hafter t) (hafter t') h with ⟨hno, hno', hrest⟩ |
    ⟨x, x', hx, hx', hrest⟩
  · rw [Option.map_eq_none_iff] at hno hno'
    exact ⟨hno.trans hno'.symm, hrest⟩
  · obtain ⟨a, ha, rfl⟩ := Option.map_eq_some_iff.mp hx
    obtain ⟨a', ha', rfl⟩ := Option.map_eq_some_iff.mp hx'
    obtain ⟨rfl, hend⟩ := quoted_prompt _ _ _ _ hrest
    exact ⟨ha.trans ha'.symm, hend⟩

end Tail

/-- The form, member by member. -/
theorem canonicalReply_eq (correlationId tenantId event : Str) (decision : ReactorDecision)
    (nonce issuedAt : Str) : canonicalReply correlationId tenantId event decision nonce issuedAt =
      str "\x7b" ++ (str "\"correlation_id\":" ++ (quoted correlationId ++
        (str ",\"tenant_id\":" ++ (quoted tenantId ++ (str ",\"event\":" ++ (quoted event ++
          (str ",\"decision\":" ++ (quoted decision.decision ++
            Tail.fromReason ⟨decision, nonce, issuedAt⟩)))))))) := by
  unfold canonicalReply Tail.fromReason Tail.fromPatch Tail.fromMfa Tail.closing
  simp only [List.append_assoc]

/-- Equal bytes, equal arguments. -/
theorem canonicalReply_inj {correlationId tenantId event nonce issuedAt : Str}
    {correlationId' tenantId' event' nonce' issuedAt' : Str} {decision decision' : ReactorDecision}
    (h : canonicalReply correlationId tenantId event decision nonce issuedAt =
      canonicalReply correlationId' tenantId' event' decision' nonce' issuedAt') :
    correlationId = correlationId' ∧ tenantId = tenantId' ∧ event = event' ∧
      decision = decision' ∧ nonce = nonce' ∧ issuedAt = issuedAt' := by
  rw [canonicalReply_eq, canonicalReply_eq] at h
  have h := List.append_cancel_left (List.append_cancel_left h)
  obtain ⟨hcorrelation, h⟩ := quoted_prompt _ _ _ _ h
  obtain ⟨htenant, h⟩ := quoted_prompt _ _ _ _ (List.append_cancel_left h)
  obtain ⟨hevent, h⟩ := quoted_prompt _ _ _ _ (List.append_cancel_left h)
  obtain ⟨hkind, h⟩ := quoted_prompt _ _ _ _ (List.append_cancel_left h)
  obtain ⟨hreason, h⟩ := Tail.fromReason_inj h
  obtain ⟨hpatch, h⟩ := Tail.fromPatch_inj h
  obtain ⟨hmfa, hnonce, hissued⟩ := Tail.fromMfa_inj h
  refine ⟨hcorrelation, htenant, hevent, ?_, hnonce, hissued⟩
  cases decision
  cases decision'
  simp only [ReactorDecision.mk.injEq]
  exact ⟨hkind, hreason, hpatch, hmfa⟩

/-! ## The signed reply -/

/-- What is found behind a text is the last occurrence in both. -/
theorem rfind_append {pattern s : Str} {at_ : Nat} (h : rfind pattern s = some at_) (front : Str) :
    rfind pattern (front ++ s) = some (front.length + at_) := by
  induction front with
  | nil => simpa using h
  | cons c front ih =>
      rw [List.cons_append, rfind, ih]
      simp only [List.length_cons, Option.some.injEq]
      omega

/-- The signature takes the place of the null at the end, whatever stands before it. -/
theorem spliceSignature_eq (front signature : Str) :
    spliceSignature (front ++ (placeholder ++ str "\x7d")) signature =
      front ++ str "\"hmac_signature\":\"" ++ signature ++ str "\"\x7d" := by
  have hend : rfind placeholder (placeholder ++ str "\x7d") = some 0 := by decide
  unfold spliceSignature
  rw [rfind_append hend]
  simp only [Nat.add_zero]
  rw [List.take_left, List.drop_append, List.drop_eq_nil_of_le (by omega), List.nil_append,
    show front.length + placeholder.length - front.length = placeholder.length by omega,
    List.drop_left, show str "\"\x7d" = str "\"" ++ str "\x7d" by decide]
  simp only [List.append_assoc]

/-- Every canonical form ends in the null that the signature replaces. -/
theorem canonicalReply_ends (correlationId tenantId event : Str) (decision : ReactorDecision)
    (nonce issuedAt : Str) : ∃ front,
      canonicalReply correlationId tenantId event decision nonce issuedAt =
        front ++ (placeholder ++ str "\x7d") := by
  have hnull : str ",\"hmac_signature\":null" = str "," ++ placeholder := by decide
  unfold canonicalReply
  rw [hnull, List.append_assoc _ (str "," ++ placeholder), List.append_assoc (str ","),
    ← List.append_assoc _ (str ",")]
  exact ⟨_, rfl⟩

section

variable (lib : Library) (signingKey : Str)

/-- A reply that is built is its canonical form with the signature in the place of the null. -/
theorem buildReply_eq_ok {correlationId tenantId event nonce issuedAt body : Str}
    {decision : ReactorDecision} (h : buildReply lib signingKey correlationId tenantId event decision
      nonce issuedAt = .ok body) :
    ∃ front, canonicalReply correlationId tenantId event decision nonce issuedAt =
        front ++ str "\"hmac_signature\":null\x7d" ∧
      body = front ++ str "\"hmac_signature\":\"" ++ lib.hmacSha256Hex signingKey
        (canonicalReply correlationId tenantId event decision nonce issuedAt) ++ str "\"\x7d" := by
  unfold buildReply at h
  split at h
  · exact nomatch h
  split at h
  · exact nomatch h
  obtain ⟨front, hends⟩ := canonicalReply_ends correlationId tenantId event decision nonce issuedAt
  have hend : placeholder ++ str "\x7d" = str "\"hmac_signature\":null\x7d" := by decide
  refine ⟨front, hends.trans (by rw [hend]), ?_⟩
  rw [← Except.ok.inj h, hends, spliceSignature_eq]

end

/-- A reply is refused for two reasons only, and says which decision it signs: equal canonical forms
are those of equal arguments, whatever bytes are in them, and the body is that form with the final
null replaced by the signature over it. -/
theorem replies_unambiguous (lib : Library) (signingKey : Str) :
    (∀ (correlationId tenantId event nonce issuedAt : Str) (decision : ReactorDecision)
      (correlationId' tenantId' event' nonce' issuedAt' : Str) (decision' : ReactorDecision),
      canonicalReply correlationId tenantId event decision nonce issuedAt =
          canonicalReply correlationId' tenantId' event' decision' nonce' issuedAt' →
        correlationId = correlationId' ∧ tenantId = tenantId' ∧ event = event' ∧
          decision = decision' ∧ nonce = nonce' ∧ issuedAt = issuedAt') ∧
    ∀ (correlationId tenantId event nonce issuedAt body : Str) (decision : ReactorDecision),
      buildReply lib signingKey correlationId tenantId event decision nonce issuedAt = .ok body →
        ∃ front, canonicalReply correlationId tenantId event decision nonce issuedAt =
            front ++ str "\"hmac_signature\":null\x7d" ∧
          body = front ++ str "\"hmac_signature\":\"" ++ lib.hmacSha256Hex signingKey
            (canonicalReply correlationId tenantId event decision nonce issuedAt) ++
              str "\"\x7d" :=
  ⟨fun _ _ _ _ _ _ _ _ _ _ _ _ h => canonicalReply_inj h,
    fun _ _ _ _ _ _ _ h => buildReply_eq_ok lib signingKey h⟩

end Axiam.Reactor
