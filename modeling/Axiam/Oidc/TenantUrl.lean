import Axiam.Core.Query
import Axiam.Oidc.DeviceGrant

/-!
# The tenant in an endpoint's query

`with_tenant` (`src/oidc.cpp`) puts the tenant of a call into the query of an endpoint.  It takes
out what the endpoint spells `tenant_id`; a name that is percent-encoded is the same name to a
server, and stays.
-/

namespace Axiam.Oidc

open Uri

/-- A parameter that a server takes for the tenant. -/
def namesTenant (p : Str) : Bool := parameterName p == str "tenant_id"

/-- `url` is `endpoint` with one tenant, and that is `tenant`. -/
structure Rewrites (endpoint tenant url : Str) : Prop where
  scheme : (reference url).scheme = (reference endpoint).scheme
  authority : (reference url).authority = (reference endpoint).authority
  path : (reference url).path = (reference endpoint).path
  fragment : (reference url).fragment = (reference endpoint).fragment
  one : ∃ p, (parameters (reference url).query).filter namesTenant = [p] ∧
    parameterValue p = tenant
  others : (parameters (reference url).query).filter (!namesTenant ·) =
    (parameters (reference endpoint).query).filter (!namesTenant ·)
  again : ∀ tenant', withTenant url tenant' = withTenant endpoint tenant'

/-- Whatever the endpoint's query has for a tenant, it spells the name out. -/
def SpellsTenant (endpoint : Str) : Prop :=
  ∀ p ∈ parameters (reference endpoint).query, namesTenant p = true →
    spelledName p = str "tenant_id"

/-- `split_url` divides a URL as the syntax does. -/
theorem splitUrl_marked {hier : Str} {query fragment : Option Str}
    (hhier : ∀ c ∈ hier, endsPath c = false) (hquery : ∀ q ∈ query, 35 ∉ q) :
    splitUrl (hier ++ (marked 63 query ++ marked 35 fragment)) =
      ⟨hier, parameters query, marked 35 fragment⟩ := by
  have hhash : 35 ∉ hier := fun h => absurd (hhier 35 h) (by decide)
  have hmark : 63 ∉ hier := fun h => absurd (hhier 63 h) (by decide)
  have haddressable : 35 ∉ hier ++ marked 63 query :=
    List.not_mem_append hhash (notMem_marked (by decide) hquery)
  rw [← List.append_assoc]
  unfold splitUrl
  -- the fragment is cut off first, then the query
  rw [cut_marked haddressable]
  cases fragment with
  | none =>
      simp only [Option.map_none, show marked 35 none = [] from rfl, List.append_nil,
        cut_marked hmark]
      cases query with
      | none => simp only [Option.map_none, marked, List.append_nil]; rfl
      | some q => rfl
  | some f =>
      simp only [Option.map_some, cut_marked hmark]
      cases query with
      | none => simp only [Option.map_none, marked, List.append_nil]; rfl
      | some q => rfl

theorem isTenantPair_eq (p : Str) : isTenantPair p = decide (spelledName p = str "tenant_id") := by
  unfold isTenantPair
  rw [Bool.eq_iff_iff, decide_eq_true_eq, spelledName_eq_iff (by decide), Bool.or_eq_true,
    decide_eq_true_eq, List.isPrefixOf_iff_prefix]
  rfl

/-- A name that is spelled out is the name. -/
theorem namesTenant_of_isTenantPair {p : Str} (h : isTenantPair p = true) :
    namesTenant p = true := by
  rw [isTenantPair_eq, decide_eq_true_eq] at h
  unfold namesTenant parameterName
  rw [h]
  decide

/-- The parameter that `with_tenant` writes. -/
def tenantPair (tenant : Str) : Str := str "tenant_id" ++ 61 :: urlEncode tenant

theorem notMem_tenantPair (tenant : Str) {c : UInt8} (hplain : isUnreserved c = false)
    (hpercent : c ≠ 37) (hequals : c ≠ 61) : c ∉ tenantPair tenant := by
  intro h
  rcases List.mem_append.mp h with h | h
  · have hall : ∀ d ∈ str "tenant_id", isUnreserved d = true := forall_mem_of_all (by decide)
    rw [hall c h] at hplain
    cases hplain
  · rcases List.mem_cons.mp h with rfl | h
    · exact hequals rfl
    · rcases mem_urlEncode h with h | h
      · rw [h] at hplain
        cases hplain
      · exact hpercent h

theorem isTenantPair_tenantPair (tenant : Str) : isTenantPair (tenantPair tenant) = true := by
  rw [isTenantPair_eq, decide_eq_true_eq, spelledName_eq_iff (by decide)]
  exact .inr ⟨urlEncode tenant, by rw [List.append_assoc]; rfl⟩

theorem parameterValue_tenantPair (tenant : Str) : parameterValue (tenantPair tenant) = tenant := by
  unfold tenantPair
  rw [parameterValue_joined (by decide), percentDecode_urlEncode]

/-- The parameters of an endpoint that `with_tenant` keeps. -/
def keptPairs (query : Option Str) : List Str :=
  (parameters query).filter fun p => !isTenantPair p

/-- The query that `with_tenant` writes. -/
def tenantQuery (query : Option Str) (tenant : Str) : Str :=
  (keptPairs query).flatMap (fun p => p ++ [38]) ++ tenantPair tenant

/-- What `with_tenant` makes of an endpoint in its parts. -/
theorem withTenant_marked {hier : Str} {query fragment : Option Str} (tenant : Str)
    (hhier : ∀ c ∈ hier, endsPath c = false) (hquery : ∀ q ∈ query, 35 ∉ q) :
    withTenant (hier ++ (marked 63 query ++ marked 35 fragment)) tenant =
      hier ++ (marked 63 (some (tenantQuery query tenant)) ++ marked 35 fragment) := by
  unfold withTenant
  rw [splitUrl_marked hhier hquery]
  simp only [tenantQuery, tenantPair, keptPairs, marked, List.append_assoc, List.cons_append]
  rfl

/-- The parameters `with_tenant` leaves: those that are kept, and the tenant. -/
theorem parameters_tenantQuery (query : Option Str) (tenant : Str) :
    parameters (some (tenantQuery query tenant)) = keptPairs query ++ [tenantPair tenant] := by
  have hkept : ∀ p ∈ keptPairs query, p ≠ [] ∧ 38 ∉ p := fun p hp =>
    mem_parameters (List.mem_filter.mp hp).1
  have hfields := fields_joined (fun p hp => (hkept p hp).2)
    (notMem_tenantPair tenant (c := 38) (by decide) (by decide) (by decide))
  show (fields 38 (tenantQuery query tenant)).filter _ = _
  unfold tenantQuery
  rw [hfields, List.filter_eq_self]
  intro p hp
  rcases List.mem_append.mp hp with hp | hp
  · simpa using (hkept p hp).1
  · rw [List.mem_singleton.mp hp]
    rfl

/-- No byte of the query that is written ends it. -/
theorem hash_notMem_tenantQuery {query : Option Str} (hquery : ∀ q ∈ query, 35 ∉ q)
    (tenant : Str) : 35 ∉ tenantQuery query tenant := by
  intro h
  rcases List.mem_append.mp h with h | h
  · obtain ⟨p, hp, hbyte⟩ := List.mem_flatMap.mp h
    rcases List.mem_append.mp hbyte with hbyte | hbyte
    · obtain ⟨q, hq, hmem⟩ := mem_query_of_mem_parameters (List.mem_filter.mp hp).1 hbyte
      exact hquery q hq hmem
    · exact absurd hbyte (by decide)
  · exact notMem_tenantPair tenant (by decide) (by decide) (by decide) h

/-- Of the parameters that are kept none is spelled out for the tenant. -/
theorem keptPairs_tenantQuery (query : Option Str) (tenant : Str) :
    keptPairs (some (tenantQuery query tenant)) = keptPairs query := by
  unfold keptPairs
  rw [parameters_tenantQuery, List.filter_append]
  have hkept : (keptPairs query).filter (fun p => !isTenantPair p) = keptPairs query := by
    rw [List.filter_eq_self]
    exact fun p hp => (List.mem_filter.mp hp).2
  rw [hkept, List.filter_cons_of_neg (by simp [isTenantPair_tenantPair])]
  exact List.append_nil _

/-- The parameters for the tenant in what `with_tenant` writes. -/
theorem filter_namesTenant (query : Option Str) (tenant : Str) :
    (parameters (some (tenantQuery query tenant))).filter namesTenant =
      (keptPairs query).filter namesTenant ++ [tenantPair tenant] := by
  rw [parameters_tenantQuery, List.filter_append]
  have hown := namesTenant_of_isTenantPair (isTenantPair_tenantPair tenant)
  rw [List.filter_cons_of_pos hown]
  rfl

/-- And the others. -/
theorem filter_not_namesTenant (query : Option Str) (tenant : Str) :
    (parameters (some (tenantQuery query tenant))).filter (!namesTenant ·) =
      (parameters query).filter (!namesTenant ·) := by
  have hown := namesTenant_of_isTenantPair (isTenantPair_tenantPair tenant)
  rw [parameters_tenantQuery, List.filter_append, List.filter_cons_of_neg (by simp [hown])]
  unfold keptPairs
  rw [List.filter_filter, List.filter_nil, List.append_nil]
  refine List.filter_congr fun p _ => ?_
  -- what is spelled out names the tenant
  cases htenant : isTenantPair p with
  | false => simp
  | true => simp [namesTenant_of_isTenantPair htenant]

/-- An endpoint is rewritten to one tenant exactly when it spells out what it has for a tenant. -/
theorem withTenant_rewrites_iff (endpoint tenant : Str) :
    Rewrites endpoint tenant (withTenant endpoint tenant) ↔ SpellsTenant endpoint := by
  obtain ⟨hier, query, fragment, rfl, hhier, hquery⟩ := exists_marked endpoint
  have hhash := hash_notMem_tenantQuery hquery tenant
  have hwritten : ∀ q ∈ some (tenantQuery query tenant), 35 ∉ q := fun q hq => by
    cases hq
    exact hhash
  have hmarked := @withTenant_marked hier query fragment tenant hhier hquery
  have hreference := @reference_marked hier (some (tenantQuery query tenant)) fragment hhier hwritten
  have hreference' := @reference_marked hier query fragment hhier hquery
  have hkept : (keptPairs query).filter namesTenant = [] ↔
      SpellsTenant (hier ++ (marked 63 query ++ marked 35 fragment)) := by
    unfold SpellsTenant keptPairs
    rw [hreference', List.filter_filter, List.filter_eq_nil_iff]
    refine forall₂_congr fun p _ => ?_
    rw [isTenantPair_eq]
    by_cases hspelled : spelledName p = str "tenant_id" <;> simp [hspelled]
  rw [hmarked]
  constructor
  · intro h
    obtain ⟨p, hone, -⟩ := h.one
    rw [hreference] at hone
    simp only [filter_namesTenant] at hone
    refine hkept.mp (List.eq_nil_of_length_eq_zero ?_)
    have hlength := congrArg List.length hone
    simpa using hlength
  · intro h
    refine ⟨?_, ?_, ?_, ?_, ⟨tenantPair tenant, ?_, parameterValue_tenantPair tenant⟩, ?_, ?_⟩
    · rw [hreference, hreference']
    · rw [hreference, hreference']
    · rw [hreference, hreference']
    · rw [hreference, hreference']
    · rw [hreference]
      simp only [filter_namesTenant, hkept.mpr h]
      rfl
    · rw [hreference, hreference']
      exact filter_not_namesTenant query tenant
    · intro tenant'
      have hsame : tenantQuery (some (tenantQuery query tenant)) tenant' =
          tenantQuery query tenant' :=
        congrArg (fun pairs => pairs.flatMap (fun p => p ++ [38]) ++ tenantPair tenant')
          (keptPairs_tenantQuery query tenant)
      rw [withTenant_marked tenant' hhier hwritten, withTenant_marked tenant' hhier hquery, hsame]

/-- A percent-encoded name is another tenant beside the one that was asked for. -/
theorem encoded_tenant_survives :
    withTenant (str "https://idp.example/token?tenant%5Fid=evil") (str "t1") =
        str "https://idp.example/token?tenant%5Fid=evil&tenant_id=t1" ∧
      ¬Rewrites (str "https://idp.example/token?tenant%5Fid=evil") (str "t1")
        (withTenant (str "https://idp.example/token?tenant%5Fid=evil") (str "t1")) := by
  have hurl : withTenant (str "https://idp.example/token?tenant%5Fid=evil") (str "t1") =
      str "https://idp.example/token?tenant%5Fid=evil&tenant_id=t1" := by decide
  refine ⟨hurl, fun h => ?_⟩
  obtain ⟨p, hone, -⟩ := h.one
  rw [hurl] at hone
  have htwo : ((parameters (reference
      (str "https://idp.example/token?tenant%5Fid=evil&tenant_id=t1")).query).filter
        namesTenant).length = 2 := by decide
  rw [hone] at htwo
  cases htwo

end Axiam.Oidc
