import Axiam.Webhook.Verify

/-!
# The deliveries that are accepted

What a signature header says is a matter of its elements: of the pairs under `t` and under `v1`,
and of nothing else.  A delivery is accepted exactly when these sign it near the clock.
-/

namespace Axiam.Webhook

/-! ## Elements -/

/-- The value of an element under a key. -/
def valueUnder (key field : Str) : Option Str :=
  (cut 61 (trim field)).bind fun parts => if trim parts.1 = key then some (trim parts.2) else none

/-- The values of the elements under a key, in their order. -/
def values (key : Str) (elements : List Str) : List Str := elements.filterMap (valueUnder key)

/-- An element that is blank, or a pair. -/
def IsPair (field : Str) : Prop := trim field ≠ [] → 61 ∈ field

instance (field : Str) : Decidable (IsPair field) := inferInstanceAs (Decidable (_ → _))

/-- An element that is blank, or a pair under a key that is not read. -/
def Ignored (field : Str) : Prop :=
  trim field = [] ∨
    ∃ before after, cut 61 (trim field) = some (before, after) ∧
      trim before ≠ "t" ∧ trim before ≠ "v1"

theorem notMem_trim_iff {field : Str} : cut 61 (trim field) = none ↔ 61 ∉ field := by
  rw [cut_eq_none, mem_trim_iff (by decide)]

theorem valueUnder_of_blank {key field : Str} (h : trim field = []) :
    valueUnder key field = none := by
  unfold valueUnder
  rw [h]
  rfl

/-- An element with a value is not blank. -/
theorem trim_ne_nil_of_valueUnder {key field value : Str} (h : valueUnder key field = some value) :
    trim field ≠ [] := by
  intro hblank
  rw [valueUnder_of_blank hblank] at h
  cases h

theorem Ignored.isPair {field : Str} (h : Ignored field) : IsPair field := by
  rcases h with hblank | ⟨before, after, hcut, -⟩
  · exact fun hne => absurd hblank hne
  · intro
    by_contra hno
    rw [notMem_trim_iff.mpr hno] at hcut
    cases hcut

theorem Ignored.valueUnder_eq_none {field key : Str} (h : Ignored field)
    (hkey : key = "t" ∨ key = "v1") : valueUnder key field = none := by
  rcases h with hblank | ⟨before, after, hcut, ht, hv1⟩
  · exact valueUnder_of_blank hblank
  · unfold valueUnder
    rw [hcut, Option.bind_some]
    rcases hkey with rfl | rfl
    · exact if_neg ht
    · exact if_neg hv1

/-! ## The scan -/

/-- What the loop has after an element it does not stop at. -/
def Scan.after (scan : Scan) (field : Str) : Scan where
  sawElement := scan.sawElement || trim field ≠ []
  tCount := scan.tCount + (values "t" [field]).length
  timestampText := (valueUnder "t" field).getD scan.timestampText
  v1Hex := scan.v1Hex ++ values "v1" [field]

/-- It stops at a text that is no pair, and at an empty `v1`. -/
theorem Scan.read_eq_ok {scan scan' : Scan} {field : Str} :
    scan.read field = .ok scan' ↔
      (IsPair field ∧ valueUnder "v1" field ≠ some []) ∧ scan' = scan.after field := by
  unfold Scan.read IsPair
  by_cases hblank : trim field = []
  · have hnone (key : Str) : valueUnder key field = none := valueUnder_of_blank hblank
    have hsame : scan.after field = scan := by simp [Scan.after, values, hnone, hblank]
    rw [if_pos hblank, hsame]
    simp [hblank, hnone, eq_comm]
  · simp only [if_neg hblank]
    cases hcut : cut 61 (trim field) with
    | none =>
        have hno := notMem_trim_iff.mp hcut
        simp [hblank, hno]
    | some parts =>
        obtain ⟨before, after⟩ := parts
        have hmem : 61 ∈ field := by
          by_contra hno
          rw [notMem_trim_iff.mpr hno] at hcut
          cases hcut
        have hvalue (key : Str) : valueUnder key field =
            if trim before = key then some (trim after) else none := by
          unfold valueUnder
          rw [hcut, Option.bind_some]
        have htv : str "t" ≠ str "v1" := by decide
        simp only [Scan.after, values, List.filterMap_cons, List.filterMap_nil, hvalue]
        by_cases ht : trim before = "t"
        · simp [ht, htv, hmem, hblank, eq_comm]
        · by_cases hv1 : trim before = "v1"
          · by_cases hempty : trim after = []
            · simp [hv1, hempty, Ne.symm htv]
            · simp [hv1, hempty, Ne.symm htv, hmem, hblank, eq_comm]
          · simp [ht, hv1, hmem, hblank, eq_comm]

/-- The loop, over all elements. -/
theorem foldlM_read_eq_ok {elements : List Str} {scan scan' : Scan} :
    elements.foldlM Scan.read scan = .ok scan' ↔
      (∀ e ∈ elements, IsPair e ∧ valueUnder "v1" e ≠ some []) ∧
        scan' = elements.foldl Scan.after scan := by
  induction elements generalizing scan with
  | nil =>
      show (Except.ok scan : Except VerifyError Scan) = .ok scan' ↔ _
      simp [eq_comm]
  | cons field rest ih =>
      show (scan.read field).bind (fun s => rest.foldlM Scan.read s) = .ok scan' ↔ _
      rw [List.foldl_cons, List.forall_mem_cons]
      constructor
      · intro h
        cases hread : scan.read field with
        | error e =>
            rw [hread] at h
            cases h
        | ok next =>
            rw [hread] at h
            obtain ⟨hfield, rfl⟩ := Scan.read_eq_ok.mp hread
            obtain ⟨hrest, hend⟩ := ih.mp h
            exact ⟨⟨hfield, hrest⟩, hend⟩
      · intro h
        obtain ⟨⟨hfield, hrest⟩, hend⟩ := h
        rw [Scan.read_eq_ok.mpr ⟨hfield, rfl⟩]
        exact ih.mpr ⟨hrest, hend⟩

theorem values_cons (key field : Str) (rest : List Str) :
    values key (field :: rest) = values key [field] ++ values key rest := by
  unfold values
  rw [← List.filterMap_append, List.singleton_append]

/-- What the loop has in the end. -/
theorem foldl_after (elements : List Str) (scan : Scan) :
    elements.foldl Scan.after scan =
      { sawElement := scan.sawElement || elements.any fun e => trim e ≠ []
        tCount := scan.tCount + (values "t" elements).length
        timestampText := (values "t" elements).getLastD scan.timestampText
        v1Hex := scan.v1Hex ++ values "v1" elements } := by
  induction elements generalizing scan with
  | nil => simp [values]
  | cons field rest ih =>
      rw [List.foldl_cons, ih, values_cons "t" field rest, values_cons "v1" field rest]
      have hlast : (values "t" rest).getLastD ((valueUnder "t" field).getD scan.timestampText) =
          (values "t" [field] ++ values "t" rest).getLastD scan.timestampText := by
        unfold values
        rw [List.filterMap_cons, List.filterMap_nil]
        cases valueUnder "t" field with
        | none => rfl
        | some value => cases List.filterMap (valueUnder "t") rest <;> rfl
      simp only [Scan.after, hlast, List.length_append, List.append_assoc, Bool.or_assoc,
        List.any_cons, Nat.add_assoc]

/-- A header is one `t`, some `v1` that are not empty, and pairs that are not read. -/
theorem parseSignatureHeader_eq_ok {header : Str} {parsed : ParsedHeader} :
    parseSignatureHeader header = .ok parsed ↔
      (∀ e ∈ Uri.fields 44 header, IsPair e) ∧
        values "t" (Uri.fields 44 header) = [parsed.timestampText] ∧
        values "v1" (Uri.fields 44 header) = parsed.v1Hex ∧
        parsed.v1Hex ≠ [] ∧ [] ∉ parsed.v1Hex := by
  generalize helements : Uri.fields 44 header = elements
  have hempty : (∀ e ∈ elements, valueUnder "v1" e ≠ some []) ↔ [] ∉ values "v1" elements := by
    unfold values
    rw [List.mem_filterMap]
    push Not
    rfl
  have hrun : parseSignatureHeader header =
      (elements.foldlM Scan.read {}).bind fun scan =>
        if scan.sawElement = false ∨ scan.tCount ≠ 1 then .error .malformedHeader
        else if scan.v1Hex = [] then .error .missingSignature
        else .ok ⟨scan.timestampText, scan.v1Hex⟩ := by
    unfold parseSignatureHeader
    rw [helements]
    refine congrArg (fun k => (elements.foldlM Scan.read {}).bind k) (funext fun scan => ?_)
    by_cases hcount : scan.sawElement = false ∨ scan.tCount ≠ 1
    · rw [if_pos hcount, if_pos hcount]
      rfl
    · rw [if_neg hcount, if_neg hcount]
      by_cases hnone : scan.v1Hex = []
      · rw [if_pos hnone, if_pos hnone]
        rfl
      · rw [if_neg hnone, if_neg hnone]
        rfl
  rw [hrun]
  constructor
  · intro h
    cases hscan : elements.foldlM Scan.read {} with
    | error e =>
        rw [hscan] at h
        cases h
    | ok scan =>
        rw [hscan] at h
        obtain ⟨hread, hend⟩ := foldlM_read_eq_ok.mp hscan
        rw [foldl_after] at hend
        subst hend
        change (if _ then _ else _) = _ at h
        split_ifs at h with hcount hnone
        rw [not_or, not_not] at hcount
        obtain ⟨text, htext⟩ := List.length_eq_one_iff.mp
          (show (values "t" elements).length = 1 by simpa using hcount.2)
        cases h
        refine ⟨fun e he => (hread e he).1, ?_, by simp, hnone, ?_⟩
        · simp [htext]
        · simpa using hempty.mp fun e he => (hread e he).2
  · intro h
    obtain ⟨hpairs, ht, hv1, hne, hnotMem⟩ := h
    have hread : ∀ e ∈ elements, IsPair e ∧ valueUnder "v1" e ≠ some [] := fun e he =>
      ⟨hpairs e he, hempty.mpr (hv1 ▸ hnotMem) e he⟩
    rw [foldlM_read_eq_ok.mpr ⟨hread, rfl⟩, foldl_after]
    -- the element under `t` is not blank
    have hsaw : (elements.any fun e => trim e ≠ []) = true := by
      obtain ⟨e, he, hvalue⟩ := List.mem_filterMap.mp
        (show parsed.timestampText ∈ values "t" elements by rw [ht]; exact List.mem_singleton_self _)
      exact List.any_eq_true.mpr ⟨e, he, decide_eq_true (trim_ne_nil_of_valueUnder hvalue)⟩
    simp only [Except.bind, hsaw, ht, hv1]
    simp [hne]

/-! ## Acceptance -/

theorem matchCandidate_eq_true {expected : Str} (hlength : expected.length = kMacLen)
    {found : Bool} {hex : Str} :
    matchCandidate expected found hex = true ↔ found = true ∨ lower hex = hexText expected := by
  have hne : expected ≠ [] := by
    intro h
    rw [h] at hlength
    cases hlength
  rw [← hexDecode_eq_some hne]
  unfold matchCandidate
  cases hexDecode hex with
  | none => simp
  | some candidate =>
      by_cases hcandidate : candidate = expected
      · simp [hcandidate, hlength]
      · by_cases hother : candidate.length = kMacLen <;> simp [hcandidate, hother]

/-- One candidate that decodes to the MAC is enough. -/
theorem matched_eq_true {expected : Str} {v1Hex : List Str} (hlength : expected.length = kMacLen) :
    matched expected v1Hex = true ↔ ∃ hex ∈ v1Hex, lower hex = hexText expected := by
  have hrun : ∀ found, v1Hex.foldl (matchCandidate expected) found = true ↔
      found = true ∨ ∃ hex ∈ v1Hex, lower hex = hexText expected := by
    induction v1Hex with
    | nil => simp
    | cons hex rest ih =>
        intro found
        rw [List.foldl_cons, ih, matchCandidate_eq_true hlength, List.exists_mem_cons_iff, or_assoc]
  unfold matched
  rw [hrun]
  simp

/-- What makes a delivery acceptable, of the elements of its header. -/
structure Accepts (mac : Str → Str → Str) (secret : Str) (elements : List Str)
    (timestampHeader : Option Str) (body : Str) (now tolerance : Int) : Prop where
  pairs : ∀ e ∈ elements, IsPair e
  someV1 : values "v1" elements ≠ []
  noneEmpty : [] ∉ values "v1" elements
  /-- One `t`, which the MAC of some `v1` covers and which is near the clock. -/
  signed : ∃ text, values "t" elements = [text] ∧ IsDigits text ∧ numberFrom 0 text < 2 ^ 63 ∧
    (∀ header ∈ timestampHeader, trim header = text) ∧
    (∃ hex ∈ values "v1" elements, lower hex = hexText (mac secret (signedPayload text body))) ∧
    (now - numberFrom 0 text).natAbs ≤ tolerance

/-- `HMAC` computes a function, of 32 bytes. -/
def Computes (hmac : Str → Str → Option Str) (mac : Str → Str → Str) : Prop :=
  ∀ key message, hmac key message = some (mac key message) ∧ (mac key message).length = kMacLen

section

variable {hmac : Str → Str → Option Str} {mac : Str → Str → Str} {systemNow : Int}

/-- The clock of a verification. -/
def Options.clock (options : Options) (systemNow : Int) : Int := options.now.getD systemNow

/-- What is acceptable has a header that is read. -/
theorem parseSignatureHeader_of_accepts {secret header body : Str} {timestampHeader : Option Str}
    {now tolerance : Int}
    (h : Accepts mac secret (Uri.fields 44 header) timestampHeader body now tolerance) :
    ∃ parsed, parseSignatureHeader header = .ok parsed := by
  obtain ⟨text, htext, -⟩ := h.signed
  exact ⟨⟨text, values "v1" (Uri.fields 44 header)⟩,
    parseSignatureHeader_eq_ok.mpr ⟨h.pairs, htext, rfl, h.someV1, h.noneEmpty⟩⟩

/-- What is left to decide of a header that was read. -/
theorem accepts_parsed_iff {secret header body : Str} {timestampHeader : Option Str}
    {now tolerance : Int} {parsed : ParsedHeader}
    (hparse : parseSignatureHeader header = .ok parsed) :
    Accepts mac secret (Uri.fields 44 header) timestampHeader body now tolerance ↔
      ∃ n : Int, parseUnixSeconds parsed.timestampText = some n ∧
        (∀ stated ∈ timestampHeader, trim stated = parsed.timestampText) ∧
        (∃ hex ∈ parsed.v1Hex,
          lower hex = hexText (mac secret (signedPayload parsed.timestampText body))) ∧
        (now - n).natAbs ≤ tolerance := by
  obtain ⟨hpairs, ht, hv1, hsome, hnone⟩ := parseSignatureHeader_eq_ok.mp hparse
  constructor
  · intro h
    obtain ⟨text, htext, hdigits, hfits, hstated, hsigned, hnear⟩ := h.signed
    rw [ht] at htext
    cases htext
    rw [hv1] at hsigned
    exact ⟨_, parseUnixSeconds_eq_some.mpr ⟨hdigits, hfits, rfl⟩, hstated, hsigned, hnear⟩
  · intro h
    obtain ⟨n, hn, hstated, hsigned, hnear⟩ := h
    obtain ⟨hdigits, hfits, rfl⟩ := parseUnixSeconds_eq_some.mp hn
    rw [← hv1] at hsome hnone hsigned
    exact ⟨hpairs, hsome, hnone, _, ht, hdigits, hfits, hstated, hsigned, hnear⟩

/-- The header that states the timestamp again is compared with it. -/
theorem restated_iff {timestampHeader : Option Str} {text : Str} :
    timestampHeader.any (trim · != text) = true ↔ ¬∀ stated ∈ timestampHeader, trim stated = text := by
  cases timestampHeader with
  | none => simp
  | some stated => simp

variable {secret header body : Str} {options : Options} {parsed : ParsedHeader} {n : Int}

/-- A timestamp that cannot be read, or is stated otherwise, is refused. -/
theorem verify_unstated (hsecret : secret ≠ []) (htolerance : 0 ≤ options.tolerance)
    (hparse : parseSignatureHeader header = .ok parsed)
    (hno : parseUnixSeconds parsed.timestampText = none ∨
      ¬∀ stated ∈ options.timestampHeader, trim stated = parsed.timestampText) :
    ∃ e, verify hmac systemNow secret header body options = some (.error e) := by
  unfold verify
  rw [if_neg hsecret, if_neg (by omega), hparse]
  simp only
  cases hseconds : parseUnixSeconds parsed.timestampText with
  | none => exact ⟨_, rfl⟩
  | some n =>
      have hrestated := hno.resolve_left (by rw [hseconds]; simp)
      simp only
      rw [if_pos (restated_iff.mpr hrestated)]
      exact ⟨_, rfl⟩

/-- Of a timestamp that is stated as it should be, the MAC and the clock decide. -/
theorem verify_stated (hhmac : Computes hmac mac) (hsecret : secret ≠ [])
    (hnow : 0 ≤ options.clock systemNow) (hint64 : IsInt64 (options.clock systemNow))
    (htolerance : 0 ≤ options.tolerance) (hparse : parseSignatureHeader header = .ok parsed)
    (hseconds : parseUnixSeconds parsed.timestampText = some n)
    (hstated : ∀ stated ∈ options.timestampHeader, trim stated = parsed.timestampText) :
    ∃ result, verify hmac systemNow secret header body options = some result ∧
      ((∃ event, result = .ok event) ↔
        (∃ hex ∈ parsed.v1Hex,
          lower hex = hexText (mac secret (signedPayload parsed.timestampText body))) ∧
        (options.clock systemNow - n).natAbs ≤ options.tolerance) := by
  have hrefused {e : VerifyError} {P : Prop} (hno : ¬P) :
      (∃ event, (Except.error e : Except VerifyError Event) = .ok event) ↔ P := by
    simp [hno]
  have hany : ¬(options.timestampHeader.any (trim · != parsed.timestampText) = true) :=
    fun h => restated_iff.mp h hstated
  obtain ⟨hmacs, hlength⟩ := hhmac secret (signedPayload parsed.timestampText body)
  unfold verify
  rw [if_neg hsecret, if_neg (by omega), hparse]
  simp only [hseconds]
  rw [if_neg hany, hmacs]
  simp only [hlength, ne_eq, not_true_eq_false, if_false]
  by_cases hmatched : matched (mac secret (signedPayload parsed.timestampText body))
      parsed.v1Hex = true
  case neg =>
    rw [if_pos (Bool.not_eq_true _ ▸ hmatched)]
    exact ⟨_, rfl, hrefused fun h => hmatched ((matched_eq_true hlength).mpr h.1)⟩
  case pos =>
  have hsigned := (matched_eq_true hlength).mp hmatched
  rw [hmatched, if_neg (by simp)]
  -- both are at least 0, so their difference is an `int64_t`
  have hdelta : int64 (options.now.getD systemNow - n) = some (options.clock systemNow - n) := by
    obtain ⟨-, hfits, hn⟩ := parseUnixSeconds_eq_some.mp hseconds
    apply int64_of_isInt64
    unfold IsInt64 at hint64 ⊢
    unfold Options.clock at hnow hint64
    omega
  rw [hdelta]
  by_cases hnear : (options.clock systemNow - n).natAbs ≤ options.tolerance
  · have hin : ¬(options.tolerance < options.clock systemNow - n ∨
        options.clock systemNow - n < -options.tolerance) := by omega
    simp only [if_neg hin]
    exact ⟨_, rfl, fun _ => ⟨hsigned, hnear⟩, fun _ => ⟨_, rfl⟩⟩
  · have hout : options.tolerance < options.clock systemNow - n ∨
        options.clock systemNow - n < -options.tolerance := by omega
    simp only [if_pos hout]
    exact ⟨_, rfl, hrefused fun h => hnear h.2⟩

/-- A verification has an answer, and accepts what is acceptable. -/
theorem verify_accepts_iff (hhmac : Computes hmac mac) (header body : Str) {secret : Str}
    {options : Options} (hsecret : secret ≠ []) (hnow : 0 ≤ options.clock systemNow)
    (hint64 : IsInt64 (options.clock systemNow)) (htolerance : 0 ≤ options.tolerance) :
    ∃ result, verify hmac systemNow secret header body options = some result ∧
      ((∃ event, result = .ok event) ↔ Accepts mac secret (Uri.fields 44 header)
        options.timestampHeader body (options.clock systemNow) options.tolerance) := by
  cases hparse : parseSignatureHeader header with
  | error e =>
      have hrefuses : verify hmac systemNow secret header body options = some (.error e) := by
        unfold verify
        rw [if_neg hsecret, if_neg (by omega), hparse]
      refine ⟨_, hrefuses, by simp, fun h => ?_⟩
      obtain ⟨parsed, hok⟩ := parseSignatureHeader_of_accepts h
      rw [hok] at hparse
      cases hparse
  | ok parsed =>
  rw [accepts_parsed_iff hparse]
  by_cases hno : parseUnixSeconds parsed.timestampText = none ∨
      ¬∀ stated ∈ options.timestampHeader, trim stated = parsed.timestampText
  case pos =>
    obtain ⟨e, hrefuses⟩ : ∃ e, verify hmac systemNow secret header body options = some (.error e) :=
      verify_unstated hsecret htolerance hparse hno
    refine ⟨_, hrefuses, by simp, fun h => ?_⟩
    obtain ⟨n, hn, hstated, -⟩ := h
    rcases hno with hno | hno
    · rw [hn] at hno
      cases hno
    · exact absurd hstated hno
  case neg =>
  rw [not_or, not_not, ← ne_eq, Option.ne_none_iff_exists'] at hno
  obtain ⟨⟨n, hseconds⟩, hstated⟩ := hno
  obtain ⟨result, hverify, hdecides⟩ :=
    verify_stated hhmac hsecret hnow hint64 htolerance hparse hseconds hstated
  refine ⟨result, hverify, hdecides.trans ?_⟩
  simp only [hseconds, Option.some.injEq, exists_eq_left']
  exact (and_iff_right hstated).symm

/-! ## Order and further elements -/

theorem values_of_perm {elements elements' extra : List Str} {key : Str}
    (hperm : elements'.Perm (elements ++ extra)) (hextra : ∀ e ∈ extra, Ignored e)
    (hkey : key = "t" ∨ key = "v1") : (values key elements').Perm (values key elements) := by
  have hnone : values key extra = [] :=
    List.filterMap_eq_nil_iff.mpr fun e he => (hextra e he).valueUnder_eq_none hkey
  have hvalues : (values key elements').Perm (values key elements ++ values key extra) := by
    unfold values
    rw [← List.filterMap_append]
    exact hperm.filterMap _
  rwa [hnone, List.append_nil] at hvalues

/-- The order of the elements does not matter, nor what is not read. -/
theorem accepts_of_perm {secret body : Str} {timestampHeader : Option Str} {now tolerance : Int}
    {elements elements' extra : List Str}
    (hperm : elements'.Perm (elements ++ extra)) (hextra : ∀ e ∈ extra, Ignored e) :
    Accepts mac secret elements' timestampHeader body now tolerance ↔
      Accepts mac secret elements timestampHeader body now tolerance := by
  have hv1 := values_of_perm hperm hextra (.inr rfl)
  have ht (text : Str) : values "t" elements' = [text] ↔ values "t" elements = [text] := by
    have hvalues := values_of_perm hperm hextra (.inl rfl)
    constructor
    · intro h
      rw [h] at hvalues
      exact List.singleton_perm.mp hvalues |>.symm
    · intro h
      rw [h] at hvalues
      exact List.perm_singleton.mp hvalues
  have hpairs : (∀ e ∈ elements', IsPair e) ↔ ∀ e ∈ elements, IsPair e := by
    constructor
    · intro h e he
      exact h e (hperm.mem_iff.mpr (List.mem_append_left extra he))
    · intro h e he
      rcases List.mem_append.mp (hperm.mem_iff.mp he) with he | he
      · exact h e he
      · exact (hextra e he).isPair
  have hempty : values "v1" elements' = [] ↔ values "v1" elements = [] := by
    rw [← List.length_eq_zero_iff, hv1.length_eq, List.length_eq_zero_iff]
  constructor
  · intro h
    obtain ⟨text, htext, hdigits, hfits, hstated, hsigned, hnear⟩ := h.signed
    simp only [hv1.mem_iff] at hsigned
    exact ⟨hpairs.mp h.pairs, fun hno => h.someV1 (hempty.mpr hno),
      fun hmem => h.noneEmpty (hv1.mem_iff.mpr hmem),
      text, (ht text).mp htext, hdigits, hfits, hstated, hsigned, hnear⟩
  · intro h
    obtain ⟨text, htext, hdigits, hfits, hstated, hsigned, hnear⟩ := h.signed
    simp only [← hv1.mem_iff] at hsigned
    exact ⟨hpairs.mpr h.pairs, fun hno => h.someV1 (hempty.mp hno),
      fun hmem => h.noneEmpty (hv1.mem_iff.mp hmem),
      text, (ht text).mpr htext, hdigits, hfits, hstated, hsigned, hnear⟩

/-- A timestamp ends at the first dot. -/
theorem signedPayload_injective {text text' body body' : Str} (h : IsDigits text)
    (h' : IsDigits text') (hsame : signedPayload text body = signedPayload text' body') :
    text = text' ∧ body = body' := by
  have hdot {t : Str} (ht : IsDigits t) : 46 ∉ t := fun hmem =>
    absurd (ht.2 46 hmem).1 (by decide)
  have hcut (t b : Str) (ht : IsDigits t) : cut 46 (signedPayload t b) = some (t, b) := by
    unfold signedPayload
    rw [List.append_assoc]
    exact cut_append b (hdot ht)
  have hparts := (hcut text body h).symm.trans (hsame ▸ hcut text' body' h')
  cases hparts
  exact ⟨rfl, rfl⟩

/-- Verification accepts exactly the signed deliveries; it does not depend on the order of the
elements nor on those under other keys, and what is signed determines timestamp and body. -/
theorem verify_exact (hhmac : Computes hmac mac) (header body : Str) {secret : Str}
    {options : Options} (hsecret : secret ≠ []) (hnow : 0 ≤ options.clock systemNow)
    (hint64 : IsInt64 (options.clock systemNow)) (htolerance : 0 ≤ options.tolerance) :
    (∃ result, verify hmac systemNow secret header body options = some result ∧
      ((∃ event, result = .ok event) ↔ Accepts mac secret (Uri.fields 44 header)
        options.timestampHeader body (options.clock systemNow) options.tolerance)) ∧
    (∀ (header' : Str) (extra : List Str),
      (Uri.fields 44 header').Perm (Uri.fields 44 header ++ extra) → (∀ e ∈ extra, Ignored e) →
      ((∃ event, verify hmac systemNow secret header' body options = some (.ok event)) ↔
        ∃ event, verify hmac systemNow secret header body options = some (.ok event))) ∧
    (∀ text text' body body' : Str, IsDigits text → IsDigits text' →
      signedPayload text body = signedPayload text' body' → text = text' ∧ body = body') := by
  refine ⟨verify_accepts_iff hhmac header body hsecret hnow hint64 htolerance,
    fun header' extra hperm hextra => ?_, fun _ _ _ _ => signedPayload_injective⟩
  have hevent (text : Str) :
      (∃ event, verify hmac systemNow secret text body options = some (.ok event)) ↔
        Accepts mac secret (Uri.fields 44 text) options.timestampHeader body
          (options.clock systemNow) options.tolerance := by
    obtain ⟨result, hresult, hiff⟩ :=
      verify_accepts_iff hhmac text body hsecret hnow hint64 htolerance
    rw [hresult, ← hiff]
    simp only [Option.some.injEq]
  rw [hevent, hevent]
  exact accepts_of_perm hperm hextra

end

/-! ## A delivery -/

def sampleSecret : Str := "whsec_test_0123456789abcdef"

def sampleBody : Str := "\x7b\"id\":1\x7d"

/-- The MAC of the sample, and of nothing else. -/
def sampleMac (key message : Str) : Str :=
  if key = sampleSecret ∧ message = signedPayload "1785700000" sampleBody then
    [112, 115, 4, 117, 200, 41, 78, 230, 2, 154, 6, 85, 49, 40, 241, 133, 175, 7, 130, 149, 151, 73,
      60, 203, 99, 203, 141, 23, 209, 169, 124, 36]
  else List.replicate 32 0

def sampleHeader : Str :=
  "v2=00, t=1785700000,,v1=70730475C8294EE6029A06553128F185AF07829597493CCB63CB8D17D1A97C24"

/-- A delivery with another scheme's signature in front, half a minute late. -/
theorem sample_accepted : ∃ event, verify (fun key message => some (sampleMac key message)) 0
    sampleSecret sampleHeader sampleBody { now := some 1785700030 } = some (.ok event) := by
  have hcomputes : Computes (fun key message => some (sampleMac key message)) sampleMac := by
    intro key message
    refine ⟨rfl, ?_⟩
    unfold sampleMac
    split <;> rfl
  have hclock : 0 ≤ Options.clock { now := some 1785700030 } 0 := by decide
  obtain ⟨⟨result, hresult, haccepts⟩, -⟩ := verify_exact hcomputes sampleHeader sampleBody
    (show sampleSecret ≠ [] by decide) hclock (by decide) (by decide)
  obtain ⟨event, rfl⟩ := haccepts.mpr {
    pairs := by decide
    someV1 := by decide
    noneEmpty := by decide
    signed := ⟨"1785700000", by decide, ⟨by decide, forall_mem_of_all (by decide)⟩, by decide, by
      simp, by decide, by decide⟩ }
  exact ⟨event, hresult⟩

end Axiam.Webhook
