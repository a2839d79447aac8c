import Axiam.Core.Backoff
import Axiam.Core.Digits
import Axiam.Management.Wire

/-!
# Paging

`PageRequest`, `Transport::paging` and the walk a caller writes with `Page::next_request()`
(`src/management_transport.cpp`).  The next page is as far on as the limit that was asked for, so
the walk is complete exactly when the server gives no fewer rows than that, or gives all there are
at once.  The walk of the manifest stops at the server's count too, and finds the same rows.
-/

namespace Axiam.Management.Paging

open Axiam.Lib

/-- `PageRequest`, as a caller fills it in. -/
structure PageRequest where
  offset : Int := 0
  limit : Int := 50
  search : Str := []
  site : Option Str := none
  deriving DecidableEq

/-- `std::isspace` of the C locale. -/
def isSpace (c : UInt8) : Bool := c == 32 || (9 ≤ c && c ≤ 13)

namespace PageRequest

/-- An offset below zero counts as zero. -/
def start (r : PageRequest) : Int := if r.offset < 0 then 0 else r.offset

/-- A limit below one counts as the default. -/
def size (r : PageRequest) : Int := if r.limit < 1 then 50 else r.limit

/-- `PageRequest::next`. -/
def next (r : PageRequest) : PageRequest :=
  { r with limit := r.size, offset := r.start + r.size }

/-- `PageRequest::normalize_search`. -/
def normalizeSearch (term : Str) : Str :=
  ((term.dropWhile isSpace).reverse.dropWhile isSpace).reverse

/-- `Transport::paging`: a term that normalises away adds no parameter. -/
def paging (r : PageRequest) : List (Str × Str) :=
  [(str "offset", toStr r.start), (str "limit", toStr r.size)] ++
    if normalizeSearch r.search = [] then []
    else [(str "search", normalizeSearch r.search)]

end PageRequest

section

variable {α : Type}

/-- The number a query parameter states. -/
def numberOf (query : List (Str × Str)) (name : Str) : Nat :=
  digitsToNat ((query.lookup name).getD [])

/-- A list endpoint: the rows from the offset on, at most the limit and at most `cap`. -/
def answer (rows : List α) (cap : Nat) (query : List (Str × Str)) : List α :=
  (rows.drop (numberOf query "offset")).take (min (numberOf query "limit") cap)

/-- The walk: page after page until one is empty, and the requests it sent. -/
def walk (list : List (Str × Str) → List α) : Nat → PageRequest →
    Option (List α × List PageRequest)
  | 0, _ => none
  | fuel + 1, request =>
      let items := list request.paging
      if items = [] then some ([], [request])
      else (walk list fuel request.next).map fun rest => (items ++ rest.1, request :: rest.2)

/-- What a complete walk comes to: every row from the offset on, once and in order, with one term
throughout and no offset far beyond the rows there are. -/
structure Complete (rows : List α) (first : PageRequest) (out : List α × List PageRequest) :
    Prop where
  every : out.1 = rows.drop first.start.toNat
  search : ∀ r ∈ out.2, r.paging.lookup (str "search") = first.paging.lookup (str "search")
  offsets : ∀ r ∈ out.2, r.start ≤ max first.start (rows.length + first.size) ∧ r.size = first.size

end

section

/-! ## What the server reads of a request -/

/-- A digit is one byte, and counts as its character does. -/
theorem digit_byte {c : Char} (h : c.isDigit = true) :
    ∃ b : UInt8, String.utf8EncodeChar c = [b] ∧ b.toNat - 48 = c.toNat - '0'.toNat := by
  unfold Char.isDigit at h
  rw [Bool.and_eq_true, decide_eq_true_eq, decide_eq_true_eq] at h
  have hlow : 48 ≤ c.val.toNat := h.1
  have hhigh : c.val.toNat ≤ 57 := h.2
  refine ⟨c.val.toUInt8, ?_, ?_⟩
  · unfold String.utf8EncodeChar
    simp only
    rw [if_pos (by omega)]
    rfl
  · have hvalue : c.val.toUInt8.toNat = c.val.toNat := by
      rw [UInt32.toNat_toUInt8]
      omega
    rw [hvalue]
    rfl

/-- The digits a number is written with read as the number. -/
theorem digitsToNat_toStr (n : Nat) : digitsToNat (toStr n) = n := by
  have hfold : ∀ (l : List Char) (k : Nat), (∀ c ∈ l, c.isDigit = true) →
      (l.flatMap String.utf8EncodeChar).foldl (fun n c => n * 10 + (c.toNat - 48)) k =
        Nat.ofDigitChars 10 l k := by
    intro l
    induction l with
    | nil => exact fun _ _ => rfl
    | cons c l ih =>
        intro k hl
        rw [List.forall_mem_cons] at hl
        obtain ⟨b, hbyte, hvalue⟩ := digit_byte hl.1
        rw [List.flatMap_cons, hbyte, List.singleton_append, List.foldl_cons, ih _ hl.2,
          Nat.ofDigitChars_cons, hvalue, Nat.mul_comm]
  have hdecimal : decimal n = Nat.toDigits 10 n := by
    unfold decimal
    rw [if_pos (by omega)]
    rfl
  unfold digitsToNat
  rw [toStr_eq, hdecimal, hfold _ 0 fun c hc =>
    Nat.isDigit_of_mem_toDigits (by omega) (by omega) hc]
  exact Nat.ofDigitChars_ten_toDigits

variable {α : Type} (r : PageRequest)

theorem PageRequest.start_nonneg : 0 ≤ r.start := by
  unfold start
  split <;> omega

theorem PageRequest.size_pos : 1 ≤ r.size := by
  unfold size
  split <;> omega

theorem PageRequest.next_start : r.next.start = r.start + r.size := by
  have hstart := r.start_nonneg
  have hsize := r.size_pos
  show (if r.start + r.size < 0 then 0 else r.start + r.size) = _
  rw [if_neg (by omega)]

theorem PageRequest.next_size : r.next.size = r.size := by
  have hsize := r.size_pos
  show (if r.size < 1 then 50 else r.size) = r.size
  rw [if_neg (by omega)]

/-- The server reads the offset and the limit that were meant. -/
theorem answer_paging (rows : List α) (cap : Nat) :
    answer rows cap r.paging = (rows.drop r.start.toNat).take (min r.size.toNat cap) := by
  have hnumber : ∀ i : Int, 0 ≤ i → digitsToNat (toStr i) = i.toNat := by
    intro i hi
    obtain ⟨n, rfl⟩ := Int.eq_ofNat_of_zero_le hi
    exact digitsToNat_toStr n
  have hoffset : numberOf r.paging "offset" = r.start.toNat := hnumber _ r.start_nonneg
  have hlimit : numberOf r.paging "limit" = r.size.toNat := by
    have := r.size_pos
    exact hnumber _ (by omega)
  unfold answer
  rw [hoffset, hlimit]

/-! ## The walk -/

variable {r} {rows : List α} {cap : Nat}

/-- One page of the walk. -/
theorem walk_succ (fuel : Nat) :
    walk (answer rows cap) (fuel + 1) r =
      if (rows.drop r.start.toNat).take (min r.size.toNat cap) = [] then some ([], [r])
      else (walk (answer rows cap) fuel r.next).map fun rest =>
        ((rows.drop r.start.toNat).take (min r.size.toNat cap) ++ rest.1, r :: rest.2) := by
  rw [walk]
  simp only [answer_paging]

/-- A page that is not empty begins inside the list. -/
theorem start_lt_of_page (h : (rows.drop r.start.toNat).take (min r.size.toNat cap) ≠ []) :
    r.start.toNat < rows.length := by
  by_contra hge
  apply h
  rw [List.drop_eq_nil_of_le (by omega), List.take_nil]

variable (r rows cap) in
/-- With a page for every row that is left the walk comes to its end. -/
theorem walk_returns (fuel : Nat) (h : rows.length - r.start.toNat < fuel) :
    ∃ out, walk (answer rows cap) fuel r = some out := by
  induction fuel generalizing r with
  | zero => omega
  | succ fuel ih =>
      rw [walk_succ]
      by_cases hpage : (rows.drop r.start.toNat).take (min r.size.toNat cap) = []
      · rw [if_pos hpage]
        exact ⟨_, rfl⟩
      · rw [if_neg hpage]
        have hstart := start_lt_of_page hpage
        have hsize := r.size_pos
        have hnonneg := r.start_nonneg
        obtain ⟨out, hout⟩ := ih r.next (by rw [r.next_start]; omega)
        rw [hout]
        exact ⟨_, rfl⟩

/-- No walk has a row more than there are, and its requests differ in the offset alone. -/
theorem walk_sound {fuel : Nat} {out : List α × List PageRequest}
    (h : walk (answer rows cap) fuel r = some out) :
    out.1.length ≤ rows.length - r.start.toNat ∧
      (∀ q ∈ out.2, q.paging.lookup (str "search") = r.paging.lookup (str "search")) ∧
      ∀ q ∈ out.2, q.start ≤ max r.start (rows.length + r.size) ∧ q.size = r.size := by
  induction fuel generalizing r out with
  | zero => cases h
  | succ fuel ih =>
      rw [walk_succ] at h
      split at h
      · cases h
        refine ⟨Nat.zero_le _, fun q hq => by rw [List.mem_singleton.mp hq], fun q hq => ?_⟩
        rw [List.mem_singleton.mp hq]
        exact ⟨le_max_left _ _, rfl⟩
      next hpage =>
        obtain ⟨rest, hrest, rfl⟩ := Option.map_eq_some_iff.mp h
        obtain ⟨hlength, hsearch, hoffsets⟩ := ih hrest
        have hsize := r.size_pos
        have hnonneg := r.start_nonneg
        have hstart := start_lt_of_page hpage
        rw [r.next_start] at hlength
        refine ⟨?_, ?_, ?_⟩
        · simp only [List.length_append, List.length_take, List.length_drop]
          omega
        · rw [List.forall_mem_cons]
          exact ⟨rfl, fun q hq => hsearch q hq⟩
        · rw [List.forall_mem_cons]
          refine ⟨⟨le_max_left _ _, rfl⟩, fun q hq => ?_⟩
          obtain ⟨hle, heq⟩ := hoffsets q hq
          rw [r.next_start, r.next_size] at hle
          rw [r.next_size] at heq
          -- a page with rows began inside the list, so the next one is a page further at most
          exact ⟨by omega, heq⟩

/-- A server that gives whole pages is walked through. -/
theorem walk_rows {fuel : Nat} {out : List α × List PageRequest}
    (hwide : r.size.toNat ≤ cap ∨ rows.length ≤ r.start.toNat + cap)
    (h : walk (answer rows cap) fuel r = some out) : out.1 = rows.drop r.start.toNat := by
  induction fuel generalizing r out with
  | zero => cases h
  | succ fuel ih =>
      have hsize := r.size_pos
      have hnonneg := r.start_nonneg
      have hnext : r.next.start.toNat = r.start.toNat + r.size.toNat := by
        rw [r.next_start]
        omega
      rw [walk_succ] at h
      split at h
      next hpage =>
        cases h
        rw [List.take_eq_nil_iff, List.drop_eq_nil_iff] at hpage
        exact (List.drop_eq_nil_of_le (by omega)).symm
      next hpage =>
        obtain ⟨rest, hrest, rfl⟩ := Option.map_eq_some_iff.mp h
        have hrows := ih (r := r.next) (by rw [r.next_size, hnext]; omega) hrest
        simp only
        rw [hrows, hnext]
        rcases hwide with hwide | hshort
        · rw [Nat.min_eq_left hwide, ← List.drop_drop, List.take_append_drop]
        · -- the first page is the last one with rows
          by_cases hwide : r.size.toNat ≤ cap
          · rw [Nat.min_eq_left hwide, ← List.drop_drop, List.take_append_drop]
          · rw [List.take_of_length_le (by rw [List.length_drop]; omega),
              List.drop_eq_nil_of_le (i := r.start.toNat + r.size.toNat) (by omega),
              List.append_nil]

/-- Where the server gives less than was asked for and has more, rows are stepped over. -/
theorem walk_short {fuel : Nat} {out : List α × List PageRequest}
    (hcap : cap < r.size.toNat) (hmore : r.start.toNat + cap < rows.length)
    (h : walk (answer rows cap) fuel r = some out) :
    out.1.length < rows.length - r.start.toNat := by
  cases fuel with
  | zero => cases h
  | succ fuel =>
      have hnonneg := r.start_nonneg
      rw [walk_succ] at h
      split at h
      · cases h
        show 0 < _
        omega
      · obtain ⟨rest, hrest, rfl⟩ := Option.map_eq_some_iff.mp h
        have hlength := (walk_sound hrest).1
        rw [r.next_start] at hlength
        simp only [List.length_append, List.length_take, List.length_drop]
        omega

end

/-- A walk always ends, and is complete exactly when the server gives as many rows as a page asks
for, or all that are left at once. -/
theorem walk_complete_iff {α : Type} (rows : List α) (cap : Nat) (first : PageRequest) :
    (∃ fuel out, walk (answer rows cap) fuel first = some out ∧ Complete rows first out) ↔
      first.size.toNat ≤ cap ∨ rows.length ≤ first.start.toNat + cap := by
  constructor
  · rintro ⟨fuel, out, hwalk, hcomplete⟩
    by_contra hnot
    rw [not_or, Nat.not_le, Nat.not_le] at hnot
    have hshort := walk_short hnot.1 hnot.2 hwalk
    rw [hcomplete.every, List.length_drop] at hshort
    omega
  · intro hwide
    obtain ⟨out, hwalk⟩ := walk_returns first rows cap _ (Nat.lt_succ_self _)
    obtain ⟨-, hsearch, hoffsets⟩ := walk_sound hwalk
    exact ⟨_, out, hwalk, walk_rows hwide hwalk, hsearch, hoffsets⟩

/-- Of three rows, asked for by twos and given one by one, the second is stepped over. -/
theorem capped_walk_loses_row :
    ¬∀ (rows : List Nat) (cap : Nat) (first : PageRequest),
      first.offset < 2 ^ 62 → first.limit < 2 ^ 62 →
        ∃ fuel out, walk (answer rows cap) fuel first = some out ∧ Complete rows first out := by
  intro hclaim
  obtain ⟨fuel, out, hwalk, hcomplete⟩ :=
    hclaim [10, 11, 12] 1 { limit := 2 } (by decide) (by decide)
  have hshort := walk_short (by decide) (by decide) hwalk
  rw [hcomplete.every] at hshort
  exact absurd hshort (by decide)

/-! ## The walk of the manifest -/

/-- A request of the manifest, which has no term and no site. -/
def ofManifest (r : Management.PageRequest) : PageRequest where
  offset := r.offset
  limit := r.limit

theorem paging_ofManifest (r : Management.PageRequest) :
    Management.paging r = (ofManifest r).paging.map fun p => (p.1, some p.2) := by
  have hstart : (ofManifest r).start = r.offset := if_neg (by simp [ofManifest])
  have hsize : (ofManifest r).size = if r.limit < 1 then 50 else (r.limit : Int) := by
    unfold PageRequest.size ofManifest
    simp only
    by_cases hlimit : r.limit < 1
    · rw [if_pos hlimit, if_pos (by omega)]
    · rw [if_neg hlimit, if_neg (by omega)]
  have hnone : PageRequest.normalizeSearch (ofManifest r).search = [] := rfl
  unfold PageRequest.paging Management.paging
  rw [hstart, hsize, if_pos hnone]
  rfl

section

variable {α σ : Type} {rows : List α} {cap : Nat} {list : Management.PageRequest → Prog σ Exc (Page α)}
  {s : σ} {total : Int} {r : Management.PageRequest}

theorem ofManifest_start : (ofManifest r).start.toNat = r.offset := by
  unfold PageRequest.start ofManifest
  simp only
  rw [if_neg (by omega)]
  rfl

theorem ofManifest_size (h : 1 ≤ r.limit) : (ofManifest r).size.toNat = r.limit := by
  unfold PageRequest.size ofManifest
  simp only
  rw [if_neg (by omega)]
  rfl

theorem next_ofManifest (h : 1 ≤ r.limit) : (ofManifest r).next = ofManifest r.next := by
  have hstart := ofManifest_start (r := r)
  have hsize := ofManifest_size h
  have hnonneg := (ofManifest r).start_nonneg
  have hpos := (ofManifest r).size_pos
  have hlimit : (ofManifest r).size = r.limit := by omega
  have hoffset : (ofManifest r).start + (ofManifest r).size = (r.offset + r.limit : Nat) := by omega
  unfold PageRequest.next
  rw [hoffset, hlimit]
  rfl

/-- What a caller's walk collects the manifest's walk collects, at a server that counts no fewer
rows than there are. -/
theorem manifest_walk
    (hlist : ∀ r, list r s = (.ok ⟨answer rows cap (ofManifest r).paging, total⟩, s))
    {pages : Nat} {out : List α} {found : List α × List PageRequest} (hlimit : 1 ≤ r.limit)
    (htotal : ((out.length + (rows.length - r.offset) : Nat) : Int) ≤ total)
    (h : walk (answer rows cap) pages (ofManifest r) = some found) :
    Management.walk list pages r out s = (.ok (out ++ found.1), s) := by
  induction pages generalizing r out found with
  | zero => cases h
  | succ pages ih =>
      rw [Management.walk, Prog.bind_run_ok (hlist r), answer_paging, ofManifest_start,
        ofManifest_size hlimit]
      rw [walk_succ, ofManifest_start, ofManifest_size hlimit, next_ofManifest hlimit] at h
      simp only
      by_cases hpage : (rows.drop r.offset).take (min r.limit cap) = []
      · rw [if_pos hpage] at h ⊢
        cases h
        rw [List.append_nil]
        rfl
      · rw [if_neg hpage] at h ⊢
        obtain ⟨rest, hrest, rfl⟩ := Option.map_eq_some_iff.mp h
        rw [← List.append_assoc]
        have hsize : ((rows.drop r.offset).take (min r.limit cap)).length ≤ r.limit ∧
            ((rows.drop r.offset).take (min r.limit cap)).length ≤ rows.length - r.offset := by
          rw [List.length_take, List.length_drop]
          omega
        by_cases hcount : total ≤ (out ++ (rows.drop r.offset).take (min r.limit cap)).length
        · -- by the count there is nothing left, so the next page is the empty one
          rw [if_pos hcount]
          have hnone : rest.1 = [] := by
            have hleft := (walk_sound hrest).1
            rw [ofManifest_start] at hleft
            rw [List.length_append] at hcount
            refine List.eq_nil_of_length_eq_zero ?_
            show rest.1.length = 0
            have hoffset : r.next.offset = r.offset + r.limit := rfl
            omega
          rw [hnone, List.append_nil]
          rfl
        · rw [if_neg hcount]
          refine ih hlimit ?_ hrest
          have hoffset : r.next.offset = r.offset + r.limit := rfl
          rw [List.length_append]
          omega

/-- The manifest finds all rows of a list exactly when the server gives as many as it asks for, or
all at once. -/
theorem manifest_walk_every_iff
    (hlist : ∀ r, list r s = (.ok ⟨answer rows cap (ofManifest r).paging, rows.length⟩, s))
    {pages : Nat} (hpages : rows.length < pages) :
    Management.walk list pages .first [] s = (.ok rows, s) ↔
      kScanLimit ≤ cap ∨ rows.length ≤ cap := by
  have hlimit : 1 ≤ Management.PageRequest.first.limit := by decide
  have hstart : (ofManifest .first).start.toNat = 0 := ofManifest_start
  have hsize : (ofManifest .first).size.toNat = kScanLimit := ofManifest_size hlimit
  obtain ⟨out, hout⟩ := walk_returns (ofManifest .first) rows cap pages (by omega)
  have hwalk : Management.walk list pages .first [] s = (.ok ([] ++ out.1), s) :=
    manifest_walk hlist hlimit (by simp [Management.PageRequest.first]) hout
  rw [hwalk, List.nil_append]
  constructor
  · intro hrows
    by_contra hnot
    rw [not_or, Nat.not_le, Nat.not_le] at hnot
    have hshort := walk_short (by omega) (by omega) hout
    cases hrows
    omega
  · intro hwide
    rw [walk_rows (by omega) hout, hstart, List.drop_zero]

end

end Axiam.Management.Paging
