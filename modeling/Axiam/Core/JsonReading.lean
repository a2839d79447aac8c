import Axiam.Core.JsonGrammar
import Axiam.Core.Query

/-!
# One reading

A JSON text that is an object has one list of members: where each of its parts ends is determined.
-/

namespace Axiam.JsonText

/-- A text between quotes ends at the first quote that no backslash stands in front of. -/
theorem unquoted_unique {x y r r' : Str} (hx : Unquoted x) (hy : Unquoted y)
    (h : x ++ 34 :: r = y ++ 34 :: r') : x = y ∧ r = r' := by
  induction hx generalizing y with
  | nil =>
      cases hy with
      | nil => exact ⟨rfl, (List.cons.inj h).2⟩
      | byte hquote => exact absurd (List.cons.inj h).1.symm hquote
      | escape => exact absurd (List.cons.inj h).1 (by decide)
  | byte hquote hback _ ih =>
      cases hy with
      | nil => exact absurd (List.cons.inj h).1 hquote
      | byte _ _ hy =>
          obtain ⟨rfl, hrest⟩ := List.cons.inj h
          obtain ⟨rfl, hr⟩ := ih hy hrest
          exact ⟨rfl, hr⟩
      | escape => exact absurd (List.cons.inj h).1 hback
  | escape c _ ih =>
      cases hy with
      | nil => exact absurd (List.cons.inj h).1 (by decide)
      | byte _ hback => exact absurd (List.cons.inj h).1.symm hback
      | escape d hy =>
          obtain ⟨rfl, hrest⟩ := List.cons.inj (List.cons.inj h).2
          obtain ⟨rfl, hr⟩ := ih hy hrest
          exact ⟨rfl, hr⟩

theorem isWs_of_isScalarByte {c : UInt8} (h : isScalarByte c = true) : isWs c = false := by
  revert c
  apply forall_byte
  decide +kernel

/-- A value begins and ends with a byte that is no space. -/
theorem value_ends {s : Str} (h : IsValue s) :
    (∃ c rest, s = c :: rest ∧ isWs c = false) ∧ ∃ rest c, s = rest ++ [c] ∧ isWs c = false := by
  have hbracketed (o c : UInt8) (inner : Str) (ho : isWs o = false) (hc : isWs c = false) :
      (∃ d rest, o :: (inner ++ [c]) = d :: rest ∧ isWs d = false) ∧
        ∃ rest d, o :: (inner ++ [c]) = rest ++ [d] ∧ isWs d = false :=
    ⟨⟨o, _, rfl, ho⟩, o :: inner, c, rfl, hc⟩
  cases h with
  | scalar hscalar =>
      obtain ⟨hne, hbytes⟩ := hscalar.scalarBytes
      refine ⟨?_, ?_⟩
      · obtain ⟨c, rest, rfl⟩ := List.exists_cons_of_ne_nil hne
        exact ⟨c, rest, rfl, isWs_of_isScalarByte (hbytes c List.mem_cons_self)⟩
      · exact ⟨_, _, (List.dropLast_append_getLast hne).symm,
          isWs_of_isScalarByte (hbytes _ (List.getLast_mem hne))⟩
  | string => exact hbracketed 34 34 _ (by decide) (by decide)
  | emptyArray => exact hbracketed 91 93 _ (by decide) (by decide)
  | array => exact hbracketed 91 93 _ (by decide) (by decide)
  | emptyObject => exact hbracketed 123 125 _ (by decide) (by decide)
  | object => exact hbracketed 123 125 _ (by decide) (by decide)

/-- Space in front of a byte that is none ends there. -/
theorem Ws.unique {w w' x y : Str} (hw : Ws w) (hw' : Ws w')
    (hx : ∃ c rest, x = c :: rest ∧ isWs c = false) (hy : ∃ c rest, y = c :: rest ∧ isWs c = false)
    (h : w ++ x = w' ++ y) : w = w' ∧ x = y :=
  Uri.run_unique hw hw' (.inr hx) (.inr hy) h

/-- And so does space behind one, read from the end. -/
theorem Ws.unique_behind {w w' x y : Str} (hw : Ws w) (hw' : Ws w')
    (hx : ∃ rest c, x = rest ++ [c] ∧ isWs c = false)
    (hy : ∃ rest c, y = rest ++ [c] ∧ isWs c = false) (h : x ++ w = y ++ w') :
    x = y ∧ w = w' := by
  have hback {z : Str} (hz : ∃ rest c, z = rest ++ [c] ∧ isWs c = false) :
      ∃ c rest, z.reverse = c :: rest ∧ isWs c = false := by
    obtain ⟨rest, c, rfl, hc⟩ := hz
    exact ⟨c, rest.reverse, by simp, hc⟩
  have hrev : w.reverse ++ x.reverse = w'.reverse ++ y.reverse := by
    rw [← List.reverse_append, h, List.reverse_append]
  have hspace {z : Str} (hz : Ws z) : Ws z.reverse := fun c hc => hz c (List.mem_reverse.mp hc)
  obtain ⟨hws, hvalues⟩ := (hspace hw).unique (hspace hw') (hback hx) (hback hy) hrev
  exact ⟨List.reverse_inj.mp hvalues, List.reverse_inj.mp hws⟩

/-- A member's text determines its parts. -/
theorem Member.text_injective {m n : Member} (hm : m.Spaced) (hn : n.Spaced)
    (hmv : IsValue m.value) (hnv : IsValue n.value) (h : m.text = n.text) : m = n := by
  obtain ⟨before, name, gap, gap', value, after⟩ := m
  obtain ⟨before', name', gap₂, gap₂', value', after'⟩ := n
  have hname {raw : Str} (hraw : (unescape raw).isSome = true) : Unquoted raw := by
    unfold unescape at hraw
    rw [Option.isSome_map] at hraw
    obtain ⟨ps, hps⟩ := Option.isSome_iff_exists.mp hraw
    exact (unquoted_of_pieces hps).1
  have hstarts {v : Str} (hv : IsValue v) (a : Str) :
      ∃ c rest, v ++ a = c :: rest ∧ isWs c = false := by
    obtain ⟨c, rest, rfl, hc⟩ := (value_ends hv).1
    exact ⟨c, rest ++ a, rfl, hc⟩
  simp only [Member.text, Member.label, quoted, List.append_assoc, List.cons_append,
    List.nil_append] at h
  -- the parts in their order, each ending where the next begins
  obtain ⟨hbefore, h⟩ := hm.before.unique hn.before ⟨34, _, rfl, by decide⟩
    ⟨34, _, rfl, by decide⟩ h
  obtain ⟨hnames, h⟩ := unquoted_unique (hname hm.name) (hname hn.name) (List.cons.inj h).2
  obtain ⟨hgap, h⟩ := hm.gap.unique hn.gap ⟨58, _, rfl, by decide⟩ ⟨58, _, rfl, by decide⟩ h
  obtain ⟨hgap', h⟩ := hm.gap'.unique hn.gap' (hstarts hmv after) (hstarts hnv after')
    (List.cons.inj h).2
  obtain ⟨hvalue, hafter⟩ := hm.after.unique_behind hn.after (value_ends hmv).2 (value_ends hnv).2 h
  simp only at hbefore hnames hgap hgap' hvalue hafter
  rw [hbefore, hnames, hgap, hgap', hvalue, hafter]

/-- Texts without a comma of their own are told apart by those between them. -/
theorem commaJoin_injective {xs ys : List Str} (hxs : ∀ x ∈ xs, Enclosed false x)
    (hys : ∀ y ∈ ys, Enclosed false y) (hx : xs ≠ []) (hy : ys ≠ [])
    (h : commaJoin xs = commaJoin ys) : xs = ys := by
  -- a text without a comma is none with one
  have hno {x y r : Str} (hx : Enclosed false x) (hy : Enclosed false y) : x ≠ y ++ 44 :: r := by
    intro heq
    have hboth : x ++ 44 :: [] = y ++ 44 :: (r ++ [44]) := by
      rw [heq]
      simp
    have hr := (JsonText.append_comma_inj hx hy hboth).2
    simp at hr
  induction xs generalizing ys with
  | nil => exact absurd rfl hx
  | cons x xs ih =>
      obtain ⟨y, ys, rfl⟩ := List.exists_cons_of_ne_nil hy
      obtain ⟨hxhead, hxtail⟩ := List.forall_mem_cons.mp hxs
      obtain ⟨hyhead, hytail⟩ := List.forall_mem_cons.mp hys
      cases xs with
      | nil =>
          cases ys with
          | nil => exact congrArg (fun z => [z]) h
          | cons z ys => exact absurd h (hno hxhead hyhead)
      | cons w xs =>
          cases ys with
          | nil => exact absurd h.symm (hno hyhead hxhead)
          | cons z ys =>
              obtain ⟨rfl, hrest⟩ := JsonText.append_comma_inj hxhead hyhead h
              rw [ih hxtail hytail (by simp) (by simp) hrest]

/-- The members between the braces are one list. -/
theorem Members.unique {inner : Str} {ms ns : List Member} (hm : Members inner ms)
    (hn : Members inner ns) : ms = ns := by
  have hquote {ms : List Member} (hne : ms ≠ []) : 34 ∈ commaJoin (ms.map Member.text) := by
    obtain ⟨m, rest, rfl⟩ := List.exists_cons_of_ne_nil hne
    cases rest <;> simp [commaJoin, Member.text, Member.label, quoted]
  have hspace {w : Str} {ms : List Member} (hw : Ws w) (hne : ms ≠ []) :
      w ≠ commaJoin (ms.map Member.text) := by
    intro heq
    exact absurd (hw 34 (heq ▸ hquote hne)) (by decide)
  have henclosed {ms : List Member} (hspaced : ∀ m ∈ ms, m.Spaced)
      (hvalues : ∀ m ∈ ms, IsValue m.value) : ∀ x ∈ ms.map Member.text, Enclosed false x := by
    intro x hx
    obtain ⟨m, hmem, rfl⟩ := List.mem_map.mp hx
    exact enclosed_append (enclosed_label (hspaced m hmem)) (enclosed_append
      (hvalues m hmem).enclosed (enclosed_of_plain (hspaced m hmem).after.plain))
  cases hm with
  | none hw =>
      generalize hinner : inner = text at hn
      cases hn with
      | none => rfl
      | some hne => exact absurd hinner (hspace hw hne)
  | some hne hspaced hvalues =>
      generalize hinner : commaJoin (ms.map Member.text) = text at hn
      cases hn with
      | none hw => exact absurd hinner.symm (hspace hw hne)
      | some hne' hspaced' hvalues' =>
          have htexts := commaJoin_injective (henclosed hspaced hvalues)
            (henclosed hspaced' hvalues') (by simpa using hne) (by simpa using hne') hinner
          -- member by member
          clear hinner hne hne'
          induction ms generalizing ns with
          | nil => exact (List.map_eq_nil_iff.mp htexts.symm).symm
          | cons m ms ih =>
              obtain ⟨n, ns, rfl⟩ := List.exists_cons_of_ne_nil (show ns ≠ [] by
                rintro rfl
                cases htexts)
              rw [List.map_cons, List.map_cons] at htexts
              obtain ⟨htext, hrest⟩ := List.cons.inj htexts
              obtain ⟨hm, hms⟩ := List.forall_mem_cons.mp hspaced
              obtain ⟨hv, hvs⟩ := List.forall_mem_cons.mp hvalues
              obtain ⟨hn, hns⟩ := List.forall_mem_cons.mp hspaced'
              obtain ⟨hv', hvs'⟩ := List.forall_mem_cons.mp hvalues'
              rw [Member.text_injective hm hn hv hv' htext, ih hms hvs hns hvs' hrest]

/-- A JSON text that is an object has one list of members. -/
theorem IsObjectText.unique {text : Str} {ms ns : List Member} (hm : IsObjectText text ms)
    (hn : IsObjectText text ns) : ms = ns := by
  obtain ⟨-, before, object, after, rfl, hbefore, hafter, inner, rfl, hmembers⟩ := hm
  obtain ⟨-, before', object', after', htext, hbefore', hafter', inner', rfl, hmembers'⟩ := hn
  have hclose {w : Str} (hw : Ws w) : 125 ∉ w := fun hmem => absurd (hw 125 hmem) (by decide)
  obtain ⟨-, hrest⟩ := hbefore.unique hbefore' ⟨123, _, rfl, by decide⟩
    ⟨123, _, rfl, by decide⟩ htext
  have hbehind : inner ++ 125 :: after = inner' ++ 125 :: after' := by
    simpa using hrest
  have hparts := (cutLast_append inner (hclose hafter)).symm.trans
    (hbehind ▸ cutLast_append inner' (hclose hafter'))
  cases hparts
  exact hmembers.unique hmembers'

end Axiam.JsonText
