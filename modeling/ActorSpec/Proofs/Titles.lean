import ActorSpec.Field.Title
import Mathlib.Data.List.Basic

/-!
# Titles by segment and by position

A title is made segment by segment: an underscore between two names is a space between their titles
(`titleChars_append`), and no title has an underscore in it, since no character but the underscore itself
has one in its upper or lower case (`not_mem_mapCase`). In a name of ASCII characters every character of
the title stands where the character is that it is made of, and depends on that one and the one before it
only (`titleChars_eq_titleFrom`).
-/

namespace ActorSpec

/-! ## Segments -/

theorem intercalate_append {α : Type} (separator : List α) {xs ys : List (List α)} (hx : xs ≠ [])
    (hy : ys ≠ []) : separator.intercalate (xs ++ ys) =
      separator.intercalate xs ++ separator ++ separator.intercalate ys := by
  induction xs with
  | nil => exact absurd rfl hx
  | cons x rest ih =>
      rw [List.cons_append]
      by_cases h : rest = []
      · rw [h, List.nil_append, List.intercalate_cons_of_ne_nil hy, List.intercalate_singleton]
      · rw [List.intercalate_cons_of_ne_nil (List.append_ne_nil_of_left_ne_nil h ys), ih h,
          List.intercalate_cons_of_ne_nil h]
        simp only [List.append_assoc]

theorem titleChars_eq_intercalate (cs : List Char) :
    titleChars cs = [' '].intercalate ((cs.splitOn '_').map capitalise) := rfl

theorem titleChars_append (as bs : List Char) :
    titleChars (as ++ '_' :: bs) = titleChars as ++ ' ' :: titleChars bs := by
  rw [titleChars_eq_intercalate, List.splitOn_append_cons_self, List.map_append,
    intercalate_append, ← titleChars_eq_intercalate, ← titleChars_eq_intercalate,
    List.append_assoc, List.singleton_append]
  · exact mt List.map_eq_nil_iff.mp (List.splitOn_ne_nil '_' as)
  · exact mt List.map_eq_nil_iff.mp (List.splitOn_ne_nil '_' bs)

/-- A name without underscores is one segment. -/
theorem titleChars_of_not_mem {cs : List Char} (h : '_' ∉ cs) : titleChars cs = capitalise cs := by
  rw [titleChars_eq_intercalate, List.splitOn_eq_singleton h, List.map_singleton,
    List.intercalate_singleton]

/-- What holds of a segment, and of a name with one more segment in front of it, holds of every name. -/
theorem segment_induction {P : List Char → Prop} (segment : ∀ cs, '_' ∉ cs → P cs)
    (more : ∀ cs rest, '_' ∉ cs → P rest → P (cs ++ '_' :: rest)) (cs : List Char) : P cs := by
  induction hn : cs.length using Nat.strongRecOn generalizing cs with
  | ind n ih =>
      by_cases h : '_' ∈ cs
      · obtain ⟨front, rest, rfl, hfront⟩ := List.eq_append_cons_of_mem h
        refine more front rest hfront (ih rest.length ?_ rest rfl)
        rw [← hn, List.length_append, List.length_cons]
        omega
      · exact segment cs h

/-! ## No underscores -/

namespace Text

/-- No number stands for a character but its own one, the null character apart. -/
theorem eq_toNat_of_ofNat {n : Nat} {c : Char} (h : Char.ofNat n = c) (hc : c ≠ '\x00') :
    n = c.toNat := by
  rw [Char.ofNat] at h
  by_cases hvalid : n.isValidChar
  · rw [dif_pos hvalid] at h
    rw [← h]
    rfl
  · rw [dif_neg hvalid] at h
    exact absurd h.symm hc

/-- A character that is in no expansion, and that no run moves another one to, comes of itself only. -/
theorem not_mem_mapCase {target : Char} (hnull : target ≠ '\x00')
    {expansions : List (Nat × List Nat)} {runs : List CaseRun}
    (hexpansions : ∀ e ∈ expansions, target.toNat ∉ e.2)
    (hruns : ∀ r ∈ runs, r.contains ((target.toNat : Int) - r.shift).toNat = false)
    {c : Char} (h : c ≠ target) : target ∉ mapCase expansions runs c := by
  rw [mapCase]
  split
  · next image hlookup =>
      intro htarget
      obtain ⟨n, hn, heq⟩ := List.mem_map.mp htarget
      obtain ⟨front, rest, heq', -⟩ := List.lookup_eq_some_iff.mp hlookup
      have hmem : (c.toNat, image) ∈ expansions := by
        rw [heq']
        exact List.mem_append_right _ (List.mem_cons_self ..)
      exact hexpansions _ hmem (eq_toNat_of_ofNat heq hnull ▸ hn)
  · next r hnone hfind =>
      intro htarget
      have hmoved := eq_toNat_of_ofNat (List.mem_singleton.mp htarget).symm hnull
      have hpos : target.toNat ≠ 0 := fun hzero => hnull (Char.toNat_inj.mp hzero)
      have hcontains := List.find?_some hfind
      have hnot := hruns r (List.mem_of_find?_eq_some hfind)
      have hback : ((target.toNat : Int) - r.shift).toNat = c.toNat := by omega
      rw [hback, hcontains] at hnot
      cases hnot
  · exact fun htarget => h (List.mem_singleton.mp htarget).symm

theorem underscore_not_mem_upperChar {c : Char} (h : c ≠ '_') : '_' ∉ upperChar c :=
  not_mem_mapCase (by decide) (by decide) (by decide +kernel) h

theorem underscore_not_mem_lowerChar {c : Char} (h : c ≠ '_') : '_' ∉ lowerChar c :=
  not_mem_mapCase (by decide) (by decide) (by decide +kernel) h

theorem underscore_not_mem_lowerAfter {cs : List Char} (h : '_' ∉ cs) (before : List Char) :
    '_' ∉ lowerAfter before cs := by
  induction cs generalizing before with
  | nil => exact List.not_mem_nil
  | cons c rest ih =>
      rw [List.mem_cons, not_or] at h
      unfold lowerAfter
      split
      · next heq => cases heq
      · next heq =>
          obtain ⟨-, rfl⟩ := List.cons.inj heq
          refine List.not_mem_cons_of_ne_of_not_mem ?_ (ih h.2 _)
          split <;> decide
      · next heq =>
          obtain ⟨rfl, rfl⟩ := List.cons.inj heq
          rw [List.mem_append, not_or]
          exact ⟨underscore_not_mem_lowerChar (Ne.symm h.1), ih h.2 _⟩

end Text

theorem underscore_not_mem_capitalise {cs : List Char} (h : '_' ∉ cs) : '_' ∉ capitalise cs := by
  cases cs with
  | nil => exact List.not_mem_nil
  | cons c rest =>
      rw [List.mem_cons, not_or] at h
      rw [capitalise, List.mem_append, not_or]
      exact ⟨Text.underscore_not_mem_upperChar (Ne.symm h.1),
        Text.underscore_not_mem_lowerAfter h.2 []⟩

theorem underscore_not_mem_titleChars (cs : List Char) : '_' ∉ titleChars cs := by
  induction cs using segment_induction with
  | segment cs h =>
      rw [titleChars_of_not_mem h]
      exact underscore_not_mem_capitalise h
  | more cs rest h ih =>
      rw [titleChars_append, titleChars_of_not_mem h, List.mem_append, not_or, List.mem_cons, not_or]
      exact ⟨underscore_not_mem_capitalise h, by decide, ih⟩

/-! ## ASCII -/

namespace Text

/-- A property of every ASCII character is one of finitely many. -/
theorem of_isAscii {p : Char → Bool} (h : ∀ n < 128, p (Char.ofNat n) = true) {c : Char}
    (hc : c.isAscii = true) : p c = true := by
  have := h c.toNat (of_decide_eq_true hc)
  rwa [Char.ofNat_toNat] at this

/-- Behind its first run a table has nothing for an ASCII character. -/
theorem mapCase_of_isAscii {expansions : List (Nat × List Nat)} {run : CaseRun}
    {runs : List CaseRun} (hexpansions : ∀ e ∈ expansions, 128 ≤ e.1)
    (hruns : ∀ r ∈ runs, 128 ≤ r.first) {c : Char} (h : c.isAscii = true) :
    mapCase expansions (run :: runs) c = mapCase [] [run] c := by
  have hc : c.toNat < 128 := of_decide_eq_true h
  have hlookup : expansions.lookup c.toNat = none := by
    refine List.lookup_eq_none_iff.mpr fun e he => ?_
    have := hexpansions e he
    rw [bne_iff_ne]
    omega
  have hfind : runs.find? (·.contains c.toNat) = none := by
    refine List.find?_eq_none.mpr fun r hr => ?_
    have := hruns r hr
    simp only [CaseRun.contains, Bool.and_eq_true, decide_eq_true_eq]
    omega
  rw [mapCase, mapCase, hlookup, List.lookup_nil, List.find?_cons, List.find?_cons, hfind]
  rfl

theorem upperChar_of_isAscii {c : Char} (h : c.isAscii = true) : upperChar c = [c.toUpper] := by
  have hruns : upperRuns = ⟨0x61, 0x7A, 1, -32⟩ :: upperRuns.tail := rfl
  rw [upperChar, hruns, mapCase_of_isAscii (by decide) (by decide +kernel) h]
  exact of_decide_eq_true (of_isAscii
    (p := fun c => mapCase [] [⟨0x61, 0x7A, 1, -32⟩] c = [c.toUpper]) (by decide +kernel) h)

theorem lowerChar_of_isAscii {c : Char} (h : c.isAscii = true) : lowerChar c = [c.toLower] := by
  have hruns : lowerRuns = ⟨0x41, 0x5A, 1, 32⟩ :: lowerRuns.tail := rfl
  rw [lowerChar, hruns, mapCase_of_isAscii (by decide) (by decide +kernel) h]
  exact of_decide_eq_true (of_isAscii
    (p := fun c => mapCase [] [⟨0x41, 0x5A, 1, 32⟩] c = [c.toLower]) (by decide) h)

theorem lowerAfter_of_isAscii {cs : List Char} (h : ∀ c ∈ cs, c.isAscii = true)
    (before : List Char) : lowerAfter before cs = cs.map Char.toLower := by
  induction cs generalizing before with
  | nil => rfl
  | cons c rest ih =>
      obtain ⟨hc, hrest⟩ := List.forall_mem_cons.mp h
      unfold lowerAfter
      split
      · next heq => cases heq
      · next heq =>
          obtain ⟨rfl, -⟩ := List.cons.inj heq
          cases hc
      · next heq =>
          obtain ⟨rfl, rfl⟩ := List.cons.inj heq
          rw [lowerChar_of_isAscii hc, ih hrest, List.map_cons, List.singleton_append]

end Text

/-! ## Positions -/

/-- What becomes of a character of a name, behind another one or at the start. -/
def titleChar (before : Option Char) (c : Char) : Char :=
  if c = '_' then ' ' else if before.all (· = '_') then c.toUpper else c.toLower

/-- A title that is made from left to right, behind a character or at the start. -/
@[simp] def titleFrom : Option Char → List Char → List Char
  | _, [] => []
  | before, c :: rest => titleChar before c :: titleFrom (some c) rest

theorem length_titleFrom (before : Option Char) (cs : List Char) :
    (titleFrom before cs).length = cs.length := by
  induction cs generalizing before with
  | nil => rfl
  | cons c rest ih => rw [titleFrom, List.length_cons, List.length_cons, ih]

theorem getElem?_titleFrom (before : Option Char) (cs : List Char) (i : Nat) :
    (titleFrom before cs)[i]? = cs[i]?.map (titleChar (if i = 0 then before else cs[i - 1]?)) := by
  induction cs generalizing before i with
  | nil => rfl
  | cons c rest ih =>
      cases i with
      | zero => rfl
      | succ i =>
          rw [titleFrom, List.getElem?_cons_succ, List.getElem?_cons_succ, ih]
          cases i with
          | zero => rfl
          | succ i => rfl

/-- The character before is an underscore, or there is none, in the first place only. -/
theorem titleChar_of_mem_getElem? {cs : List Char} {i : Nat} {c : Char} (h : c ∈ cs[i]?) :
    titleChar (if i = 0 then none else cs[i - 1]?) c =
      if c = '_' then ' '
      else if i = 0 ∨ cs[i - 1]? = some '_' then c.toUpper
      else c.toLower := by
  rw [titleChar]
  cases i with
  | zero => simp
  | succ i =>
      have hlength : i + 1 < cs.length := (List.getElem?_eq_some_iff.mp h).1
      have hbefore : cs[i]? = some cs[i] := List.getElem?_eq_getElem (by omega)
      simp [hbefore]

theorem titleFrom_append (before : Option Char) (cs ds : List Char) :
    titleFrom before (cs ++ ds) = titleFrom before cs ++ titleFrom (cs.getLast?.or before) ds := by
  induction cs generalizing before with
  | nil => rfl
  | cons c rest ih =>
      have hlast : (c :: rest).getLast?.or before = rest.getLast?.or (some c) := by
        rw [List.getLast?_cons]
        cases rest.getLast? <;> rfl
      rw [List.cons_append, titleFrom, titleFrom, List.cons_append, ih, hlast]

/-- Behind an underscore a title starts again. -/
theorem titleFrom_underscore (cs : List Char) : titleFrom (some '_') cs = titleFrom none cs := by
  cases cs <;> rfl

theorem titleFrom_of_not_mem {before : Char} (hbefore : before ≠ '_') {cs : List Char}
    (h : '_' ∉ cs) : titleFrom (some before) cs = cs.map Char.toLower := by
  induction cs generalizing before with
  | nil => rfl
  | cons c rest ih =>
      rw [List.mem_cons, not_or] at h
      rw [titleFrom, ih (Ne.symm h.1) h.2, titleChar, if_neg (Ne.symm h.1), List.map_cons]
      simp [hbefore]

theorem capitalise_eq_titleFrom {cs : List Char} (h : ∀ c ∈ cs, c.isAscii = true)
    (hsegment : '_' ∉ cs) : capitalise cs = titleFrom none cs := by
  cases cs with
  | nil => rfl
  | cons c rest =>
      obtain ⟨hc, hrest⟩ := List.forall_mem_cons.mp h
      rw [List.mem_cons, not_or] at hsegment
      rw [capitalise, Text.upperChar_of_isAscii hc, Text.lower, Text.lowerAfter_of_isAscii hrest,
        titleFrom, titleFrom_of_not_mem (Ne.symm hsegment.1) hsegment.2, titleChar,
        if_neg (Ne.symm hsegment.1)]
      rfl

/-- A title of ASCII characters can be made from left to right, one character from one. -/
theorem titleChars_eq_titleFrom {cs : List Char} (h : ∀ c ∈ cs, c.isAscii = true) :
    titleChars cs = titleFrom none cs := by
  induction cs using segment_induction with
  | segment cs hsegment =>
      rw [titleChars_of_not_mem hsegment, capitalise_eq_titleFrom h hsegment]
  | more cs rest hsegment ih =>
      obtain ⟨hcs, hrest⟩ := List.forall_mem_append.mp h
      rw [titleChars_append, titleChars_of_not_mem hsegment, capitalise_eq_titleFrom hcs hsegment,
        ih (List.forall_mem_cons.mp hrest).2, titleFrom_append, titleFrom, titleFrom_underscore]
      rfl

theorem toLower_titleChar (before : Option Char) {c : Char} (h : c.isAscii = true) :
    (titleChar before c).toLower = (if c = '_' then ' ' else c).toLower := by
  rw [titleChar]
  split
  · rfl
  · split
    · exact of_decide_eq_true (Text.of_isAscii
        (p := fun c => c.toUpper.toLower = c.toLower) (by decide +kernel) h)
    · exact of_decide_eq_true (Text.of_isAscii
        (p := fun c => c.toLower.toLower = c.toLower) (by decide) h)

theorem map_toLower_titleFrom (before : Option Char) {cs : List Char}
    (h : ∀ c ∈ cs, c.isAscii = true) : (titleFrom before cs).map Char.toLower =
      (cs.map fun c => if c = '_' then ' ' else c).map Char.toLower := by
  induction cs generalizing before with
  | nil => rfl
  | cons c rest ih =>
      obtain ⟨hc, hrest⟩ := List.forall_mem_cons.mp h
      rw [titleFrom, List.map_cons, List.map_cons, List.map_cons, toLower_titleChar before hc,
        ih _ hrest]

/-! ## Titles -/

/-- The title of two names with an underscore between them is that of each, with a space between, and no
title has an underscore. A title of ASCII characters has one for each of the name: a space for an
underscore, a capital at the start and behind an underscore, lower case otherwise. So it is the name
with spaces for underscores, but for the case. The first half is by segments (`titleChars_append`), the
second by characters (`titleChars_eq_titleFrom`). -/
theorem titleCase_by_segment_and_position :
    (∀ a b : String, titleCase (a ++ "_" ++ b) = titleCase a ++ " " ++ titleCase b)
    ∧ (∀ s : String, '_' ∉ (titleCase s).toList)
    ∧ (∀ s : String, titleOf (.str s) = titleCase s)
    ∧ ∀ s : String, (∀ c ∈ s.toList, c.isAscii = true) →
        (titleCase s).toList.length = s.toList.length
        ∧ (∀ i, (titleCase s).toList[i]? = s.toList[i]?.map fun c =>
            if c = '_' then ' '
            else if i = 0 ∨ s.toList[i - 1]? = some '_' then c.toUpper
            else c.toLower)
        ∧ (titleCase s).toList.map Char.toLower =
            (s.toList.map fun c => if c = '_' then ' ' else c).map Char.toLower := by
  refine ⟨fun a b => ?_, fun s => ?_, fun s => ?_, fun s hs => ?_⟩
  · have hunderscore : "_".toList = ['_'] := rfl
    rw [← String.toList_inj]
    simp only [titleCase, String.toList_append, String.toList_ofList, hunderscore, List.append_assoc,
      List.singleton_append, titleChars_append]
    rfl
  · rw [titleCase, String.toList_ofList]
    exact underscore_not_mem_titleChars s.toList
  · rfl
  · rw [titleCase, String.toList_ofList, titleChars_eq_titleFrom hs]
    refine ⟨length_titleFrom none _, fun i => ?_, map_toLower_titleFrom none hs⟩
    rw [getElem?_titleFrom]
    exact Option.map_congr fun c hc => titleChar_of_mem_getElem? hc

theorem productUrl_titled :
    (∀ c ∈ "_pRODUCT__url_".toList, c.isAscii = true)
    ∧ (titleCase "_pRODUCT__url_").toList.length = 14
    ∧ (titleCase "_pRODUCT__url_").toList[1]? = some 'P'
    ∧ (titleCase "_pRODUCT__url_").toList[9]? = some ' '
    ∧ (titleCase "_pRODUCT__url_").toList.map Char.toLower = " product  url ".toList := by
  have hascii : ∀ c ∈ "_pRODUCT__url_".toList, c.isAscii = true :=
    List.all_eq_true.mp (by decide)
  obtain ⟨-, -, -, hforAscii⟩ := titleCase_by_segment_and_position
  obtain ⟨hlength, hchars, hlower⟩ := hforAscii "_pRODUCT__url_" hascii
  exact ⟨hascii, hlength.trans (by decide), (hchars 1).trans (by decide),
    (hchars 9).trans (by decide), hlower.trans (by decide)⟩

end ActorSpec
