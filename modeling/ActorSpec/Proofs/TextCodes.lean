import ActorSpec.Text.Utf8
import Mathlib.Data.List.TakeWhile

/-!
# Code points and the characters that hold them

A text is determined by its code points if it is `IsProper`: every U+D7FF in it starts a pair. The
texts that are made of code points are (`ofCodes`), so those that are read, decoded or put together
from such texts are proper, and holding code points as characters loses nothing
(`codes_ofCodes`). Both directions rest on one step, `codes_ofCode_append`: the first characters of a
text tell where the first code point ends.

A text has bytes if no code point of it is a surrogate (`isEncodable`), and the bytes stand for the text
again (`decode?_bytes`).
-/

namespace ActorSpec.Text

theorem toNat_cases (c : Char) : c.toNat < 0xD800 ∨ 0xDFFF < c.toNat ∧ c.toNat < 0x110000 := c.valid

theorem toNat_ofNat {n : Nat} (h : n < 0xD800 ∨ 0xDFFF < n ∧ n < 0x110000) :
    (Char.ofNat n).toNat = n := by
  rw [Char.ofNat, dif_pos h]
  rfl

theorem toNat_lt (c : Char) : c.toNat < 0x110000 := by
  have := toNat_cases c
  omega

theorem toNat_lead : lead.toNat = 0xD7FF := rfl

/-- A code point that is not held as a pair is a character. -/
theorem toNat_ofNat_of_single {n : Nat} (h : n < 0x110000) (hsingle : ¬ (0xD7FF ≤ n ∧ n < 0xE000)) :
    (Char.ofNat n).toNat = n := by
  refine toNat_ofNat ?_
  omega

theorem codes_cons_of_ne_lead {c : Char} (h : c ≠ lead) (cs : List Char) :
    codes (c :: cs) = c.toNat :: codes cs := by
  cases cs with
  | nil => rfl
  | cons d rest => rw [codes, if_neg fun hpair => h hpair.1]

theorem codes_pair {d : Char} (hlow : 0xE000 ≤ d.toNat) (hhigh : d.toNat ≤ 0xE800)
    (cs : List Char) : codes (lead :: d :: cs) = (d.toNat - 0x801) :: codes cs := by
  rw [codes, if_pos ⟨rfl, hlow, hhigh⟩]

theorem codes_ofCode_append {n : Nat} (h : n < 0x110000) (cs : List Char) :
    codes (ofCode n ++ cs) = n :: codes cs := by
  unfold ofCode
  split
  · next hpair =>
      have hsecond : (Char.ofNat (n + 0x801)).toNat = n + 0x801 := toNat_ofNat (by omega)
      rw [List.cons_append, List.singleton_append,
        codes_pair (by rw [hsecond]; omega) (by rw [hsecond]; omega), hsecond,
        Nat.add_sub_cancel]
  · next hsingle =>
      have hfirst := toNat_ofNat_of_single h hsingle
      have hlead : Char.ofNat n ≠ lead := fun heq => by
        rw [heq, toNat_lead] at hfirst
        omega
      rw [List.singleton_append, codes_cons_of_ne_lead hlead, hfirst]

theorem ofCodes_cons (n : Nat) (ns : List Nat) : ofCodes (n :: ns) = ofCode n ++ ofCodes ns := rfl

theorem ofCodes_append (ns ms : List Nat) : ofCodes (ns ++ ms) = ofCodes ns ++ ofCodes ms :=
  List.flatMap_append

theorem codes_ofCodes_append {ns : List Nat} (h : ∀ n ∈ ns, n < 0x110000) (cs : List Char) :
    codes (ofCodes ns ++ cs) = ns ++ codes cs := by
  induction ns with
  | nil => rfl
  | cons n ns ih =>
      rw [ofCodes_cons, List.append_assoc, codes_ofCode_append (h n List.mem_cons_self),
        ih fun m hm => h m (List.mem_cons_of_mem n hm), List.cons_append]

theorem codes_ofCodes {ns : List Nat} (h : ∀ n ∈ ns, n < 0x110000) : codes (ofCodes ns) = ns := by
  have happend := codes_ofCodes_append h []
  rwa [List.append_nil, codes, List.append_nil] at happend

/-- Every code point is in the range of Unicode. -/
theorem codes_lt (cs : List Char) : ∀ n ∈ codes cs, n < 0x110000 := by
  fun_induction codes cs with
  | case1 => exact nofun
  | case2 c => exact List.forall_mem_singleton.mpr (toNat_lt c)
  | case3 c d rest hpair ih =>
      have hd := toNat_lt d
      exact List.forall_mem_cons.mpr ⟨by omega, ih⟩
  | case4 c d rest hpair ih => exact List.forall_mem_cons.mpr ⟨toNat_lt c, ih⟩

theorem namesSize_append (ms ns : List Nat) : namesSize (ms ++ ns) = namesSize ms + namesSize ns := by
  induction ms with
  | nil => exact (Nat.zero_add _).symm
  | cons n rest ih => rw [List.cons_append, namesSize, namesSize, ih, Nat.add_assoc]

/-- A character that is no second half of a pair starts a code point. -/
theorem codes_append {c : Char} (hc : c.toNat < 0xE000) (cs ds : List Char) :
    codes (cs ++ c :: ds) = codes cs ++ codes (c :: ds) := by
  fun_induction codes cs with
  | case1 => rfl
  | case2 d =>
      rw [List.singleton_append, codes, if_neg fun hpair => absurd hpair.2.1 (Nat.not_le.mpr hc)]
      rfl
  | case3 d e rest hpair ih =>
      rw [List.cons_append, List.cons_append, codes, if_pos hpair, ih, List.cons_append]
  | case4 d e rest hpair ih =>
      rw [List.cons_append, List.cons_append, codes, if_neg hpair, List.cons_append, ← ih,
        List.cons_append]

/-! ## Texts without pairs -/

theorem ofCode_toNat {c : Char} (h : c ≠ lead) : ofCode c.toNat = [c] := by
  have hvalid := toNat_cases c
  have hne : c.toNat ≠ 0xD7FF := fun heq => h (Char.toNat_inj.mp heq)
  rw [ofCode, if_neg (by omega), Char.ofNat_toNat]

/-- A text without a U+D7FF is held as it is. -/
theorem ofChars_of_not_mem {cs : List Char} (h : lead ∉ cs) : ofChars cs = cs := by
  induction cs with
  | nil => rfl
  | cons c cs ih =>
      obtain ⟨hc, hcs⟩ := List.ne_and_not_mem_of_not_mem_cons h
      have hstep : ofChars (c :: cs) = ofCode c.toNat ++ ofChars cs := rfl
      rw [hstep, ih hcs, ofCode_toNat (Ne.symm hc), List.singleton_append]

/-! ## Proper texts -/

/-- The text with the code points of a text. -/
def normal (s : String) : String := String.ofList (ofCodes (codes s.toList))

/-- Every U+D7FF in the text starts a pair. -/
def IsProper (s : String) : Prop := normal s = s

instance (s : String) : Decidable (IsProper s) := inferInstanceAs (Decidable (_ = _))

theorem isProper_ofCodes {ns : List Nat} (h : ∀ n ∈ ns, n < 0x110000) :
    IsProper (String.ofList (ofCodes ns)) := by
  rw [IsProper, normal, String.toList_ofList, codes_ofCodes h]

/-! ## Bytes -/

/-- The encoding has a form for every code point of the text. -/
def Encoding.covers (e : Encoding) (s : String) : Bool := (codes s.toList).all e.has

/-- No surrogate is in the text. -/
def isEncodable (s : String) : Bool := Encoding.utf8.covers s

theorem encodeFault?_eq_none_iff {e : Encoding} {passes : Nat → Bool} {s : String} :
    encodeFault? e passes s = none ↔ ∀ n ∈ codes s.toList, (e.has n || passes n) = true := by
  rw [encodeFault?]
  cases hrest : (codes s.toList).dropWhile fun n => e.has n || passes n with
  | nil => exact iff_of_true rfl (List.dropWhile_eq_nil_iff.mp hrest)
  | cons n rest =>
      refine iff_of_false nofun fun hall => ?_
      rw [List.dropWhile_eq_nil_iff.mpr hall] at hrest
      cases hrest

/-- Where nothing is let pass a text needs a form for all of it. -/
theorem encodeFault?_strict_eq_none_iff {e : Encoding} {s : String} :
    encodeFault? e (fun _ => false) s = none ↔ e.covers s = true := by
  rw [encodeFault?_eq_none_iff, Encoding.covers, List.all_eq_true]
  simp only [Bool.or_false]

theorem encode_eq {s : String} (h : isEncodable s = true) : encode s = .ok (bytes s) := by
  rw [encode, encodeFault?_strict_eq_none_iff.mpr h]

theorem exists_encode_fault {s : String} (h : isEncodable s = false) :
    ∃ fault, encode s = .error fault := by
  cases hfault : encodeFault? .utf8 (fun _ => false) s with
  | some fault => exact ⟨fault, by rw [encode, hfault]⟩
  | none => cases h.symm.trans (encodeFault?_strict_eq_none_iff.mp hfault)

theorem fromUTF8?_toUTF8 (s : String) : String.fromUTF8? s.toUTF8 = some s := by
  simp [String.fromUTF8?, String.fromUTF8, s.isValidUTF8]

theorem encode_eq_ok_iff {s : String} {content : ByteArray} :
    encode s = .ok content ↔ isEncodable s = true ∧ content = bytes s := by
  constructor
  · intro h
    cases hs : isEncodable s with
    | true => exact ⟨rfl, Except.ok.inj (h.symm.trans (encode_eq hs))⟩
    | false =>
        obtain ⟨fault, hfault⟩ := exists_encode_fault hs
        cases h.symm.trans hfault
  · rintro ⟨hs, rfl⟩
    exact encode_eq hs

/-- The bytes of a text stand for it. -/
theorem decode?_bytes {s : String} (h : isEncodable s = true) : decode? (bytes s) = some (normal s) := by
  have hcodes : ((codes s.toList).map Char.ofNat).map Char.toNat = codes s.toList := by
    rw [List.map_map]
    refine (List.map_congr_left fun n hn => ?_).trans (List.map_id _)
    have hlt := codes_lt _ n hn
    have hclean : (!isSurrogate n) = true := List.all_eq_true.mp h n hn
    rw [Bool.not_eq_true', isSurrogate, Bool.and_eq_false_iff, decide_eq_false_iff_not,
      decide_eq_false_iff_not] at hclean
    exact toNat_ofNat (by omega)
  rw [decode?, bytes, fromUTF8?_toUTF8, Option.map_some, String.toList_ofList, ofChars, hcodes, normal]

end ActorSpec.Text
