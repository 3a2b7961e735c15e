import ActorSpec.Json.Reader
import ActorSpec.Json.Writer
import ActorSpec.Proofs.TextCodes

/-!
# Texts in documents

What the writer puts between quotes, the reader takes for the text again (`Json.textRest_flatMap`).
Only where surrogates are escaped does it find more than was written: a high one and a low one in a row
are the escape of one character to it (`Text.joinPairs`). The induction is on the code points. What a
code point is written as is read back alone (`textRest_escapeCode`) unless it is such a high surrogate,
so it needs to know of what follows only that it is not the escape of a low one
(`isLowSurrogate_of_unitAt?`).
-/

namespace ActorSpec

/-- Every high surrogate becomes one character with the low one behind it. -/
def Text.joinPairs : List Nat → List Nat
  | high :: low :: rest =>
    if isHighSurrogate high && isLowSurrogate low then joinSurrogates high low :: joinPairs rest
    else high :: joinPairs (low :: rest)
  | ns => ns

/-- A high surrogate stands right before a low one. -/
def Text.HasPair (ns : List Nat) : Prop :=
  ∃ before high low after, ns = before ++ high :: low :: after
    ∧ isHighSurrogate high = true ∧ isLowSurrogate low = true

theorem Text.HasPair.cons {ns : List Nat} (n : Nat) (h : HasPair ns) : HasPair (n :: ns) := by
  obtain ⟨before, high, low, after, rfl, hpair⟩ := h
  exact ⟨n :: before, high, low, after, rfl, hpair⟩

/-- Nothing else is joined. -/
theorem Text.joinPairs_eq_self {ns : List Nat} (h : ¬ HasPair ns) : joinPairs ns = ns := by
  fun_induction joinPairs ns with
  | case1 high low rest hpair => exact absurd ⟨[], high, low, rest, rfl, Bool.and_eq_true_iff.mp hpair⟩ h
  | case2 high low rest _ ih => rw [ih (mt (HasPair.cons high) h)]
  | case3 => rfl

end ActorSpec

namespace ActorSpec.Json

open Text (isHighSurrogate isLowSurrogate joinSurrogates joinPairs ofCode ofCodes)

/-! ## One escape or character -/

-- The equations are made here once, and not anew for every proof that rewrites with them.
attribute [local simp] textRest

theorem textRest_simple {c e : Char} (h : simpleEscape? c = some e) (tail : List Char) :
    textRest ('\\' :: c :: tail) = (textRest tail).map fun (cs, r) => (e :: cs, r) := by
  have hletter : c ≠ 'u' := by
    rintro rfl
    cases h
  rw [textRest, h]
  · exact fun _ _ _ _ _ _ _ _ _ hu _ => hletter hu
  · exact fun _ _ _ _ _ hu _ => hletter hu

theorem textRest_plain {c : Char} (hquote : c ≠ '"') (hslash : c ≠ '\\') (hspace : ¬ c < ' ')
    (tail : List Char) :
    textRest (c :: tail) = (textRest tail).map fun (cs, r) => (c :: cs, r) := by
  rw [textRest, if_neg (not_or.mpr ⟨hspace, hslash⟩)]
  · exact hquote
  · exact fun _ _ _ _ _ _ _ _ _ hc _ => hslash hc
  · exact fun _ _ _ _ _ hc _ => hslash hc
  · exact fun _ _ hc _ => hslash hc

theorem textRest_badUnit {a b c d : Char} (h : unit? a b c d = none) (tail : List Char) :
    textRest ('\\' :: 'u' :: a :: b :: c :: d :: tail) = none := by
  by_cases hnext : ∃ e f g i rest, tail = '\\' :: 'u' :: e :: f :: g :: i :: rest
  · obtain ⟨e, f, g, i, rest, rfl⟩ := hnext
    rw [textRest, h]
  · rw [textRest, h]
    exact fun e f g i rest htail => hnext ⟨e, f, g, i, rest, htail⟩

/-- The number of the escape that a text starts with. -/
def unitAt? : List Char → Option Nat
  | '\\' :: 'u' :: a :: b :: c :: d :: _ => unit? a b c d
  | _ => none

/-- An escape by number is read on its own, unless it is a high surrogate in front of a low one. -/
theorem textRest_unit {a b c d : Char} {n : Nat} (hunit : unit? a b c d = some n)
    {cs rest tail : List Char}
    (hnext : ∀ low, unitAt? tail = some low → (isHighSurrogate n && isLowSurrogate low) = false)
    (h : textRest tail = some (cs, rest)) :
    textRest ('\\' :: 'u' :: a :: b :: c :: d :: tail) = some (ofCode n ++ cs, rest) := by
  by_cases hescape : ∃ e f g i after, tail = '\\' :: 'u' :: e :: f :: g :: i :: after
  · obtain ⟨e, f, g, i, after, rfl⟩ := hescape
    cases hsecond : unit? e f g i with
    | none =>
        rw [textRest_badUnit hsecond] at h
        cases h
    | some low =>
        rw [textRest, hunit, hsecond]
        simp only [hnext low hsecond, h, Bool.false_eq_true, if_false, Option.map_some]
  · rw [textRest, hunit]
    · simp only [h, Option.map_some]
    · exact fun e f g i after htail => hescape ⟨e, f, g, i, after, htail⟩

/-- Two surrogates are read as one character. -/
theorem textRest_pair {a b c d e f g i : Char} {high low : Nat} (hfirst : unit? a b c d = some high)
    (hsecond : unit? e f g i = some low) (hhigh : isHighSurrogate high = true)
    (hlow : isLowSurrogate low = true) {cs rest tail : List Char}
    (h : textRest tail = some (cs, rest)) :
    textRest ('\\' :: 'u' :: a :: b :: c :: d :: '\\' :: 'u' :: e :: f :: g :: i :: tail) =
      some (ofCode (joinSurrogates high low) ++ cs, rest) := by
  rw [textRest, hfirst, hsecond]
  simp only [hhigh, hlow, h, Bool.and_self, if_true, Option.map_some]

/-! ## Code points by number -/

theorem hexValue?_digitChar (n : Nat) : Text.hexValue? (Nat.digitChar (n % 16)) = some (n % 16) := by
  have hdigit : ∀ digit < 16, Text.hexValue? (Nat.digitChar digit) = some digit := by decide
  exact hdigit _ (Nat.mod_lt n (by decide))

/-- The digits of a unit are read as its number. -/
theorem unit?_hexDigits {n : Nat} (h : n < 0x10000) :
    unit? (Nat.digitChar (n / 16 / 16 / 16 % 16)) (Nat.digitChar (n / 16 / 16 % 16))
      (Nat.digitChar (n / 16 % 16)) (Nat.digitChar (n % 16)) = some n := by
  simp only [unit?, Text.hexNumber?, List.foldlM_cons, List.foldlM_nil, hexValue?_digitChar,
    Option.map_some, Option.bind_eq_bind, Option.bind_some, Option.pure_def, Option.some.injEq]
  omega

theorem unitEscape_append (n : Nat) (tail : List Char) :
    unitEscape n ++ tail = '\\' :: 'u' :: Nat.digitChar (n / 16 / 16 / 16 % 16)
      :: Nat.digitChar (n / 16 / 16 % 16) :: Nat.digitChar (n / 16 % 16) :: Nat.digitChar (n % 16)
      :: tail := rfl

theorem isHighSurrogate_iff {n : Nat} : isHighSurrogate n = true ↔ 0xD800 ≤ n ∧ n < 0xDC00 := by
  rw [isHighSurrogate, Bool.and_eq_true, decide_eq_true_iff, decide_eq_true_iff]

theorem isLowSurrogate_iff {n : Nat} : isLowSurrogate n = true ↔ 0xDC00 ≤ n ∧ n < 0xE000 := by
  rw [isLowSurrogate, Bool.and_eq_true, decide_eq_true_iff, decide_eq_true_iff]

theorem textRest_numberEscape {n : Nat} (hn : n < 0x110000) {cs rest tail : List Char}
    (hnext : ∀ low, unitAt? tail = some low → (isHighSurrogate n && isLowSurrogate low) = false)
    (h : textRest tail = some (cs, rest)) :
    textRest (numberEscape n ++ tail) = some (ofCode n ++ cs, rest) := by
  rw [numberEscape]
  split
  · next hbasic => rw [unitEscape_append, textRest_unit (unit?_hexDigits hbasic) hnext h]
  · next hbeyond =>
      have hhigh : isHighSurrogate (0xD800 + (n - 0x10000) / 0x400) = true :=
        isHighSurrogate_iff.mpr (by omega)
      have hlow : isLowSurrogate (0xDC00 + (n - 0x10000) % 0x400) = true :=
        isLowSurrogate_iff.mpr (by omega)
      have hnumber : joinSurrogates (0xD800 + (n - 0x10000) / 0x400)
          (0xDC00 + (n - 0x10000) % 0x400) = n := by
        unfold joinSurrogates
        omega
      rw [List.append_assoc, unitEscape_append, unitEscape_append,
        textRest_pair (unit?_hexDigits (by omega)) (unit?_hexDigits (by omega)) hhigh hlow h, hnumber]

/-! ## One code point -/

/-- A code point that is written as it is held. -/
theorem textRest_ofCode {n : Nat} (hn : n < 0x110000) (hquote : n ≠ '"'.toNat)
    (hslash : n ≠ '\\'.toNat) (hspace : ¬ n < 0x20) {cs rest tail : List Char}
    (h : textRest tail = some (cs, rest)) :
    textRest (ofCode n ++ tail) = some (ofCode n ++ cs, rest) := by
  have hlarge : ∀ c : Char, 0x20 ≤ c.toNat → ¬ c < ' ' := fun c hc hlt => by
    have : c.toNat < 0x20 := hlt
    omega
  have hother : ∀ c d : Char, d.toNat < 0xD7FF → 0xD7FF ≤ c.toNat → c ≠ d := fun c d hd hc heq => by
    rw [heq] at hc
    omega
  unfold ofCode
  split
  · next hpair =>
      have hsecond : (Char.ofNat (n + 0x801)).toNat = n + 0x801 := Text.toNat_ofNat (by omega)
      have hplain : ∀ c : Char, 0xD7FF ≤ c.toNat → ∀ tail,
          textRest (c :: tail) = (textRest tail).map fun (cs, r) => (c :: cs, r) := fun c hc =>
        textRest_plain (hother c _ (by decide) hc) (hother c _ (by decide) hc)
          (hlarge c (by omega))
      rw [List.cons_append, List.singleton_append, hplain _ (Nat.le_of_eq Text.toNat_lead.symm),
        hplain _ (by rw [hsecond]; omega), h]
      rfl
  · next hsingle =>
      have hvalue := Text.toNat_ofNat_of_single hn hsingle
      have hne : ∀ c : Char, n ≠ c.toNat → Char.ofNat n ≠ c := fun c hc heq => by
        rw [heq] at hvalue
        exact hc hvalue.symm
      rw [List.singleton_append, textRest_plain (hne _ hquote) (hne _ hslash)
        (hlarge _ (by rw [hvalue]; omega)), h]
      rfl

/-- What a code point is written as: an escape with one letter, an escape by number, or as it is
held. -/
theorem escapeCode_cases (charset : Charset) (n : Nat) :
    (∃ letter e : Char, escapeCode charset n = ['\\', letter] ∧ simpleEscape? letter = some e
      ∧ n = e.toNat ∧ e.toNat < 0x80)
    ∨ (escapeCode charset n = numberEscape n ∧ (n < 0x20 ∨ charset = .ascii ∧ 0x7E < n))
    ∨ (escapeCode charset n = ofCode n ∧ n ≠ '"'.toNat ∧ n ≠ '\\'.toNat ∧ 0x20 ≤ n
      ∧ (charset = .ascii → n ≤ 0x7E)) := by
  unfold escapeCode
  split
  · next heq => exact .inl ⟨'"', '"', rfl, rfl, heq, by decide⟩
  split
  · next heq => exact .inl ⟨'\\', '\\', rfl, rfl, heq, by decide⟩
  split
  · next heq => exact .inl ⟨'n', '\n', rfl, rfl, heq, by decide⟩
  split
  · next heq => exact .inl ⟨'r', '\r', rfl, rfl, heq, by decide⟩
  split
  · next heq => exact .inl ⟨'t', '\t', rfl, rfl, heq, by decide⟩
  split
  · next heq => exact .inl ⟨'b', '\x08', rfl, rfl, heq, by decide⟩
  split
  · next heq => exact .inl ⟨'f', '\x0c', rfl, rfl, heq, by decide⟩
  split
  · next hcontrol => exact .inr (.inl ⟨rfl, .inl hcontrol⟩)
  split
  · next hascii => exact .inr (.inl ⟨rfl, .inr hascii⟩)
  · next hquote hslash _ _ _ _ _ hspace hascii =>
      exact .inr (.inr ⟨rfl, hquote, hslash, Nat.le_of_not_lt hspace,
        fun h => Nat.le_of_not_lt fun hlt => hascii ⟨h, hlt⟩⟩)

theorem textRest_escapeCode (charset : Charset) {n : Nat} (hn : n < 0x110000)
    {cs rest tail : List Char}
    (hnext : charset = .ascii → ∀ low, unitAt? tail = some low →
      (isHighSurrogate n && isLowSurrogate low) = false)
    (h : textRest tail = some (cs, rest)) :
    textRest (escapeCode charset n ++ tail) = some (ofCode n ++ cs, rest) := by
  obtain ⟨letter, e, heq, hletter, hvalue, hsmall⟩ | ⟨heq, hcontrol | ⟨hascii, -⟩⟩
    | ⟨heq, hquote, hslash, hspace, -⟩ := escapeCode_cases charset n
  · have hlead : e ≠ Text.lead := fun hlead => by
      rw [hlead, Text.toNat_lead] at hsmall
      omega
    rw [heq, hvalue, Text.ofCode_toNat hlead]
    change textRest ('\\' :: letter :: tail) = _
    rw [textRest_simple hletter, h]
    rfl
  · -- A control character is no surrogate, whatever comes behind it.
    rw [heq]
    refine textRest_numberEscape hn (fun _ _ => Bool.and_eq_false_iff.mpr (.inl ?_)) h
    exact Bool.eq_false_iff.mpr fun hhigh => by
      have := isHighSurrogate_iff.mp hhigh
      omega
  · rw [heq]
    exact textRest_numberEscape hn (hnext hascii) h
  · rw [heq]
    exact textRest_ofCode hn hquote hslash (Nat.not_lt.mpr hspace) h

/-! ## Whole texts -/

theorem unitAt?_unitEscape {n : Nat} (h : n < 0x10000) (tail : List Char) :
    unitAt? (unitEscape n ++ tail) = some n := by
  rw [unitEscape_append]
  exact unit?_hexDigits h

/-- If what a code point is written as starts with the escape of a low surrogate, then the code point
is that surrogate. -/
theorem isLowSurrogate_of_unitAt? {m low : Nat} {tail : List Char} (hm : m < 0x110000)
    (h : unitAt? (escapeCode .ascii m ++ tail) = some low) (hlow : isLowSurrogate low = true) :
    isLowSurrogate m = true := by
  obtain ⟨letter, e, heq, hletter, -⟩ | ⟨heq, -⟩ | ⟨heq, -, hslash, -, hsmall⟩ :=
    escapeCode_cases .ascii m
  · rw [heq] at h
    have hu : letter ≠ 'u' := by
      rintro rfl
      cases hletter
    unfold unitAt? at h
    split at h
    · next htext =>
        injection htext with _ htext
        injection htext with hc _
        exact absurd hc hu
    · cases h
  · rw [heq, numberEscape] at h
    split at h
    · next hbasic =>
        rw [unitAt?_unitEscape hbasic] at h
        exact Option.some.inj h ▸ hlow
    · -- The first of two surrogates is a high one.
      rw [List.append_assoc, unitAt?_unitEscape (by omega)] at h
      have hvalue := Option.some.inj h
      have := isLowSurrogate_iff.mp hlow
      omega
  · have hlarge := hsmall rfl
    rw [heq, ofCode, if_neg (by omega), List.singleton_append] at h
    unfold unitAt? at h
    split at h
    · next htext =>
        injection htext with hc _
        have hvalue := Text.toNat_ofNat (n := m) (by omega)
        rw [hc] at hvalue
        exact absurd hvalue.symm hslash
    · cases h

/-- The code points that the reader finds where these have been written. -/
def readCodes : Charset → List Nat → List Nat
  | .unicode, ns => ns
  | .ascii, ns => joinPairs ns

theorem textRest_ascii {ns : List Nat} (hns : ∀ n ∈ ns, n < 0x110000) (rest : List Char) :
    textRest (ns.flatMap (escapeCode .ascii) ++ '"' :: rest) =
      some (ofCodes (joinPairs ns), rest) := by
  fun_induction joinPairs ns with
  | case1 high low more hpair ih =>
      obtain ⟨hhigh, hlow⟩ := Bool.and_eq_true_iff.mp hpair
      have hfirst := isHighSurrogate_iff.mp hhigh
      have hsecond := isLowSurrogate_iff.mp hlow
      have hescape : ∀ n, 0xD800 ≤ n → n < 0xE000 → escapeCode .ascii n = unitEscape n := by
        intro n hfrom hto
        obtain ⟨_, _, _, _, hvalue, hsmall⟩ | ⟨heq, -⟩ | ⟨-, -, -, -, hsmall⟩ :=
          escapeCode_cases .ascii n
        · omega
        · rw [heq, numberEscape, if_pos (by omega)]
        · have := hsmall rfl
          omega
      rw [List.flatMap_cons, List.flatMap_cons, hescape high hfirst.1 (by omega),
        hescape low (by omega) hsecond.2, List.append_assoc, List.append_assoc, unitEscape_append,
        unitEscape_append]
      exact textRest_pair (unit?_hexDigits (by omega)) (unit?_hexDigits (by omega)) hhigh hlow
        (ih fun n hn => hns n (List.mem_cons_of_mem _ (List.mem_cons_of_mem _ hn)))
  | case2 high low more hpair ih =>
      rw [List.flatMap_cons, List.append_assoc]
      refine textRest_escapeCode .ascii (hns high List.mem_cons_self) (fun _ unit hunit => ?_)
        (ih fun n hn => hns n (List.mem_cons_of_mem _ hn))
      rw [List.flatMap_cons, List.append_assoc] at hunit
      cases hlow : isLowSurrogate unit with
      | false => exact Bool.and_false _
      | true =>
          have hnext := isLowSurrogate_of_unitAt?
            (hns low (List.mem_cons_of_mem _ List.mem_cons_self)) hunit hlow
          rw [hnext, Bool.and_true] at hpair
          rw [Bool.and_true, Bool.eq_false_iff]
          exact hpair
  | case3 ns hshort =>
      cases ns with
      | nil => rw [List.flatMap_nil, List.nil_append, textRest]; rfl
      | cons n ns =>
          cases ns with
          | cons m more => exact absurd rfl (hshort n m more)
          | nil =>
              have hend : textRest ([].flatMap (escapeCode .ascii) ++ '"' :: rest) = some ([], rest) := by
                rw [List.flatMap_nil, List.nil_append, textRest]
              rw [List.flatMap_cons, List.append_assoc]
              refine textRest_escapeCode .ascii (hns n List.mem_cons_self) (fun _ unit hunit => ?_) hend
              cases hunit

theorem textRest_unicode {ns : List Nat} (hns : ∀ n ∈ ns, n < 0x110000) (rest : List Char) :
    textRest (ns.flatMap (escapeCode .unicode) ++ '"' :: rest) = some (ofCodes ns, rest) := by
  induction ns with
  | nil => rw [List.flatMap_nil, List.nil_append, textRest]; rfl
  | cons n ns ih =>
      rw [List.flatMap_cons, List.append_assoc, Text.ofCodes_cons]
      exact textRest_escapeCode .unicode (hns n List.mem_cons_self) nofun
        (ih fun m hm => hns m (List.mem_cons_of_mem n hm))

/-- A text is read up to its closing quote. -/
theorem textRest_flatMap (charset : Charset) (s : String) (rest : List Char) :
    textRest ((Text.codes s.toList).flatMap (escapeCode charset) ++ '"' :: rest) =
      some (ofCodes (readCodes charset (Text.codes s.toList)), rest) := by
  cases charset with
  | unicode => exact textRest_unicode (Text.codes_lt _) rest
  | ascii => exact textRest_ascii (Text.codes_lt _) rest

/-- The text that the reader finds where a text has been written. -/
def readBack (charset : Charset) (s : String) : String :=
  String.ofList (ofCodes (readCodes charset (Text.codes s.toList)))

/-- Without escapes for surrogates nothing is joined. -/
theorem readBack_of_isProper {s : String} (h : Text.IsProper s) : readBack .unicode s = s := h

/-- With them, a text of code points in which no two surrogates belong together is read as it was. -/
theorem readBack_ascii_eq_self {s : String} (h : Text.IsProper s)
    (hpair : ¬ Text.HasPair (Text.codes s.toList)) : readBack .ascii s = s := by
  rw [readBack, readCodes, Text.joinPairs_eq_self hpair]
  exact h

end ActorSpec.Json
