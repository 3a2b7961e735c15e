import ActorSpec.Files.Tree
import ActorSpec.Proofs.DocumentText

/-!
# The bytes of documents

The text of a document is made of code points (`Json.IsSpelled`), part by part, and an encoding has forms
for them exactly if it has for all texts of the value or all outside ASCII is escaped
(`Json.spelled_literal`): everything that the writer adds is ASCII. No carriage return is among them, so
what is decoded from the bytes of a document is its text (`decodeText?_bytes`).
-/

namespace ActorSpec.Json

open Text (Encoding ofCode ofCodes)

/-- Characters made of code points, none of them a carriage return; `clean` says that the encoding has
forms for them. -/
def IsSpelled (e : Encoding) (clean : Bool) (cs : List Char) : Prop :=
  ∃ ns, cs = ofCodes ns ∧ (∀ n ∈ ns, n < 0x110000 ∧ n ≠ '\r'.toNat) ∧ ns.all e.has = clean

/-- A character of ASCII but the carriage return. -/
def isPlainAscii (c : Char) : Bool := decide (c.toNat < 0x80) && c != '\r'

namespace IsSpelled

variable {e : Encoding} {a b clean : Bool} {cs ds : List Char}

theorem nil : IsSpelled e true [] := ⟨[], rfl, nofun, rfl⟩

theorem append (h : IsSpelled e a cs) (h' : IsSpelled e b ds) : IsSpelled e (a && b) (cs ++ ds) := by
  obtain ⟨ns, rfl, hns, rfl⟩ := h
  obtain ⟨ms, rfl, hms, rfl⟩ := h'
  exact ⟨ns ++ ms, (Text.ofCodes_append ns ms).symm, List.forall_mem_append.mpr ⟨hns, hms⟩,
    List.all_append⟩

theorem ofCode {n : Nat} (hn : n < 0x110000) (hreturn : n ≠ '\r'.toNat) :
    IsSpelled e (e.has n) (Text.ofCode n) :=
  ⟨[n], (List.flatMap_singleton ..).symm, List.forall_mem_singleton.mpr ⟨hn, hreturn⟩,
    by rw [List.all_cons, List.all_nil, Bool.and_true]⟩

theorem char {c : Char} (h : isPlainAscii c = true) : IsSpelled e true [c] := by
  rw [isPlainAscii, Bool.and_eq_true, decide_eq_true_iff, bne_iff_ne] at h
  have hlead : c ≠ Text.lead := by
    rintro rfl
    exact absurd h.1 (by decide)
  have hspelled := ofCode (e := e) (Text.toNat_lt c) (mt Char.toNat_inj.mp h.2)
  rwa [Text.ofCode_toNat hlead, e.has_ascii _ h.1] at hspelled

theorem cons {c : Char} (hc : isPlainAscii c = true) (h : IsSpelled e a cs) : IsSpelled e a (c :: cs) := by
  have happend := (char hc).append h
  rwa [Bool.true_and] at happend

/-- What the writer adds to the texts of a value. -/
theorem ofAscii (h : ∀ c ∈ cs, isPlainAscii c = true) : IsSpelled e true cs := by
  induction cs with
  | nil => exact nil
  | cons c cs ih =>
      obtain ⟨hc, hcs⟩ := List.forall_mem_cons.mp h
      exact .cons hc (ih hcs)

theorem ofPlain (h : cs.all isPlainAscii = true) : IsSpelled e true cs := ofAscii (List.all_eq_true.mp h)

theorem append_ascii (h : IsSpelled e a cs) (hds : ∀ c ∈ ds, isPlainAscii c = true) :
    IsSpelled e a (cs ++ ds) := by
  have happend := h.append (ofAscii hds)
  rwa [Bool.and_true] at happend

theorem ascii_append (hds : ∀ c ∈ ds, isPlainAscii c = true) (h : IsSpelled e a cs) :
    IsSpelled e a (ds ++ cs) := (ofAscii hds).append h

theorem flatMap {ns : List Nat} {f : Nat → List Char} {g : Nat → Bool}
    (h : ∀ n ∈ ns, IsSpelled e (g n) (f n)) : IsSpelled e (ns.all g) (ns.flatMap f) := by
  induction ns with
  | nil => exact nil
  | cons n ns ih =>
      obtain ⟨hn, hns⟩ := List.forall_mem_cons.mp h
      exact hn.append (ih hns)

theorem covers {text : String} (h : IsSpelled e clean text.toList) : e.covers text = clean := by
  obtain ⟨ns, hns, hlt, rfl⟩ := h
  rw [Encoding.covers, hns, Text.codes_ofCodes fun n hn => (hlt n hn).1]

theorem eq_true_of_nil (h : IsSpelled e clean []) : clean = true := by
  obtain ⟨ns, hnil, -, rfl⟩ := h
  cases ns with
  | nil => rfl
  | cons n ns =>
      rw [Text.ofCodes_cons, Text.ofCode] at hnil
      split at hnil <;> cases hnil

end IsSpelled

/-! ## The parts of a document -/

theorem isPlainAscii_of_isNumeralChar {c : Char} (h : isNumeralChar c = true) :
    isPlainAscii c = true := by
  rw [isNumeralChar, Bool.or_eq_true] at h
  rcases h with hdigit | hother
  · rw [Char.isDigit, Bool.and_eq_true, decide_eq_true_iff, decide_eq_true_iff] at hdigit
    have hle : c.toNat ≤ 57 := UInt32.le_iff_toNat_le.mp hdigit.2
    have hge : 48 ≤ c.toNat := UInt32.le_iff_toNat_le.mp hdigit.1
    rw [isPlainAscii, Bool.and_eq_true, decide_eq_true_iff, bne_iff_ne]
    refine ⟨by omega, ?_⟩
    rintro rfl
    exact absurd hge (by decide)
  · have hlist : ['.', 'e', '+', '-'].all isPlainAscii = true := by decide
    exact List.all_eq_true.mp hlist c (List.contains_iff_mem.mp hother)

/-- Whether an encoding has forms for what is written of a text, for one that it may have forms for. -/
def Charset.cleans : Charset → Bool → Bool
  | .unicode, clean => clean
  | .ascii, _ => true

theorem Charset.cleans_true (charset : Charset) : charset.cleans true = true := by
  cases charset <;> rfl

theorem Charset.cleans_and (charset : Charset) (a b : Bool) :
    charset.cleans (a && b) = (charset.cleans a && charset.cleans b) := by
  cases charset <;> rfl

theorem isPlainAscii_unitEscape (unit : Nat) : ∀ c ∈ unitEscape unit, isPlainAscii c = true := by
  have hdigit : ∀ m < 16, isPlainAscii (Nat.digitChar m) = true := by decide
  have hdigits : ∀ width n, ∀ c ∈ Text.hexDigits width n, isPlainAscii c = true := by
    intro width
    induction width with
    | zero => exact fun n => nofun
    | succ width ih =>
        intro n
        exact List.forall_mem_append.mpr
          ⟨ih _, List.forall_mem_singleton.mpr (hdigit _ (Nat.mod_lt n (by decide)))⟩
  exact List.forall_mem_cons.mpr ⟨rfl, List.forall_mem_cons.mpr ⟨rfl, hdigits 4 unit⟩⟩

theorem spelled_numberEscape (e : Encoding) (n : Nat) : IsSpelled e true (numberEscape n) := by
  rw [numberEscape]
  split
  · exact .ofAscii (isPlainAscii_unitEscape n)
  · exact .ofAscii (List.forall_mem_append.mpr
      ⟨isPlainAscii_unitEscape _, isPlainAscii_unitEscape _⟩)

variable {e : Encoding} {charset : Charset}

theorem spelled_escapeCode {n : Nat} (hn : n < 0x110000) :
    IsSpelled e (charset.cleans (e.has n)) (escapeCode charset n) := by
  have hsmall : ∀ m < 0x80, charset.cleans (e.has m) = true := fun m hm => by
    rw [e.has_ascii m hm, charset.cleans_true]
  obtain ⟨letter, code, heq, hletter, hvalue, hcode⟩ | ⟨heq, hreason⟩
    | ⟨heq, -, -, hspace, hlimit⟩ := escapeCode_cases charset n
  · have hplain : isPlainAscii letter = true := by
      unfold simpleEscape? at hletter
      split at hletter <;> first | rfl | cases hletter
    rw [heq, hvalue, hsmall _ hcode]
    exact .cons rfl (.char hplain)
  · have hclean : charset.cleans (e.has n) = true := by
      rcases hreason with hcontrol | ⟨rfl, -⟩
      · exact hsmall n (by omega)
      · rfl
    rw [heq, hclean]
    exact spelled_numberEscape e n
  · have hspelled : IsSpelled e (e.has n) (Text.ofCode n) := by
      refine .ofCode hn ?_
      rintro rfl
      exact absurd hspace (by decide)
    rw [heq]
    cases charset with
    | unicode => exact hspelled
    | ascii =>
        have hplain := e.has_ascii n (by have := hlimit rfl; omega)
        rw [hplain] at hspelled
        exact hspelled

theorem spelled_textLiteral (e : Encoding) (charset : Charset) (text : String) :
    IsSpelled e (charset.cleans (e.covers text)) (textLiteral charset text) := by
  have hall : (Text.codes text.toList).all (fun n => charset.cleans (e.has n)) =
      charset.cleans (e.covers text) := by
    cases charset with
    | unicode => rfl
    | ascii => exact List.all_eq_true.mpr fun _ _ => rfl
  rw [← hall]
  exact .cons rfl ((IsSpelled.flatMap fun n hn => spelled_escapeCode (Text.codes_lt _ n hn)).append_ascii
    (List.forall_mem_singleton.mpr rfl))

variable {cs : List Char}

theorem spelled_toString (n : Int) : IsSpelled e true (toString n).toList := by
  refine .ofAscii fun c hc => isPlainAscii_of_isNumeralChar ?_
  rw [toList_toString] at hc
  rcases List.mem_append.mp hc with hsign | hdigit
  · split at hsign
    · rw [List.mem_singleton.mp hsign]
      rfl
    · exact absurd hsign List.not_mem_nil
  · exact isNumeralChar_of_isDigit ((isWhole_toDigits _).isDigit c hdigit)

theorem spelled_double (x : Binary64) : IsSpelled e true (x.text .documentary) := by
  cases x with
  | nan => exact .ofPlain (by decide)
  | infinity negative => cases negative <;> exact .ofPlain (by decide)
  | finite negative code =>
      refine .ofAscii ?_
      have hmagnitude : ∀ c ∈ Binary64.magnitudeText code, isPlainAscii c = true := fun c hc =>
        isPlainAscii_of_isNumeralChar (isNumeralChar_magnitudeText code c hc)
      cases negative with
      | true => exact List.forall_mem_cons.mpr ⟨rfl, hmagnitude⟩
      | false => exact hmagnitude

theorem spelled_scalarLiteral {s : Scalar} (h : scalarLiteral charset s = .ok cs) :
    IsSpelled e (charset.cleans (s.isCovered e)) cs := by
  have hclean : ∀ {cs}, IsSpelled e true cs → IsSpelled e (charset.cleans true) cs := fun hcs => by
    rwa [charset.cleans_true]
  cases s with
  | null =>
      obtain rfl := Except.ok.inj h
      exact hclean (.ofPlain (by decide))
  | bool b =>
      obtain rfl := Except.ok.inj h
      cases b <;> exact hclean (.ofPlain (by decide))
  | int n =>
      obtain ⟨-, rfl⟩ := scalarLiteral_int h
      exact hclean (spelled_toString n)
  | float x =>
      obtain rfl := Except.ok.inj h
      exact hclean (spelled_double x)
  | nan =>
      obtain rfl := Except.ok.inj h
      exact hclean (.ofPlain (by decide))
  | str text =>
      obtain rfl := Except.ok.inj h
      exact spelled_textLiteral e charset text
  | bytes | date | datetime => cases h

theorem spelled_keyText {key : Scalar} {name : String} (h : keyText key = .ok name) :
    IsSpelled e (charset.cleans (key.isCovered e)) (textLiteral charset name) := by
  have hascii : ∀ {text : String}, IsSpelled e true text.toList →
      IsSpelled e (charset.cleans true) (textLiteral charset text) :=
    fun {text} htext => htext.covers ▸ spelled_textLiteral e charset text
  cases key with
  | null =>
      obtain rfl := Except.ok.inj h
      exact hascii (.ofPlain (by decide))
  | bool b =>
      obtain rfl := Except.ok.inj h
      cases b <;> exact hascii (.ofPlain (by decide))
  | int n =>
      rw [keyText] at h
      split at h
      · cases h
      · obtain rfl := Except.ok.inj h
        exact hascii (spelled_toString n)
  | float x =>
      obtain rfl := Except.ok.inj h
      exact hascii (by rw [String.toList_ofList]; exact spelled_double x)
  | nan =>
      obtain rfl := Except.ok.inj h
      exact hascii (.ofPlain (by decide))
  | str text =>
      obtain rfl := Except.ok.inj h
      exact spelled_textLiteral e charset text
  | bytes | date | datetime => cases h

theorem isPlainAscii_newline (depth : Nat) : ∀ c ∈ newline depth, isPlainAscii c = true := by
  intro c hc
  rcases List.mem_cons.mp hc with rfl | hspace
  · rfl
  · rw [List.eq_of_mem_replicate hspace]
    rfl

theorem spelled_joined_cons {clean rest : Bool} {depth : Nat} {part : List Char}
    {others : List (List Char)} (hpart : IsSpelled e clean part)
    (hothers : IsSpelled e rest (joined depth others)) :
    IsSpelled e (clean && rest) (joined depth (part :: others)) := by
  cases others with
  | nil =>
      rw [joined_singleton, hothers.eq_true_of_nil, Bool.and_true]
      exact hpart
  | cons next others =>
      rw [joined_cons_cons]
      exact hpart.append (.cons rfl (.ascii_append (isPlainAscii_newline depth) hothers))

theorem spelled_enclose {clean : Bool} {opening closing : Char} {depth : Nat}
    {parts : List (List Char)} (hopening : isPlainAscii opening = true)
    (hclosing : isPlainAscii closing = true) (h : IsSpelled e clean (joined (depth + 1) parts)) :
    IsSpelled e clean (enclose opening closing depth parts) := by
  by_cases hparts : parts = []
  · subst hparts
    rw [h.eq_true_of_nil]
    exact .cons hopening (.char hclosing)
  · rw [enclose_eq _ _ _ hparts]
    refine .cons hopening (.ascii_append (isPlainAscii_newline _) (h.append_ascii ?_))
    exact List.forall_mem_append.mpr
      ⟨isPlainAscii_newline depth, List.forall_mem_singleton.mpr hclosing⟩

/-! ## Whole documents -/

mutual

/-- A document is made of code points, and an encoding has forms for them if it has for the texts of the
value, or if they are escaped. -/
theorem spelled_literal : ∀ {v : Value} {depth : Nat} {cs : List Char},
    literal charset depth v = .ok cs →
      IsSpelled e (charset.cleans (v.everyPart (Value.scalarsHave (Scalar.isCovered e)))) cs
  | .scalar s, depth, cs, h => by
      rw [literal] at h
      rw [Value.everyPart]
      exact spelled_scalarLiteral h
  | .list items, depth, cs, h => by
      rw [literal] at h
      obtain ⟨parts, hparts, rfl⟩ := exists_of_map_eq_ok h
      rw [Value.everyPart]
      exact spelled_enclose rfl rfl (spelled_literals hparts)
  | .tuple items, depth, cs, h => by
      rw [literal] at h
      obtain ⟨parts, hparts, rfl⟩ := exists_of_map_eq_ok h
      rw [Value.everyPart]
      exact spelled_enclose rfl rfl (spelled_literals hparts)
  | .set _, depth, cs, h => by
      rw [literal] at h
      cases h
  | .mapping entries, depth, cs, h => by
      rw [literal] at h
      obtain ⟨parts, hparts, rfl⟩ := exists_of_map_eq_ok h
      rw [Value.everyPart]
      exact spelled_enclose rfl rfl (spelled_members hparts)

theorem spelled_literals : ∀ {items : List Value} {depth : Nat} {parts : List (List Char)},
    literals charset depth items = .ok parts →
      IsSpelled e (charset.cleans (Value.everyItem (Value.scalarsHave (Scalar.isCovered e)) items))
        (joined depth parts)
  | [], depth, parts, h => by
      rw [literals] at h
      obtain rfl := Except.ok.inj h
      rw [Value.everyItem, charset.cleans_true]
      exact .nil
  | item :: items, depth, parts, h => by
      obtain ⟨first, others, hfirst, hothers, rfl⟩ := literals_cons h
      rw [Value.everyItem, charset.cleans_and]
      exact spelled_joined_cons (spelled_literal hfirst) (spelled_literals hothers)

theorem spelled_members : ∀ {entries : List (Scalar × Value)} {depth : Nat}
    {parts : List (List Char)}, members charset depth entries = .ok parts →
      IsSpelled e (charset.cleans ((entries.all fun entry => entry.1.isCovered e)
        && Value.everyEntry (Value.scalarsHave (Scalar.isCovered e)) entries)) (joined depth parts)
  | [], depth, parts, h => by
      rw [members] at h
      obtain rfl := Except.ok.inj h
      rw [Value.everyEntry, List.all_nil, Bool.true_and, charset.cleans_true]
      exact .nil
  | (key, v) :: entries, depth, parts, h => by
      obtain ⟨name, first, others, hname, hfirst, hothers, rfl⟩ := members_cons h
      have hswap : ∀ a b c d : Bool, (a && b && (c && d)) = (a && c && (b && d)) := by decide
      rw [Value.everyEntry, List.all_cons, hswap, charset.cleans_and, charset.cleans_and]
      refine spelled_joined_cons ?_ (spelled_members hothers)
      exact (spelled_keyText hname).append (.cons rfl (.cons rfl (spelled_literal hfirst)))

end

/-- The text of a document with the line break behind it. -/
theorem spelled_write {v : Value} {text : String} (h : write charset v = .ok text) :
    IsSpelled e (charset.cleans (v.isCovered e)) (text ++ "\n").toList := by
  obtain ⟨cs, hcs, rfl⟩ := exists_of_map_eq_ok h
  rw [String.toList_append, String.toList_ofList]
  exact (spelled_literal hcs).append_ascii (List.all_eq_true.mp (by decide))

theorem covers_of_write {v : Value} {text : String} (h : write charset v = .ok text) :
    e.covers text = charset.cleans (v.isCovered e) := by
  obtain ⟨cs, hcs, rfl⟩ := exists_of_map_eq_ok h
  refine IsSpelled.covers ?_
  rw [String.toList_ofList]
  exact spelled_literal hcs

/-- What is escaped outside of ASCII is ASCII. -/
theorem covers_of_write_ascii {v : Value} {text : String} (h : write .ascii v = .ok text) :
    Encoding.ascii.covers text = true := covers_of_write h

/-- What is not escaped has the surrogates of the value, and no others. -/
theorem isEncodable_of_write {v : Value} {text : String} (h : write .unicode v = .ok text) :
    Text.isEncodable text = v.isEncodable := covers_of_write h

/-- The line break behind a document adds none. -/
theorem isEncodable_line_of_write {v : Value} {text : String} (h : write .unicode v = .ok text) :
    Text.isEncodable (text ++ "\n") = v.isEncodable := (spelled_write h).covers

theorem IsSpelled.isProper {clean : Bool} {text : String} (h : IsSpelled e clean text.toList) :
    Text.IsProper text := by
  obtain ⟨ns, hns, hlt, -⟩ := h
  have htext : text = String.ofList (ofCodes ns) := by rw [← hns, String.ofList_toList]
  rw [htext]
  exact Text.isProper_ofCodes fun n hn => (hlt n hn).1

theorem IsSpelled.not_mem {clean : Bool} (h : IsSpelled e clean cs) : '\r' ∉ cs := by
  obtain ⟨ns, rfl, hns, -⟩ := h
  intro hmem
  obtain ⟨n, hn, hc⟩ := List.mem_flatMap.mp hmem
  obtain ⟨hlt, hreturn⟩ := hns n hn
  rw [Text.ofCode] at hc
  split at hc
  · next hpair =>
      rcases List.mem_cons.mp hc with hlead | hsecond
      · exact absurd hlead (by decide)
      · have hvalue := Text.toNat_ofNat (n := n + 0x801) (by omega)
        rw [← List.mem_singleton.mp hsecond] at hvalue
        have hsmall : '\r'.toNat = 13 := rfl
        omega
  · next hsingle =>
      have hvalue := Text.toNat_ofNat_of_single hlt hsingle
      rw [← List.mem_singleton.mp hc] at hvalue
      exact hreturn hvalue.symm

end ActorSpec.Json

namespace ActorSpec

/-! ## Bytes -/

theorem lineFeeds_of_not_mem {cs : List Char} (h : '\r' ∉ cs) : decodeText?.lineFeeds cs = cs := by
  induction cs with
  | nil => rfl
  | cons c cs ih =>
      obtain ⟨hc, hcs⟩ := List.ne_and_not_mem_of_not_mem_cons h
      rw [decodeText?.lineFeeds, ih hcs]
      · exact fun _ heq _ => hc heq.symm
      · exact hc.symm

/-- What is decoded from the bytes of a document is its text. -/
theorem decodeText?_bytes {text : String} (h : Json.IsSpelled .utf8 true text.toList) :
    decodeText? (Text.bytes text) = some text := by
  rw [decodeText?, Text.decode?_bytes h.covers, Option.map_some, h.isProper,
    lineFeeds_of_not_mem h.not_mem, String.ofList_toList]

/-- The character stands for itself in a file: it is neither half of a line break nor of a pair. -/
def isKeptAsIs (c : Char) : Bool := c != '\r' && c != Text.lead

theorem decodeText?_toUTF8 {text : String} (h : text.toList.all isKeptAsIs = true) :
    decodeText? text.toUTF8 = some text := by
  have hkept : ∀ c ∈ text.toList, c ≠ '\r' ∧ c ≠ Text.lead := fun c hc => by
    have hc := List.all_eq_true.mp h c hc
    rwa [isKeptAsIs, Bool.and_eq_true, bne_iff_ne, bne_iff_ne] at hc
  rw [decodeText?, Text.decode?, Text.fromUTF8?_toUTF8, Option.map_some, Option.map_some,
    String.toList_ofList, Text.ofChars_of_not_mem fun hmem => (hkept _ hmem).2 rfl,
    lineFeeds_of_not_mem fun hmem => (hkept _ hmem).1 rfl, String.ofList_toList]

end ActorSpec
