import ActorSpec.Proofs.AsDocument
import ActorSpec.Proofs.NumeralText
import ActorSpec.Proofs.TextLiterals

/-!
# Documents read back

What the writer gives for a value, the reader takes for the value as documents have it: lists for
tuples, and texts for keys (`Json.read_write`). Every kind of literal is read on its own, with what comes
behind it left over; a list or a mapping is read part by part, since between two parts there is a comma
and a new line, and behind the last one a new line and the closing bracket (`valueAt_literal`). The
writer leaves out the integers that the reader would refuse. `write_eq_ok_iff` says which values have a
text at all.
-/

namespace ActorSpec

namespace Json

/-! ## Blanks -/

theorem skipBlank_cons {c : Char} (h : isBlank c = false) (cs : List Char) :
    skipBlank (c :: cs) = c :: cs := by
  rw [skipBlank, List.dropWhile_cons_of_neg (by rw [h]; exact Bool.false_ne_true)]

/-- A new line with its indentation is skipped. -/
theorem skipBlank_newline (depth : Nat) (cs : List Char) :
    skipBlank (newline depth ++ cs) = skipBlank cs := by
  refine List.dropWhile_append_of_pos fun c hc => ?_
  rcases List.mem_cons.mp hc with rfl | hspace
  · rfl
  · rw [List.eq_of_mem_replicate hspace]
    rfl

/-! ## Which reader comes first -/

/-- What is read as a numeral starts with a digit. -/
theorem exists_digit_of_numeral {negative : Bool} {cs : List Char} {r : Value × List Char}
    (h : numeral negative cs = .ok r) : ∃ c tail, cs = c :: tail ∧ c.isDigit = true := by
  cases cs with
  | nil => cases h
  | cons c tail =>
      refine ⟨c, tail, rfl, ?_⟩
      by_cases hc : c.isDigit = true
      · exact hc
      · have hnone : wholeDigits (c :: tail) = [] := by
          unfold wholeDigits
          split
          · next heq =>
              obtain ⟨rfl, -⟩ := List.cons.inj heq
              exact absurd rfl hc
          · exact List.takeWhile_cons_of_neg hc
        rw [numeral, hnone] at h
        cases h

theorem valueAt_numeral {fuel : Nat} {cs : List Char} {r : Value × List Char}
    (h : numeral false cs = .ok r) : valueAt (fuel + 1) cs = .ok r := by
  obtain ⟨c, tail, rfl, hc⟩ := exists_digit_of_numeral h
  unfold valueAt
  split
  case h_11 => exact h
  all_goals
    next heq =>
      obtain ⟨rfl, -⟩ := List.cons.inj heq
      exact absurd hc (by decide)

theorem valueAt_negative {fuel : Nat} {cs : List Char} {r : Value × List Char}
    (h : numeral true cs = .ok r) : valueAt (fuel + 1) ('-' :: cs) = .ok r := by
  obtain ⟨c, tail, rfl, hc⟩ := exists_digit_of_numeral h
  unfold valueAt
  split
  case h_9 =>
    next heq =>
      obtain ⟨rfl, -⟩ := List.cons.inj (List.cons.inj heq).2
      exact absurd hc (by decide)
  case h_10 =>
    next heq => exact (List.cons.inj heq).2 ▸ h
  case h_11 =>
    next hminus => exact absurd rfl (hminus _)
  all_goals
    next heq => exact absurd (List.cons.inj heq).1 (by decide)

/-- A value does not start with a blank, nor with the bracket that closes a list. -/
theorem start_of_valueAt {fuel : Nat} {cs : List Char} {r : Value × List Char}
    (h : valueAt fuel cs = .ok r) : ∃ c tail, cs = c :: tail ∧ isBlank c = false ∧ c ≠ ']' := by
  cases fuel with
  | zero => cases h
  | succ fuel =>
      cases cs with
      | nil => cases h
      | cons c tail =>
          refine ⟨c, tail, rfl, Bool.eq_false_iff.mpr fun hblank => ?_, ?_⟩
          · simp only [isBlank, Bool.or_eq_true, decide_eq_true_iff] at hblank
            obtain ((rfl | rfl) | rfl) | rfl := hblank <;> cases h
          · rintro rfl
            cases h

/-! ## Scalars -/

variable {charset : Charset} {fuel : Nat} {cs rest : List Char}

/-- An integer that is written is not too long to be read. -/
theorem length_toDigits_le {n : Int} (h : Numeral.isOverlong n = false) :
    (Nat.toDigits 10 n.natAbs).length ≤ Numeral.maxDigits := by
  have hpos : 0 < Numeral.maxDigits := by decide
  rw [Numeral.isOverlong, decide_eq_false_iff_not, Nat.not_le] at h
  -- The limit is hidden, or its power would be computed.
  generalize Numeral.maxDigits = limit at h hpos ⊢
  exact (Nat.length_toDigits_le_iff (by decide) hpos).mpr h

theorem scalarLiteral_int {n : Int} (h : scalarLiteral charset (.int n) = .ok cs) :
    Numeral.isOverlong n = false ∧ cs = (toString n).toList := by
  rw [scalarLiteral] at h
  split at h
  · cases h
  · next hshort => exact ⟨Bool.eq_false_iff.mpr hshort, (Except.ok.inj h).symm⟩

theorem valueAt_scalarLiteral {s : Scalar} (hrest : goesOn rest = true)
    (h : scalarLiteral charset s = .ok cs) :
    valueAt (fuel + 1) (cs ++ rest) = .ok (.scalar (s.asDocument charset), rest) := by
  cases s with
  | null =>
      obtain rfl := Except.ok.inj h
      rfl
  | bool b =>
      obtain rfl := Except.ok.inj h
      cases b <;> rfl
  | int n =>
      obtain ⟨hshort, rfl⟩ := scalarLiteral_int h
      rw [toList_toString]
      by_cases hn : n < 0
      · have hread := numeral_toDigits true (length_toDigits_le hshort) hrest
        have hvalue : -(n.natAbs : Int) = n := by omega
        rw [if_pos rfl, hvalue] at hread
        rw [if_pos hn]
        exact valueAt_negative hread
      · have hread := numeral_toDigits false (length_toDigits_le hshort) hrest
        have hvalue : (n.natAbs : Int) = n := by omega
        rw [if_neg Bool.false_ne_true, hvalue] at hread
        rw [if_neg hn]
        exact valueAt_numeral hread
  | float x =>
      obtain rfl := Except.ok.inj h
      cases x with
      | nan => rfl
      | infinity negative => cases negative <;> rfl
      | finite negative code =>
          have hread := numeral_magnitudeText negative code hrest
          cases negative with
          | true => exact valueAt_negative hread
          | false => exact valueAt_numeral hread
  | nan =>
      obtain rfl := Except.ok.inj h
      rfl
  | str text =>
      obtain rfl := Except.ok.inj h
      have hread := textRest_flatMap charset text rest
      rw [textLiteral, List.append_assoc, List.cons_append, valueAt, List.singleton_append, hread]
      rfl
  | bytes | date | datetime => cases h

theorem keyText_eq {key : Scalar} {name : String} (h : keyText key = .ok name) :
    name = key.keyName := by
  cases key with
  | float x =>
      obtain rfl := Except.ok.inj h
      cases x with
      | nan => rfl
      | infinity negative => cases negative <;> rfl
      | finite => rfl
  | int n =>
      rw [keyText] at h
      split at h
      · cases h
      · exact (Except.ok.inj h).symm
  | bytes | date | datetime => cases h
  | _ => exact (Except.ok.inj h).symm

/-! ## Lists and mappings -/

/-- The parts of a list or mapping between its brackets, each but the first on a new line. -/
def joined (depth : Nat) (parts : List (List Char)) : List Char :=
  (parts.intersperse (',' :: newline depth)).flatten

theorem enclose_eq (opening closing : Char) (depth : Nat) {parts : List (List Char)}
    (h : parts ≠ []) : enclose opening closing depth parts =
      opening :: (newline (depth + 1) ++ (joined (depth + 1) parts ++ (newline depth ++ [closing]))) := by
  rw [enclose, if_neg (by simpa using h), joined]
  simp only [List.append_assoc, List.cons_append]

theorem joined_singleton (depth : Nat) (part : List Char) : joined depth [part] = part := by
  simp [joined]

theorem joined_cons_cons (depth : Nat) (part next : List Char) (others : List (List Char)) :
    joined depth (part :: next :: others) =
      part ++ ',' :: (newline depth ++ joined depth (next :: others)) := by
  simp [joined]

/-- What `literals` gives has a part for every item. -/
theorem literals_cons {depth : Nat} {item : Value} {items : List Value}
    {parts : List (List Char)} (h : literals charset depth (item :: items) = .ok parts) :
    ∃ first others, literal charset depth item = .ok first
      ∧ literals charset depth items = .ok others ∧ parts = first :: others := by
  rw [literals] at h
  obtain ⟨first, hfirst, h⟩ := exists_of_bind_eq_ok h
  obtain ⟨others, hothers, h⟩ := exists_of_bind_eq_ok h
  exact ⟨first, others, hfirst, hothers, (Except.ok.inj h).symm⟩

theorem members_cons {depth : Nat} {key : Scalar} {v : Value}
    {entries : List (Scalar × Value)} {parts : List (List Char)}
    (h : members charset depth ((key, v) :: entries) = .ok parts) :
    ∃ name first others, keyText key = .ok name ∧ literal charset depth v = .ok first
      ∧ members charset depth entries = .ok others
      ∧ parts = (textLiteral charset name ++ ':' :: ' ' :: first) :: others := by
  rw [members] at h
  obtain ⟨name, hname, h⟩ := exists_of_bind_eq_ok h
  obtain ⟨first, hfirst, h⟩ := exists_of_bind_eq_ok h
  obtain ⟨others, hothers, h⟩ := exists_of_bind_eq_ok h
  exact ⟨name, first, others, hname, hfirst, hothers, (Except.ok.inj h).symm⟩

theorem literals_eq_nil {depth : Nat} {items : List Value}
    (h : literals charset depth items = .ok []) : items = [] := by
  cases items with
  | nil => rfl
  | cons item items =>
      obtain ⟨first, others, -, -, heq⟩ := literals_cons h
      cases heq

theorem members_eq_nil {depth : Nat} {entries : List (Scalar × Value)}
    (h : members charset depth entries = .ok []) : entries = [] := by
  cases entries with
  | nil => rfl
  | cons e entries =>
      obtain ⟨name, first, others, -, -, -, heq⟩ := members_cons h
      cases heq

/-! ## Reading back -/

/-- What is behind the last part of a list or mapping. -/
theorem skipBlank_closing (closing : Char) (h : isBlank closing = false) (depth : Nat)
    (rest : List Char) :
    skipBlank (newline depth ++ [closing] ++ rest) = closing :: rest := by
  rw [List.append_assoc, skipBlank_newline]
  exact skipBlank_cons h rest

theorem start_of_itemsAt {text : List Char} {r : List Value × List Char}
    (h : itemsAt fuel text = .ok r) :
    ∃ c tail, text = c :: tail ∧ isBlank c = false ∧ c ≠ ']' := by
  cases fuel with
  | zero => cases h
  | succ fuel =>
      rw [itemsAt] at h
      obtain ⟨first, hfirst, -⟩ := exists_of_bind_eq_ok h
      exact start_of_valueAt hfirst

theorem start_of_membersAt {text : List Char} {r : List (Scalar × Value) × List Char}
    (h : membersAt fuel text = .ok r) : ∃ tail, text = '"' :: tail := by
  cases fuel with
  | zero => cases h
  | succ fuel =>
      unfold membersAt at h
      split at h
      · exact ⟨_, rfl⟩
      · cases h

theorem valueAt_items {items : List Value} (depth : Nat) {text : List Char}
    (h : itemsAt fuel text = .ok (items, rest)) :
    valueAt (fuel + 1) ('[' :: (newline depth ++ text)) = .ok (.list items, rest) := by
  obtain ⟨c, tail, rfl, hblank, hbracket⟩ := start_of_itemsAt h
  rw [valueAt, skipBlank_newline, skipBlank_cons hblank]
  split
  · next heq => exact absurd (List.cons.inj heq).1 hbracket
  · rw [h]
    rfl

theorem valueAt_members {entries : List (Scalar × Value)} (depth : Nat) {text : List Char}
    (h : membersAt fuel text = .ok (entries, rest)) :
    valueAt (fuel + 1) ('{' :: (newline depth ++ text)) =
      .ok (.mapping (Mapping.ofEntries entries), rest) := by
  obtain ⟨tail, rfl⟩ := start_of_membersAt h
  rw [valueAt, skipBlank_newline, skipBlank_cons rfl]
  split
  · next heq => exact absurd (List.cons.inj heq).1 (by decide)
  · rw [h]
    rfl

theorem itemsAt_last {v : Value} {depth : Nat} {text : List Char}
    (h : valueAt fuel text = .ok (v, newline depth ++ [']'] ++ rest)) :
    itemsAt (fuel + 1) text = .ok ([v], rest) := by
  rw [itemsAt, h]
  simp only [bind, Except.bind, skipBlank_closing ']' rfl]
  rfl

theorem itemsAt_next {v : Value} {items : List Value} {depth : Nat} {text next : List Char}
    (h : valueAt fuel text = .ok (v, ',' :: (newline depth ++ next)))
    (hnext : itemsAt fuel next = .ok (items, rest)) :
    itemsAt (fuel + 1) text = .ok (v :: items, rest) := by
  obtain ⟨c, tail, rfl, hblank, -⟩ := start_of_itemsAt hnext
  rw [itemsAt, h]
  simp only [bind, Except.bind, skipBlank_cons (c := ',') rfl, skipBlank_newline,
    skipBlank_cons hblank, hnext]
  rfl

/-- An entry is read up to its value. -/
theorem membersAt_entry (name : String) {v : Value} {text after : List Char}
    (h : valueAt fuel text = .ok (v, after)) :
    membersAt (fuel + 1) (textLiteral charset name ++ ':' :: ' ' :: text) =
      (match skipBlank after with
      | '}' :: rest => return ([(.str (readBack charset name), v)], rest)
      | ',' :: rest => do
        let (others, rest) ← membersAt fuel (skipBlank rest)
        return ((.str (readBack charset name), v) :: others, rest)
      | _ => throw .malformed) := by
  obtain ⟨c, tail, rfl, hblank, -⟩ := start_of_valueAt h
  have hname := textRest_flatMap charset name (':' :: ' ' :: c :: tail)
  have hspace : skipBlank (' ' :: c :: tail) = c :: tail := skipBlank_cons hblank tail
  rw [textLiteral, List.append_assoc, List.cons_append, List.singleton_append, membersAt, hname]
  simp only [skipBlank_cons (c := ':') rfl, hspace, h]
  rfl

theorem membersAt_last {name : String} {v : Value} {depth : Nat} {text : List Char}
    (h : valueAt fuel text = .ok (v, newline depth ++ ['}'] ++ rest)) :
    membersAt (fuel + 1) (textLiteral charset name ++ ':' :: ' ' :: text) =
      .ok ([(.str (readBack charset name), v)], rest) := by
  rw [membersAt_entry name h, skipBlank_closing '}' rfl]
  rfl

theorem membersAt_next (charset : Charset) (name : String) {v : Value}
    {entries : List (Scalar × Value)} {depth : Nat} {text next : List Char}
    (h : valueAt fuel text = .ok (v, ',' :: (newline depth ++ next)))
    (hnext : membersAt fuel next = .ok (entries, rest)) :
    membersAt (fuel + 1) (textLiteral charset name ++ ':' :: ' ' :: text) =
      .ok ((.str (readBack charset name), v) :: entries, rest) := by
  obtain ⟨tail, rfl⟩ := start_of_membersAt hnext
  rw [membersAt_entry name h, skipBlank_cons rfl]
  simp only [skipBlank_newline, skipBlank_cons (c := '"') rfl, hnext]
  rfl

/-! ## Whole values -/

theorem valueAt_enclosed_items {depth : Nat} {parts : List (List Char)} {items : List Value}
    (hempty : parts = [] → items = [])
    (h : parts ≠ [] → ∀ fuel, (joined (depth + 1) parts).length + 1 < fuel →
      itemsAt fuel (joined (depth + 1) parts ++ (newline depth ++ [']'] ++ rest)) =
        .ok (items, rest))
    (hfuel : (enclose '[' ']' depth parts).length < fuel) :
    valueAt fuel (enclose '[' ']' depth parts ++ rest) = .ok (.list items, rest) := by
  obtain ⟨fuel, rfl⟩ : ∃ less, fuel = less + 1 := ⟨fuel - 1, by omega⟩
  by_cases hparts : parts = []
  · rw [hparts, hempty hparts]
    rfl
  · rw [enclose_eq _ _ _ hparts] at hfuel ⊢
    have hread := valueAt_items (depth + 1) (h hparts fuel (by
      simp only [List.length_cons, List.length_append, newline] at hfuel
      omega))
    simp only [List.append_assoc, List.cons_append] at hread ⊢
    exact hread

theorem valueAt_enclosed_members {depth : Nat} {parts : List (List Char)}
    {entries : List (Scalar × Value)} (hempty : parts = [] → entries = [])
    (h : parts ≠ [] → ∀ fuel, (joined (depth + 1) parts).length + 1 < fuel →
      membersAt fuel (joined (depth + 1) parts ++ (newline depth ++ ['}'] ++ rest)) =
        .ok (entries, rest))
    (hfuel : (enclose '{' '}' depth parts).length < fuel) :
    valueAt fuel (enclose '{' '}' depth parts ++ rest) =
      .ok (.mapping (Mapping.ofEntries entries), rest) := by
  obtain ⟨fuel, rfl⟩ : ∃ less, fuel = less + 1 := ⟨fuel - 1, by omega⟩
  by_cases hparts : parts = []
  · rw [hparts, hempty hparts]
    rfl
  · rw [enclose_eq _ _ _ hparts] at hfuel ⊢
    have hread := valueAt_members (depth + 1) (h hparts fuel (by
      simp only [List.length_cons, List.length_append, newline] at hfuel
      omega))
    simp only [List.append_assoc, List.cons_append] at hread ⊢
    exact hread

mutual

/-- The text of a value is read as the value that a document has for it. The number of its characters
is enough fuel: every reader takes at least one character before it calls another. -/
theorem valueAt_literal : ∀ (v : Value) {depth : Nat} {cs : List Char} (fuel : Nat) (rest : List Char),
    literal charset depth v = .ok cs → goesOn rest = true → cs.length < fuel →
    valueAt fuel (cs ++ rest) = .ok (v.asDocument charset, rest)
  | .scalar s, depth, cs, fuel, rest, h, hrest, hfuel => by
      obtain ⟨fuel, rfl⟩ : ∃ less, fuel = less + 1 := ⟨fuel - 1, by omega⟩
      rw [literal] at h
      rw [Value.asDocument]
      exact valueAt_scalarLiteral hrest h
  | .set _, depth, cs, fuel, rest, h, _, _ => by
      rw [literal] at h
      cases h
  | .list items, depth, cs, fuel, rest, h, _, hfuel => by
      rw [literal] at h
      obtain ⟨parts, hparts, rfl⟩ := exists_of_map_eq_ok h
      have hempty : parts = [] → Value.itemsAsDocument charset items = [] := by
        rintro rfl
        rw [literals_eq_nil hparts, Value.itemsAsDocument]
      rw [Value.asDocument]
      exact valueAt_enclosed_items hempty
        (fun hne fuel => itemsAt_literals items fuel rest hparts hne) hfuel
  | .tuple items, depth, cs, fuel, rest, h, _, hfuel => by
      rw [literal] at h
      obtain ⟨parts, hparts, rfl⟩ := exists_of_map_eq_ok h
      have hempty : parts = [] → Value.itemsAsDocument charset items = [] := by
        rintro rfl
        rw [literals_eq_nil hparts, Value.itemsAsDocument]
      rw [Value.asDocument]
      exact valueAt_enclosed_items hempty
        (fun hne fuel => itemsAt_literals items fuel rest hparts hne) hfuel
  | .mapping entries, depth, cs, fuel, rest, h, _, hfuel => by
      rw [literal] at h
      obtain ⟨parts, hparts, rfl⟩ := exists_of_map_eq_ok h
      have hempty : parts = [] → Mapping.ofFieldList (Value.fieldsAsDocument charset entries) = [] := by
        rintro rfl
        rw [members_eq_nil hparts, Value.fieldsAsDocument]
        rfl
      rw [Value.asDocument, ← Mapping.ofEntries_ofFieldList]
      exact valueAt_enclosed_members hempty
        (fun hne fuel => membersAt_members entries fuel rest hparts hne) hfuel

theorem itemsAt_literals : ∀ (items : List Value) {depth : Nat} {parts : List (List Char)}
    (fuel : Nat) (rest : List Char),
    literals charset (depth + 1) items = .ok parts → parts ≠ [] →
    (joined (depth + 1) parts).length + 1 < fuel →
    itemsAt fuel (joined (depth + 1) parts ++ (newline depth ++ [']'] ++ rest)) =
      .ok (Value.itemsAsDocument charset items, rest)
  | [], depth, parts, fuel, rest, h, hparts, _ => by
      rw [literals] at h
      exact absurd (Except.ok.inj h).symm hparts
  | item :: items, depth, parts, fuel, rest, h, _, hfuel => by
      obtain ⟨first, others, hfirst, hothers, rfl⟩ := literals_cons h
      obtain ⟨fuel, rfl⟩ : ∃ less, fuel = less + 1 := ⟨fuel - 1, by omega⟩
      rw [Value.itemsAsDocument]
      cases others with
      | nil =>
          rw [joined_singleton] at hfuel ⊢
          rw [literals_eq_nil hothers]
          exact itemsAt_last (valueAt_literal item fuel _ hfirst rfl (by omega))
      | cons next others =>
          rw [joined_cons_cons] at hfuel ⊢
          simp only [List.length_append, List.length_cons] at hfuel
          have hitem := valueAt_literal item fuel
            (',' :: (newline (depth + 1) ++ (joined (depth + 1) (next :: others) ++
              (newline depth ++ [']'] ++ rest)))) hfirst rfl (by omega)
          have hitems := itemsAt_literals items fuel rest hothers
            (List.cons_ne_nil _ _) (by omega)
          have hboth := itemsAt_next hitem hitems
          simp only [List.append_assoc, List.cons_append] at hboth ⊢
          exact hboth

theorem membersAt_members : ∀ (entries : List (Scalar × Value)) {depth : Nat}
    {parts : List (List Char)} (fuel : Nat) (rest : List Char),
    members charset (depth + 1) entries = .ok parts → parts ≠ [] →
    (joined (depth + 1) parts).length + 1 < fuel →
    membersAt fuel (joined (depth + 1) parts ++ (newline depth ++ ['}'] ++ rest)) =
      .ok (Mapping.ofFieldList (Value.fieldsAsDocument charset entries), rest)
  | [], depth, parts, fuel, rest, h, hparts, _ => by
      rw [members] at h
      exact absurd (Except.ok.inj h).symm hparts
  | (key, v) :: entries, depth, parts, fuel, rest, h, _, hfuel => by
      obtain ⟨name, first, others, hname, hfirst, hothers, rfl⟩ := members_cons h
      obtain rfl := keyText_eq hname
      obtain ⟨fuel, rfl⟩ : ∃ less, fuel = less + 1 := ⟨fuel - 1, by omega⟩
      rw [Value.fieldsAsDocument]
      cases others with
      | nil =>
          rw [joined_singleton] at hfuel ⊢
          simp only [List.length_append, List.length_cons] at hfuel
          have hvalue := valueAt_literal v fuel (newline depth ++ ['}'] ++ rest)
            hfirst rfl (by omega)
          rw [members_eq_nil hothers, List.append_assoc, List.cons_append, List.cons_append]
          exact membersAt_last hvalue
      | cons next others =>
          rw [joined_cons_cons] at hfuel ⊢
          simp only [List.length_append, List.length_cons] at hfuel
          have hvalue := valueAt_literal v fuel
            (',' :: (newline (depth + 1) ++ (joined (depth + 1) (next :: others) ++
              (newline depth ++ ['}'] ++ rest)))) hfirst rfl (by omega)
          have hentries := membersAt_members entries fuel rest hothers
            (List.cons_ne_nil _ _) (by omega)
          have hentry := membersAt_next charset key.keyName hvalue hentries
          simp only [List.append_assoc, List.cons_append] at hentry ⊢
          exact hentry

end

/-- The text of a document in a file, with its line break, holds the document. -/
theorem read_write {v : Value} {text : String} (h : write charset v = .ok text) :
    read (text ++ "\n") = .ok (v.asDocument charset) := by
  obtain ⟨cs, hcs, rfl⟩ := exists_of_map_eq_ok h
  have htext : (String.ofList cs ++ "\n").toList = cs ++ ['\n'] := by
    rw [String.toList_append, String.toList_ofList]
    rfl
  have hvalue := valueAt_literal v ((cs ++ ['\n']).length + 1) ['\n'] hcs rfl
    (by rw [List.length_append]; omega)
  obtain ⟨c, tail, hstart, hblank, -⟩ := start_of_valueAt hvalue
  have hskip : skipBlank (cs ++ ['\n']) = cs ++ ['\n'] := by
    rw [hstart]
    exact skipBlank_cons hblank tail
  rw [read, htext]
  simp only [hskip, hvalue]
  rfl

/-! ## What has a text -/

mutual

theorem isOk_literal (charset : Charset) : ∀ (depth : Nat) (v : Value),
    (literal charset depth v).isOk = v.everyPart Value.partIsWritable
  | depth, .scalar s => by
      rw [literal, Value.everyPart]
      cases s with
      | int n =>
          rw [scalarLiteral, Value.partIsWritable, Scalar.isWritable]
          cases Numeral.isOverlong n <;> rfl
      | _ => rfl
  | depth, .list items => by
      have hitems := isOk_literals charset (depth + 1) items
      rw [literal, Value.everyPart, ← hitems]
      cases literals charset (depth + 1) items <;> rfl
  | depth, .tuple items => by
      have hitems := isOk_literals charset (depth + 1) items
      rw [literal, Value.everyPart, ← hitems]
      cases literals charset (depth + 1) items <;> rfl
  | depth, .set members => by
      rw [literal, Value.everyPart]
      rfl
  | depth, .mapping entries => by
      have hentries := isOk_members charset (depth + 1) entries
      rw [literal, Value.everyPart, Value.partIsWritable, ← hentries]
      cases members charset (depth + 1) entries <;> rfl

theorem isOk_literals (charset : Charset) : ∀ (depth : Nat) (items : List Value),
    (literals charset depth items).isOk = Value.everyItem Value.partIsWritable items
  | depth, [] => by
      rw [literals, Value.everyItem]
      rfl
  | depth, item :: items => by
      have hitem := isOk_literal charset depth item
      have hitems := isOk_literals charset depth items
      rw [literals, Value.everyItem, ← hitem, ← hitems]
      cases literal charset depth item <;> cases literals charset depth items <;> rfl

theorem isOk_members (charset : Charset) : ∀ (depth : Nat) (entries : List (Scalar × Value)),
    (members charset depth entries).isOk =
      ((entries.all fun e => e.1.isWritable) && Value.everyEntry Value.partIsWritable entries)
  | depth, [] => by
      rw [members, Value.everyEntry]
      rfl
  | depth, (key, v) :: entries => by
      have hkey : (keyText key).isOk = key.isWritable := by
        cases key with
        | int n =>
            rw [keyText, Scalar.isWritable]
            cases Numeral.isOverlong n <;> rfl
        | _ => rfl
      have hvalue := isOk_literal charset depth v
      have hentries := isOk_members charset depth entries
      have hswap : ∀ a b c d : Bool, (a && b && (c && d)) = (a && c && (b && d)) := by decide
      rw [members, Value.everyEntry, List.all_cons, hswap, ← hentries, ← hkey, ← hvalue]
      cases keyText key <;> cases literal charset depth v <;>
        cases members charset depth entries <;> rfl

end

/-! ## Faults -/

theorem error_of_bind_eq_error {ε α β : Type} {x : Except ε α} {f : α → Except ε β} {fault : ε}
    (h : x >>= f = .error fault) : x = .error fault ∨ ∃ a, x = .ok a ∧ f a = .error fault := by
  cases x with
  | error e => exact .inl (congrArg _ (Except.error.inj h))
  | ok a => exact .inr ⟨a, rfl, h⟩

mutual

/-- Only an integer of too many digits is too long. -/
theorem isOverlong_of_literal : ∀ {v : Value} {depth : Nat},
    literal charset depth v = .error .longInteger → v.isOverlong = true
  | .scalar s, depth, h => by
      rw [literal] at h
      rw [Value.isOverlong]
      cases s with
      | int n =>
          rw [scalarLiteral] at h
          split at h
          · next hlong => exact hlong
          · cases h
      | _ => cases h
  | .list items, depth, h => by
      rw [literal] at h
      rw [Value.isOverlong]
      exact anyOverlong_of_literals (error_of_map_eq_error h)
  | .tuple items, depth, h => by
      rw [literal] at h
      rw [Value.isOverlong]
      exact anyOverlong_of_literals (error_of_map_eq_error h)
  | .set _, depth, h => by
      rw [literal] at h
      cases h
  | .mapping entries, depth, h => by
      rw [literal] at h
      rw [Value.isOverlong]
      exact anyOverlongEntry_of_members (error_of_map_eq_error h)

theorem anyOverlong_of_literals : ∀ {items : List Value} {depth : Nat},
    literals charset depth items = .error .longInteger → Value.anyOverlong items = true
  | [], depth, h => by
      rw [literals] at h
      cases h
  | item :: items, depth, h => by
      rw [literals] at h
      rw [Value.anyOverlong, Bool.or_eq_true]
      rcases error_of_bind_eq_error h with hitem | ⟨first, -, h⟩
      · exact .inl (isOverlong_of_literal hitem)
      · rcases error_of_bind_eq_error h with hitems | ⟨others, -, h⟩
        · exact .inr (anyOverlong_of_literals hitems)
        · cases h

theorem anyOverlongEntry_of_members : ∀ {entries : List (Scalar × Value)} {depth : Nat},
    members charset depth entries = .error .longInteger → Value.anyOverlongEntry entries = true
  | [], depth, h => by
      rw [members] at h
      cases h
  | (key, v) :: entries, depth, h => by
      rw [members] at h
      rw [Value.anyOverlongEntry, Bool.or_eq_true, Bool.or_eq_true]
      rcases error_of_bind_eq_error h with hkey | ⟨name, -, h⟩
      · refine .inl (.inl ?_)
        cases key with
        | int n =>
            rw [keyText] at hkey
            split at hkey
            · next hlong => exact hlong
            · cases hkey
        | _ => cases hkey
      · rcases error_of_bind_eq_error h with hv | ⟨first, -, h⟩
        · exact .inl (.inr (isOverlong_of_literal hv))
        · rcases error_of_bind_eq_error h with hothers | ⟨others, -, h⟩
          · exact .inr (anyOverlongEntry_of_members hothers)
          · cases h

end

/-- A value has a text if everything in it has one, values and keys alike. -/
theorem write_eq_ok_iff (charset : Charset) (v : Value) :
    (∃ text, write charset v = .ok text) ↔ v.isWritable = true := by
  rw [Value.isWritable, ← isOk_literal charset 0 v, write]
  cases literal charset 0 v <;> simp [Except.map, Except.isOk, Except.toBool]

/-- A value without a text is of a wrong type somewhere, unless there is an integer of too many digits
in it. -/
theorem exists_write_fault {v : Value} (h : v.isWritable = false) :
    ∃ fault, write charset v = .error fault ∧ (fault = .longInteger → v.isOverlong = true) := by
  cases hwrite : write charset v with
  | ok text => cases h.symm.trans ((write_eq_ok_iff charset v).mp ⟨text, hwrite⟩)
  | error fault =>
      refine ⟨fault, rfl, ?_⟩
      rintro rfl
      exact isOverlong_of_literal (error_of_map_eq_error hwrite)

end Json

end ActorSpec
