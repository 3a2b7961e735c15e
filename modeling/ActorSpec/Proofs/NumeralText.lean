import ActorSpec.Json.Reader
import ActorSpec.Json.Writer
import ActorSpec.Proofs.Rounding

/-!
# Numerals in documents

A numeral in a document stands in front of a comma or a line break, so the reader takes all of it and
nothing else. Whole digits without a point and without an exponent are read as the integer; the layout of
a double, positional or scientific, is read as its digits and the exponent of the last one, whatever the
point and the padding (`numeral_layout`). With what is known of the digits that are chosen, the text of a
double reads back as the double (`numeral_magnitudeText`).
-/

namespace ActorSpec.Json

/-! ## What a numeral ends with -/

/-- A document goes on behind a value with a comma or on a new line. -/
def goesOn : List Char → Bool
  | c :: _ => c = ',' || c = '\n'
  | [] => false

/-- No digit comes next. -/
def endsDigits : List Char → Bool
  | c :: _ => !c.isDigit
  | [] => true

theorem exists_of_goesOn {rest : List Char} (h : goesOn rest = true) :
    ∃ c tail, rest = c :: tail ∧ (c = ',' ∨ c = '\n') := by
  cases rest with
  | nil => cases h
  | cons c tail =>
      rw [goesOn, Bool.or_eq_true, decide_eq_true_iff, decide_eq_true_iff] at h
      exact ⟨c, tail, rfl, h⟩

theorem endsDigits_of_goesOn {rest : List Char} (h : goesOn rest = true) : endsDigits rest = true := by
  obtain ⟨c, tail, rfl, rfl | rfl⟩ := exists_of_goesOn h <;> rfl

section Digits

variable {digits rest : List Char}

theorem takeWhile_digits (hdigits : ∀ c ∈ digits, c.isDigit = true) (hrest : endsDigits rest = true) :
    (digits ++ rest).takeWhile Char.isDigit = digits := by
  rw [List.takeWhile_append_of_pos hdigits]
  cases rest with
  | nil => exact List.append_nil digits
  | cons c tail =>
      have hc : ¬ c.isDigit = true := by simpa [endsDigits] using hrest
      rw [List.takeWhile_cons_of_neg hc, List.append_nil]

theorem dropWhile_digits (hdigits : ∀ c ∈ digits, c.isDigit = true) (hrest : endsDigits rest = true) :
    (digits ++ rest).dropWhile Char.isDigit = rest := by
  rw [List.dropWhile_append_of_pos hdigits]
  cases rest with
  | nil => rfl
  | cons c tail =>
      have hc : ¬ c.isDigit = true := by simpa [endsDigits] using hrest
      exact List.dropWhile_cons_of_neg hc

/-- Digits in front of a point or an exponent: a lone zero, or digits that do not start with one. -/
structure IsWhole (digits : List Char) : Prop where
  isDigit : ∀ c ∈ digits, c.isDigit = true
  ne_nil : digits ≠ []
  lone : digits.head? = some '0' → digits = ['0']

theorem isWhole_zero : IsWhole ['0'] := ⟨by simp, by simp, by simp⟩

theorem wholeDigits_append (h : IsWhole digits) (hrest : endsDigits rest = true) :
    wholeDigits (digits ++ rest) = digits := by
  unfold wholeDigits
  split
  · next tail heq =>
      cases digits with
      | nil => exact absurd rfl h.ne_nil
      | cons c others =>
          obtain ⟨rfl, -⟩ := List.cons.inj heq
          exact (h.lone rfl).symm
  · exact takeWhile_digits h.isDigit hrest

/-! ## The parts of a numeral -/

theorem fraction_point (rest : List Char) (hdigits : ∀ c ∈ digits, c.isDigit = true) (hne : digits ≠ [])
    (hrest : endsDigits rest = true) :
    fraction ('.' :: (digits ++ rest)) = (some digits, rest) := by
  rw [fraction, takeWhile_digits hdigits hrest, dropWhile_digits hdigits hrest]
  exact if_neg (by simpa using hne)

theorem fraction_of_goesOn (h : goesOn rest = true) : fraction rest = (none, rest) := by
  obtain ⟨c, tail, rfl, rfl | rfl⟩ := exists_of_goesOn h <;> rfl

theorem exponent_of_goesOn (h : goesOn rest = true) : exponent rest = (none, rest) := by
  obtain ⟨c, tail, rfl, rfl | rfl⟩ := exists_of_goesOn h <;> rfl

theorem exponent_mark (negative : Bool) (hdigits : ∀ c ∈ digits, c.isDigit = true)
    (hne : digits ≠ []) (hrest : endsDigits rest = true) :
    exponent ('e' :: (if negative then '-' else '+') :: (digits ++ rest)) =
      (some (if negative then -(Nat.ofDigitChars 10 digits 0 : Int)
        else Nat.ofDigitChars 10 digits 0), rest) := by
  cases negative <;>
    simp [exponent, takeWhile_digits hdigits hrest, dropWhile_digits hdigits hrest, hne]

/-- A numeral with a point, or an exponent, or both. -/
theorem numeral_of_parts (negative : Bool) (tail : List Char) {decimals : Option (List Char)}
    {power : Option Int} {afterPoint : List Char} (h : IsWhole digits)
    (htail : endsDigits tail = true) (hdecimals : fraction tail = (decimals, afterPoint))
    (hpower : exponent afterPoint = (power, rest))
    (hfloat : decimals.isSome = true ∨ power.isSome = true) :
    numeral negative (digits ++ tail) =
      .ok (.scalar (.float (Binary64.ofDecimal negative
        (Nat.ofDigitChars 10 (digits ++ decimals.getD []) 0)
        (power.getD 0 - (decimals.getD []).length))), rest) := by
  have hkind : (decimals.isNone && power.isNone) = false := by
    rcases hfloat with hsome | hsome
    · rw [← Option.not_isSome, hsome, Bool.not_true, Bool.false_and]
    · rw [← Option.not_isSome (a := power), hsome, Bool.not_true, Bool.and_false]
  rw [numeral, wholeDigits_append h htail, if_neg (by simpa using h.ne_nil), List.drop_left]
  simp only [hdecimals, hpower, hkind]
  rfl

theorem numeral_whole {negative : Bool} (h : IsWhole digits) (hrest : goesOn rest = true)
    (hshort : digits.length ≤ Numeral.maxDigits) :
    numeral negative (digits ++ rest) =
      .ok (.int (if negative then -(Nat.ofDigitChars 10 digits 0 : Int)
        else Nat.ofDigitChars 10 digits 0), rest) := by
  rw [numeral, wholeDigits_append h (endsDigits_of_goesOn hrest), if_neg (by simpa using h.ne_nil),
    List.drop_left]
  simp only [fraction_of_goesOn hrest, exponent_of_goesOn hrest]
  rw [if_pos (by rfl), if_neg (Nat.not_lt_of_le hshort)]

end Digits

/-! ## The digits of a number -/

theorem ofDigitChars_lt {digits : List Char} (hdigits : ∀ c ∈ digits, c.isDigit = true) :
    Nat.ofDigitChars 10 digits 0 < 10 ^ digits.length := by
  induction digits with
  | nil => exact Nat.one_pos
  | cons c rest ih =>
      have hc := (Char.isDigit_iff_toNat.mp (hdigits c (List.mem_cons_self ..))).2
      have hrest := ih fun d hd => hdigits d (List.mem_cons_of_mem _ hd)
      have hnine : c.toNat - '0'.toNat ≤ 9 := Nat.sub_le_of_le_add hc
      have hmost := Nat.mul_le_mul_left (10 ^ rest.length) hnine
      rw [Nat.ofDigitChars_cons, Nat.ofDigitChars_eq_ofDigitChars_zero, List.length_cons, Nat.pow_succ,
        Nat.mul_zero, Nat.zero_add]
      omega

/-- Zeros in front of the digits and behind them. -/
theorem ofDigitChars_padded (digits : List Char) (before after : Nat) :
    Nat.ofDigitChars 10 (List.replicate before '0' ++ digits ++ List.replicate after '0') 0 =
      Nat.ofDigitChars 10 digits 0 * 10 ^ after := by
  rw [Nat.ofDigitChars_append, Nat.ofDigitChars_append, Nat.ofDigitChars_replicate_zero,
    Nat.ofDigitChars_replicate_zero, Nat.mul_zero, Nat.mul_comm]

/-- The digits of a number start with a zero only if there is no other one. -/
theorem isWhole_toDigits (n : Nat) : IsWhole (Nat.toDigits 10 n) := by
  have hdigits : ∀ c ∈ Nat.toDigits 10 n, c.isDigit = true := fun c hc =>
    Nat.isDigit_of_mem_toDigits (by decide) (by decide) hc
  refine ⟨hdigits, Nat.toDigits_ne_nil, fun hzero => ?_⟩
  obtain ⟨others, hothers⟩ := List.head?_eq_some_iff.mp hzero
  rw [hothers] at hdigits ⊢
  by_cases hmore : others = []
  · rw [hmore]
  · have hvalue : Nat.ofDigitChars 10 others 0 = n := by
      rw [← Nat.ofDigitChars_ten_toDigits (n := n), hothers, Nat.ofDigitChars_cons]
      rfl
    have hsmall := ofDigitChars_lt fun c hc => hdigits c (List.mem_cons_of_mem _ hc)
    rw [hvalue, ← Nat.length_toDigits_le_iff (by decide) (List.length_pos_iff.mpr hmore), hothers,
      List.length_cons] at hsmall
    omega

/-- The digits of a number that is not zero, without the zeros at the end. -/
theorem exists_stripped {n : Nat} (h : n ≠ 0) :
    ∃ digits zeros, ((Nat.toDigits 10 n).reverse.dropWhile (· = '0')).reverse = digits
      ∧ n = Nat.ofDigitChars 10 digits 0 * 10 ^ zeros
      ∧ (Nat.toDigits 10 n).length = digits.length + zeros
      ∧ digits ≠ [] ∧ digits.head? ≠ some '0' ∧ ∀ c ∈ digits, c.isDigit = true := by
  have hwhole := isWhole_toDigits n
  generalize hdigits : ((Nat.toDigits 10 n).reverse.dropWhile (· = '0')).reverse = digits
  have hzeros : (Nat.toDigits 10 n).reverse.takeWhile (· = '0') =
      List.replicate ((Nat.toDigits 10 n).reverse.takeWhile (· = '0')).length '0' :=
    List.eq_replicate_of_mem fun c hc => of_decide_eq_true (List.all_eq_true.mp List.all_takeWhile c hc)
  generalize ((Nat.toDigits 10 n).reverse.takeWhile (· = '0')).length = zeros at hzeros
  have hsplit : Nat.toDigits 10 n = digits ++ List.replicate zeros '0' := by
    rw [← List.reverse_reverse (Nat.toDigits 10 n), ← List.takeWhile_append_dropWhile
      (p := (· = '0')) (l := (Nat.toDigits 10 n).reverse), List.reverse_append, hdigits, hzeros,
      List.reverse_replicate]
  have hvalue : n = Nat.ofDigitChars 10 digits 0 * 10 ^ zeros := by
    have hpadded := ofDigitChars_padded digits 0 zeros
    rwa [List.replicate_zero, List.nil_append, ← hsplit, Nat.ofDigitChars_ten_toDigits] at hpadded
  have hne : digits ≠ [] := by
    rintro rfl
    rw [Nat.ofDigitChars_nil, Nat.zero_mul] at hvalue
    exact h hvalue
  refine ⟨digits, zeros, rfl, hvalue, ?_, hne, fun hzero => ?_, fun c hc => ?_⟩
  · rw [hsplit, List.length_append, List.length_replicate]
  · -- A zero in front would be the only digit, and the digits at the end are not zeros.
    obtain ⟨others, rfl⟩ := List.head?_eq_some_iff.mp hzero
    have hlone : Nat.toDigits 10 n = ['0'] := hwhole.lone (by rw [hsplit]; rfl)
    rw [hlone] at hdigits
    exact absurd hdigits (by simp)
  · exact hwhole.isDigit c (hsplit ▸ List.mem_append_left _ hc)

theorem isDigit_of_mem_replicate {n : Nat} {c : Char} (h : c ∈ List.replicate n '0') :
    c.isDigit = true := by
  rw [List.eq_of_mem_replicate h]
  rfl

section Layout

variable {digits rest : List Char} {top : Int}

/-- A numeral with a point and no exponent. -/
theorem numeral_pointed (negative : Bool) {whole decimals : List Char} (hwhole : IsWhole whole)
    (hdecimals : ∀ c ∈ decimals, c.isDigit = true) (hne : decimals ≠ []) (hrest : goesOn rest = true) :
    numeral negative (whole ++ '.' :: (decimals ++ rest)) =
      .ok (.scalar (.float (Binary64.ofDecimal negative
        (Nat.ofDigitChars 10 (whole ++ decimals) 0) (0 - decimals.length))), rest) := by
  have hpoint := fraction_point rest hdecimals hne (endsDigits_of_goesOn hrest)
  have hread := numeral_of_parts negative ('.' :: (decimals ++ rest)) hwhole rfl hpoint
    (exponent_of_goesOn hrest) (.inl rfl)
  rwa [Option.getD_some, Option.getD_none] at hread

/-- Below one there are zeros between the point and the digits. -/
theorem numeral_positional_small (negative : Bool) (hdigits : ∀ c ∈ digits, c.isDigit = true)
    (hne : digits ≠ []) (hrest : goesOn rest = true) (htop : top < 0) :
    numeral negative (Binary64.positional digits top ++ rest) =
      .ok (.scalar (.float (Binary64.ofDecimal negative (Nat.ofDigitChars 10 digits 0)
        (top + 1 - digits.length))), rest) := by
  have hdecimals : ∀ c ∈ List.replicate (-top - 1).toNat '0' ++ digits, c.isDigit = true :=
    fun c hc => (List.mem_append.mp hc).elim isDigit_of_mem_replicate (hdigits c)
  have hread := numeral_pointed negative isWhole_zero hdecimals (by simp [hne]) hrest
  have hvalue : Nat.ofDigitChars 10 (['0'] ++ (List.replicate (-top - 1).toNat '0' ++ digits)) 0 =
      Nat.ofDigitChars 10 digits 0 := by
    have hpadded := ofDigitChars_padded digits ((-top - 1).toNat + 1) 0
    rwa [List.replicate_zero, List.append_nil, Nat.pow_zero, Nat.mul_one] at hpadded
  have hpower : (0 : Int) - (List.replicate (-top - 1).toNat '0' ++ digits).length =
      top + 1 - digits.length := by
    rw [List.length_append, List.length_replicate]
    omega
  rw [hvalue, hpower] at hread
  rw [Binary64.positional, if_pos htop]
  exact hread

/-- The point stands between two of the digits. -/
theorem numeral_positional_mixed (negative : Bool) (hdigits : ∀ c ∈ digits, c.isDigit = true)
    (hlead : digits.head? ≠ some '0') (hrest : goesOn rest = true) (htop : ¬ top < 0)
    (hlong : top.toNat + 1 < digits.length) :
    numeral negative (Binary64.positional digits top ++ rest) =
      .ok (.scalar (.float (Binary64.ofDecimal negative (Nat.ofDigitChars 10 digits 0)
        (top + 1 - digits.length))), rest) := by
  have hlength : (digits.take (top.toNat + 1)).length = top.toNat + 1 :=
    List.length_take_of_le (Nat.le_of_lt hlong)
  have hfraction : digits.drop (top.toNat + 1) ≠ [] := by
    rw [Ne, List.drop_eq_nil_iff]
    omega
  have hwhole : IsWhole (digits.take (top.toNat + 1)) := by
    refine ⟨fun c hc => hdigits c (List.mem_of_mem_take hc), ?_, fun hzero => ?_⟩
    · exact List.ne_nil_of_length_pos (by omega)
    · rw [List.head?_take, if_neg (Nat.succ_ne_zero _)] at hzero
      exact absurd hzero hlead
  have hread := numeral_pointed negative hwhole (fun c hc => hdigits c (List.mem_of_mem_drop hc))
    hfraction hrest
  have hpower : (0 : Int) - (digits.drop (top.toNat + 1)).length = top + 1 - digits.length := by
    rw [List.length_drop]
    omega
  rw [List.take_append_drop, hpower] at hread
  rw [Binary64.positional, if_neg htop]
  simp only [hlength, Nat.sub_self, List.replicate_zero, List.append_nil, List.isEmpty_iff,
    hfraction, if_false, List.append_assoc, List.cons_append]
  exact hread

/-- All digits stand in front of the point, with zeros between them and the point. -/
theorem numeral_positional_large (negative : Bool) (hdigits : ∀ c ∈ digits, c.isDigit = true)
    (hne : digits ≠ []) (hlead : digits.head? ≠ some '0') (hrest : goesOn rest = true)
    (htop : ¬ top < 0) (hall : digits.length ≤ top.toNat + 1) :
    numeral negative (Binary64.positional digits top ++ rest) =
      .ok (.scalar (.float (Binary64.ofDecimal negative (Nat.ofDigitChars 10 digits 0)
        (top + 1 - digits.length))), rest) := by
  generalize hzeros : top.toNat + 1 - digits.length = zeros
  have hwhole : IsWhole (digits ++ List.replicate zeros '0') := by
    refine ⟨fun c hc => ?_, by simp [hne], fun hzero => ?_⟩
    · exact (List.mem_append.mp hc).elim (hdigits c) isDigit_of_mem_replicate
    · obtain ⟨d, others, rfl⟩ := List.exists_cons_of_ne_nil hne
      exact absurd hzero hlead
  have hread := numeral_pointed negative hwhole isWhole_zero.isDigit isWhole_zero.ne_nil hrest
  have hvalue : Nat.ofDigitChars 10 (digits ++ List.replicate zeros '0' ++ ['0']) 0 =
      Nat.ofDigitChars 10 digits 0 * 10 ^ (zeros + 1) := by
    have hpadded := ofDigitChars_padded digits 0 (zeros + 1)
    rwa [List.replicate_zero, List.nil_append, List.replicate_succ', ← List.append_assoc] at hpadded
  have hpower : (0 : Int) - ['0'].length + ((zeros + 1 : Nat) : Int) = top + 1 - digits.length := by
    rw [List.length_singleton]
    omega
  rw [hvalue, Binary64.ofDecimal_mul_pow, hpower] at hread
  rw [Binary64.positional, if_neg htop]
  simp only [List.take_of_length_le hall, List.drop_of_length_le hall, List.isEmpty_nil, if_true,
    hzeros, List.append_assoc, List.cons_append] at hread ⊢
  exact hread

theorem numeral_positional (negative : Bool) (hdigits : ∀ c ∈ digits, c.isDigit = true)
    (hne : digits ≠ []) (hlead : digits.head? ≠ some '0') (hrest : goesOn rest = true) :
    numeral negative (Binary64.positional digits top ++ rest) =
      .ok (.scalar (.float (Binary64.ofDecimal negative (Nat.ofDigitChars 10 digits 0)
        (top + 1 - digits.length))), rest) := by
  by_cases htop : top < 0
  · exact numeral_positional_small negative hdigits hne hrest htop
  · rcases Nat.lt_or_ge (top.toNat + 1) digits.length with hlong | hall
    · exact numeral_positional_mixed negative hdigits hlead hrest htop hlong
    · exact numeral_positional_large negative hdigits hne hlead hrest htop hall

/-- The exponent of scientific notation, whatever its padding. -/
theorem exponent_padded (top : Int) (padding : Nat) (hrest : goesOn rest = true) :
    exponent ('e' :: (if top < 0 then '-' else '+') ::
      (List.replicate padding '0' ++ Nat.toDigits 10 top.natAbs ++ rest)) = (some top, rest) := by
  have hdigits : ∀ c ∈ List.replicate padding '0' ++ Nat.toDigits 10 top.natAbs,
      c.isDigit = true := fun c hc =>
    (List.mem_append.mp hc).elim isDigit_of_mem_replicate
      (Nat.isDigit_of_mem_toDigits (by decide) (by decide))
  have hvalue := ofDigitChars_padded (Nat.toDigits 10 top.natAbs) padding 0
  rw [List.replicate_zero, List.append_nil, Nat.pow_zero, Nat.mul_one,
    Nat.ofDigitChars_ten_toDigits] at hvalue
  have hread := exponent_mark (decide (top < 0)) hdigits (by simp [Nat.toDigits_ne_nil])
    (endsDigits_of_goesOn hrest)
  rw [hvalue] at hread
  by_cases htop : top < 0
  · rw [if_pos htop]
    rw [decide_eq_true htop, if_pos rfl, if_pos rfl] at hread
    rw [hread]
    congr 2
    omega
  · rw [if_neg htop]
    rw [decide_eq_false htop, if_neg Bool.false_ne_true, if_neg Bool.false_ne_true] at hread
    rw [hread]
    congr 2
    omega

theorem numeral_scientific (negative : Bool) (hdigits : ∀ c ∈ digits, c.isDigit = true)
    (hne : digits ≠ []) (hrest : goesOn rest = true) :
    numeral negative (Binary64.scientific digits top ++ rest) =
      .ok (.scalar (.float (Binary64.ofDecimal negative (Nat.ofDigitChars 10 digits 0)
        (top + 1 - digits.length))), rest) := by
  obtain ⟨first, others, rfl⟩ := List.exists_cons_of_ne_nil hne
  have hwhole : IsWhole [first] := by
    refine ⟨fun c hc => ?_, List.cons_ne_nil _ _, fun hzero => ?_⟩
    · exact hdigits c (List.mem_singleton.mp hc ▸ List.mem_cons_self ..)
    · rw [Option.some.inj hzero]
  have hpower := exponent_padded top (2 - (Nat.toDigits 10 top.natAbs).length) hrest
  rw [Binary64.scientific]
  cases others with
  | nil =>
      have hread := numeral_of_parts negative ('e' :: _) hwhole rfl rfl hpower
        (.inr rfl)
      have hlast : top - ([] : List Char).length = top + 1 - [first].length := by
        simp only [List.length_nil, List.length_singleton]
        omega
      rw [Option.getD_none, Option.getD_some, hlast] at hread
      simp only [List.append_assoc] at hread ⊢
      exact hread
  | cons second others =>
      have hothers : ∀ c ∈ second :: others, c.isDigit = true :=
        fun c hc => hdigits c (List.mem_cons_of_mem _ hc)
      have hread := numeral_of_parts negative ('.' :: _) hwhole rfl
        (fraction_point ('e' :: _) hothers (List.cons_ne_nil _ _) rfl) hpower (.inl rfl)
      have hlast : top - (second :: others).length = top + 1 - (first :: second :: others).length := by
        simp only [List.length_cons]
        omega
      have hmany : ¬ (first :: second :: others).length ≤ 1 := by simp
      rw [Option.getD_some, Option.getD_some, hlast] at hread
      rw [if_neg hmany]
      simp only [List.append_assoc, List.cons_append] at hread ⊢
      exact hread

/-- In either notation the digits are read, with the exponent of the last one. -/
theorem numeral_layout (negative : Bool) (hdigits : ∀ c ∈ digits, c.isDigit = true)
    (hne : digits ≠ []) (hlead : digits.head? ≠ some '0') (hrest : goesOn rest = true) :
    numeral negative (Binary64.layout digits top ++ rest) =
      .ok (.scalar (.float (Binary64.ofDecimal negative (Nat.ofDigitChars 10 digits 0)
        (top + 1 - digits.length))), rest) := by
  rw [Binary64.layout]
  split
  · exact numeral_positional negative hdigits hne hlead hrest
  · exact numeral_scientific negative hdigits hne hrest

end Layout

/-- The text of a double is read as the double. -/
theorem numeral_magnitudeText (negative : Bool) (code : Fin (2047 * Nat.pow 2 52))
    {rest : List Char} (hrest : goesOn rest = true) :
    numeral negative (Binary64.magnitudeText code ++ rest) =
      .ok (.scalar (.float (.finite negative code)), rest) := by
  rw [Binary64.magnitudeText]
  by_cases hcode : code.val = 0
  · have hread := numeral_pointed negative isWhole_zero isWhole_zero.isDigit isWhole_zero.ne_nil hrest
    have hvalue : Binary64.ofDecimal negative 0 (0 - 1) = .finite negative code := by
      rw [Binary64.ofDecimal, if_pos (.inl rfl)]
      exact congrArg _ (Fin.ext hcode.symm)
    rw [if_pos hcode, ← hvalue]
    exact hread
  · have hn := Binary64.shortest_ne_zero hcode
    have hread := Binary64.ofDecimal_shortest hcode negative
    rw [if_neg hcode]
    generalize Binary64.shortest code = decimal at hn hread
    obtain ⟨n, exponent⟩ := decimal
    dsimp only at hn hread ⊢
    obtain ⟨digits, zeros, hstripped, hvalue, hlength, hne, hlead, hdigits⟩ := exists_stripped hn
    have hlast : exponent + (Nat.toDigits 10 n).length - 1 + 1 - digits.length = exponent + zeros := by
      omega
    rw [hvalue, Binary64.ofDecimal_mul_pow] at hread
    simp only [hstripped]
    rw [numeral_layout negative hdigits hne hlead hrest, hlast, hread]

/-! ## The texts of numbers -/

theorem toList_toString (n : Int) :
    (toString n).toList = (if n < 0 then ['-'] else []) ++ Nat.toDigits 10 n.natAbs := by
  cases n with
  | ofNat n => simp [toString, Int.repr]
  | negSucc n => simp [toString, Int.repr]

theorem numeral_toDigits (negative : Bool) {n : Nat} {rest : List Char}
    (hshort : (Nat.toDigits 10 n).length ≤ Numeral.maxDigits) (hrest : goesOn rest = true) :
    numeral negative (Nat.toDigits 10 n ++ rest) =
      .ok (.int (if negative then -(n : Int) else n), rest) := by
  rw [numeral_whole (isWhole_toDigits n) hrest hshort, Nat.ofDigitChars_ten_toDigits]

/-- The characters that numerals are made of. -/
def isNumeralChar (c : Char) : Bool := c.isDigit || ['.', 'e', '+', '-'].contains c

theorem isNumeralChar_of_isDigit {c : Char} (h : c.isDigit = true) : isNumeralChar c = true := by
  rw [isNumeralChar, h, Bool.true_or]

theorem isNumeralChar_layout {digits : List Char} {top : Int}
    (hdigits : ∀ c ∈ digits, c.isDigit = true) :
    ∀ c ∈ Binary64.layout digits top, isNumeralChar c = true := by
  have hzeros : ∀ n, ∀ c ∈ List.replicate n '0', isNumeralChar c = true := fun n c hc =>
    isNumeralChar_of_isDigit (isDigit_of_mem_replicate hc)
  have hsize : ∀ n, ∀ c ∈ Nat.toDigits 10 n, isNumeralChar c = true := fun n c hc =>
    isNumeralChar_of_isDigit ((isWhole_toDigits n).isDigit c hc)
  have hpart : ∀ part : List Char, part.Sublist digits → ∀ c ∈ part, isNumeralChar c = true :=
    fun part hsub c hc => isNumeralChar_of_isDigit (hdigits c (hsub.subset hc))
  have htake := fun n => hpart _ (List.take_sublist n digits)
  have hdrop := fun n => hpart _ (List.drop_sublist n digits)
  have hall := hpart digits (List.Sublist.refl digits)
  rw [Binary64.layout]
  split
  · rw [Binary64.positional]
    split
    · simp only [List.forall_mem_append, List.forall_mem_cons]
      exact ⟨⟨rfl, rfl, hzeros _⟩, hall⟩
    · simp only [List.forall_mem_append, List.forall_mem_cons]
      refine ⟨⟨htake _, hzeros _⟩, rfl, ?_⟩
      split
      · simp [isNumeralChar]
      · exact hdrop _
  · rw [Binary64.scientific]
    simp only [List.forall_mem_append, List.forall_mem_cons]
    refine ⟨⟨⟨⟨htake 1, ?_⟩, rfl, ?_, fun _ h => absurd h List.not_mem_nil⟩, hzeros _⟩, hsize _⟩
    · split
      · exact fun _ h => absurd h List.not_mem_nil
      · exact List.forall_mem_cons.mpr ⟨rfl, hdrop 1⟩
    · split <;> rfl

theorem isNumeralChar_magnitudeText (code : Fin (2047 * Nat.pow 2 52)) :
    ∀ c ∈ Binary64.magnitudeText code, isNumeralChar c = true := by
  rw [Binary64.magnitudeText]
  by_cases hcode : code.val = 0
  · rw [if_pos hcode]
    simp [isNumeralChar]
  · have hn := Binary64.shortest_ne_zero hcode
    rw [if_neg hcode]
    generalize Binary64.shortest code = decimal at hn
    obtain ⟨n, exponent⟩ := decimal
    dsimp only at hn ⊢
    obtain ⟨digits, zeros, hstripped, -, -, -, -, hdigits⟩ := exists_stripped hn
    rw [hstripped]
    exact isNumeralChar_layout hdigits

end ActorSpec.Json
