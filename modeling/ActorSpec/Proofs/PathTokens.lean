import ActorSpec.Proofs.Paths

/-!
# Tokens of paths

A path is read back by splitting it at its slashes and undoing the escapes in every piece, the slashes
before the tildes. Reading back what was joined gives the tokens again (`SpecPath.split_join`), so a
path says of every token where it begins and ends, whatever characters it has. The escapes can be made
in two passes as well, of the tildes first and of the slashes then (`SpecPath.escape_eq_passes`).
-/

namespace ActorSpec.SpecPath

/-! ## Reading a path -/

/-- Puts a character in place of every tilde with the mark behind it. -/
def replaceMark (mark meant : Char) : List Char → List Char
  | '~' :: c :: rest =>
    if c = mark then meant :: replaceMark mark meant rest
    else '~' :: replaceMark mark meant (c :: rest)
  | c :: rest => c :: replaceMark mark meant rest
  | [] => []

/-- Undoes the escapes of a piece between two slashes. -/
def unescape (piece : List Char) : List Char :=
  replaceMark '0' '~' (replaceMark '1' '/' piece)

/-- The tokens of a path; in front of its first slash there is nothing. -/
def split (path : String) : List String :=
  ((path.toList.splitOn '/').drop 1).map fun piece => String.ofList (unescape piece)

/-! ## Escapes -/

/-- What stays escaped when the slashes are written out again. -/
def escapeTilde (c : Char) : List Char := if c = '~' then ['~', '0'] else [c]

theorem replaceMark_cons {c : Char} (h : c ≠ '~') (mark meant : Char) (rest : List Char) :
    replaceMark mark meant (c :: rest) = c :: replaceMark mark meant rest := by
  conv_lhs => unfold replaceMark
  split
  · next heq => exact absurd (List.cons.inj heq).1 h
  · next heq =>
      obtain ⟨rfl, rfl⟩ := List.cons.inj heq
      rfl
  · next heq => cases heq

/-- Once the slashes are back, the tildes of the text are the only escapes left. -/
theorem replaceMark_slash (cs : List Char) :
    replaceMark '1' '/' (cs.flatMap escapeChar) = cs.flatMap escapeTilde := by
  induction cs with
  | nil => rfl
  | cons c rest ih =>
      rw [List.flatMap_cons, List.flatMap_cons]
      by_cases htilde : c = '~'
      · subst htilde
        -- The mark behind this tilde is a zero, which is left for the second pass.
        have hzero : ('0' : Char) ≠ '~' := by decide
        change replaceMark '1' '/' ('~' :: '0' :: rest.flatMap escapeChar) = _
        rw [replaceMark, if_neg (by decide), replaceMark_cons hzero, ih]
        rfl
      · by_cases hslash : c = '/'
        · subst hslash
          change replaceMark '1' '/' ('~' :: '1' :: rest.flatMap escapeChar) = _
          rw [replaceMark, if_pos rfl, ih]
          rfl
        · have hescape : escapeChar c = [c] := by simp [escapeChar, htilde, hslash]
          have hplain : escapeTilde c = [c] := by simp [escapeTilde, htilde]
          rw [hescape, hplain, List.singleton_append, List.singleton_append,
            replaceMark_cons htilde, ih]

theorem replaceMark_tilde (cs : List Char) :
    replaceMark '0' '~' (cs.flatMap escapeTilde) = cs := by
  induction cs with
  | nil => rfl
  | cons c rest ih =>
      rw [List.flatMap_cons]
      by_cases htilde : c = '~'
      · subst htilde
        change replaceMark '0' '~' ('~' :: '0' :: rest.flatMap escapeTilde) = _
        rw [replaceMark, if_pos rfl, ih]
      · have hplain : escapeTilde c = [c] := by simp [escapeTilde, htilde]
        rw [hplain, List.singleton_append, replaceMark_cons htilde, ih]

theorem unescape_escape (cs : List Char) : unescape (cs.flatMap escapeChar) = cs := by
  rw [unescape, replaceMark_slash, replaceMark_tilde]

/-- No escaped token has a slash in it. -/
theorem slash_not_mem_escape (cs : List Char) : '/' ∉ cs.flatMap escapeChar := by
  intro h
  obtain ⟨c, -, hc⟩ := List.mem_flatMap.mp h
  unfold escapeChar at hc
  split at hc
  · simp at hc
  · split at hc
    · simp at hc
    · next hslash => exact hslash (List.mem_singleton.mp hc).symm

/-! ## Joined paths -/

/-- A piece without slashes ends where the slash of the next token stands. -/
theorem splitOn_tokens {piece : List Char} (h : '/' ∉ piece) (tokens : List String) :
    (piece ++ tokens.flatMap fun t => '/' :: t.toList.flatMap escapeChar).splitOn '/' =
      piece :: tokens.map fun t => t.toList.flatMap escapeChar := by
  induction tokens generalizing piece with
  | nil =>
      rw [List.flatMap_nil, List.append_nil]
      exact List.splitOn_eq_singleton h
  | cons t rest ih =>
      rw [List.flatMap_cons, List.cons_append, List.splitOn_append_cons_self_of_not_mem h,
        ih (slash_not_mem_escape _), List.map_cons]

/-- Tokens joined to a path are what is read from it. -/
theorem split_join (tokens : List String) : split (join "" tokens) = tokens := by
  have hpieces : (join "" tokens).toList.splitOn '/' =
      [] :: tokens.map fun t => t.toList.flatMap escapeChar := by
    rw [toList_join, String.toList_empty]
    exact splitOn_tokens List.not_mem_nil tokens
  have hread : ∀ t : String, String.ofList (unescape (t.toList.flatMap escapeChar)) = t :=
    fun t => by rw [unescape_escape, String.ofList_toList]
  rw [split, hpieces, List.drop_one, List.tail_cons, List.map_map]
  exact (List.map_congr_left fun t _ => hread t).trans (List.map_id' tokens)

theorem join_injective {ts us : List String} (h : join "" ts = join "" us) : ts = us := by
  rw [← split_join ts, h, split_join]

/-- A path is what its base and its tokens are written as, the one behind the other. -/
theorem join_eq_append (base : String) (tokens : List String) :
    join base tokens = base ++ join "" tokens := by
  rw [← String.toList_inj, String.toList_append, toList_join, toList_join, String.toList_empty,
    List.nil_append]

theorem join_eq_join_iff (base : String) (ts us : List String) :
    join base ts = join base us ↔ ts = us := by
  constructor
  · intro h
    rw [join_eq_append base ts, join_eq_append base us] at h
    exact join_injective (String.append_right_inj base |>.mp h)
  · exact congrArg (join base)

/-- Tokens can be appended in two goes. -/
theorem join_append (base : String) (ts us : List String) :
    join base (ts ++ us) = join (join base ts) us := List.foldl_append

/-- A path below the `schemas` section is one more token away from the root of the spec. -/
theorem inSchemas_join (tokens : List String) :
    inSchemas (join "" tokens) = join "" ("schemas" :: tokens) := by
  have hpush : join "" ["schemas"] = "/schemas" := by decide
  rw [← List.singleton_append, join_append, hpush, join_eq_append "/schemas", inSchemas]

/-! ## Escapes in two passes -/

def escapeSlash (c : Char) : List Char := if c = '/' then ['~', '1'] else [c]

/-- The tildes of the marks come after those of the text, so no escape is escaped. -/
theorem escape_eq_passes (token : String) :
    escape token = String.ofList ((token.toList.flatMap escapeTilde).flatMap escapeSlash) := by
  have hchar : ∀ c, (escapeTilde c).flatMap escapeSlash = escapeChar c := by
    intro c
    unfold escapeTilde escapeChar
    split
    · rfl
    · exact List.flatMap_singleton escapeSlash c
  rw [escape, List.flatMap_assoc]
  simp only [hchar]

/-! ## The encoding -/

/-- A path says of every token where it begins and ends: from the path below a base the tokens can be
told, and they are read from it by splitting at the slashes and undoing the escapes, which were made of
the tildes first and of the slashes then. A path can be written in as many goes as one likes. Reading
back what was joined (`split_join`) gives all of it. -/
theorem join_encodes_tokens :
    (∀ base ts us, join base ts = join base us ↔ ts = us)
    ∧ (∀ ts, split (join "" ts) = ts)
    ∧ (∀ base ts us, join base (ts ++ us) = join (join base ts) us)
    ∧ ∀ token, escape token =
        String.ofList ((token.toList.flatMap escapeTilde).flatMap escapeSlash) :=
  ⟨join_eq_join_iff, split_join, join_append, escape_eq_passes⟩

end ActorSpec.SpecPath
