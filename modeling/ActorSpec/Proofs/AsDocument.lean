import ActorSpec.Proofs.Following
import ActorSpec.Proofs.TextLiterals
import Mathlib.Data.List.Induction
import ActorSpec.Value.Display

/-!
# Values as documents have them

A document knows lists but no tuples, one NaN, and texts as the only keys (`Value.asDocument`). Keys that
get the same text become one entry, with the place of the first and the value of the last
(`Mapping.lastOfEach`), which is what inserting them one after the other gives. A value that is like that
already stays as it is (`Value.asDocument_eq_self`). Sets are in no document, nor are dates, bytes and
integers of too many digits (`Value.isWritable`).
-/

namespace ActorSpec

/-! ## Entries with one text -/

namespace Mapping

variable {α : Type}

/-- Every name once, in the order of the first entries, with the value of the last. -/
def lastOfEach (entries : List (String × α)) : Mapping α :=
  (entries.map (·.1)).eraseDups.filterMap fun name =>
    ((entries.filter (·.1 = name)).getLast?).map fun e => (.str name, e.2)

theorem keys_ofEntries_ofFieldList (entries : List (String × α)) :
    (ofEntries (ofFieldList entries)).keys = (entries.map (·.1)).eraseDups.map Scalar.str := by
  induction entries using List.reverseRecOn with
  | nil => rfl
  | append_singleton entries e ih =>
      have hstep : ofEntries (ofFieldList (entries ++ [e])) =
          (ofEntries (ofFieldList entries)).insert (.str e.1) e.2 := by
        rw [ofFieldList, List.map_append]
        exact List.foldl_append
      rw [hstep, keys_insert, ih, contains_ofEntries, List.map_append, List.map_singleton,
        List.eraseDups_append]
      by_cases hmem : e.1 ∈ entries.map (·.1)
      · have hknown : [e.1].removeAll (entries.map (·.1)) = [] :=
          List.filter_cons_of_neg (by simpa using hmem)
        rw [if_pos ((contains_ofFieldList entries e.1).mpr hmem), hknown, List.eraseDups_nil,
          List.append_nil]
      · have hnew : [e.1].removeAll (entries.map (·.1)) = [e.1] :=
          List.filter_cons_of_pos (by simpa using hmem)
        rw [if_neg (mt (contains_ofFieldList entries e.1).mp hmem), hnew, List.map_append]
        rfl

/-- A mapping is its keys with what they find. -/
theorem eq_filterMap_keys {m : Mapping α} (hd : m.Distinct) :
    m = m.keys.filterMap fun key => (m.get? key).map (key, ·) := by
  rw [keys, List.filterMap_map]
  refine Eq.trans ?_ (List.filterMap_congr (f := some) fun e he => ?_)
  · exact List.filterMap_some.symm
  · rw [Function.comp_apply, get?_of_mem hd he]
    rfl

/-- Inserting entries one after the other keeps the first place and the last value of every name. -/
theorem ofEntries_ofFieldList (entries : List (String × α)) :
    ofEntries (ofFieldList entries) = lastOfEach entries := by
  rw [eq_filterMap_keys (distinct_ofEntries _), keys_ofEntries_ofFieldList, List.filterMap_map,
    lastOfEach]
  refine List.filterMap_congr fun name _ => ?_
  rw [Function.comp_apply, get?_ofEntries, get?_reverse_ofFieldList, Option.map_map]
  rfl

end Mapping

/-! ## Scalars in documents -/

/-- The text of a key. Doubles without digits have the names that documents have for them. -/
def Scalar.keyName : Scalar → String
  | .null => "null"
  | .bool b => if b then "true" else "false"
  | .float .nan | .nan .. => "NaN"
  | .float (.infinity negative) => if negative then "-Infinity" else "Infinity"
  | s => s.display

/-- A scalar as a document has it, once it is read. -/
def Scalar.asDocument (charset : Json.Charset) : Scalar → Scalar
  | .nan .. => .float .nan
  | .str s => .str (Json.readBack charset s)
  | s => s

/-- A text of code points, or anything else but a NaN of its own. -/
def Scalar.isStandard : Scalar → Bool
  | .str s => decide (Text.IsProper s)
  | .nan .. => false
  | _ => true

theorem Scalar.asDocument_eq_self {s : Scalar} (h : s.isStandard = true) :
    s.asDocument .unicode = s := by
  cases s with
  | str s => exact congrArg Scalar.str (Json.readBack_of_isProper (of_decide_eq_true h))
  | nan => cases h
  | _ => rfl

/-- A scalar has a text in documents. -/
def Scalar.isWritable : Scalar → Bool
  | .int n => !Numeral.isOverlong n
  | .bytes _ | .date _ | .datetime _ => false
  | _ => true

/-- An encoding has a form for a scalar, if it is a text. -/
def Scalar.isCovered (e : Text.Encoding) : Scalar → Bool
  | .str s => e.covers s
  | _ => true

namespace Value

variable (charset : Json.Charset)

mutual

/-- A value as a document has it: lists for tuples, texts for keys, and one entry for every text. -/
def asDocument : Value → Value
  | .scalar s => .scalar (s.asDocument charset)
  | .list items => .list (itemsAsDocument items)
  | .tuple items => .list (itemsAsDocument items)
  | .set members => .set members
  | .mapping entries => .mapping (Mapping.lastOfEach (fieldsAsDocument entries))

def itemsAsDocument : List Value → List Value
  | [] => []
  | v :: rest => v.asDocument :: itemsAsDocument rest

def fieldsAsDocument : List (Scalar × Value) → List (String × Value)
  | [] => []
  | (key, v) :: rest => (Json.readBack charset key.keyName, v.asDocument) :: fieldsAsDocument rest

end

/-! ## Properties of all parts -/

mutual

/-- A value has a property, and so has everything in it. -/
def everyPart (p : Value → Bool) : Value → Bool
  | .scalar s => p (.scalar s)
  | .list items => p (.list items) && everyItem p items
  | .tuple items => p (.tuple items) && everyItem p items
  | .set members => p (.set members)
  | .mapping entries => p (.mapping entries) && everyEntry p entries

def everyItem (p : Value → Bool) : List Value → Bool
  | [] => true
  | v :: rest => everyPart p v && everyItem p rest

def everyEntry (p : Value → Bool) : List (Scalar × Value) → Bool
  | [] => true
  | (_, v) :: rest => everyPart p v && everyEntry p rest

end

/-- A scalar has a property, or the keys of a mapping or the members of a set have it. -/
def scalarsHave (p : Scalar → Bool) : Value → Bool
  | .scalar s => p s
  | .set members => members.all p
  | .mapping entries => entries.all (p ·.1)
  | .list _ | .tuple _ => true

/-- A property of all scalars, values and keys alike. -/
def everyScalar (p : Scalar → Bool) (v : Value) : Bool := v.everyPart (scalarsHave p)

theorem everyItem_map_str {p : Value → Bool} (texts : List String) :
    everyItem p (texts.map str) = texts.all fun text => p (.str text) := by
  induction texts with
  | nil => rfl
  | cons text rest ih => rw [List.map_cons, everyItem, ih, everyPart, List.all_cons]

theorem itemsAsDocument_map_str (texts : List String) :
    itemsAsDocument charset (texts.map str) = (texts.map (Json.readBack charset)).map str := by
  induction texts with
  | nil => rfl
  | cons text rest ih =>
      rw [List.map_cons, itemsAsDocument, ih, asDocument]
      rfl

def isNoTuple : Value → Bool
  | .tuple _ => false
  | _ => true

/-! ## What documents hold -/

/-- A part of a value has a text in documents, if its own parts have: it is no set, and all scalars in
it have one. -/
def partIsWritable : Value → Bool
  | .scalar s => s.isWritable
  | .set _ => false
  | .mapping entries => entries.all (·.1.isWritable)
  | .list _ | .tuple _ => true

/-- Everything in a value has a text in documents. -/
def isWritable (v : Value) : Bool := v.everyPart partIsWritable

/-- An encoding has forms for all texts of the value. -/
def isCovered (e : Text.Encoding) (v : Value) : Bool := v.everyScalar (Scalar.isCovered e)

/-- No surrogate is in a text of the value. -/
def isEncodable (v : Value) : Bool := v.isCovered .utf8

/-! ## Values that are documents -/

mutual

/-- What has no tuples, nothing but texts for keys, and standard scalars is as documents have it. -/
theorem asDocument_eq_self : ∀ v : Value, v.hasTextKeys = true → v.everyPart isNoTuple = true →
    v.everyPart (scalarsHave Scalar.isStandard) = true → v.WellFormed → v.asDocument .unicode = v
  | .scalar s, _, _, hstandard, _ => by
      rw [everyPart] at hstandard
      rw [asDocument, Scalar.asDocument_eq_self hstandard]
  | .list items, hkeys, hnone, hstandard, hv => by
      rw [hasTextKeys] at hkeys
      rw [everyPart, Bool.and_eq_true] at hnone hstandard
      rw [asDocument, itemsAsDocument_eq_self items hkeys hnone.2 hstandard.2 fun v =>
        hv.of_mem_asList]
  | .tuple items, _, hnone, _, _ => by
      rw [everyPart] at hnone
      cases hnone
  | .set members, _, _, _, _ => by rw [asDocument]
  | .mapping entries, hkeys, hnone, hstandard, hv => by
      rw [hasTextKeys] at hkeys
      rw [everyPart, Bool.and_eq_true] at hnone hstandard
      have hnames : ∀ e ∈ entries, e.1.isStandard = true := List.all_eq_true.mp hstandard.1
      rw [asDocument, ← Mapping.ofEntries_ofFieldList,
        fieldsAsDocument_eq_self entries hkeys hnone.2 hnames hstandard.2 fun e =>
          hv.of_mem_asMapping]
      exact congrArg Value.mapping (Mapping.ofEntries_of_distinct hv.asMapping_distinct)

theorem itemsAsDocument_eq_self : ∀ items : List Value, itemsHaveTextKeys items = true →
    everyItem isNoTuple items = true → everyItem (scalarsHave Scalar.isStandard) items = true →
    (∀ v ∈ items, v.WellFormed) → itemsAsDocument .unicode items = items
  | [], _, _, _, _ => by rw [itemsAsDocument]
  | v :: rest, hkeys, hnone, hstandard, hv => by
      rw [itemsHaveTextKeys, Bool.and_eq_true] at hkeys
      rw [everyItem, Bool.and_eq_true] at hnone hstandard
      obtain ⟨hfirst, hrest⟩ := List.forall_mem_cons.mp hv
      rw [itemsAsDocument, asDocument_eq_self v hkeys.1 hnone.1 hstandard.1 hfirst,
        itemsAsDocument_eq_self rest hkeys.2 hnone.2 hstandard.2 hrest]

theorem fieldsAsDocument_eq_self : ∀ entries : List (Scalar × Value),
    entriesHaveTextKeys entries = true → everyEntry isNoTuple entries = true →
    (∀ e ∈ entries, e.1.isStandard = true) →
    everyEntry (scalarsHave Scalar.isStandard) entries = true →
    (∀ e ∈ entries, e.2.WellFormed) →
    Mapping.ofFieldList (fieldsAsDocument .unicode entries) = entries
  | [], _, _, _, _, _ => by
      rw [fieldsAsDocument]
      rfl
  | (key, v) :: rest, hkeys, hnone, hnames, hstandard, hv => by
      rw [entriesHaveTextKeys, Bool.and_eq_true, Bool.and_eq_true] at hkeys
      rw [everyEntry, Bool.and_eq_true] at hnone hstandard
      obtain ⟨hfirst, hrest⟩ := List.forall_mem_cons.mp hv
      obtain ⟨hname, hothers⟩ := List.forall_mem_cons.mp hnames
      obtain ⟨text, rfl⟩ := Scalar.isText_iff.mp hkeys.1.1
      have hkey : Json.readBack .unicode (Scalar.str text).keyName = text :=
        Json.readBack_of_isProper (of_decide_eq_true hname)
      rw [fieldsAsDocument, hkey, Mapping.ofFieldList, List.map_cons, ← Mapping.ofFieldList,
        asDocument_eq_self v hkeys.1.2 hnone.1 hstandard.1 hfirst,
        fieldsAsDocument_eq_self rest hkeys.2 hnone.2 hothers hstandard.2 hrest]

end

end Value

end ActorSpec
