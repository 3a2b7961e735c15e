import ActorSpec.Failure
import ActorSpec.Proofs.SpecSessions
import ActorSpec.Proofs.TextFaults

/-!
# Loads that fail

A load looks at the path, at the bytes, at the tree of the text and at its scalars, and fails with the
first of them that something is wrong with. What is wrong with the scalars is the first fault of a walk
level by level (`Node.firstFault?`). Nothing that the walk lists is a fault of its own: it makes the text
malformed, or it comes from a scalar with the form of a number, a date or a truth value
(`Node.isOfScalar_of_firstFault?`), and one induction over the tree shows this for all that is listed
(`Node.AreOfScalars`).

Such a failure is foreseen but for three kinds of files: one that is reached by a name that is too long,
one with bytes that are no text, and one whose text has something with a form and no value in it
(`FileTree.IsUnreadable`). A text with an alias inside of what it stands for has no tree, and nothing is
said of it (`FileTree.HoldsAcyclic`).
-/

namespace ActorSpec

namespace Yaml

/-! ## Faults of scalars -/

/-- The fault of a node that has the form, or the tag, of a truth value, a number or a date. -/
inductive Fault.IsOfScalar : Fault → Prop where
  | text {tag : Tag} {text : String} {start : Mark} {fault : Fault}
      (h : scalarOf tag text start = .error fault)
      (htag : tag = .bool ∨ tag = .int ∨ tag = .float ∨ tag = .timestamp) : IsOfScalar fault
  | parts : IsOfScalar .momentOfParts

theorem scalarOf_eq_error {tag : Tag} {text : String} {start : Mark} {fault : Fault}
    (h : scalarOf tag text start = .error fault) : fault = .malformed ∨ fault.IsOfScalar := by
  cases tag with
  | bool => exact .inr (.text h (.inl rfl))
  | int => exact .inr (.text h (.inr (.inl rfl)))
  | float => exact .inr (.text h (.inr (.inr (.inl rfl))))
  | timestamp => exact .inr (.text h (.inr (.inr (.inr rfl))))
  | null | str => cases h
  | binary =>
      rw [scalarOf, binaryOf] at h
      split at h
      · split at h
        · cases h
        · exact .inl (Except.error.inj h).symm
      · exact .inl (Except.error.inj h).symm
  | merge | value | seq | map | omap | pairs | set | other =>
      exact .inl (Except.error.inj h).symm

namespace Node

/-- What is listed at a level comes from scalars, or says that a node is not what its tag calls it. -/
def AreOfScalars (faults : List LevelFault) : Prop :=
  ∀ f ∈ faults, f.fault = .malformed ∨ f.fault.IsOfScalar

namespace AreOfScalars

variable {l₁ l₂ : List LevelFault}

theorem nil : AreOfScalars [] := fun _ h => absurd h List.not_mem_nil

theorem append (h₁ : AreOfScalars l₁) (h₂ : AreOfScalars l₂) : AreOfScalars (l₁ ++ l₂) :=
  fun f hf => (List.mem_append.mp hf).elim (h₁ f) (h₂ f)

theorem ite {c : Prop} [Decidable c] (h₁ : AreOfScalars l₁) (h₂ : AreOfScalars l₂) :
    AreOfScalars (if c then l₁ else l₂) := by
  split
  · exact h₁
  · exact h₂

theorem faultAt {α : Type} (level : Nat) {result : Except Fault α}
    (h : ∀ fault, result = .error fault → fault = .malformed ∨ fault.IsOfScalar) :
    AreOfScalars (faultAt level result) := by
  cases result with
  | ok a => exact nil
  | error fault =>
      intro f hf
      obtain rfl := List.mem_singleton.mp hf
      exact h fault rfl

theorem malformed (level : Nat) : AreOfScalars [⟨level, .malformed⟩] :=
  fun _ hf => .inl (List.mem_singleton.mp hf ▸ rfl)

theorem asScalar (level : Nat) (tag : Tag) (n : Node) :
    AreOfScalars (Node.faultAt level (n.asScalar tag)) := by
  refine faultAt level fun fault h => ?_
  unfold Node.asScalar at h
  split at h
  · split at h
    · exact .inr (Except.error.inj h ▸ .parts)
    · exact scalarOf_eq_error h
  · exact scalarOf_eq_error h
  · exact .inl (Except.error.inj h).symm

theorem misfit (level : Nat) (tag : Tag) (n : Node) : AreOfScalars (Node.misfit level tag n) :=
  .ite (.malformed (level + 1)) (.asScalar level tag n)

end AreOfScalars

mutual

theorem faultsFrom_areOfScalars (level : Nat) : ∀ n : Node, AreOfScalars (n.faultsFrom level)
  | .scalar tag text m => by
      rw [faultsFrom]
      exact .misfit level tag _
  | .sequence tag items m => by
      rw [faultsFrom]
      exact .ite (itemFaults_areOfScalars (level + 1) items)
        (.ite (pairFaults_areOfScalars (level + 1) items) (.misfit level tag _))
  | .mapping tag entries m => by
      rw [faultsFrom]
      refine .ite (.ite ?_ (.malformed (level + 1))) (.misfit level tag _)
      exact .append (mergedFaults_areOfScalars (level + 1) entries)
        (ownFaults_areOfScalars (level + 1) entries)

theorem itemFaults_areOfScalars (level : Nat) :
    ∀ items : List Node, AreOfScalars (itemFaults level items)
  | [] => by
      rw [itemFaults]
      exact .nil
  | n :: rest => by
      rw [itemFaults]
      exact (faultsFrom_areOfScalars level n).append (itemFaults_areOfScalars level rest)

theorem pairFaults_areOfScalars (level : Nat) :
    ∀ items : List Node, AreOfScalars (pairFaults level items)
  | [] => by
      rw [pairFaults]
      exact .nil
  | n :: rest => by
      rw [pairFaults]
      exact (pairFault_areOfScalars level n).append (pairFaults_areOfScalars level rest)

theorem pairFault_areOfScalars (level : Nat) : ∀ n : Node, AreOfScalars (n.pairFault level)
  | .mapping _ [(k, v)] _ => by
      rw [pairFault]
      exact (faultsFrom_areOfScalars level k).append (faultsFrom_areOfScalars level v)
  | .scalar .. | .sequence .. | .mapping _ [] _ | .mapping _ (_ :: _ :: _) _ => by
      rw [pairFault]
      · exact .malformed level
      all_goals nofun

theorem ownFaults_areOfScalars (level : Nat) :
    ∀ entries : List (Node × Node), AreOfScalars (ownFaults level entries)
  | [] => by
      rw [ownFaults]
      exact .nil
  | (k, v) :: rest => by
      rw [ownFaults]
      have hrest := ownFaults_areOfScalars level rest
      exact .ite hrest (((AreOfScalars.asScalar level _ k).append (faultsFrom_areOfScalars level v)).append hrest)

theorem mergedFaults_areOfScalars (level : Nat) :
    ∀ entries : List (Node × Node), AreOfScalars (mergedFaults level entries)
  | [] => by
      rw [mergedFaults]
      exact .nil
  | (k, v) :: rest => by
      rw [mergedFaults]
      exact .append (.ite (sourceFaults_areOfScalars level v) .nil) (mergedFaults_areOfScalars level rest)

theorem sourceFaults_areOfScalars (level : Nat) : ∀ n : Node, AreOfScalars (n.sourceFaults level)
  | .scalar .. => by
      rw [sourceFaults]
      exact .nil
  | .sequence _ items _ => by
      rw [sourceFaults]
      exact sourcesFaults_areOfScalars level items
  | .mapping _ entries _ => by
      rw [sourceFaults]
      exact (mergedFaults_areOfScalars level entries).append (ownFaults_areOfScalars level entries)

theorem sourcesFaults_areOfScalars (level : Nat) :
    ∀ items : List Node, AreOfScalars (sourcesFaults level items)
  | [] => by
      rw [sourcesFaults]
      exact .nil
  | n :: rest => by
      rw [sourcesFaults]
      exact (sourcesFaults_areOfScalars level rest).append (sourceFaults_areOfScalars level n)

end

theorem mem_of_firstFault? {root : Node} {fault : Fault} (h : root.firstFault? = some fault) :
    ∃ f ∈ root.faults, f.fault = fault := by
  have hearliest : ∀ (l : List LevelFault) (f : LevelFault),
      l.foldl (fun a b => if b.level < a.level then b else a) f ∈ f :: l := by
    intro l
    induction l with
    | nil => exact fun f => List.mem_cons_self ..
    | cons g rest ih =>
        intro f
        rcases List.mem_cons.mp (ih (if g.level < f.level then g else f)) with heq | hrest
        · rw [List.foldl_cons, heq]
          split
          · exact List.mem_cons_of_mem _ (List.mem_cons_self ..)
          · exact List.mem_cons_self ..
        · exact List.mem_cons_of_mem _ (List.mem_cons_of_mem _ hrest)
  rw [firstFault?] at h
  split at h
  · cases h
  · next f rest hfaults =>
      rw [hfaults]
      exact ⟨_, hearliest rest f, Option.some.inj h⟩

theorem isOfScalar_of_firstFault? {root : Node} {fault : Fault} (h : root.firstFault? = some fault) :
    fault = .malformed ∨ fault.IsOfScalar := by
  obtain ⟨f, hf, rfl⟩ := mem_of_firstFault? h
  exact faultsFrom_areOfScalars 0 root f hf

end Node

end Yaml

/-! ## Texts without a value -/

namespace Spec

/-- The text holds a mapping, or nothing. -/
def HoldsMapping (text : String) : Prop :=
  dataOf text = .ok .null ∨ ∃ entries, dataOf text = .ok (.mapping entries)

/-- A fault of something in a text that has the form, or the tag, of a character, a version, a truth
value, a number or a date, and no value. -/
inductive HoldsValueless (text : String) : Yaml.Fault → Prop where
  | character {code : Nat} (h : Yaml.Node.ofText text = .error (.character code))
      (hcode : 0x110000 ≤ code) : HoldsValueless text (.character code)
  | version {digits : Nat} (h : Yaml.Node.ofText text = .error (.longInteger digits))
      (hlong : Numeral.maxDigits < digits) : HoldsValueless text (.longInteger digits)
  | scalar {root : Yaml.Node} {fault : Yaml.Fault} (h : Yaml.Node.ofText text = .ok (some root))
      (hfirst : root.firstFault? = some fault) (hscalar : fault.IsOfScalar)
      (hvalueless : fault ≠ .malformed) : HoldsValueless text fault

variable {text origin : String} {fault : Yaml.Fault}

theorem dataOf_of_none (h : Yaml.Node.ofText text = .ok none) : dataOf text = .ok .null := by
  rw [dataOf, h]
  rfl

theorem dataOf_of_some {root : Yaml.Node} (h : Yaml.Node.ofText text = .ok (some root)) :
    dataOf text = root.data := by
  rw [dataOf, h]
  rfl

theorem dataOf_of_error (h : Yaml.Node.ofText text = .error fault) :
    dataOf text = .error fault := by
  rw [dataOf, h]
  rfl

/-- A text whose nodes are read has no cycle. -/
theorem isAcyclic_of_firstFault? (h : (root? text).bind (·.firstFault?) = some fault) :
    Yaml.IsAcyclic text := by
  obtain ⟨root, hroot, -⟩ := Option.bind_eq_some_iff.mp h
  intro hendless
  rw [root?, hendless] at hroot
  cases hroot

theorem dataOf_of_firstFault? (h : (root? text).bind (·.firstFault?) = some fault) :
    dataOf text = .error fault := by
  obtain ⟨root, hroot, hfirst⟩ := Option.bind_eq_some_iff.mp h
  cases htree : Yaml.Node.ofText text with
  | error first =>
      rw [root?, htree] at hroot
      cases hroot
  | ok found =>
      rw [root?, htree] at hroot
      obtain rfl : found = some root := hroot
      rw [dataOf_of_some htree, Yaml.Node.data, hfirst]

/-- Those are the faults that a text without a cycle has while it is well-formed. -/
theorem holdsValueless_iff (hacyclic : Yaml.IsAcyclic text) :
    HoldsValueless text fault ↔ dataOf text = .error fault ∧ fault ≠ .malformed := by
  constructor
  · intro h
    cases h with
    | character h => exact ⟨dataOf_of_error h, nofun⟩
    | version h => exact ⟨dataOf_of_error h, nofun⟩
    | scalar h hfirst _ hvalueless =>
        refine ⟨(dataOf_of_some h).trans ?_, hvalueless⟩
        rw [Yaml.Node.data, hfirst]
  · rintro ⟨h, hvalueless⟩
    cases htree : Yaml.Node.ofText text with
    | error first =>
        obtain rfl : first = fault := Except.error.inj ((dataOf_of_error htree).symm.trans h)
        cases Yaml.reads_ofText text first htree with
        | malformed => exact absurd rfl hvalueless
        | character hcode => exact .character htree hcode
        | longVersion hlong => exact .version htree hlong
        | endless => exact absurd htree hacyclic
    | ok root? =>
        cases root? with
        | none => cases (dataOf_of_none htree).symm.trans h
        | some root =>
            have hdata : root.data = .error fault := (dataOf_of_some htree).symm.trans h
            rw [Yaml.Node.data] at hdata
            split at hdata
            · cases hdata
            · next first hfirst =>
                obtain rfl : first = fault := Except.error.inj hdata
                exact .scalar htree hfirst
                  ((Yaml.Node.isOfScalar_of_firstFault? hfirst).resolve_left hvalueless) hvalueless

/-- Where a text has data its values have positions. -/
theorem exists_positions {v : Value} (h : dataOf text = .ok v) :
    ∃ positions, SourceMap.ofText text = .ok positions := by
  cases htree : Yaml.Node.ofText text with
  | error fault => cases (dataOf_of_error htree).symm.trans h
  | ok root? =>
      rw [SourceMap.ofText, htree]
      cases root? <;> exact ⟨_, rfl⟩

/-- What has content is a spec. -/
theorem exists_ofText {content : Mapping Value} (h : contentOf text origin = .ok content) :
    ∃ spec, ofText text origin = .ok spec := by
  obtain ⟨v, hv, -⟩ := data_of_contentOf h
  obtain ⟨positions, hpositions⟩ := exists_positions hv
  refine ⟨⟨content, positions⟩, ?_⟩
  rw [ofText, h, hpositions]
  rfl

theorem exists_ofText_iff : (∃ spec, ofText text origin = .ok spec) ↔ HoldsMapping text := by
  constructor
  · rintro ⟨spec, h⟩
    obtain ⟨v, hv, hkind⟩ := data_of_contentOf (content_and_positions h).1
    rcases hkind with rfl | ⟨rfl, -⟩
    · exact .inr ⟨_, hv⟩
    · exact .inl hv
  · rintro (hnull | ⟨entries, hentries⟩)
    · have hcontent : contentOf text origin = .ok [] := by rw [contentOf, hnull]
      exact exists_ofText hcontent
    · have hcontent : contentOf text origin = .ok entries := by rw [contentOf, hentries]
      exact exists_ofText hcontent

theorem contentOf_eq_scalar_iff (hacyclic : Yaml.IsAcyclic text) (origin : String) :
    contentOf text origin = .error (.scalar fault) ↔ HoldsValueless text fault := by
  rw [holdsValueless_iff hacyclic, contentOf]
  constructor
  · intro h
    split at h
    · cases h
    · cases h
    · cases h
    · cases h
    · next hne hdata =>
        obtain rfl := ContentFault.scalar.inj (Except.error.inj h)
        exact ⟨hdata, hne⟩
  · rintro ⟨h, hvalueless⟩
    rw [h]
    cases fault <;> first | rfl | exact absurd rfl hvalueless

theorem ofText_eq_scalar_iff (hacyclic : Yaml.IsAcyclic text) :
    ofText text origin = .error (.scalar fault) ↔ HoldsValueless text fault := by
  rw [← contentOf_eq_scalar_iff hacyclic origin]
  cases hcontent : contentOf text origin with
  | error first =>
      have hspec : ofText text origin = .error first := by
        rw [ofText, hcontent]
        rfl
      rw [hspec]
      constructor
      · exact fun h => congrArg _ (Except.error.inj h)
      · exact fun h => congrArg _ (Except.error.inj h)
  | ok content =>
      obtain ⟨spec, hspec⟩ := exists_ofText hcontent
      rw [hspec]
      constructor
      · intro h
        cases h
      · intro h
        cases h

end Spec

/-! ## Loads -/

theorem decodeText?_eq_none_iff {bytes : ByteArray} :
    decodeText? bytes = none ↔ String.fromUTF8? bytes = none := by
  rw [decodeText?, Option.map_eq_none_iff, Text.decode?, Option.map_eq_none_iff]

namespace FileTree

variable {t : FileTree} {p : FilePath}

/-- No text that the file holds has an alias inside of what it stands for. -/
def HoldsAcyclic (t : FileTree) (p : FilePath) : Prop :=
  ∀ bytes text, t.at? p = some (.file bytes) → decodeText? bytes = some text → Yaml.IsAcyclic text

/-- Why a reading fails as it is not foreseen: the file cannot even be asked about, its bytes are no text,
or the text holds something without a value. -/
def IsUnreadable (t : FileTree) (p : FilePath) : Prop :=
  t.placeOf p = .error .nameTooLong
    ∨ ∃ bytes, t.at? p = some (.file bytes) ∧ (String.fromUTF8? bytes = none
        ∨ ∃ text fault, decodeText? bytes = some text ∧ Spec.HoldsValueless text fault)

theorem exists_readSpec_iff : (∃ spec, t.readSpec p = .ok spec) ↔
    ∃ bytes text, t.at? p = some (.file bytes) ∧ decodeText? bytes = some text
      ∧ Spec.HoldsMapping text := by
  constructor
  · rintro ⟨spec, h⟩
    obtain ⟨bytes, text, hfile, htext, hcontent, -⟩ := readSpec_eq_ok_iff.mp h
    exact ⟨bytes, text, hfile, htext, Spec.exists_ofText_iff.mp (Spec.exists_ofText hcontent)⟩
  · rintro ⟨bytes, text, hfile, htext, hholds⟩
    obtain ⟨spec, hspec⟩ : ∃ spec, Spec.ofText text ("file " ++ p.text) = .ok spec :=
      Spec.exists_ofText_iff.mpr hholds
    refine ⟨spec, ?_⟩
    simp only [readSpec, ask_eq_some_iff.mpr hfile, htext, hspec]
    rfl

theorem isUnreadable_of_unforeseen (hacyclic : t.HoldsAcyclic p) {fault : SpecFault}
    (h : t.readSpec p = .error fault) (hunforeseen : (Failure.spec fault).isForeseen = false) :
    t.IsUnreadable p := by
  rw [readSpec] at h
  split at h
  · next hask => exact .inl (ask_eq_error_iff.mp hask).1
  · obtain rfl := Except.error.inj h
    cases hunforeseen
  · obtain rfl := Except.error.inj h
    cases hunforeseen
  · next bytes hask =>
      have hfile := ask_eq_some_iff.mp hask
      refine .inr ⟨bytes, hfile, ?_⟩
      split at h
      · next hnone => exact .inl (decodeText?_eq_none_iff.mp hnone)
      · next text htext =>
          cases hspec : Spec.ofText text ("file " ++ p.text) with
          | ok spec =>
              rw [hspec] at h
              cases h
          | error first =>
              rw [hspec] at h
              obtain rfl := Except.error.inj h
              cases first with
              | unparsable | notAMapping => cases hunforeseen
              | scalar fault =>
                  have hholds := (Spec.ofText_eq_scalar_iff (hacyclic bytes text hfile htext)).mp hspec
                  exact .inr ⟨text, fault, htext, hholds⟩

/-- The failures of a reading that are not foreseen. -/
theorem readSpec_unforeseen_iff (hacyclic : t.HoldsAcyclic p) :
    (∃ fault, t.readSpec p = .error fault ∧ (Failure.spec fault).isForeseen = false) ↔
      t.IsUnreadable p := by
  constructor
  · rintro ⟨fault, h, hunforeseen⟩
    exact isUnreadable_of_unforeseen hacyclic h hunforeseen
  · rintro (hlong | ⟨bytes, hfile, hnone | ⟨text, fault, htext, hholds⟩⟩)
    · refine ⟨.unreachable ⟨.nameTooLong, p⟩, ?_, rfl⟩
      simp only [readSpec, ask_eq_error_iff.mpr ⟨hlong, rfl⟩]
    · refine ⟨.undecodable, ?_, rfl⟩
      simp only [readSpec, ask_eq_some_iff.mpr hfile, decodeText?_eq_none_iff.mpr hnone]
    · have hspec : Spec.ofText text ("file " ++ p.text) = .error (.scalar fault) :=
        (Spec.ofText_eq_scalar_iff (hacyclic bytes text hfile htext)).mpr hholds
      refine ⟨.content (.scalar fault), ?_, rfl⟩
      simp only [readSpec, ask_eq_some_iff.mpr hfile, htext, hspec]
      rfl

end FileTree

namespace SpecStore

/-- A load gives a spec if it has kept one, or if the file holds a mapping or nothing. Otherwise, where
no text has an alias inside of what it stands for, it fails as it is foreseen, unless a step of the path
is too long, or there is a file whose bytes are no text or whose text holds something without a value.
What is wrong with a text is its first fault, and that is a fault of a scalar or makes the text
malformed (`Yaml.Node.isOfScalar_of_firstFault?`). -/
theorem load_outcomes (s : SpecStore) (t : FileTree) (p : FilePath) :
    ((∃ spec, (s.load t p).result = .ok spec) ↔
      (∃ spec, s.find? p = some spec)
        ∨ ∃ bytes text, t.at? p = some (.file bytes) ∧ decodeText? bytes = some text
            ∧ Spec.HoldsMapping text)
    ∧ (t.HoldsAcyclic p →
      ((∃ fault, (s.load t p).result = .error fault ∧ (Failure.spec fault).isForeseen = false) ↔
        s.find? p = none ∧ t.IsUnreadable p)) := by
  cases hfind : s.find? p with
  | some kept =>
      rw [(load_of_some hfind).2]
      exact ⟨iff_of_true ⟨kept, rfl⟩ (.inl ⟨kept, rfl⟩), fun _ => iff_of_false (by simp) (by simp)⟩
  | none =>
      rw [(load_of_none hfind).2]
      constructor
      · rw [FileTree.exists_readSpec_iff]
        exact ⟨.inr, (·.resolve_left (by simp))⟩
      · intro hacyclic
        rw [FileTree.readSpec_unforeseen_iff hacyclic]
        exact ⟨fun h => ⟨rfl, h⟩, And.right⟩

/-- A date in a month that is not there. -/
def datelessText : String := "day: 2024-13-45\n"

theorem firstFault?_datelessText :
    (Spec.root? datelessText).bind (·.firstFault?) = some (.calendar .month) := by decide +kernel

/-- The text is read, so it has no alias inside of what it stands for, and its date is not foreseen. -/
theorem datelessText_unreadable :
    (SpecSession.specTree datelessText).HoldsAcyclic SpecSession.specFile
    ∧ (SpecSession.specTree datelessText).IsUnreadable SpecSession.specFile
    ∧ ∃ fault, ((empty true).load (SpecSession.specTree datelessText) SpecSession.specFile).result =
          .error fault
        ∧ (Failure.spec fault).isForeseen = false := by
  have hfile := SpecSession.at?_specTree datelessText
  have htext : decodeText? datelessText.toUTF8 = some datelessText := decodeText?_toUTF8 (by decide)
  have hdata := Spec.dataOf_of_firstFault? firstFault?_datelessText
  have hread : Yaml.IsAcyclic datelessText := Spec.isAcyclic_of_firstFault? firstFault?_datelessText
  have hacyclic : (SpecSession.specTree datelessText).HoldsAcyclic SpecSession.specFile := by
    intro bytes text hbytes hdecoded
    cases hbytes.symm.trans hfile
    cases hdecoded.symm.trans htext
    exact hread
  have hunreadable : (SpecSession.specTree datelessText).IsUnreadable SpecSession.specFile :=
    .inr ⟨_, hfile, .inr ⟨_, _, htext, (Spec.holdsValueless_iff hread).mpr ⟨hdata, nofun⟩⟩⟩
  obtain ⟨-, hunforeseen⟩ :=
    load_outcomes (empty true) (SpecSession.specTree datelessText) SpecSession.specFile
  exact ⟨hacyclic, hunreadable, (hunforeseen hacyclic).mpr ⟨rfl, hunreadable⟩⟩

/-- Not UTF-8: the byte behind the colon is a letter of another encoding. -/
def latinBytes : ByteArray := ⟨#[0x61, 0x3a, 0x20, 0xe9, 0x0a]⟩

def latinTree : FileTree :=
  ⟨["work"], [(["work"], .directory), (["work", "spec.yml"], .file latinBytes)]⟩

/-- The failure of both is not foreseen, though neither file holds a mapping. -/
theorem dateless_and_latin_unforeseen :
    ((empty true).load (SpecSession.specTree datelessText) SpecSession.specFile).result =
        .error (.content (.scalar (.calendar .month)))
    ∧ (Failure.spec (.content (.scalar (.calendar .month)))).isForeseen = false
    ∧ ((empty true).load latinTree SpecSession.specFile).result = .error .undecodable
    ∧ (Failure.spec .undecodable).isForeseen = false := by
  refine ⟨?_, rfl, ?_, rfl⟩
  · have hcontent := Spec.dataOf_of_firstFault? firstFault?_datelessText
    rw [(load_of_none rfl).2, SpecSession.readSpec_specTree (by decide), Spec.ofText, Spec.contentOf,
      hcontent]
    rfl
  · have hbytes : decodeText? latinBytes = none := by decide +kernel
    have hfile : latinTree.at? SpecSession.specFile = some (.file latinBytes) := by
      rw [FileTree.at?, SpecSession.placeOf_specFile latinTree rfl]
      rfl
    rw [(load_of_none rfl).2]
    simp only [FileTree.readSpec, FileTree.ask_eq_some_iff.mpr hfile, hbytes]

end SpecStore

end ActorSpec
