import ActorSpec.Proofs.Mapping
import ActorSpec.Proofs.SpecPositions
import ActorSpec.Proofs.TreeChanges
import ActorSpec.Spec.Session
import Mathlib.Data.List.DropRight

/-!
# What a session remembers

The steps of a session, each with the files that it met and what it gave, tell what every later load
gives, without a look into the store: the first spec that a load of the same path has given since the
last clearing, and what the file holds if there was none. One step keeps the store and this account in
agreement (`SpecSession.Remembers.next`), so a whole session does (`SpecSession.remembers_after`).
-/

namespace ActorSpec

/-! ## Reading a file -/

/-- The data and the positions of a spec are read off one text, which is that of the file. -/
theorem FileTree.readSpec_eq_ok_iff {t : FileTree} {p : FilePath} {spec : Spec} :
    t.readSpec p = .ok spec ↔ ∃ bytes text, t.at? p = some (.file bytes)
      ∧ decodeText? bytes = some text
      ∧ Spec.contentOf text ("file " ++ p.text) = .ok spec.content
      ∧ SourceMap.ofText text = .ok spec.positions := by
  constructor
  · intro h
    unfold readSpec at h
    split at h
    · cases h
    · cases h
    · cases h
    · next bytes hfile =>
        split at h
        · cases h
        · next text htext =>
            cases hspec : Spec.ofText text ("file " ++ p.text) with
            | error fault =>
                rw [hspec] at h
                cases h
            | ok read =>
                rw [hspec] at h
                obtain rfl : read = spec := Except.ok.inj h
                obtain ⟨hcontent, hpositions⟩ := Spec.content_and_positions hspec
                exact ⟨bytes, text, ask_eq_some_iff.mp hfile, htext, hcontent, hpositions⟩
  · rintro ⟨bytes, text, hfile, htext, hcontent, hpositions⟩
    have hspec : Spec.ofText text ("file " ++ p.text) = .ok spec := by
      rw [Spec.ofText, hcontent, hpositions]
      rfl
    simp only [readSpec, ask_eq_some_iff.mpr hfile, htext, hspec]
    rfl

/-! ## One load -/

namespace SpecStore

variable {s : SpecStore} {t : FileTree} {p q : FilePath} {spec : Spec}

theorem find?_keep (hkeeps : s.keeps = true) (spec : Spec) :
    (s.keep p spec).find? q = if q = p then some spec else s.find? q := by
  simp only [keep, find?, hkeeps, if_true]
  exact lookup_cons_eq_ite (p, spec) s.kept q

theorem load_of_some (h : s.find? p = some spec) :
    (s.load t p).store = s ∧ (s.load t p).result = .ok spec := by
  rw [load, h]
  exact ⟨rfl, rfl⟩

theorem load_of_none (h : s.find? p = none) :
    (s.load t p).store = (match t.readSpec p with
      | .ok spec => s.keep p spec
      | .error _ => s)
    ∧ (s.load t p).result = t.readSpec p := by
  rw [load, h]
  cases t.readSpec p <;> exact ⟨rfl, rfl⟩

theorem keeps_load (s : SpecStore) (t : FileTree) (p : FilePath) :
    (s.load t p).store.keeps = s.keeps := by
  cases hfind : s.find? p with
  | some spec => rw [(load_of_some hfind).1]
  | none =>
      rw [(load_of_none hfind).1]
      split
      · rw [keep]
        split <;> rfl
      · rfl

theorem find?_of_not_keeps (hkeeps : s.keeps = false) (p : FilePath) : s.find? p = none := by
  rw [find?, hkeeps]
  rfl

/-- A load keeps what is there. -/
theorem find?_load_of_some (t : FileTree) (p : FilePath) (h : s.find? q = some spec) :
    (s.load t p).store.find? q = some spec := by
  cases hfind : s.find? p with
  | some found => rw [(load_of_some hfind).1, h]
  | none =>
      have hne : q ≠ p := by
        rintro rfl
        cases h.symm.trans hfind
      have hkeeps : s.keeps = true := by
        by_contra hnot
        cases h.symm.trans (find?_of_not_keeps (Bool.eq_false_iff.mpr hnot) q)
      rw [(load_of_none hfind).1]
      split
      · rw [find?_keep hkeeps, if_neg hne, h]
      · exact h

/-- A load adds what it has read, under its own path. -/
theorem find?_load_of_none (hkeeps : s.keeps = true) (t : FileTree) (p : FilePath)
    (h : s.find? q = none) :
    (s.load t p).store.find? q = if p = q then (t.readSpec q).toOption else none := by
  cases hfind : s.find? p with
  | some found =>
      have hne : p ≠ q := by
        rintro rfl
        cases h.symm.trans hfind
      rw [(load_of_some hfind).1, h, if_neg hne]
  | none =>
      rw [(load_of_none hfind).1]
      by_cases hpq : p = q
      · subst hpq
        rw [if_pos rfl]
        cases t.readSpec p with
        | error fault => exact h
        | ok spec => exact (find?_keep hkeeps spec).trans (if_pos rfl)
      · rw [if_neg hpq]
        split
        · rw [find?_keep hkeeps, if_neg (Ne.symm hpq), h]
        · exact h

end SpecStore

/-! ## Steps and what they gave -/

namespace SpecStep

/-- The path that a step loads from. -/
def path? : SpecStep → Option FilePath
  | .load p | .loadContent p => some p
  | _ => none

def clears : SpecStep → Bool
  | .clear => true
  | _ => false

/-- What a load gives for the result of loading the whole spec. -/
def answerOf (result : Except SpecFault Spec) : SpecStep → SpecAnswer
  | .loadContent _ => .content (result.map (·.content))
  | _ => .spec result

end SpecStep

def SpecAnswer.succeeds : SpecAnswer → Bool
  | .spec (.ok _) | .content (.ok _) => true
  | _ => false

/-- A step with the files that it met and what it gave. -/
structure SpecEvent where
  files : FileTree
  step : SpecStep
  answer : SpecAnswer

/-- A load from the path that has given something. -/
def SpecEvent.succeedsAt (p : FilePath) (e : SpecEvent) : Bool :=
  decide (e.step.path? = some p) && e.answer.succeeds

/-- The first success for a path since the last clearing. -/
def firstSuccess (p : FilePath) (events : List SpecEvent) : Option SpecEvent :=
  (events.rtakeWhile fun e => !e.step.clears).find? (·.succeedsAt p)

theorem firstSuccess_concat (p : FilePath) (events : List SpecEvent) (e : SpecEvent) :
    firstSuccess p (events ++ [e]) = if e.step.clears then none
      else (firstSuccess p events).or (if e.succeedsAt p then some e else none) := by
  rw [firstSuccess, List.rtakeWhile_concat]
  cases e.step.clears with
  | true => rfl
  | false =>
      simp only [Bool.not_false, if_true, Bool.false_eq_true, if_false, List.find?_append,
        List.find?_singleton]
      rfl

namespace SpecSession

/-- A session with a new store. -/
def opened (keeps : Bool) (files : FileTree) : SpecSession := ⟨.empty keeps, files⟩

def event (s : SpecSession) (step : SpecStep) : SpecEvent := ⟨s.files, step, s.answer step⟩

/-- The events of some steps. -/
def events (s : SpecSession) : List SpecStep → List SpecEvent
  | [] => []
  | step :: rest => s.event step :: (s.next step).events rest

variable {s : SpecSession} {step : SpecStep} {p : FilePath}

theorem events_concat (s : SpecSession) (steps : List SpecStep) (step : SpecStep) :
    s.events (steps ++ [step]) = s.events steps ++ [(s.after steps).event step] := by
  induction steps generalizing s with
  | nil => rfl
  | cons first rest ih =>
      rw [List.cons_append, events, events, ih, List.cons_append]
      rfl

theorem after_concat (s : SpecSession) (steps : List SpecStep) (step : SpecStep) :
    s.after (steps ++ [step]) = (s.after steps).next step := by
  rw [after, after, List.foldl_append]
  rfl

theorem answer_eq (h : step.path? = some p) :
    s.answer step = step.answerOf (s.load p).result := by
  cases step with
  | load q | loadContent q =>
      obtain rfl := Option.some.inj h
      rfl
  | _ => cases h

theorem succeeds_answerOf (h : step.path? = some p) (result : Except SpecFault Spec) :
    (step.answerOf result).succeeds = result.isOk := by
  cases step with
  | load q | loadContent q => cases result <;> rfl
  | _ => cases h

theorem store_next_of_path (h : step.path? = some p) :
    (s.next step).store = (s.load p).store := by
  cases step with
  | load q | loadContent q =>
      obtain rfl := Option.some.inj h
      rfl
  | _ => cases h

/-- Only a load or a clearing touches the store. -/
theorem store_next_of_no_path (h : step.path? = none) (hclears : step.clears = false) :
    (s.next step).store = s.store := by
  cases step with
  | load q | loadContent q => cases h
  | clear => cases hclears
  | _ => rfl

/-- A load that fails leaves the store as it is. -/
theorem store_next_of_failure (h : step.path? = some p) (hfails : (s.answer step).succeeds = false) :
    (s.next step).store = s.store := by
  rw [answer_eq h, succeeds_answerOf h] at hfails
  rw [store_next_of_path h]
  rw [load] at hfails ⊢
  cases hfind : s.store.find? p with
  | some spec => exact (SpecStore.load_of_some hfind).1
  | none =>
      obtain ⟨hstore, hresult⟩ := SpecStore.load_of_none (t := s.files) hfind
      rw [hresult] at hfails
      rw [hstore]
      cases hread : s.files.readSpec p with
      | error fault => rfl
      | ok spec =>
          rw [hread] at hfails
          cases hfails

theorem keeps_next (s : SpecSession) (step : SpecStep) :
    (s.next step).store.keeps = s.store.keeps := by
  cases step with
  | load q | loadContent q => exact s.store.keeps_load s.files q
  | _ => rfl

theorem keeps_after (s : SpecSession) (steps : List SpecStep) :
    (s.after steps).store.keeps = s.store.keeps := by
  induction steps generalizing s with
  | nil => rfl
  | cons step rest ih => exact (ih (s.next step)).trans (s.keeps_next step)

/-- An entry of the store stays until the store is cleared. -/
theorem find?_next_of_some {spec : Spec} (hclears : step.clears = false)
    (h : s.store.find? p = some spec) : (s.next step).store.find? p = some spec := by
  cases hpath : step.path? with
  | none => rw [store_next_of_no_path hpath hclears, h]
  | some q =>
      rw [store_next_of_path hpath]
      exact SpecStore.find?_load_of_some s.files q h

theorem find?_next_of_none (hkeeps : s.store.keeps = true) (hclears : step.clears = false)
    (h : s.store.find? p = none) :
    (s.next step).store.find? p =
      if step.path? = some p then (s.files.readSpec p).toOption else none := by
  cases hpath : step.path? with
  | none => rw [store_next_of_no_path hpath hclears, h, if_neg (nomatch ·)]
  | some q =>
      rw [store_next_of_path hpath]
      simp only [Option.some.injEq]
      exact SpecStore.find?_load_of_none hkeeps s.files q h

/-! ## The account of a session -/

/-- What the store has for every path is what the events say. -/
def Remembers (s : SpecSession) (events : List SpecEvent) : Prop :=
  ∀ p, match firstSuccess p events with
    | some e => ∃ spec, e.files.readSpec p = .ok spec ∧ e.answer = e.step.answerOf (.ok spec)
        ∧ s.store.find? p = some spec
    | none => s.store.find? p = none

theorem Remembers.next {events : List SpecEvent} (h : s.Remembers events)
    (hkeeps : s.store.keeps = true) (step : SpecStep) :
    (s.next step).Remembers (events ++ [s.event step]) := by
  intro p
  have hp := h p
  rw [firstSuccess_concat]
  cases hclears : step.clears with
  | true =>
      rw [if_pos (show (s.event step).step.clears = true from hclears)]
      cases step with
      | clear => exact ite_self none
      | _ => cases hclears
  | false =>
      rw [if_neg (show ¬ (s.event step).step.clears = true from Bool.eq_false_iff.mp hclears)]
      cases hfirst : firstSuccess p events with
      | some e =>
          rw [hfirst] at hp
          obtain ⟨spec, hread, hgave, hfind⟩ := hp
          exact ⟨spec, hread, hgave, find?_next_of_some hclears hfind⟩
      | none =>
          rw [hfirst] at hp
          rw [Option.none_or, find?_next_of_none hkeeps hclears hp, SpecEvent.succeedsAt]
          by_cases hpath : step.path? = some p
          · have hanswer : s.answer step = step.answerOf (s.files.readSpec p) := by
              rw [answer_eq hpath, load, (SpecStore.load_of_none hp).2]
            simp only [event, hpath, hanswer, succeeds_answerOf hpath]
            cases hread : s.files.readSpec p with
            | error fault => rfl
            | ok spec => exact ⟨spec, hread, rfl, rfl⟩
          · rw [if_neg hpath, if_neg]
            rw [Bool.and_eq_true, decide_eq_true_iff]
            exact fun h => hpath h.1

theorem remembers_after (files : FileTree) (steps : List SpecStep) :
    ((opened true files).after steps).Remembers ((opened true files).events steps) := by
  induction steps using List.reverseRecOn with
  | nil => exact fun p => rfl
  | append_singleton steps step ih =>
      rw [after_concat, events_concat]
      exact ih.next (keeps_after (opened true files) steps) step

theorem mem_of_firstSuccess {events : List SpecEvent} {e : SpecEvent}
    (h : firstSuccess p events = some e) : e ∈ events :=
  (List.rtakeWhile_suffix ..).subset (List.mem_of_find?_eq_some h)

theorem result_load_of_firstSuccess {files : FileTree} {steps : List SpecStep} {e : SpecEvent}
    (h : firstSuccess p ((opened true files).events steps) = some e) :
    ∃ spec, e.files.readSpec p = .ok spec ∧ e.answer = e.step.answerOf (.ok spec)
      ∧ (((opened true files).after steps).load p).result = .ok spec := by
  have hp := remembers_after files steps p
  rw [h] at hp
  obtain ⟨spec, hread, hgave, hfind⟩ := hp
  exact ⟨spec, hread, hgave, (SpecStore.load_of_some hfind).2⟩

theorem result_load_of_none {keeps : Bool} {files : FileTree} {steps : List SpecStep}
    (h : keeps = false ∨ firstSuccess p ((opened keeps files).events steps) = none) :
    (((opened keeps files).after steps).load p).result =
      ((opened keeps files).after steps).files.readSpec p := by
  refine (SpecStore.load_of_none ?_).2
  cases keeps with
  | false => exact SpecStore.find?_of_not_keeps (keeps_after (opened false files) steps) p
  | true =>
      have hp := remembers_after files steps p
      rwa [h.resolve_left Bool.noConfusion] at hp

/-- A store that keeps specs gives for a path, whatever the file is by then, the first spec that a load
of this path has given since the last clearing; without one, and a store that keeps nothing always, what
the file holds now. The content alone is that of the same load. Data and positions of a spec are read
off one text, that of the file now or at an earlier step. A load that fails and reading a text leave the
store as it is, and only clearing takes an entry away. A load is answered by the account that the steps
before have left (`SpecSession.remembers_after`). -/
theorem load_gives_first_success (keeps : Bool) (files : FileTree) (steps : List SpecStep)
    (p : FilePath) :
    (keeps = true → ∀ e, firstSuccess p ((opened keeps files).events steps) = some e →
      ∃ spec, e.files.readSpec p = .ok spec ∧ e.answer = e.step.answerOf (.ok spec)
        ∧ ((opened keeps files).after steps).answer (.load p) = .spec (.ok spec)
        ∧ ((opened keeps files).after steps).answer (.loadContent p) =
            .content (.ok spec.content))
    ∧ (keeps = false ∨ firstSuccess p ((opened keeps files).events steps) = none →
        ((opened keeps files).after steps).answer (.load p) =
            .spec (((opened keeps files).after steps).files.readSpec p)
        ∧ ((opened keeps files).after steps).answer (.loadContent p) =
            .content ((((opened keeps files).after steps).files.readSpec p).map (·.content)))
    ∧ (∀ (t : FileTree) (spec : Spec), t.readSpec p = .ok spec ↔
        ∃ bytes text, t.at? p = some (.file bytes) ∧ decodeText? bytes = some text
          ∧ Spec.contentOf text ("file " ++ p.text) = .ok spec.content
          ∧ SourceMap.ofText text = .ok spec.positions)
    ∧ (∀ spec, ((opened keeps files).after steps).answer (.load p) = .spec (.ok spec) →
        ∃ t, (t = ((opened keeps files).after steps).files
            ∨ ∃ e ∈ (opened keeps files).events steps, e.files = t)
          ∧ t.readSpec p = .ok spec)
    ∧ ∀ (s : SpecSession) (step : SpecStep), step.clears = false →
        (∀ q spec, s.store.find? q = some spec → (s.next step).store.find? q = some spec)
        ∧ (step.path? = none ∨ (s.answer step).succeeds = false →
            (s.next step).store = s.store) := by
  refine ⟨?_, ?_, fun t spec => FileTree.readSpec_eq_ok_iff, ?_, ?_⟩
  · rintro rfl e he
    obtain ⟨spec, hread, hgave, hresult⟩ := result_load_of_firstSuccess he
    refine ⟨spec, hread, hgave, ?_, ?_⟩
    · rw [answer, hresult]
    · rw [answer, hresult]
      rfl
  · intro h
    constructor
    · rw [answer, result_load_of_none h]
    · rw [answer, result_load_of_none h]
  · intro spec hgave
    have hresult := SpecAnswer.spec.inj hgave
    by_cases h : keeps = false ∨ firstSuccess p ((opened keeps files).events steps) = none
    · exact ⟨_, .inl rfl, (result_load_of_none h).symm.trans hresult⟩
    · obtain ⟨hkeeps, hfirst⟩ := not_or.mp h
      obtain rfl : keeps = true := Bool.eq_true_of_not_eq_false hkeeps
      obtain ⟨e, he⟩ := Option.ne_none_iff_exists'.mp hfirst
      obtain ⟨first, hread, -, hfound⟩ := result_load_of_firstSuccess he
      obtain rfl : first = spec := Except.ok.inj (hfound.symm.trans hresult)
      exact ⟨e.files, .inr ⟨e, mem_of_firstSuccess he, rfl⟩, hread⟩
  · intro s step hclears
    refine ⟨fun q spec => find?_next_of_some hclears, ?_⟩
    intro h
    cases hpath : step.path? with
    | none => exact store_next_of_no_path hpath hclears
    | some q => exact store_next_of_failure hpath (h.resolve_left (hpath ▸ nofun))

/-- A directory with one spec in it. -/
def specTree (text : String) : FileTree :=
  ⟨["work"], [(["work"], .directory), (["work", "spec.yml"], .file text.toUTF8)]⟩

def specFile : FilePath := ⟨.none, ["spec.yml"]⟩

theorem placeOf_specFile (t : FileTree) (h : t.node? t.cwd = some .directory) :
    t.placeOf specFile = .ok (t.cwd ++ ["spec.yml"]) :=
  FileTree.placeOf_named (by decide) (by decide) (by decide) h

theorem at?_specTree (text : String) : (specTree text).at? specFile = some (.file text.toUTF8) := by
  rw [FileTree.at?, placeOf_specFile (specTree text) rfl]
  rfl

theorem readSpec_specTree {text : String} (h : text.toList.all isKeptAsIs = true) :
    (specTree text).readSpec specFile = (Spec.ofText text "file spec.yml").mapError .content := by
  simp only [FileTree.readSpec, FileTree.ask_eq_some_iff.mpr (at?_specTree text), decodeText?_toUTF8 h]
  rfl

def keptTree : FileTree := specTree "a: 1\n"

theorem exists_keptSpec :
    ∃ spec, keptTree.readSpec specFile = .ok spec
      ∧ ((Value.mapping spec.content).follow ["a"]).map Value.display = some "1" := by
  have hread : (Spec.ofText "a: 1\n" "file spec.yml").toOption.any (fun spec =>
      ((Value.mapping spec.content).follow ["a"]).map Value.display = some "1") = true := by
    decide +kernel
  obtain ⟨spec, hspec, hfound⟩ := Spec.exists_of_accepted hread
  refine ⟨spec, ?_, of_decide_eq_true hfound⟩
  rw [keptTree, readSpec_specTree (by decide), hspec]
  rfl

/-- A spec whose content has been loaded is given with its file removed, and no more once the store is
cleared. -/
theorem removedSpec_still_given :
    ∃ spec, firstSuccess specFile
          ((opened true keptTree).events [.loadContent specFile, .change bareTree]) =
        some ⟨keptTree, .loadContent specFile, .content (.ok spec.content)⟩
      ∧ ((Value.mapping spec.content).follow ["a"]).map Value.display = some "1"
      ∧ ((opened true keptTree).after [.loadContent specFile, .change bareTree]).answer
          (.load specFile) = .spec (.ok spec)
      ∧ ((opened true keptTree).after [.loadContent specFile, .change bareTree, .clear]).answer
          (.load specFile) = .spec (.error (.missing specFile)) := by
  obtain ⟨spec, hread, hcontent⟩ := exists_keptSpec
  have hanswer : (opened true keptTree).answer (.loadContent specFile) =
      .content (.ok spec.content) := by
    have hresult := (SpecStore.load_of_none (s := .empty true) (t := keptTree) (p := specFile) rfl).2
    rw [answer, load, opened, hresult, hread]
    rfl
  have hfirst : firstSuccess specFile
        ((opened true keptTree).events [.loadContent specFile, .change bareTree]) =
      some ⟨keptTree, .loadContent specFile, .content (.ok spec.content)⟩ := by
    simp only [events, event, hanswer]
    rfl
  obtain ⟨first, hfirstRead, -, hload, -⟩ :=
    (load_gives_first_success true keptTree [.loadContent specFile, .change bareTree] specFile).1
      rfl _ hfirst
  obtain rfl : spec = first := Except.ok.inj (hread.symm.trans hfirstRead)
  obtain ⟨hgone, -⟩ :=
    (load_gives_first_success true keptTree [.loadContent specFile, .change bareTree, .clear]
      specFile).2.1 (.inr rfl)
  have hmissing : bareTree.readSpec specFile = .error (.missing specFile) := by
    have hnothing : bareTree.ask specFile = .ok none := by
      rw [FileTree.ask, placeOf_specFile bareTree rfl]
      rfl
    rw [FileTree.readSpec, hnothing]
  have hfiles : ((opened true keptTree).after
      [.loadContent specFile, .change bareTree, .clear]).files = bareTree := rfl
  rw [hfiles, hmissing] at hgone
  exact ⟨spec, hfirst, hcontent, hload, hgone⟩

end SpecSession

end ActorSpec
