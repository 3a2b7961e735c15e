import ActorSpec.Proofs.Preview
import Mathlib.Tactic.IntervalCases

/-!
# Runs that leave the files alone

Files are written by the two generations only, behind the last thing that can be wrong with the command
line, the spec or its references, and never in a dry run. That a command reaches no write is read off
its structure, since everything but `Work.setFiles` leaves the files as they are (`Work.Leaves`). That a
command line asks for a dry run is seen from its words alone: wherever one of them is a way to write
`--dry-run`, the parameter is given, the word is left over and misuses the program, or help is asked for
(`Request.isReadOnly_of_mem`).
-/

namespace ActorSpec

/-! ## Work that leaves the files alone -/

namespace Work

variable {ε δ α β : Type} {t : FileTree}

/-- However it ends, the work leaves a tree as it is. -/
def Leaves (m : Work ε α) (t : FileTree) : Prop := ∃ result new, Runs m t result t new

namespace Leaves

theorem pure (a : α) : Leaves (Pure.pure a : Work ε α) t := ⟨_, _, Runs.pure a t⟩

theorem throw (e : ε) : Leaves (throw e : Work ε α) t := ⟨_, _, Runs.throw e t⟩

theorem files : Leaves (files : Work ε FileTree) t := ⟨_, _, Runs.files t⟩

theorem put (o : Output) : Leaves (put o : Work ε Unit) t := ⟨_, _, Runs.put o t⟩

theorem logAll (records : List Record) : Leaves (logAll records : Work ε Unit) t :=
  ⟨_, _, Runs.logAll records t⟩

theorem adapt {m : Work δ α} (h : m.Leaves t) (f : δ → ε) : Leaves (m.adapt f) t := by
  obtain ⟨result, new, hrun⟩ := h
  exact ⟨_, new, hrun.adapt f⟩

theorem ensureSayable (remarks : List Remark) : Leaves (ensureSayable remarks) t := by
  cases h : remarks.all (·.isSayable) with
  | true => exact ⟨_, _, Runs.ensureSayable h t⟩
  | false => exact ⟨_, _, Runs.ensureSayable_fault h t⟩

theorem ofResult (fault : δ → ε) (result : Except δ α) : Leaves (ofResult fault result) t :=
  ⟨_, _, Runs.ofResult fault result t⟩

theorem bind {m : Work ε α} {f : α → Work ε β} (hm : m.Leaves t) (hf : ∀ a, (f a).Leaves t) :
    Leaves (m >>= f) t := by
  obtain ⟨result, new, hrun⟩ := hm
  cases result with
  | error e => exact ⟨_, _, hrun.bind_error f⟩
  | ok a =>
      obtain ⟨result', new', hrun'⟩ := hf a
      exact ⟨_, _, hrun.bind hrun'⟩

theorem forM {f : β → Work ε Unit} (hf : ∀ b, (f b).Leaves t) (l : List β) :
    Leaves (l.forM f) t := by
  induction l with
  | nil => exact pure ()
  | cons b rest ih => exact (hf b).bind fun _ => ih

end Leaves

end Work

namespace Request

variable {settings : Settings} {t : FileTree} {file : String}

theorem leaves_printLine (console : Console) (line : String) :
    Work.Leaves (printLine console line) t := by
  rw [printLine]
  split
  · exact .put _
  · exact .throw _

theorem leaves_loadSpec (settings : Settings) (file : String) :
    Work.Leaves (loadSpec settings file) t := ⟨_, _, runs_loadSpec settings file t⟩

theorem leaves_preview (console : Console) (heading : String)
    (documents : List (Option String × Value)) : Work.Leaves (preview console heading documents) t := by
  have hline := fun line => leaves_printLine (t := t) console line
  refine .bind (hline _) fun _ => .bind (.forM (fun d => ?_) documents) fun _ => hline _
  refine .bind ?_ fun _ => .bind (.ofResult _ _) fun text => .bind (hline _) fun _ => hline _
  cases d.1 with
  | none => exact .pure ()
  | some title => exact hline _

theorem leaves_refuse (errors : List String) : Work.Leaves (ε := Failure) (refuse errors) t :=
  ⟨_, _, runs_refuse errors t⟩

/-! ## Requests that only read -/

/-- The file that a request loads its spec from. -/
def specFile? : Request → Option String
  | .help _ => none
  | .generateSchemas file _ _ _ | .generateInput file _ _ _ | .validate file _ => some file

/-- A request for something else than files: help, a report, or a preview. -/
def isReadOnly : Request → Bool
  | .help _ | .validate .. => true
  | .generateSchemas _ _ dryRun _ | .generateInput _ _ dryRun _ => dryRun

theorem leaves_generate {p : Project} (hdry : p.dryRun = true) : Work.Leaves p.generate t := by
  by_cases hsayable : p.IsUnsayable
  · exact ⟨_, Project.runs_generate_unsayable hsayable t⟩
  · exact ⟨_, _, Project.runs_generate_of_store hsayable (Project.store_of_dryRun hdry t)⟩

theorem leaves_runGenerateSchemas (base : Option String) (verbose : Bool) :
    Work.Leaves (runGenerateSchemas settings file base true verbose) t := by
  refine .bind (leaves_loadSpec settings file) fun l => .bind .files fun tree => ?_
  have hcheck : Work.Leaves (Check.run l.schemas) t :=
    .bind (.ensureSayable _) fun _ => .bind (.logAll _) fun _ => .pure _
  refine .bind (hcheck.adapt _) fun issues => ?_
  dsimp only
  split
  · exact .bind (leaves_refuse _) fun _ => .pure 1
  · refine .bind (leaves_generate rfl) fun d => ?_
    exact .bind (leaves_preview _ _ _) fun _ => .pure 0

theorem leaves_runGenerateInput (output : String) (verbose : Bool) :
    Work.Leaves (runGenerateInput settings file output true verbose) t := by
  refine .bind (leaves_loadSpec settings file) fun l => .bind .files fun tree => ?_
  refine .bind ⟨_, _, Project.runs_generateInput_of_storeInput
    (Project.storeInput_of_dryRun rfl output t)⟩ fun input => ?_
  exact .bind (leaves_preview _ _ _) fun _ => .pure 0

theorem leaves_runValidate (format : ReportFormat) :
    Work.Leaves (runValidate settings file format) t := by
  refine .bind (leaves_loadSpec settings file) fun l => .bind .files fun tree => ?_
  refine .bind (.adapt (.ensureSayable _) _) fun _ => .bind (.logAll _) fun _ => ?_
  have hconclude : ∀ report : Report, Work.Leaves (conclude settings.console report format) t :=
    fun report => ⟨_, _, runs_conclude settings.console report format t⟩
  have hline := fun line => leaves_printLine (t := t) settings.console line
  cases format with
  | json => exact .bind (.ofResult _ _) fun text => .bind (hline _) fun _ => hconclude _
  | human => exact .bind (.forM hline _) fun _ => hconclude _

theorem leaves_of_isReadOnly {r : Request} (h : r.isReadOnly = true) :
    Work.Leaves (r.work settings) t := by
  cases r with
  | help onCommand =>
      have husage : Work.Leaves (do
          printLine settings.console usage
          return 0) t := .bind (leaves_printLine _ _) fun _ => .pure 0
      cases onCommand with
      | true => exact .bind (.ofResult _ _) fun _ => husage
      | false => exact husage
  | generateSchemas file base dryRun verbose =>
      obtain rfl : dryRun = true := h
      exact leaves_runGenerateSchemas base verbose
  | generateInput file output dryRun verbose =>
      obtain rfl : dryRun = true := h
      exact leaves_runGenerateInput output verbose
  | validate file format => exact leaves_runValidate format

/-- A request whose spec is not loaded ends with that. -/
theorem runs_unloaded {r : Request} {failure : Failure} (hfile : file ∈ r.specFile?)
    (h : t.loadedSpec file = .error failure) :
    Work.Runs (r.work settings) t (.error failure) t ((loadRecords t file).map .record) := by
  have hload := runs_loadSpec settings file t
  rw [h] at hload
  cases r with
  | help onCommand => cases hfile
  | generateSchemas | generateInput | validate =>
      obtain rfl := Option.some.inj hfile
      exact hload.bind_error _

end Request

theorem Run.files_of_leaves {settings : Settings} {r : Request} {t : FileTree}
    (h : Work.Leaves (r.work settings) t) : (Run.ofRequest settings r t).files = t := by
  obtain ⟨result, new, hrun⟩ := h
  rw [Run.ofRequest_eq (Request.runs_exitCode hrun)]

/-! ## Words that ask for a dry run -/

namespace Command

/-- The word is `--dry-run`, or short for it. -/
def IsDryRun (word : String) : Prop :=
  "--d".toList <+: word.toList ∧ word.toList <+: "--dry-run".toList

/-- A generation takes such a word for the parameter, and nothing else knows it. -/
theorem classOf_of_isDryRun {word : String} (h : IsDryRun word) (kind : Kind) :
    classOf kind.parameters word = .ok
      (if kind = .validate then .unknown else .parameter Parameter.dryRun .nothing) := by
  obtain ⟨hleast, hmost⟩ := h
  have hlower : 3 ≤ word.toList.length := hleast.length_le
  have hupper : word.toList.length ≤ 9 := hmost.length_le
  have hword : word = String.ofList ("--dry-run".toList.take word.toList.length) := by
    rw [← List.prefix_iff_eq_take.mp hmost, String.ofList_toList]
  generalize word.toList.length = n at hlower hupper hword
  subst hword
  interval_cases n <;> cases kind <;> rfl

variable {ps : List Parameter} {word : String} {words own : List String}
  {classes : List (String × WordClass)}

theorem map_fst_of_classify (h : classify ps words = .ok classes) : classes.map (·.1) = words := by
  induction words generalizing classes with
  | nil => obtain rfl := Except.ok.inj h; rfl
  | cons first rest ih =>
      rw [classify.eq_def] at h
      split at h
      · contradiction
      · next heq =>
          obtain ⟨rfl, rfl⟩ := List.cons.inj heq
          obtain rfl := Except.ok.inj h
          rw [List.map_cons, List.map_map]
          exact congrArg _ (List.map_id _)
      · next heq =>
          obtain ⟨rfl, rfl⟩ := List.cons.inj heq
          obtain ⟨c, -, h⟩ := exists_of_bind_eq_ok h
          obtain ⟨others, hothers, h⟩ := exists_of_bind_eq_ok h
          obtain rfl := Except.ok.inj h
          rw [List.map_cons, ih hothers]

/-- A word is classified on its own, unless there is a separator in front of it. -/
theorem mem_of_classify (h : classify ps words = .ok classes) (hword : word ∈ words)
    {c : WordClass} (hclass : classOf ps word = .ok c) :
    (word, c) ∈ classes ∨ ("--", .separator) ∈ classes := by
  induction words generalizing classes with
  | nil => cases hword
  | cons first rest ih =>
      rw [classify.eq_def] at h
      split at h
      · contradiction
      · obtain rfl := Except.ok.inj h
        exact .inr (List.mem_cons_self ..)
      · next heq =>
          obtain ⟨rfl, rfl⟩ := List.cons.inj heq
          obtain ⟨c', hfirst, h⟩ := exists_of_bind_eq_ok h
          obtain ⟨others, hothers, h⟩ := exists_of_bind_eq_ok h
          obtain rfl := Except.ok.inj h
          rcases List.mem_cons.mp hword with rfl | hrest
          · obtain rfl := Except.ok.inj (hclass.symm.trans hfirst)
            exact .inl (List.mem_cons_self ..)
          · rcases ih hothers hrest with hmem | hmem
            · exact .inl (List.mem_cons_of_mem _ hmem)
            · exact .inr (List.mem_cons_of_mem _ hmem)

theorem mem_of_ofName {name : String} {split : Split} {kind : Kind}
    (h : Split.ofName name words = .ok split) (hcommand : split.command = some (kind, own))
    (hword : word ∈ name :: words) : word = kind.name ∨ word ∈ own := by
  rw [Split.ofName] at h
  split at h
  · next k hk =>
      obtain rfl := Except.ok.inj h
      obtain ⟨rfl, rfl⟩ := Prod.mk.inj (Option.some.inj hcommand)
      have hname : k.name = name := by
        unfold Kind.ofName? at hk
        simpa using List.find?_some hk
      rwa [hname, ← List.mem_cons]
  · cases h

/-- Every word of a command line is left over, names the command, or belongs to it. -/
theorem mem_of_splitOfClasses {split : Split} {kind : Kind}
    (h : Split.ofClasses classes = .ok split) (hcommand : split.command = some (kind, own))
    (hword : word ∈ classes.map (·.1)) :
    word ∈ split.leftOver ∨ word = kind.name ∨ word ∈ own := by
  induction classes generalizing split with
  | nil => cases hword
  | cons e rest ih =>
      obtain ⟨first, c⟩ := e
      rw [List.map_cons] at hword
      cases c with
      | plain => exact .inr (mem_of_ofName h hcommand hword)
      | separator =>
          rw [Split.ofClasses] at h
          split at h
          · cases h
          · exact .inr (mem_of_ofName h hcommand hword)
      | parameter p attached =>
          obtain ⟨r, -, h⟩ := exists_of_bind_eq_ok h
          obtain rfl := Except.ok.inj h
          cases hcommand
      | unknown =>
          obtain ⟨s, hs, h⟩ := exists_of_bind_eq_ok h
          obtain rfl := Except.ok.inj h
          rcases List.mem_cons.mp hword with rfl | hrest
          · exact .inl (List.mem_cons_self ..)
          · exact (ih hs hcommand hrest).imp_left (List.mem_cons_of_mem _)

/-- What becomes of a word of a class that is no operand, whatever stands around it. -/
def Arguments.Heeds (a : Arguments) (word : String) : WordClass → Prop
  | .plain => True
  | .parameter p .nothing => p.takesNothing = true → a.isGiven p.key = true
  | .parameter _ _ => True
  | .separator | .unknown => word ∈ a.leftOver

theorem Arguments.Heeds.mono {a b : Arguments} {c : WordClass} (h : a.Heeds word c)
    (hgiven : ∀ key, a.isGiven key = true → b.isGiven key = true) (hleft : a.leftOver ⊆ b.leftOver) :
    b.Heeds word c := by
  cases c with
  | plain => trivial
  | separator | unknown => exact hleft h
  | parameter p attached =>
      cases attached with
      | nothing => exact fun hnothing => hgiven _ (h hnothing)
      | _ => trivial

theorem Arguments.isGiven_add_right {a : Arguments} (r : Reading) (key : Key)
    (h : a.isGiven key = true) : (add r a).isGiven key = true := by
  rw [isGiven, add, List.any_append, Bool.or_eq_true]
  exact .inr h

/-- One more word in front takes back nothing of what comes of the others. -/
theorem heeds_cons {first : String} {c c' : WordClass} {rest : List (String × WordClass)}
    {a others : Arguments} (hfirst : a.Heeds first c')
    (hothers : (word, c) ∈ rest → others.isGiven .help = true ∨ others.Heeds word c)
    (hgiven : ∀ key, others.isGiven key = true → a.isGiven key = true)
    (hleft : others.leftOver ⊆ a.leftOver) (hmem : (word, c) ∈ (first, c') :: rest) :
    a.isGiven .help = true ∨ a.Heeds word c := by
  rcases List.mem_cons.mp hmem with heq | hrest
  · obtain ⟨rfl, rfl⟩ := Prod.mk.inj heq
    exact .inr hfirst
  · exact (hothers hrest).imp (hgiven _) (·.mono hgiven hleft)

/-- A call for help cuts the reading off; otherwise no word but an operand goes unheeded. -/
theorem heeds_of_ofClasses {waiting : Option Parameter} {a : Arguments}
    (h : Arguments.ofClasses ps waiting classes = .ok a) {c : WordClass} (hmem : (word, c) ∈ classes) :
    a.isGiven .help = true ∨ a.Heeds word c := by
  induction waiting, classes using Arguments.ofClasses.induct generalizing a with
  | case1 q operand rest ih =>
      rw [Arguments.ofClasses] at h
      obtain ⟨g, -, h⟩ := exists_of_bind_eq_ok h
      obtain ⟨others, hothers, h⟩ := exists_of_bind_eq_ok h
      obtain rfl := Except.ok.inj h
      refine heeds_cons ?_ (ih hothers) (fun key hkey => ?_) (fun _ => id) hmem
      · trivial
      · rw [Arguments.isGiven, List.any_cons, Bool.or_eq_true]
        exact .inr hkey
  | case2 q classes hno =>
      rw [Arguments.ofClasses] at h
      · cases h
      · exact hno
  | case3 => cases hmem
  | case4 first p attached rest ih =>
      rw [Arguments.ofClasses] at h
      obtain ⟨r, hr, h⟩ := exists_of_bind_eq_ok h
      split at h
      · next hhelp =>
          obtain rfl := Except.ok.inj h
          exact .inl hhelp
      · obtain ⟨others, hothers, h⟩ := exists_of_bind_eq_ok h
        obtain rfl := Except.ok.inj h
        refine heeds_cons ?_ (ih _ hothers) (Arguments.isGiven_add_right r)
          (List.subset_append_right _ _) hmem
        cases attached with
        | nothing =>
            intro hnothing
            obtain rfl := Except.ok.inj hr
            simp [Arguments.isGiven, Arguments.add, Reading.alone, hnothing]
        | directly | behindEquals => trivial
  | case5 first c' rest hno ih =>
      rw [Arguments.ofClasses] at h
      · obtain ⟨others, hothers, h⟩ := exists_of_bind_eq_ok h
        obtain rfl := Except.ok.inj h
        refine heeds_cons ?_ (ih hothers) (fun _ => id) (List.subset_cons_self _ _) hmem
        cases c' with
        | plain => trivial
        | separator | unknown => exact List.mem_cons_self ..
        | parameter p attached => exact (hno _ _ rfl).elim
      · exact hno

theorem Kind.isReadOnly_request {settings : Settings} {a : Arguments} {kind : Kind}
    (h : a.isGiven .help = true ∨ a.isGiven .dryRun = true ∨ kind = .validate) :
    (kind.request settings a).isReadOnly = true := by
  unfold Kind.request
  by_cases hhelp : a.isGiven .help = true
  · rw [if_pos hhelp]
    rfl
  · rw [if_neg hhelp]
    rcases h.resolve_left hhelp with hdry | rfl
    · cases kind with
      | generateSchemas | generateInput => exact hdry
      | validate => rfl
    · rfl

theorem isDryRun_ne_name {kind : Kind} (h : IsDryRun word) : word ≠ kind.name := by
  rintro rfl
  revert h
  cases kind <;> exact fun h => absurd h.1 (by decide)

/-- A command line with such a word among its own either gives the parameter or does nothing. -/
theorem heeds_dryRun {kind : Kind} {a : Arguments} (h : Arguments.ofWords kind.parameters own = .ok a)
    (hword : word ∈ own) (hdry : IsDryRun word) :
    a.isGiven .help = true ∨ (a.isGiven .dryRun = true ∨ kind = .validate) ∨ a.leftOver ≠ [] := by
  obtain ⟨classes, hclasses, h⟩ := exists_of_bind_eq_ok h
  rcases mem_of_classify hclasses hword (classOf_of_isDryRun hdry kind) with hmem | hmem
  · refine (heeds_of_ofClasses h hmem).imp_right fun hheeds => .inl ?_
    by_cases hkind : kind = .validate
    · exact .inr hkind
    · rw [if_neg hkind] at hheeds
      exact .inl (hheeds rfl)
  · exact (heeds_of_ofClasses h hmem).imp_right fun hheeds =>
      .inr (List.ne_nil_of_mem hheeds)

end Command

open Command in
/-- Wherever it stands, such a word keeps an accepted command line from asking for files. -/
theorem Request.isReadOnly_of_mem {settings : Settings} {words : List String} {r : Request}
    {word : String} (h : ofWords settings words = .ok r) (hword : word ∈ words)
    (hdry : IsDryRun word) : r.isReadOnly = true := by
  obtain ⟨classes, hclasses, h⟩ := exists_of_bind_eq_ok h
  obtain ⟨⟨command, leftOver⟩, hsplit, h⟩ := exists_of_bind_eq_ok h
  have hwords := map_fst_of_classify (ok_of_mapError_eq_ok hclasses)
  cases command with
  | none =>
      obtain rfl := Except.ok.inj h
      rfl
  | some command =>
      obtain ⟨kind, own⟩ := command
      obtain ⟨a, ha, h⟩ := exists_of_bind_eq_ok h
      dsimp only at h
      split at h
      · next haccepted =>
          obtain rfl := Except.ok.inj h
          refine Kind.isReadOnly_request ?_
          rw [Bool.or_eq_true, List.isEmpty_iff, List.append_eq_nil_iff] at haccepted
          rcases haccepted with ⟨rfl, hnone⟩ | hhelp
          · rcases mem_of_splitOfClasses (ok_of_mapError_eq_ok hsplit) rfl
              (hwords ▸ hword) with hleft | hname | hown
            · cases hleft
            · exact absurd hname (isDryRun_ne_name hdry)
            · rcases heeds_dryRun (ok_of_mapError_eq_ok ha) hown hdry with hhelp | hgiven | hleft
              · exact .inl hhelp
              · exact .inr hgiven
              · exact absurd hnone hleft
          · exact .inl hhelp
      · cases h

/-! ## Runs without permission to write -/

/-- The ways in which a command line gives no permission to write files, or loses it to the spec. -/
inductive Run.IsUnpermitted (settings : Settings) (words : List String) (t : FileTree) : Prop where
  | rejected {fault : Command.UsageFault} (h : Request.ofWords settings words = .error fault)
  | asksForDryRun {word : String} (hmem : word ∈ words) (h : Command.IsDryRun word)
  | readOnly {r : Request} (hwords : Request.ofWords settings words = .ok r)
      (h : r.isReadOnly = true)
  | unloaded {r : Request} {file : String} {failure : Failure}
      (hwords : Request.ofWords settings words = .ok r) (hfile : file ∈ r.specFile?)
      (h : t.loadedSpec file = .error failure)
  | refused {file : String} {base : Option String} {dryRun verbose : Bool} {l : LoadedSpec}
      (hwords : Request.ofWords settings words = .ok (.generateSchemas file base dryRun verbose))
      (hload : t.loadedSpec file = .ok l) (h : Check.issues l.schemas ≠ [])

/-- The run of an accepted command line is that of its request. -/
theorem Run.ofWords_of_accepted {settings : Settings} {words : List String} {r : Request}
    (h : Request.ofWords settings words = .ok r) (t : FileTree) :
    ofWords settings words t = ofRequest settings r t := by
  rw [ofWords, h]

/-- However it ends, a run without permission leaves every file and every directory as it was. The five
reasons are gone through; each leaves work that reaches no write (`Work.Leaves`). -/
theorem Run.files_of_isUnpermitted (env : List (String × String)) (console : Console)
    (words : List String) (t : FileTree) (h : IsUnpermitted (.ofEnvironment env console) words t) :
    (ofWords (.ofEnvironment env console) words t).files = t := by
  cases h with
  | rejected h => rw [ofWords, h]
  | asksForDryRun hmem hdry =>
      cases hr : Request.ofWords (.ofEnvironment env console) words with
      | error fault => rw [ofWords, hr]
      | ok r =>
          rw [ofWords_of_accepted hr]
          exact files_of_leaves (Request.leaves_of_isReadOnly (Request.isReadOnly_of_mem hr hmem hdry))
  | readOnly hr h =>
      rw [ofWords_of_accepted hr]
      exact files_of_leaves (Request.leaves_of_isReadOnly h)
  | unloaded hr hfile h =>
      rw [ofWords_of_accepted hr]
      exact files_of_leaves ⟨_, _, Request.runs_unloaded hfile h⟩
  | @refused _ _ _ _ l hr hload h =>
      rw [ofWords_of_accepted hr]
      by_cases hsaid : Check.NamesOverlong l.schemas
      · exact files_of_leaves ⟨_, _, Request.runs_runGenerateSchemas_unchecked hload hsaid⟩
      · refine files_of_leaves ⟨_, _, Request.runs_runGenerateSchemas_refused hload hsaid ?_⟩
        exact fun hnone => h ((LoadedSpec.referenceErrors_eq_nil_iff _ _).mp hnone)

/-- A spec that could be generated is not, for an abbreviated word; another one is refused. -/
theorem Run.files_of_shortened_or_refused :
    (∃ l, Request.plainTree.loadedSpec "spec.yml" = .ok l ∧ Request.IsGenerable l.schemas true
      ∧ Request.ofWords (.ofEnvironment [] .strict) ["gen-schemas", "-vs", "spec.yml", "--dr"] =
          .ok (.generateSchemas "spec.yml" none true true)
      ∧ (ofWords (.ofEnvironment [] .strict) ["gen-schemas", "-vs", "spec.yml", "--dr"]
          Request.plainTree).files = Request.plainTree)
    ∧ (ofWords (.ofEnvironment [] .strict) ["gen-schemas", "--spec=spec.yml"]
        (SpecSession.specTree LoadedSpec.faultyText)).files =
          SpecSession.specTree LoadedSpec.faultyText := by
  constructor
  · obtain ⟨l, hload, hgenerable, -⟩ := Request.exists_plainSpec
    have hmem : "--dr" ∈ ["gen-schemas", "-vs", "spec.yml", "--dr"] := by simp
    refine ⟨l, hload, hgenerable true, by rfl, ?_⟩
    exact files_of_isUnpermitted [] .strict _ _ (.asksForDryRun hmem ⟨by decide, by decide⟩)
  · obtain ⟨l, hload, hissues, -⟩ := LoadedSpec.exists_faultySpec
    have hwords : Request.ofWords (.ofEnvironment [] .strict) ["gen-schemas", "--spec=spec.yml"] =
        .ok (.generateSchemas "spec.yml" none false false) := by rfl
    refine files_of_isUnpermitted [] .strict _ _ (.refused hwords hload fun hnone => ?_)
    rw [hnone] at hissues
    cases hissues

end ActorSpec
