import ActorSpec.Proofs.CommandRuns
import ActorSpec.Proofs.SpecSessions

/-!
# One check for two commands

A generation asks for the issues of the references on its own, and a validation lists them in its
report. Both come to the same messages: a generation refuses a spec exactly if the report has one of
them, and logs them as the report has them (`LoadedSpec.commands_share_checks`). That nothing else
that a generation puts out looks like a refusal is shown part by part, for what is logged on the way,
whole or up to a remark that cannot be made, and for the delivery: all of it goes to other channels than
that of the commands (`AreOfParts`).

A validation looks at more than the references, and it has to say what it finds there. So a spec may end
it without an exit code that a generation has nothing against (`LoadedSpec.halfField_unreported`).
-/

namespace ActorSpec

/-! ## Reports -/

namespace LoadedSpec

variable {l : LoadedSpec}

theorem length_categoryErrors (l : LoadedSpec) (cwd : Place) : (l.categoryErrors cwd).length ≤ 1 := by
  rw [categoryErrors]
  cases l.categoryFault? <;> simp

theorem referenceErrors_eq_nil_iff (l : LoadedSpec) (cwd : Place) :
    l.referenceErrors cwd = [] ↔ Check.issues l.schemas = [] := List.map_eq_nil_iff

theorem referenceErrors_of_no_errors {cwd : Place} (h : (Report.ofSpec l cwd).errors = []) :
    l.referenceErrors cwd = [] := (List.append_eq_nil_iff.mp h).1

end LoadedSpec

/-! ## What commands log themselves -/

/-- None of the records is logged by a command itself. -/
def AreOfParts (records : List Record) : Prop := ∀ r ∈ records, r.channel ≠ Channel.command.name

namespace AreOfParts

variable {rs rs' : List Record}

theorem nil : AreOfParts [] := fun _ hr => absurd hr List.not_mem_nil

theorem append (h : AreOfParts rs) (h' : AreOfParts rs') : AreOfParts (rs ++ rs') := by
  intro r hr
  rcases List.mem_append.mp hr with hleft | hright
  · exact h r hleft
  · exact h' r hright

theorem map_record {α : Type} (c : Channel) (hc : c.name ≠ Channel.command.name) (level : Level)
    (message : α → String) (l : List α) :
    AreOfParts (l.map fun a => c.record level (message a)) := by
  intro r hr
  obtain ⟨a, -, rfl⟩ := List.mem_map.mp hr
  exact hc

theorem readRecords (t : FileTree) (p : FilePath) : AreOfParts (SpecStore.readRecords t p) := by
  rw [SpecStore.readRecords]
  split
  · exact map_record .spec (by decide) .debug (fun p : FilePath => "Reading spec file: " ++ p.text) [p]
  · exact nil

theorem aggregate (all : Aggregate) : AreOfParts all.records :=
  map_record .aggregate (by decide) .debug Collision.message all.collisions

theorem check (config : Value) : AreOfParts (Check.records config) := by
  rw [Check.records]
  split
  · exact nil
  · exact aggregate _

theorem announced (config : Value) (verbose : Bool) :
    AreOfParts (Project.announced config verbose) := by
  have hcollisions : AreOfParts ((Aggregate.ofConfig config).collisions.map Collision.warning) :=
    map_record .project (by decide) .warning Collision.message _
  refine (aggregate _).append (hcollisions.append ?_)
  rw [Documents.records]
  refine (aggregate _).append ?_
  cases verbose with
  | false => exact nil
  | true =>
      rw [if_pos rfl, DatasetSchema.warnings_eq]
      exact map_record .datasetSchema (by decide) .warning _ _

/-- What is said up to some point. -/
theorem takeWhile {remarks : List Remark}
    (h : ∀ m ∈ remarks, ∀ r ∈ m.record?, r.channel ≠ Channel.command.name) (p : Remark → Bool) :
    AreOfParts (Remark.records (remarks.takeWhile p)) := by
  intro r hr
  obtain ⟨m, hm, hrecord⟩ := List.mem_filterMap.mp hr
  exact h m (List.takeWhile_subset p hm) r hrecord

theorem aggregate_remarks (all : Aggregate) :
    ∀ m ∈ all.remarks, ∀ r ∈ m.record?, r.channel ≠ Channel.command.name := by
  intro m hm r hr
  obtain ⟨collision, -, rfl⟩ := List.mem_map.mp hm
  obtain rfl := Option.some.inj hr
  exact show Channel.aggregate.name ≠ Channel.command.name by decide

theorem check_remarks (config : Value) :
    ∀ m ∈ Check.remarks config, ∀ r ∈ m.record?, r.channel ≠ Channel.command.name := by
  rw [Check.remarks]
  split
  · exact fun _ hm => absurd hm List.not_mem_nil
  · rw [Check.viewRemarks_eq, Check.groupRemarks_eq]
    refine List.forall_mem_append.mpr ⟨List.forall_mem_append.mpr ⟨aggregate_remarks _, ?_⟩, ?_⟩
    · exact List.forall_mem_map.mpr fun _ _ r hr => absurd hr (Option.not_mem_none r)
    · exact List.forall_mem_map.mpr fun _ _ r hr => absurd hr (Option.not_mem_none r)

theorem dataset_remarks (all : Aggregate) (verbose : Bool) (config : Value) :
    ∀ m ∈ DatasetSchema.remarks all verbose config, ∀ r ∈ m.record?,
      r.channel ≠ Channel.command.name := by
  rw [DatasetSchema.remarks]
  refine List.forall_mem_append.mpr ⟨List.forall_mem_map.mpr fun _ _ => nofun, fun m hm => ?_⟩
  obtain ⟨⟨view, body⟩, -, hm⟩ := List.mem_flatMap.mp hm
  rcases List.mem_append.mp hm with hfield | htitle
  · obtain ⟨field, -, hm⟩ := List.mem_flatMap.mp hfield
    rw [View.fieldRemarks] at hm
    split at hm
    · obtain rfl := List.mem_singleton.mp hm
      exact nofun
    · split at hm
      · obtain rfl := List.mem_singleton.mp hm
        intro r hr
        obtain rfl := Option.some.inj hr
        exact show Channel.datasetSchema.name ≠ Channel.command.name by decide
      · cases hm
  · split at htitle
    · cases htitle
    · obtain rfl := List.mem_singleton.mp htitle
      exact nofun

theorem project_remarks (p : Project) :
    ∀ m ∈ p.remarks, ∀ r ∈ m.record?, r.channel ≠ Channel.command.name := by
  have hinput : ∀ m ∈ InputSchema.remarks p.config, ∀ r ∈ m.record?,
      r.channel ≠ Channel.command.name := by
    rw [InputSchema.remarks]
    refine List.forall_mem_append.mpr ⟨List.forall_mem_map.mpr fun _ _ => nofun, ?_⟩
    split
    · exact nofun
    · intro m hm
      obtain ⟨name, -, rfl⟩ := Option.map_eq_some_iff.mp (Option.mem_toList.mp hm)
      exact nofun
  have hcollisions : ∀ m ∈ (Aggregate.ofConfig p.config).collisions.map (fun c : Collision =>
      (⟨c.named, some (Channel.project.record .warning c.message)⟩ : Remark)), ∀ r ∈ m.record?,
      r.channel ≠ Channel.command.name := by
    refine List.forall_mem_map.mpr fun collision _ r hr => ?_
    obtain rfl := Option.some.inj hr
    exact show Channel.project.name ≠ Channel.command.name by decide
  rw [Project.remarks, Documents.remarks]
  refine List.forall_mem_append.mpr ⟨List.forall_mem_append.mpr ⟨aggregate_remarks _, hcollisions⟩, ?_⟩
  exact List.forall_mem_append.mpr
    ⟨List.forall_mem_append.mpr ⟨hinput, aggregate_remarks _⟩, dataset_remarks _ _ _⟩

end AreOfParts

/-! ## What a refusal looks like -/

namespace Request

/-- The work begins to refuse its spec at some point. -/
def Refuses (m : Work Failure Nat) (t : FileTree) : Prop :=
  ∃ result t' new, Work.Runs m t result t' new ∧ .record refusalHeading ∈ new

theorem refuses_iff_of_runs {m : Work Failure Nat} {t t' : FileTree} {result : Except Failure Nat}
    {new : List Output} (h : Work.Runs m t result t' new) :
    Refuses m t ↔ .record refusalHeading ∈ new := by
  constructor
  · rintro ⟨result', t'', new', hrun, hmem⟩
    obtain ⟨-, -, rfl⟩ := h.unique hrun
    exact hmem
  · intro hmem
    exact ⟨result, t', new, h, hmem⟩

theorem refusalHeading_notMem {records : List Record} (h : AreOfParts records) :
    refusalHeading ∉ records := fun hmem => h _ hmem rfl

theorem refusalHeading_notMem_closing {file : String} {base : Option String}
    {dryRun verbose : Bool} (result : Except Failure Nat) :
    refusalHeading ∉ (Request.generateSchemas file base dryRun verbose).closingRecords result := by
  cases result with
  | ok code => exact List.not_mem_nil
  | error failure =>
      rw [closingRecords]
      split
      · intro hmem
        have hmessage := congrArg (fun r => r.message.toList.head?) (List.mem_singleton.mp hmem)
        simp [refusalHeading, Channel.record, failureHeading] at hmessage
      · exact List.not_mem_nil

/-- A preview logs nothing. -/
theorem emits_preview (console : Console) (heading : String)
    (documents : List (Option String × Value)) :
    Work.Emits (fun o => ∃ text, o = .printed text) (preview console heading documents) := by
  have hline : ∀ line : String,
      Work.Emits (fun o => ∃ text, o = .printed text) (printLine console line) := by
    intro line
    rw [printLine]
    split
    · exact .put ⟨_, rfl⟩
    · exact .throw _
  refine .bind (hline _) fun _ => .bind (.forM (fun e => ?_) documents) fun _ => hline _
  refine .bind ?_ fun _ => .bind (.ofResult _ _) fun text => .bind (hline _) fun _ => hline _
  cases e.1 with
  | none => exact .pure ()
  | some title => exact hline _

theorem emits_deliver (console : Console) (p : Project) :
    Work.Emits (· ≠ .record refusalHeading) (deliver console p) := by
  rw [deliver]
  split
  · refine (emits_preview _ _ _).mono ?_
    rintro o ⟨text, rfl⟩
    exact nofun
  · refine p.emits_store.mono ?_
    rintro o ho rfl
    exact ho.2 rfl

/-! ## The two commands -/

variable {settings : Settings} {t : FileTree} {file : String} {l : LoadedSpec} {base : Option String}
  {dryRun verbose : Bool}

theorem runs_generation_refused (h : t.loadedSpec file = .ok l)
    (hsaid : ¬ Check.NamesOverlong l.schemas) (herrors : l.referenceErrors t.cwd ≠ []) :
    Work.Runs ((Request.generateSchemas file base dryRun verbose).exitCode settings) t (.ok 1) t
      ((loadRecords t file ++ Check.records l.schemas
        ++ refusalHeading :: (l.referenceErrors t.cwd).map refusalRecord).map .record) :=
  runs_exitCode_ok (r := .generateSchemas file base dryRun verbose)
    (runs_runGenerateSchemas_refused h hsaid herrors)

/-- What a generation puts out has no refusal in it if none was in it before the command was over. -/
theorem refusalHeading_notMem_exitCode {result : Except Failure Nat} {records : List Record}
    {delivered : List Output} (hrecords : AreOfParts records)
    (hdelivered : ∀ o ∈ delivered, o ≠ .record refusalHeading) :
    .record refusalHeading ∉ records.map .record ++ delivered
      ++ ((Request.generateSchemas file base dryRun verbose).closingRecords result).map .record := by
  intro hmem
  rcases List.mem_append.mp hmem with hleft | hclosing
  · rcases List.mem_append.mp hleft with hbefore | hafter
    · obtain ⟨r, hr, heq⟩ := List.mem_map.mp hbefore
      exact refusalHeading_notMem hrecords (Output.record.inj heq ▸ hr)
    · exact hdelivered _ hafter rfl
  · obtain ⟨r, hr, heq⟩ := List.mem_map.mp hclosing
    exact refusalHeading_notMem_closing _ (Output.record.inj heq ▸ hr)

theorem runs_generation_delivers (h : t.loadedSpec file = .ok l)
    (hsaid : ¬ Check.NamesOverlong l.schemas) (hnone : l.referenceErrors t.cwd = [])
    (hannounces : ¬ (projectOf settings t l base dryRun verbose).IsUnsayable) :
    ∃ outcome t' delivered new,
      Work.Runs (deliver settings.console (projectOf settings t l base dryRun verbose)) t outcome t'
        delivered
      ∧ Work.Runs ((Request.generateSchemas file base dryRun verbose).exitCode settings) t
          (answer (outcome.map fun _ => 0)) t' new
      ∧ .record refusalHeading ∉ new := by
  obtain ⟨outcome, t', delivered, hdeliver, hother⟩ :=
    emits_deliver settings.console (projectOf settings t l base dryRun verbose) t
  have hwork : Work.Runs ((Request.generateSchemas file base dryRun verbose).work settings) t
      (outcome.map fun _ => 0) t' _ := runs_runGenerateSchemas h hsaid hnone hannounces hdeliver
  have hparts := ((AreOfParts.readRecords t (.ofText file)).append (.check l.schemas)).append
    (.announced l.schemas verbose)
  exact ⟨outcome, t', delivered, _, hdeliver, runs_exitCode hwork,
    refusalHeading_notMem_exitCode hparts hother⟩

/-- A generation that meets a remark that it cannot make ends there, and has not refused the spec. -/
theorem runs_generation_stopped (h : t.loadedSpec file = .ok l)
    (hstops : Check.NamesOverlong l.schemas ∨ l.referenceErrors t.cwd = []
      ∧ (projectOf settings t l base dryRun verbose).IsUnsayable) :
    ∃ new, Work.Runs ((Request.generateSchemas file base dryRun verbose).exitCode settings) t
        (.error (.remark .longInteger)) t new
      ∧ .record refusalHeading ∉ new := by
  suffices hwork : ∃ records, AreOfParts records ∧
      Work.Runs ((Request.generateSchemas file base dryRun verbose).work settings) t
        (.error (.remark .longInteger)) t (records.map .record) by
    obtain ⟨records, hrecords, hrun⟩ := hwork
    rw [← List.append_nil (List.map _ _)] at hrun
    exact ⟨_, runs_exitCode hrun, refusalHeading_notMem_exitCode hrecords fun _ => nofun⟩
  have hload := AreOfParts.readRecords t (.ofText file)
  by_cases hsaid : Check.NamesOverlong l.schemas
  · exact ⟨_, hload.append (.takeWhile (AreOfParts.check_remarks _) _),
      runs_runGenerateSchemas_unchecked h hsaid⟩
  · obtain ⟨hnone, hunsayable⟩ := hstops.resolve_left hsaid
    exact ⟨_, (hload.append (.check _)).append (.takeWhile (AreOfParts.project_remarks _) _),
      runs_runGenerateSchemas_unannounced h hsaid hnone hunsayable⟩

theorem refuses_iff (h : t.loadedSpec file = .ok l) :
    Refuses ((Request.generateSchemas file base dryRun verbose).exitCode settings) t ↔
      ¬ Check.NamesOverlong l.schemas ∧ l.referenceErrors t.cwd ≠ [] := by
  by_cases hstops : Check.NamesOverlong l.schemas ∨ l.referenceErrors t.cwd = []
      ∧ (projectOf settings t l base dryRun verbose).IsUnsayable
  · obtain ⟨new, hrun, hnew⟩ := runs_generation_stopped h hstops
    rw [refuses_iff_of_runs hrun]
    refine iff_of_false hnew fun hrefused => ?_
    exact hstops.elim hrefused.1 fun hunannounced => hrefused.2 hunannounced.1
  · obtain ⟨hsaid, hannounces⟩ := not_or.mp hstops
    by_cases hnone : l.referenceErrors t.cwd = []
    · obtain ⟨outcome, t', delivered, new, -, hrun, hnew⟩ :=
        runs_generation_delivers h hsaid hnone fun hunsayable => hannounces ⟨hnone, hunsayable⟩
      rw [refuses_iff_of_runs hrun]
      exact iff_of_false hnew fun hrefused => hrefused.2 hnone
    · rw [refuses_iff_of_runs (runs_generation_refused h hsaid hnone)]
      simp [hsaid, hnone]

theorem runs_validation (h : t.loadedSpec file = .ok l) (format : ReportFormat) :
    ∃ new, Work.Runs ((Request.validate file format).exitCode settings) t
      ((stoppedBy (unreported? settings.console l t.cwd format)).map fun _ =>
        if (Report.ofSpec l t.cwd).errors = [] then 0 else 1) t new := by
  obtain ⟨records, lines, hwork⟩ := @runs_runValidate settings file l t format h
  have hunforeseen : answer ((stoppedBy (unreported? settings.console l t.cwd format)).map fun _ =>
      if (Report.ofSpec l t.cwd).errors = [] then 0 else 1) =
      (stoppedBy (unreported? settings.console l t.cwd format)).map fun _ =>
        if (Report.ofSpec l t.cwd).errors = [] then 0 else 1 := by
    cases hstop : unreported? settings.console l t.cwd format with
    | none => rfl
    | some failure => exact if_neg (Bool.eq_false_iff.mp (isForeseen_of_unreported? hstop))
  have hrun := runs_exitCode (r := .validate file format) hwork
  rw [hunforeseen] at hrun
  exact ⟨_, hrun⟩

end Request

namespace LoadedSpec

open Request in
/-- A generation refuses a spec exactly if there are issues of the references that it can name; they are
the first errors of a report, with one more at most behind them. It then logs them as the report has
them, and nothing after them, before it generates or writes anything; so a spec that a validation
accepts is not refused. What it cannot name ends it without an exit code, and so does a remark on what
it makes; otherwise its exit code depends on the issues of the references and on the delivery of the
documents alone. The exit code of a validation depends on the errors alone, if the report can be made
and the console takes it. Both commands are run once, up to where they part (`runs_validation`,
`runs_generation_delivers`), and a refusal is known by its heading, which nothing else has
(`AreOfParts`). -/
theorem commands_share_checks (settings : Settings) (t : FileTree) (file : String) (l : LoadedSpec)
    (h : t.loadedSpec file = .ok l) :
    let references := (Check.issues l.schemas).map (l.describe t.cwd)
    let report := Report.ofSpec l t.cwd
    (∃ categories, report.errors = references ++ categories ∧ categories.length ≤ 1)
    ∧ report.warnings = (Lint.issues l.schemas).map (l.describe t.cwd)
        ++ (Aggregate.ofConfig l.schemas).collisions.map (·.message)
    ∧ (∀ base dryRun verbose,
        let generation := (Request.generateSchemas file base dryRun verbose).exitCode settings
        let project := projectOf settings t l base dryRun verbose
        let before := loadRecords t file ++ Check.records l.schemas
        (Refuses generation t ↔ ¬ Check.NamesOverlong l.schemas ∧ references ≠ [])
        ∧ (¬ Check.NamesOverlong l.schemas → references ≠ [] → refusalHeading ∉ before
            ∧ Work.Runs generation t (.ok 1) t ((before ++ refusalHeading ::
                references.map fun e => Channel.command.record .error ("  - " ++ e)).map .record))
        ∧ (¬ Check.NamesOverlong l.schemas → references = [] → ¬ project.IsUnsayable →
            ∃ outcome t' delivered new,
              Work.Runs (deliver settings.console project) t outcome t' delivered
              ∧ Work.Runs generation t (answer (outcome.map fun _ => 0)) t' new)
        ∧ (Check.NamesOverlong l.schemas ∨ references = [] ∧ project.IsUnsayable →
            ∃ new, Work.Runs generation t (.error (.remark .longInteger)) t new))
    ∧ (∀ format, ∃ new, Work.Runs ((Request.validate file format).exitCode settings) t
        ((stoppedBy (unreported? settings.console l t.cwd format)).map fun _ =>
          if report.errors = [] then 0 else 1) t new)
    ∧ ∀ format, (Run.ofRequest settings (.validate file format) t).ending = .exit 0 →
        ∀ base dryRun verbose,
          ¬ Refuses ((Request.generateSchemas file base dryRun verbose).exitCode settings) t := by
  refine ⟨⟨l.categoryErrors t.cwd, rfl, l.length_categoryErrors t.cwd⟩, rfl, ?_,
    runs_validation h, ?_⟩
  · intro base dryRun verbose
    refine ⟨refuses_iff h, fun hsaid hsome => ⟨?_, runs_generation_refused h hsaid hsome⟩, ?_, ?_⟩
    · exact refusalHeading_notMem ((AreOfParts.readRecords t (.ofText file)).append (.check l.schemas))
    · intro hsaid hnone hannounces
      obtain ⟨outcome, t', delivered, new, hdeliver, hrun, -⟩ :=
        runs_generation_delivers h hsaid hnone hannounces
      exact ⟨outcome, t', delivered, new, hdeliver, hrun⟩
    · intro hstops
      obtain ⟨new, hrun, -⟩ := runs_generation_stopped h hstops
      exact ⟨new, hrun⟩
  · intro format hending base dryRun verbose hrefuses
    obtain ⟨new, hrun⟩ := runs_validation h format
    rw [Run.ofRequest_eq hrun, Ending.ofResult_eq_exit_iff] at hending
    have hnone : (Report.ofSpec l t.cwd).errors = [] := by
      by_contra hsome
      rw [if_neg hsome] at hending
      cases hstop : unreported? settings.console l t.cwd format <;> rw [hstop] at hending <;>
        cases hending
    exact ((refuses_iff h).mp hrefuses).2 (referenceErrors_of_no_errors hnone)

/-- What is found of a text that has a spec in it has been found of the spec that is loaded. -/
theorem exists_loadedSpec (text : String) (found : LoadedSpec → Bool)
    (hkept : text.toList.all isKeptAsIs = true)
    (h : (Spec.ofText text "file spec.yml").toOption.any (fun spec =>
      (Mapping.declared? spec.content "schemas").any fun schemas =>
        found ⟨"spec.yml", spec, schemas⟩) = true) :
    ∃ l, (SpecSession.specTree text).loadedSpec "spec.yml" = .ok l ∧ found l = true := by
  obtain ⟨spec, hspec, hany⟩ := Spec.exists_of_accepted h
  obtain ⟨schemas, hschemas, hfound⟩ := (Option.any_eq_true ..).mp hany
  refine ⟨⟨"spec.yml", spec, schemas⟩, ?_, hfound⟩
  have hfile : FilePath.ofText "spec.yml" = SpecSession.specFile := rfl
  rw [FileTree.loadedSpec_eq, hfile, SpecSession.readSpec_specTree hkept, hspec]
  simp only [Except.mapError, hschemas]

/-- A view asks for a field that is not there, and a category is not known. -/
def faultyText : String :=
  "schemas:\n  actor: {name: a}\n  dataset:\n    views:\n      v: {fields: [b]}\n"
    ++ "actor_details: {categories: [X]}\n"

def faultyReference : String :=
  "View 'v' references unknown field 'b' (spec.yml:5:20, at /schemas/dataset/views/v/fields/0)"

theorem exists_faultySpec :
    ∃ l, (SpecSession.specTree faultyText).loadedSpec "spec.yml" = .ok l
      ∧ (Check.issues l.schemas).map (l.describe ["work"]) = [faultyReference]
      ∧ (l.categoryErrors ["work"]).length = 1
      ∧ (Report.remarks l).all (·.isSayable) = true := by
  obtain ⟨l, hload, hfound⟩ := exists_loadedSpec faultyText (fun l =>
    (Check.issues l.schemas).map (l.describe ["work"]) = [faultyReference]
      ∧ (l.categoryErrors ["work"]).length = 1 ∧ (Report.remarks l).all (·.isSayable) = true)
    (by decide) (by decide +kernel)
  exact ⟨l, hload, of_decide_eq_true hfound⟩

/-- A report says what the checks say, too. -/
theorem not_namesOverlong_of_remarks {l : LoadedSpec} (h : (Report.remarks l).all (·.isSayable) = true) :
    ¬ Check.NamesOverlong l.schemas := by
  rw [← Check.remarks_not_sayable, Bool.not_eq_false, List.all_eq_true]
  intro m hm
  refine List.all_eq_true.mp h m ?_
  rw [Report.remarks, List.append_assoc, List.append_assoc]
  exact List.mem_append_left _ hm

open Request in
/-- The error of the reference is logged by a generation; a validation has that of the category too. -/
theorem faultyText_refused :
    ∃ l new, (SpecSession.specTree faultyText).loadedSpec "spec.yml" = .ok l
      ∧ (Report.ofSpec l ["work"]).errors.length = 2
      ∧ Work.Runs ((Request.generateSchemas "spec.yml" none false false).exitCode
            (.ofEnvironment [] .strict))
          (SpecSession.specTree faultyText) (.ok 1) (SpecSession.specTree faultyText)
          ((loadRecords (SpecSession.specTree faultyText) "spec.yml" ++ Check.records l.schemas
            ++ [refusalHeading, Channel.command.record .error ("  - " ++ faultyReference)]).map .record)
      ∧ Work.Runs ((Request.validate "spec.yml" .json).exitCode (.ofEnvironment [] .strict))
          (SpecSession.specTree faultyText) (.ok 1) (SpecSession.specTree faultyText) new := by
  obtain ⟨l, hload, hreferences, hcategory, hsayable⟩ := exists_faultySpec
  obtain ⟨-, -, hgeneration, hvalidation, -⟩ :=
    commands_share_checks (.ofEnvironment [] .strict) (SpecSession.specTree faultyText) "spec.yml" l hload
  have hcwd : (SpecSession.specTree faultyText).cwd = ["work"] := rfl
  have herrors : (Report.ofSpec l ["work"]).errors = [faultyReference] ++ l.categoryErrors ["work"] := by
    rw [← hreferences]
    rfl
  obtain ⟨-, hrefused, -⟩ := hgeneration none false false
  obtain ⟨new, hvalidated⟩ := hvalidation .json
  rw [hcwd, hreferences] at hrefused
  rw [hcwd, if_neg (by rw [herrors]; simp), unreported?_of_sayable hsayable] at hvalidated
  refine ⟨l, new, hload, ?_, (hrefused (not_namesOverlong_of_remarks hsayable) (by simp)).2, hvalidated⟩
  rw [herrors, List.length_append, hcategory]
  rfl

/-- A field of the input that is no mapping, with a surrogate for its name. -/
def halfField : String :=
  "schemas:\n  actor:\n    name: a\n  input:\n    fields:\n      \"\\ud800\": 3\n"

open Request in
/-- There are no errors, but a warning with a surrogate in it, and the validation ends without an exit code
where the console refuses that. -/
theorem halfField_unreported :
    ∃ l, (SpecSession.specTree halfField).loadedSpec "spec.yml" = .ok l
      ∧ (Report.ofSpec l ["work"]).errors = []
      ∧ ∃ fault, (Run.ofRequest (.ofEnvironment [] .strict) (.validate "spec.yml" .human)
          (SpecSession.specTree halfField)).ending = .failure (.console fault) := by
  obtain ⟨l, hload, hfound⟩ := exists_loadedSpec halfField (fun l =>
    (Report.ofSpec l ["work"]).errors = [] ∧ (Report.remarks l).all (·.isSayable) = true
      ∧ ((Report.ofSpec l ["work"]).lines.findSome? Console.strict.fault?).isSome = true)
    (by decide) (by decide +kernel)
  obtain ⟨herrors, hsayable, hrefused⟩ := of_decide_eq_true hfound
  obtain ⟨fault, hfault⟩ := Option.isSome_iff_exists.mp hrefused
  obtain ⟨new, hrun⟩ := @runs_validation (.ofEnvironment [] .strict) _ _ _ hload .human
  have hcwd : (SpecSession.specTree halfField).cwd = ["work"] := rfl
  have hconsole : (Settings.ofEnvironment [] .strict).console = .strict := rfl
  rw [unreported?_of_sayable hsayable, hcwd, hconsole] at hrun
  simp only [untaken?, hfault] at hrun
  refine ⟨l, hload, herrors, fault, ?_⟩
  rw [Run.ofRequest_eq hrun]
  rfl

end LoadedSpec

end ActorSpec
