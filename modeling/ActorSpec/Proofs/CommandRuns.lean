import ActorSpec.Command.Run
import ActorSpec.Proofs.References
import ActorSpec.Proofs.SchemaFiles

/-!
# Runs of the commands

Every command loads the spec first. A generation is then refused for what is wrong with the
references, or announces what it merges and delivers the documents: it stores them, or shows them in a
preview. The generation of an input delivers at once, and a validation reports. Each of these steps may
be stopped by a failure, so the lemmas on a step have a result of the form `stoppedBy failure?`, and say
exactly what has been put out when it is stopped.
-/

namespace ActorSpec

/-! ## Results and handlers -/

namespace Work

variable {ε δ α : Type} {m : Work ε α} {t t' t'' : FileTree} {new new' : List Output}

theorem runOn_tryCatch (m : Work ε α) (handler : ε → Work ε α) (w : Workspace) :
    runOn w (tryCatch m handler) = match runOn w m with
      | (.ok a, w') => (.ok a, w')
      | (.error e, w') => runOn w' (handler e) := by
  have hcatch : runOn w (tryCatch m handler) = (fun r : Except ε α × Workspace =>
      runOn r.2 (match r.1 with
        | .ok a => Pure.pure a
        | .error e => handler e)) (runOn w m) := rfl
  rw [hcatch]
  rcases runOn w m with ⟨e | a, w'⟩ <;> rfl

namespace Runs

theorem ofResult (fault : δ → ε) (result : Except δ α) (t : FileTree) :
    Runs (ofResult fault result) t (result.mapError fault) t [] := by
  cases result with
  | ok a => exact pure a t
  | error e => exact throw (fault e) t

theorem tryCatch_ok {a : α} (h : Runs m t (.ok a) t' new) (handler : ε → Work ε α) :
    Runs (tryCatch m handler) t (.ok a) t' new := by
  intro before
  rw [runOn_tryCatch, h before]

theorem tryCatch_error {e : ε} {handler : ε → Work ε α} {result : Except ε α}
    (h : Runs m t (.error e) t' new) (hhandler : Runs (handler e) t' result t'' new') :
    Runs (tryCatch m handler) t result t'' (new ++ new') := by
  intro before
  rw [runOn_tryCatch, h before]
  exact (hhandler _).trans (by rw [List.append_assoc])

end Runs

end Work

/-! ## Consoles -/

namespace Console

variable {text : String}

theorem takes_iff {c : Console} : c.takes text = true ↔ c.fault? text = none := Option.isNone_iff_eq_none

/-- Every console takes ASCII. -/
theorem fault?_of_ascii (c : Console) (h : Text.Encoding.ascii.covers text = true) :
    c.fault? text = none := by
  refine Text.encodeFault?_eq_none_iff.mpr fun n hn => ?_
  rw [c.encoding.has_ascii n (of_decide_eq_true (List.all_eq_true.mp h n hn)), Bool.true_or]

/-- The console takes all that has bytes in a file. -/
def TakesEncodable (c : Console) : Prop := ∀ text, Text.isEncodable text = true → c.takes text = true

/-- It takes nothing else. -/
def TakesOnlyEncodable (c : Console) : Prop := ∀ text, c.takes text = true → Text.isEncodable text = true

theorem strict_takes_iff : strict.takes text = true ↔ Text.isEncodable text = true :=
  takes_iff.trans Text.encodeFault?_strict_eq_none_iff

theorem strict_takesEncodable : strict.TakesEncodable := fun _ => strict_takes_iff.mpr

theorem strict_takesOnlyEncodable : strict.TakesOnlyEncodable := fun _ => strict_takes_iff.mp

theorem lenient_takes (text : String) : lenient.takes text = true :=
  takes_iff.mpr (Text.encodeFault?_eq_none_iff.mpr fun _ _ => Bool.or_true _)

end Console

/-! ## How a command ends -/

namespace Request

/-- A failure that stops what would go well without it. -/
def stoppedBy : Option Failure → Except Failure Unit
  | none => .ok ()
  | some failure => .error failure

theorem stoppedBy_eq_ok_iff {failure? : Option Failure} : stoppedBy failure? = .ok () ↔ failure? = none := by
  cases failure? <;> simp [stoppedBy]

/-- A failure that is foreseen is logged and gives an exit code. -/
def handle (r : Request) (failure : Failure) : Work Failure Nat :=
  if failure.isForeseen then do
    Work.log (Channel.command.record .error (r.failureHeading ++ ": " ++ failure.message))
    return 1
  else throw failure

theorem exitCode_eq (settings : Settings) (r : Request) :
    r.exitCode settings = tryCatch (r.work settings) r.handle := by
  have hrun : ∀ w, Work.runOn w (r.exitCode settings) =
      Work.runOn w (tryCatch (r.work settings) r.handle) := by
    intro w
    rw [exitCode, Work.runOn_bind, Work.runOn_tryCatch, Work.runOn_tryCatch, Work.runOn_bind]
    rcases Work.runOn w (r.work settings) with ⟨failure | code, w'⟩
    · unfold handle
      dsimp only
      cases failure.isForeseen <;> rfl
    · rfl
  exact funext hrun

/-- What comes of the result of the work of a command. -/
def answer : Except Failure Nat → Except Failure Nat
  | .ok code => .ok code
  | .error failure => if failure.isForeseen then .ok 1 else .error failure

theorem answer_eq_ok_zero_iff {result : Except Failure Nat} :
    answer result = .ok 0 ↔ result = .ok 0 := by
  cases result with
  | ok code => rfl
  | error failure =>
      rw [answer]
      split <;> simp

/-- What is logged when the work of a command is over. -/
def closingRecords (r : Request) : Except Failure Nat → List Record
  | .ok _ => []
  | .error failure =>
    if failure.isForeseen then
      [Channel.command.record .error (r.failureHeading ++ ": " ++ failure.message)]
    else []

theorem runs_exitCode {settings : Settings} {r : Request} {t t' : FileTree}
    {result : Except Failure Nat} {new : List Output}
    (h : Work.Runs (r.work settings) t result t' new) :
    Work.Runs (r.exitCode settings) t (answer result) t'
      (new ++ (r.closingRecords result).map .record) := by
  rw [exitCode_eq]
  cases result with
  | ok code =>
      rw [closingRecords, List.map_nil, List.append_nil]
      exact h.tryCatch_ok _
  | error failure =>
      refine h.tryCatch_error ?_
      rw [answer, closingRecords, handle]
      split
      · exact (Work.Runs.put _ t').bind (Work.Runs.pure 1 t')
      · exact Work.Runs.throw failure t'

theorem runs_exitCode_ok {settings : Settings} {r : Request} {t t' : FileTree} {code : Nat}
    {new : List Output} (h : Work.Runs (r.work settings) t (.ok code) t' new) :
    Work.Runs (r.exitCode settings) t (.ok code) t' new := by
  have hrun := runs_exitCode h
  rwa [closingRecords, List.map_nil, List.append_nil] at hrun

end Request

/-- The ending of a run whose command gives this. -/
def Ending.ofResult : Except Failure Nat → Ending
  | .ok code => .exit code
  | .error fault => .failure fault

theorem Ending.ofResult_eq_exit_iff {result : Except Failure Nat} {code : Nat} :
    ofResult result = .exit code ↔ result = .ok code := by
  cases result <;> simp [ofResult]

/-- A run shows what its command has done. -/
theorem Run.ofRequest_eq {settings : Settings} {r : Request} {t t' : FileTree}
    {result : Except Failure Nat} {new : List Output}
    (h : Work.Runs (r.exitCode settings) t result t' new) :
    Run.ofRequest settings r t = {
      files := t'
      standardOutput := Output.text settings.console (settings.routing r.isVerbose) .standardOutput new
      standardError := Output.text settings.console (settings.routing r.isVerbose) .standardError new
      ending := .ofResult result } := by
  have hrun := h []
  rw [List.nil_append] at hrun
  rw [Run.ofRequest, hrun]
  cases result <;> rfl

/-! ## Loading -/

/-- The spec in a file, as the commands load it. -/
def FileTree.loadedSpec (t : FileTree) (file : String) : Except Failure LoadedSpec :=
  match t.readSpec (.ofText file) with
  | .error fault => .error (.spec fault)
  | .ok spec =>
    match Mapping.declared? spec.content "schemas" with
    | none => .error .noSchemas
    | some schemas => .ok ⟨file, spec, schemas⟩

theorem FileTree.loadedSpec_eq (t : FileTree) (file : String) :
    t.loadedSpec file = match t.readSpec (.ofText file) with
      | .error fault => .error (.spec fault)
      | .ok spec =>
        match Mapping.declared? spec.content "schemas" with
        | none => .error .noSchemas
        | some schemas => .ok ⟨file, spec, schemas⟩ :=
  -- The parentheses keep it from being tried as a rule of definitional unfolding, which is slow.
  (rfl)

theorem SpecStore.load_empty (keeps : Bool) (t : FileTree) (p : FilePath) :
    ((empty keeps).load t p).records = readRecords t p
    ∧ ((empty keeps).load t p).result = t.readSpec p := by
  have hnone : (empty keeps).find? p = none := by
    cases keeps <;> rfl
  rw [load, hnone]
  cases t.readSpec p <;> exact ⟨rfl, rfl⟩

/-! ## The input of a project -/

namespace Project

variable {p : Project} {t t' : FileTree}

/-- The part of the generation of an input that touches files. -/
def storeInput (p : Project) (path : String) : Work Failure Unit :=
  if p.dryRun then pure ()
  else do
    (Work.writeDocument (p.inputPath path)
      (.mapping (DefaultInput.ofConfig p.config))).adapt .output
    Work.log (Channel.project.record .info
      ("Generated default input file: " ++ (p.inputPath path).text))

theorem generateInput_eq (p : Project) (path : String) :
    p.generateInput path = do
      p.storeInput path
      return DefaultInput.ofConfig p.config := by
  rw [generateInput, storeInput]
  cases p.dryRun with
  | true => rfl
  | false =>
      simp only [Bool.not_false, Bool.false_eq_true, if_true, if_false, bind_assoc]

theorem storeInput_of_dryRun (hdry : p.dryRun = true) (path : String) (t : FileTree) :
    Work.Runs (p.storeInput path) t (.ok ()) t [] := by
  rw [storeInput, if_pos hdry]
  exact Work.Runs.pure () t

theorem storeInput_of_not_dryRun (hdry : p.dryRun = false) (path : String) :
    p.storeInput path = (do
      (Work.writeDocument (p.inputPath path)
        (.mapping (DefaultInput.ofConfig p.config))).adapt .output
      Work.log (Channel.project.record .info
        ("Generated default input file: " ++ (p.inputPath path).text))) :=
  if_neg (by rw [hdry]; exact Bool.false_ne_true)

theorem runs_generateInput_of_storeInput {path : String} {outcome : Except Failure Unit}
    {stored : List Output} (h : Work.Runs (p.storeInput path) t outcome t' stored) :
    Work.Runs (p.generateInput path) t (outcome.map fun _ => DefaultInput.ofConfig p.config) t'
      stored := by
  rw [generateInput_eq]
  cases outcome with
  | error fault => exact h.bind_error _
  | ok _ =>
      rw [← List.append_nil stored]
      exact h.bind (Work.Runs.pure _ t')

end Project

namespace Request

variable {settings : Settings} {file : String} {l : LoadedSpec} {t t' : FileTree}

/-- What is logged while a spec is loaded. -/
def loadRecords (t : FileTree) (file : String) : List Record :=
  SpecStore.readRecords t (.ofText file)

theorem runs_loadSpec (settings : Settings) (file : String) (t : FileTree) :
    Work.Runs (loadSpec settings file) t (t.loadedSpec file) t
      ((loadRecords t file).map .record) := by
  obtain ⟨hrecords, hresult⟩ := SpecStore.load_empty settings.cacheEnabled t (.ofText file)
  rw [← List.append_nil (List.map _ _), loadRecords, ← hrecords]
  refine (Work.Runs.files t).bind ((Work.Runs.logAll _ t).bind ?_)
  rw [FileTree.loadedSpec_eq, hresult]
  have hspec := Work.Runs.ofResult Failure.spec (t.readSpec (.ofText file)) t
  cases hread : t.readSpec (.ofText file) with
  | error fault =>
      rw [hread] at hspec
      exact hspec.bind_error _
  | ok spec =>
      rw [hread] at hspec
      refine hspec.bind ?_
      dsimp only
      cases Mapping.declared? spec.content "schemas" with
      | none => exact Work.Runs.throw Failure.noSchemas t
      | some schemas => exact Work.Runs.pure (⟨file, spec, schemas⟩ : LoadedSpec) t

/-! ## Generations -/

/-- What a refusal begins with. -/
def refusalHeading : Record := Channel.command.record .error "Schema validation errors:"

/-- What is logged of one of the errors that a spec is refused for. -/
def refusalRecord (error : String) : Record := Channel.command.record .error ("  - " ++ error)

theorem runs_refuse (errors : List String) (t : FileTree) :
    Work.Runs (ε := Failure) (refuse errors) t (.ok ()) t
      ((refusalHeading :: errors.map refusalRecord).map .record) :=
  (Work.Runs.put (.record refusalHeading) t).bind (Work.Runs.logAll (errors.map refusalRecord) t)

/-- The project of a generation. -/
def projectOf (settings : Settings) (t : FileTree) (l : LoadedSpec) (base : Option String)
    (dryRun verbose : Bool) : Project :=
  .ofConfig settings t.cwd ⟨base, none, dryRun, verbose⟩ l.schemas

/-- Documents under the names of their files. -/
def titled (d : Documents) : List (Option String × Value) :=
  d.files.map fun (file, v) => (some file.name, v)

/-- Stores the documents of a project, or shows them in a dry run. -/
def deliver (console : Console) (p : Project) : Work Failure Unit :=
  if p.dryRun then preview console "Generated Schemas" (titled (.ofConfig p.config)) else p.store

variable {console : Console}

theorem deliver_of_dryRun {p : Project} (h : p.dryRun = true) :
    deliver console p = preview console "Generated Schemas" (titled (.ofConfig p.config)) := if_pos h

theorem deliver_of_not_dryRun {p : Project} (h : p.dryRun = false) : deliver console p = p.store :=
  if_neg (by rw [h]; exact Bool.false_ne_true)

/-- Stores the input of a project, or shows it in a dry run. -/
def deliverInput (console : Console) (p : Project) (output : String) : Work Failure Unit :=
  if p.dryRun then
    preview console "Generated INPUT.json" [(none, .mapping (DefaultInput.ofConfig p.config))]
  else p.storeInput output

theorem deliverInput_of_dryRun {p : Project} (h : p.dryRun = true) (output : String) :
    deliverInput console p output =
      preview console "Generated INPUT.json" [(none, .mapping (DefaultInput.ofConfig p.config))] :=
  if_pos h

theorem deliverInput_of_not_dryRun {p : Project} (h : p.dryRun = false) (output : String) :
    deliverInput console p output = p.storeInput output :=
  if_neg (by rw [h]; exact Bool.false_ne_true)

/-- A command that generates and then shows what it has generated, if this is a dry run, ends as its
delivery does: nothing is stored by a generation whose result is shown. -/
theorem runs_generate {α : Type} {generate : Work Failure α} {store : Work Failure Unit}
    {a : α} {dryRun : Bool} {outcome : Except Failure Unit} {delivered : List Output}
    (announced : List Output) (shown : α → Work Failure Unit)
    (hgenerate : ∀ {outcome t' stored}, Work.Runs store t outcome t' stored →
      Work.Runs generate t (outcome.map fun _ => a) t' (announced ++ stored))
    (hnothing : dryRun = true → Work.Runs store t (.ok ()) t [])
    (hdeliver : Work.Runs (if dryRun then shown a else store) t outcome t' delivered) :
    Work.Runs (do
      let made ← generate
      if dryRun then shown made
      return 0) t (outcome.map fun _ => 0) t' (announced ++ delivered) := by
  cases dryRun with
  | true =>
      have hmade := hgenerate (hnothing rfl)
      rw [List.append_nil] at hmade
      refine hmade.bind ?_
      cases outcome with
      | error fault => exact hdeliver.bind_error _
      | ok _ =>
          rw [← List.append_nil delivered]
          exact hdeliver.bind (Work.Runs.pure 0 t')
  | false =>
      have hmade := hgenerate hdeliver
      cases outcome with
      | error fault => exact hmade.bind_error _
      | ok _ =>
          rw [← List.append_nil (announced ++ delivered)]
          exact hmade.bind (Work.Runs.pure 0 t')

section

variable {base : Option String} {dryRun verbose : Bool} {output : String}

theorem runs_runGenerateSchemas_refused (h : t.loadedSpec file = .ok l)
    (hsaid : ¬ Check.NamesOverlong l.schemas)
    (herrors : l.referenceErrors t.cwd ≠ []) :
    Work.Runs (runGenerateSchemas settings file base dryRun verbose) t (.ok 1) t
      ((loadRecords t file ++ Check.records l.schemas
        ++ refusalHeading :: (l.referenceErrors t.cwd).map refusalRecord).map .record) := by
  have hload := runs_loadSpec settings file t
  rw [h] at hload
  have hsome : (!(Check.issues l.schemas).isEmpty) = true := by
    simpa [LoadedSpec.referenceErrors] using herrors
  rw [List.map_append, List.map_append, List.append_assoc]
  refine hload.bind ((Work.Runs.files t).bind (((Check.runs_run hsaid t).adapt Failure.remark).bind ?_))
  have hrefuse : Work.Runs (do refuse (l.referenceErrors t.cwd); return 1) t (.ok 1) t
      (_ ++ []) := (runs_refuse (l.referenceErrors t.cwd) t).bind (Work.Runs.pure 1 t)
  dsimp only
  rw [if_pos hsome]
  rwa [List.append_nil] at hrefuse

/-- A generation that is not refused ends as its delivery does. -/
theorem runs_runGenerateSchemas {outcome : Except Failure Unit} {delivered : List Output}
    (h : t.loadedSpec file = .ok l)
    (hsaid : ¬ Check.NamesOverlong l.schemas)
    (herrors : l.referenceErrors t.cwd = [])
    (hannounces : ¬ (projectOf settings t l base dryRun verbose).IsUnsayable)
    (hdeliver : Work.Runs (deliver settings.console (projectOf settings t l base dryRun verbose)) t
      outcome t' delivered) :
    Work.Runs (runGenerateSchemas settings file base dryRun verbose) t
      (outcome.map fun _ => 0) t'
      ((loadRecords t file ++ Check.records l.schemas
        ++ Project.announced l.schemas verbose).map .record ++ delivered) := by
  have hload := runs_loadSpec settings file t
  rw [h] at hload
  rw [List.map_append, List.map_append, List.append_assoc, List.append_assoc]
  refine hload.bind ((Work.Runs.files t).bind (((Check.runs_run hsaid t).adapt Failure.remark).bind ?_))
  have hnone : Check.issues l.schemas = [] := List.map_eq_nil_iff.mp herrors
  dsimp only
  rw [hnone]
  exact runs_generate _ (fun d => preview settings.console "Generated Schemas" (titled d))
    (Project.runs_generate_of_store hannounces) (Project.store_of_dryRun · t) hdeliver

/-- A generation whose checks have something to say that cannot be said ends there. -/
theorem runs_runGenerateSchemas_unchecked (h : t.loadedSpec file = .ok l)
    (hunsaid : Check.NamesOverlong l.schemas) :
    Work.Runs (runGenerateSchemas settings file base dryRun verbose) t
      (.error (.remark .longInteger)) t
      ((loadRecords t file
        ++ Remark.records ((Check.remarks l.schemas).takeWhile (·.isSayable))).map .record) := by
  have hload := runs_loadSpec settings file t
  rw [h] at hload
  have hstop : Work.Runs (Check.run l.schemas) t (.error .longInteger) t
      ((Remark.records ((Check.remarks l.schemas).takeWhile (·.isSayable))).map .record) :=
    (Work.Runs.ensureSayable_fault ((Check.remarks_not_sayable _).mpr hunsaid) t).bind_error _
  rw [List.map_append]
  exact hload.bind ((Work.Runs.files t).bind ((hstop.adapt Failure.remark).bind_error _))

/-- So does one that is not refused, but cannot announce what it makes. -/
theorem runs_runGenerateSchemas_unannounced (h : t.loadedSpec file = .ok l)
    (hsaid : ¬ Check.NamesOverlong l.schemas)
    (herrors : l.referenceErrors t.cwd = [])
    (hunsayable : (projectOf settings t l base dryRun verbose).IsUnsayable) :
    Work.Runs (runGenerateSchemas settings file base dryRun verbose) t
      (.error (.remark .longInteger)) t
      ((loadRecords t file ++ Check.records l.schemas
        ++ Remark.records ((projectOf settings t l base dryRun verbose).remarks.takeWhile
          (·.isSayable))).map .record) := by
  have hload := runs_loadSpec settings file t
  rw [h] at hload
  have hgenerate := ((Work.Runs.ensureSayable_fault hunsayable t).adapt Failure.remark).bind_error
    fun _ => (projectOf settings t l base dryRun verbose).generateSchemas
  rw [List.map_append, List.map_append, List.append_assoc]
  refine hload.bind ((Work.Runs.files t).bind (((Check.runs_run hsaid t).adapt Failure.remark).bind ?_))
  have hnone : Check.issues l.schemas = [] := List.map_eq_nil_iff.mp herrors
  dsimp only
  rw [hnone]
  exact Work.Runs.bind_error hgenerate _

/-- A generation of an input ends as its delivery does. -/
theorem runs_runGenerateInput {outcome : Except Failure Unit} {delivered : List Output}
    (h : t.loadedSpec file = .ok l)
    (hdeliver : Work.Runs (deliverInput settings.console
      (projectOf settings t l none dryRun verbose) output) t outcome t' delivered) :
    Work.Runs (runGenerateInput settings file output dryRun verbose) t (outcome.map fun _ => 0) t'
      ((loadRecords t file).map .record ++ delivered) := by
  have hload := runs_loadSpec settings file t
  rw [h] at hload
  refine hload.bind ((Work.Runs.files t).bind ?_)
  exact runs_generate []
    (fun input => preview settings.console "Generated INPUT.json" [(none, .mapping input)])
    Project.runs_generateInput_of_storeInput (Project.storeInput_of_dryRun · output t) hdeliver

/-- A command that finds no spec ends there. -/
theorem runs_runGenerateSchemas_unloaded {failure : Failure} (h : t.loadedSpec file = .error failure) :
    Work.Runs (runGenerateSchemas settings file base dryRun verbose) t (.error failure) t
      ((loadRecords t file).map .record) := by
  have hload := runs_loadSpec settings file t
  rw [h] at hload
  exact hload.bind_error _

theorem runs_runGenerateInput_unloaded {failure : Failure} (h : t.loadedSpec file = .error failure) :
    Work.Runs (runGenerateInput settings file output dryRun verbose) t (.error failure) t
      ((loadRecords t file).map .record) := by
  have hload := runs_loadSpec settings file t
  rw [h] at hload
  exact hload.bind_error _

end

/-! ## Printing -/

/-- Lines that are printed. -/
def printed (lines : List String) : List Output := lines.map fun line => .printed (line ++ "\n")

theorem printed_append (lines lines' : List String) :
    printed (lines ++ lines') = printed lines ++ printed lines' := List.map_append

/-- The failure of the first of some lines that the console does not take. -/
def untaken? (console : Console) (lines : List String) : Option Failure :=
  (lines.findSome? console.fault?).map .console

theorem runs_printLine {line : String} (h : console.fault? line = none) (t : FileTree) :
    Work.Runs (printLine console line) t (.ok ()) t (printed [line]) := by
  rw [printLine, h]
  exact Work.Runs.put _ t

theorem runs_printLine_fault {line : String} {fault : Text.EncodeFault}
    (h : console.fault? line = some fault) (t : FileTree) :
    Work.Runs (printLine console line) t (.error (.console fault)) t [] := by
  rw [printLine, h]
  exact Work.Runs.throw _ t

/-- Lines are printed up to the first that the console does not take. -/
theorem runs_printLines (console : Console) (lines : List String) (t : FileTree) :
    Work.Runs (lines.forM (printLine console)) t (stoppedBy (untaken? console lines)) t
      (printed (lines.takeWhile console.takes)) := by
  induction lines with
  | nil => exact Work.Runs.pure () t
  | cons line rest ih =>
      rw [untaken?, List.findSome?_cons, List.takeWhile_cons, Console.takes]
      cases hfault : console.fault? line with
      | none => exact (runs_printLine hfault t).bind ih
      | some fault => exact (runs_printLine_fault hfault t).bind_error _

/-- What a command can print without regard to the console. -/
theorem runs_printLine_plain {line : String} (h : Text.Encoding.ascii.covers line = true)
    (t : FileTree) : Work.Runs (printLine console line) t (.ok ()) t (printed [line]) :=
  runs_printLine (console.fault?_of_ascii h) t

end Request

/-- A report has a text, and every console takes it. -/
theorem Report.exists_write_toValue (r : Report) (file : String) :
    ∃ text, Json.write .ascii (r.toValue file) = .ok text
      ∧ Text.Encoding.ascii.covers text = true := by
  have hitems : ∀ texts : List String,
      Value.everyItem Value.partIsWritable (texts.map Value.str) = true := fun texts => by
    rw [Value.everyItem_map_str, List.all_eq_true]
    exact fun _ _ => rfl
  have hwritable : (r.toValue file).isWritable = true := by
    simp only [toValue, Value.ofFields, List.map_cons, List.map_nil, Value.isWritable,
      Value.everyPart, Value.everyEntry, hitems]
    rfl
  obtain ⟨text, htext⟩ := (Json.write_eq_ok_iff .ascii _).mpr hwritable
  exact ⟨text, htext, Json.covers_of_write_ascii htext⟩

namespace Request

/-! ## Validations -/

variable {settings : Settings} {file : String} {l : LoadedSpec} {t t' : FileTree}

/-- What a validation does once the report is printed. -/
def conclude (console : Console) (report : Report) (format : ReportFormat) : Work Failure Nat := do
  if !report.errors.isEmpty then return 1
  if format = .human then printLine console "Validation succeeded with no errors."
  return 0

/-- What a validation prints behind the report. -/
def closingLines (report : Report) : ReportFormat → List String
  | .human => if report.errors = [] then ["Validation succeeded with no errors."] else []
  | .json => []

theorem runs_conclude (console : Console) (report : Report) (format : ReportFormat) (t : FileTree) :
    Work.Runs (conclude console report format) t
      (.ok (if report.errors = [] then 0 else 1)) t (printed (closingLines report format)) := by
  rw [conclude]
  by_cases hnone : report.errors = []
  · rw [if_neg (by simp [hnone]), if_pos hnone]
    cases format with
    | human =>
        rw [closingLines, if_pos hnone]
        exact (runs_printLine_plain (by decide) t).bind (Work.Runs.pure 0 t)
    | json => exact Work.Runs.pure 0 t
  · rw [if_pos (by simp [hnone]), if_neg hnone]
    cases format with
    | human =>
        rw [closingLines, if_neg hnone]
        exact Work.Runs.pure 1 t
    | json => exact Work.Runs.pure 1 t

/-- A validation whose report cannot be made ends there. -/
theorem runs_runValidate_unsayable {format : ReportFormat} (h : t.loadedSpec file = .ok l)
    (hunsayable : (Report.remarks l).all (·.isSayable) = false) :
    Work.Runs (runValidate settings file format) t (.error (.remark .longInteger)) t
      ((loadRecords t file
        ++ Remark.records ((Report.remarks l).takeWhile (·.isSayable))).map .record) := by
  have hload := runs_loadSpec settings file t
  rw [h] at hload
  rw [List.map_append]
  exact hload.bind ((Work.Runs.files t).bind
    (((Work.Runs.ensureSayable_fault hunsayable t).adapt Failure.remark).bind_error _))

/-- Otherwise one for programs prints the report as a document. -/
theorem runs_runValidate_json (h : t.loadedSpec file = .ok l)
    (hsayable : (Report.remarks l).all (·.isSayable) = true) :
    ∃ text, Json.write .ascii ((Report.ofSpec l t.cwd).toValue file) = .ok text
      ∧ Work.Runs (runValidate settings file .json) t
        (.ok (if (Report.ofSpec l t.cwd).errors = [] then 0 else 1)) t
        ((loadRecords t file ++ Report.records l).map .record ++ printed [text]) := by
  have hload := runs_loadSpec settings file t
  rw [h] at hload
  obtain ⟨text, htext, htaken⟩ := (Report.ofSpec l t.cwd).exists_write_toValue file
  refine ⟨text, htext, ?_⟩
  have hsaid := (Work.Runs.ensureSayable hsayable t).adapt Failure.remark
  have hconclude := runs_conclude settings.console (Report.ofSpec l t.cwd) .json t
  rw [List.map_append, List.append_assoc]
  refine hload.bind ((Work.Runs.files t).bind (hsaid.bind ((Work.Runs.logAll _ t).bind ?_)))
  dsimp only
  rw [htext]
  exact (Work.Runs.pure text t).bind ((runs_printLine_plain htaken t).bind hconclude)

/-- One for people prints its lines, as far as the console takes them. -/
theorem runs_runValidate_human (h : t.loadedSpec file = .ok l)
    (hsayable : (Report.remarks l).all (·.isSayable) = true) :
    ∃ lines, Work.Runs (runValidate settings file .human) t
      ((stoppedBy (untaken? settings.console (Report.ofSpec l t.cwd).lines)).map fun _ =>
        if (Report.ofSpec l t.cwd).errors = [] then 0 else 1) t
      ((loadRecords t file ++ Report.records l).map .record ++ printed lines) := by
  have hload := runs_loadSpec settings file t
  rw [h] at hload
  have hsaid := (Work.Runs.ensureSayable hsayable t).adapt Failure.remark
  have hlines := runs_printLines settings.console (Report.ofSpec l t.cwd).lines t
  have hbefore : ∀ {result new}, Work.Runs (do
        (Report.ofSpec l t.cwd).lines.forM (printLine settings.console)
        conclude settings.console (Report.ofSpec l t.cwd) .human) t result t new →
      Work.Runs (runValidate settings file .human) t result t
        ((loadRecords t file ++ Report.records l).map .record ++ new) := by
    intro result new hrest
    rw [List.map_append, List.append_assoc]
    exact hload.bind ((Work.Runs.files t).bind (hsaid.bind ((Work.Runs.logAll _ t).bind hrest)))
  cases hstop : untaken? settings.console (Report.ofSpec l t.cwd).lines with
  | none =>
      rw [hstop] at hlines
      have hconclude := runs_conclude settings.console (Report.ofSpec l t.cwd) .human t
      refine ⟨(Report.ofSpec l t.cwd).lines.takeWhile settings.console.takes
        ++ closingLines (Report.ofSpec l t.cwd) .human, ?_⟩
      rw [printed_append]
      exact hbefore (hlines.bind hconclude)
  | some failure =>
      rw [hstop] at hlines
      exact ⟨_, hbefore (hlines.bind_error _)⟩

/-- The failure that ends a validation without an exit code. -/
def unreported? (console : Console) (l : LoadedSpec) (cwd : Place) (format : ReportFormat) :
    Option Failure :=
  if (Report.remarks l).all (·.isSayable) then
    match format with
    | .json => none
    | .human => untaken? console (Report.ofSpec l cwd).lines
  else some (.remark .longInteger)

theorem unreported?_of_sayable {console : Console} {cwd : Place} {format : ReportFormat}
    (h : (Report.remarks l).all (·.isSayable) = true) :
    unreported? console l cwd format = match format with
      | .json => none
      | .human => untaken? console (Report.ofSpec l cwd).lines := if_pos h

theorem unreported?_of_unsayable {console : Console} {cwd : Place} {format : ReportFormat}
    (h : (Report.remarks l).all (·.isSayable) = false) :
    unreported? console l cwd format = some (.remark .longInteger) :=
  if_neg (by rw [h]; exact Bool.false_ne_true)

theorem isForeseen_of_unreported? {console : Console} {cwd : Place} {format : ReportFormat}
    {failure : Failure} (h : unreported? console l cwd format = some failure) :
    failure.isForeseen = false := by
  unfold unreported? at h
  split at h
  · cases format with
    | json => cases h
    | human =>
        obtain ⟨fault, -, rfl⟩ := Option.map_eq_some_iff.mp h
        rfl
  · obtain rfl := Option.some.inj h
    rfl

/-- A validation reports and changes nothing, and unless it fails its exit code says whether there are
errors. -/
theorem runs_runValidate {format : ReportFormat} (h : t.loadedSpec file = .ok l) :
    ∃ (records : List Record) (lines : List String), Work.Runs (runValidate settings file format) t
      ((stoppedBy (unreported? settings.console l t.cwd format)).map fun _ =>
        if (Report.ofSpec l t.cwd).errors = [] then 0 else 1) t
      (records.map .record ++ printed lines) := by
  cases hsayable : (Report.remarks l).all (·.isSayable) with
  | true =>
      rw [unreported?_of_sayable hsayable]
      cases format with
      | json =>
          obtain ⟨text, -, hrun⟩ := runs_runValidate_json h hsayable
          exact ⟨_, [text], hrun⟩
      | human =>
          obtain ⟨lines, hrun⟩ := runs_runValidate_human h hsayable
          exact ⟨_, lines, hrun⟩
  | false =>
      have hrun := @runs_runValidate_unsayable settings file l t format h hsayable
      rw [← List.append_nil (List.map _ _)] at hrun
      rw [unreported?_of_unsayable hsayable]
      exact ⟨_, [], hrun⟩

end Request

end ActorSpec
