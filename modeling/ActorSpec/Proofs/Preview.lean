import ActorSpec.Proofs.SharedChecks

/-!
# Previews

A dry run prints what the same command would write without it. Both get to the delivery of the documents
under one condition, in which files do not occur (`Request.IsDeliverable`). There a preview needs texts
that the console takes (`Shows`), and a file one that has bytes (`IsStorable`), so the two end alike where
the console takes just the texts with bytes. What is shown is the text of a document and so is what is
stored, and a document has one text (`Shows.of_write`): so, however the console is, where both end well
the preview prints what the files hold.
-/

namespace ActorSpec

/-- The elements that a test lets through, each with what is made of it. -/
theorem filterMap_ite_some {α β : Type} (p : α → Prop) [DecidablePred p] (f : α → β) (l : List α) :
    (l.filterMap fun a => if p a then some (f a) else none) = (l.filter p).map f := by
  have hnot : (fun a => if p a then some (f a) else none) = fun a =>
      if (!decide (p a)) = true then none else some (f a) := by
    funext a
    by_cases h : p a <;> simp [h]
  rw [hnot, Check.filterMap_ite_none]
  simp only [Bool.not_not]

namespace Output

variable {routing : Routing} {stream : OutputStream}

theorem text_append (console : Console) (routing : Routing) (stream : OutputStream)
    (o o' : List Output) :
    text console routing stream (o ++ o') =
      text console routing stream o ++ text console routing stream o' := by
  rw [text, List.filterMap_append, String.join_append]
  rfl

/-- The text of a stream has the lines of the records that go there and show. -/
theorem text_map_record (console : Console) (routing : Routing) (stream : OutputStream)
    (records : List Record) :
    text console routing stream (records.map .record) =
      String.join ((records.filter fun r =>
        routing.stream? r.level = some stream ∧ shows console stream r.line).map Record.line) := by
  rw [text, List.filterMap_map]
  exact congrArg String.join (filterMap_ite_some _ _ _)

/-- Whatever the routing is, printed lines are on the standard output. -/
theorem text_printed (console : Console) (routing : Routing) (lines : List String) :
    text console routing .standardOutput (Request.printed lines) =
      String.join (lines.map (· ++ "\n")) := by
  have hon : on console routing .standardOutput ∘ (fun line => .printed (line ++ "\n")) =
      some ∘ (· ++ "\n") := rfl
  rw [text, Request.printed, List.filterMap_map, hon, ← List.filterMap_map, List.filterMap_some]

end Output

/-! ## What a preview prints -/

namespace Request

variable {console : Console} {t t' : FileTree} {heading : String}

/-- The text of a document, which the console takes. -/
def Shows (console : Console) (v : Value) (text : String) : Prop :=
  Json.write .unicode v = .ok text ∧ console.fault? text = none

/-- Why a document is not shown, if it is not. -/
def unshown? (console : Console) (v : Value) : Option Failure :=
  match Json.write .unicode v with
  | .error fault => some (.document fault)
  | .ok text => (console.fault? text).map .console

theorem unshown?_eq_none_iff {v : Value} :
    unshown? console v = none ↔ ∃ text, Shows console v text := by
  rw [unshown?]
  unfold Shows
  cases Json.write .unicode v with
  | error fault => simp
  | ok text => simp

theorem isForeseen_of_unshown? {v : Value} {failure : Failure}
    (h : unshown? console v = some failure) : failure.isForeseen = false := by
  rw [unshown?] at h
  split at h
  · obtain rfl := Option.some.inj h
    rfl
  · obtain ⟨fault, -, rfl⟩ := Option.map_eq_some_iff.mp h
    rfl

/-- What a document needs for its file. -/
def IsStorable (v : Value) : Prop := v.isWritable = true ∧ v.isEncodable = true

instance (v : Value) : Decidable (IsStorable v) := inferInstanceAs (Decidable (_ ∧ _))

theorem exists_shows_of_isStorable {v : Value} (h : IsStorable v) (hconsole : console.TakesEncodable) :
    ∃ text, Shows console v text := by
  obtain ⟨text, htext⟩ := (Json.write_eq_ok_iff .unicode v).mpr h.1
  refine ⟨text, htext, Console.takes_iff.mp (hconsole text ?_)⟩
  exact (Json.isEncodable_of_write htext).trans h.2

theorem isStorable_of_shows {v : Value} {text : String} (h : Shows console v text)
    (hconsole : console.TakesOnlyEncodable) : IsStorable v := by
  refine ⟨(Json.write_eq_ok_iff .unicode v).mp ⟨text, h.1⟩, ?_⟩
  exact (Json.isEncodable_of_write h.1).symm.trans (hconsole text (Console.takes_iff.mpr h.2))

/-- What is shown of a document is the one text that it has. -/
theorem Shows.of_write {v : Value} {text : String} (hwrite : Json.write .unicode v = .ok text)
    (h : ∃ text, Shows console v text) : Shows console v text := by
  obtain ⟨shown, hshown, htaken⟩ := h
  obtain rfl := Except.ok.inj (hshown.symm.trans hwrite)
  exact ⟨hshown, htaken⟩

/-- Prints one document under its title. -/
def showDocument (console : Console) (d : Option String × Value) : Work Failure Unit := do
  d.1.forM fun title => printLine console ("--- " ++ title ++ " ---")
  printLine console (← Work.ofResult .document (Json.write .unicode d.2))
  printLine console ""

theorem preview_eq (console : Console) (heading : String) (documents : List (Option String × Value)) :
    preview console heading documents = (do
      printLine console ("\n=== DRY RUN - " ++ heading ++ " ===\n")
      documents.forM (showDocument console)
      printLine console "Dry run mode - no files written. Use without --dry-run to write files.") :=
  rfl

/-- The line above a document. -/
def titleLines (title : Option String) : List String :=
  (title.map fun title => "--- " ++ title ++ " ---").toList

/-- The lines of a text under its title. -/
def shownLines (title : Option String) (text : String) : List String := titleLines title ++ [text, ""]

/-- The lines of a preview of some texts. -/
def previewLines (heading : String) (texts : List (Option String × String)) : List String :=
  ("\n=== DRY RUN - " ++ heading ++ " ===\n") :: (texts.flatMap fun e => shownLines e.1 e.2)
    ++ ["Dry run mode - no files written. Use without --dry-run to write files."]

def previewText (heading : String) (texts : List (Option String × String)) : String :=
  String.join ((previewLines heading texts).map (· ++ "\n"))

/-- Every console takes the title of a document. -/
def IsPlainTitle (title : Option String) : Prop :=
  (titleLines title).all (Text.Encoding.ascii.covers ·) = true

instance (title : Option String) : Decidable (IsPlainTitle title) :=
  inferInstanceAs (Decidable (_ = true))

theorem runs_title {title : Option String} (h : IsPlainTitle title) (t : FileTree) :
    Work.Runs (title.forM fun title => printLine console ("--- " ++ title ++ " ---")) t (.ok ()) t
      (printed (titleLines title)) := by
  cases title with
  | none => exact Work.Runs.pure () t
  | some title =>
      refine runs_printLine_plain ?_ t
      rwa [IsPlainTitle, titleLines, Option.map_some, Option.toList_some, List.all_cons, List.all_nil,
        Bool.and_true] at h

theorem runs_showDocument {title : Option String} {v : Value} {text : String} (htitle : IsPlainTitle title)
    (h : Shows console v text) (t : FileTree) :
    Work.Runs (showDocument console (title, v)) t (.ok ()) t (printed (shownLines title text)) := by
  rw [shownLines, printed_append]
  refine (runs_title htitle t).bind ?_
  rw [h.1]
  refine (Work.Runs.pure text t).bind ?_
  exact (runs_printLine h.2 t).bind (runs_printLine_plain rfl t)

theorem runs_showDocument_stopped {title : Option String} {v : Value} {failure : Failure}
    (htitle : IsPlainTitle title) (h : unshown? console v = some failure) (t : FileTree) :
    ∃ new, Work.Runs (showDocument console (title, v)) t (.error failure) t new := by
  have hstop : Work.Runs (do
      printLine console (← Work.ofResult .document (Json.write .unicode v))
      printLine console "") t (.error failure) t [] := by
    have htext := Work.Runs.ofResult Failure.document (Json.write .unicode v) t
    rw [unshown?] at h
    cases hwrite : Json.write .unicode v with
    | error fault =>
        rw [hwrite] at h htext
        obtain rfl := Option.some.inj h
        exact htext.bind_error _
    | ok text =>
        rw [hwrite] at h htext
        obtain ⟨fault, hfault, rfl⟩ := Option.map_eq_some_iff.mp h
        exact htext.bind ((runs_printLine_fault hfault t).bind_error _)
  exact ⟨_, (runs_title htitle t).bind hstop⟩

/-- The texts of documents, each under the title of its document. -/
def AreTexts (console : Console) (documents : List (Option String × Value))
    (texts : List (Option String × String)) : Prop :=
  List.Forall₂ (fun d e => d.1 = e.1 ∧ Shows console d.2 e.2) documents texts

theorem areTexts_single {title : Option String} {v : Value} {text : String} (h : Shows console v text) :
    AreTexts console [(title, v)] [(title, text)] := .cons ⟨rfl, h⟩ .nil

theorem runs_showAll {documents : List (Option String × Value)}
    {texts : List (Option String × String)} (htitles : ∀ d ∈ documents, IsPlainTitle d.1)
    (h : AreTexts console documents texts) (t : FileTree) :
    Work.Runs (documents.forM (showDocument console)) t (.ok ()) t
      (printed (texts.flatMap fun e => shownLines e.1 e.2)) := by
  induction h with
  | nil => exact Work.Runs.pure () t
  | @cons d e documents texts hfirst _ ih =>
      obtain ⟨title, v⟩ := d
      obtain ⟨rfl, htext⟩ := hfirst
      obtain ⟨htitle, hrest⟩ := List.forall_mem_cons.mp htitles
      rw [List.flatMap_cons, printed_append]
      exact (runs_showDocument htitle htext t).bind (ih hrest)

/-- Documents are shown up to the first that is not. -/
theorem runs_showAll_stopped {documents : List (Option String × Value)}
    (htitles : ∀ d ∈ documents, IsPlainTitle d.1) (t : FileTree) :
    ∃ new, Work.Runs (documents.forM (showDocument console)) t
      (stoppedBy ((documents.map (·.2)).findSome? (unshown? console))) t new := by
  induction documents with
  | nil => exact ⟨[], Work.Runs.pure () t⟩
  | cons d rest ih =>
      obtain ⟨title, v⟩ := d
      obtain ⟨htitle, hplain⟩ := List.forall_mem_cons.mp htitles
      obtain ⟨new, hrest⟩ := ih hplain
      rw [List.map_cons, List.findSome?_cons]
      cases hstop : unshown? console v with
      | some failure =>
          obtain ⟨shown, hrun⟩ := runs_showDocument_stopped htitle hstop t
          exact ⟨_, hrun.bind_error _⟩
      | none =>
          obtain ⟨text, htext⟩ := unshown?_eq_none_iff.mp hstop
          exact ⟨_, (runs_showDocument htitle htext t).bind hrest⟩

/-- Every console takes the first line of a preview. -/
def IsPlainHeading (heading : String) : Prop :=
  Text.Encoding.ascii.covers ("\n=== DRY RUN - " ++ heading ++ " ===\n") = true

instance (heading : String) : Decidable (IsPlainHeading heading) :=
  inferInstanceAs (Decidable (_ = true))

theorem runs_preview {documents : List (Option String × Value)}
    {texts : List (Option String × String)} (hheading : IsPlainHeading heading)
    (htitles : ∀ d ∈ documents, IsPlainTitle d.1) (h : AreTexts console documents texts) (t : FileTree) :
    Work.Runs (preview console heading documents) t (.ok ()) t
      (printed (previewLines heading texts)) := by
  rw [preview_eq, previewLines, List.cons_append, ← List.singleton_append, printed_append,
    printed_append]
  exact (runs_printLine_plain hheading t).bind
    ((runs_showAll htitles h t).bind (runs_printLine_plain rfl t))

theorem runs_preview_stopped {documents : List (Option String × Value)}
    (hheading : IsPlainHeading heading) (htitles : ∀ d ∈ documents, IsPlainTitle d.1) (t : FileTree) :
    ∃ new, Work.Runs (preview console heading documents) t
      (stoppedBy ((documents.map (·.2)).findSome? (unshown? console))) t new := by
  obtain ⟨new, hrun⟩ := @runs_showAll_stopped console _ htitles t
  rw [preview_eq]
  cases hstop : (documents.map (·.2)).findSome? (unshown? console) with
  | none =>
      rw [hstop] at hrun
      exact ⟨_, (runs_printLine_plain hheading t).bind
        (hrun.bind (runs_printLine_plain (by decide) t))⟩
  | some failure =>
      rw [hstop] at hrun
      exact ⟨_, (runs_printLine_plain hheading t).bind (hrun.bind_error _)⟩

/-! ## Texts of the documents of a config -/

end Request

/-- Texts that documents have one by one are those of a function of the file. -/
theorem Documents.exists_texts {d : Documents} {P : DocumentFile → Value → String → Prop}
    (h : ∀ e ∈ d.files, ∃ text, P e.1 e.2 text) :
    ∃ text : DocumentFile → String, ∀ e ∈ d.files, P e.1 e.2 (text e.1) := by
  simp only [files, List.forall_mem_cons] at h ⊢
  obtain ⟨⟨a, ha⟩, ⟨b, hb⟩, ⟨c, hc⟩, ⟨e, he⟩, -⟩ := h
  refine ⟨fun f => f.casesOn a b c e, ha, hb, hc, he, ?_⟩
  exact fun _ hnil => absurd hnil List.not_mem_nil

namespace DocumentFile

/-- The files in the order in which they are written. -/
def order : List DocumentFile := [.manifest, .inputSchema, .datasetSchema, .outputSchema]

theorem mem_order (f : DocumentFile) : f ∈ order := by
  cases f <;> decide

theorem map_files (d : Documents) : d.files.map (·.1) = order := rfl

end DocumentFile

namespace Request

theorem isPlainHeading_schemas : IsPlainHeading "Generated Schemas" := by
  decide

theorem isPlainHeading_input : IsPlainHeading "Generated INPUT.json" := by
  decide

theorem isPlainTitle_titled (d : Documents) : ∀ e ∈ titled d, IsPlainTitle e.1 := by
  have hname : ∀ f : DocumentFile, IsPlainTitle (some f.name) := by
    intro f
    cases f <;> decide
  exact List.forall_mem_map.mpr fun e _ => hname e.1

theorem areTexts_titled {d : Documents} {text : DocumentFile → String}
    (h : ∀ e ∈ d.files, Shows console e.2 (text e.1)) :
    AreTexts console (titled d) (DocumentFile.order.map fun f => (some f.name, text f)) := by
  rw [← DocumentFile.map_files d, List.map_map, AreTexts, titled, List.forall₂_map_left_iff,
    List.forall₂_map_right_iff, List.forall₂_same]
  exact fun e he => ⟨rfl, h e he⟩

/-! ## When a command exits with zero -/

variable {settings : Settings} {file output : String} {l : LoadedSpec} {base : Option String}
  {dryRun verbose : Bool}

theorem exits_zero_iff_of_runs {r : Request} {result : Except Failure Nat} {new : List Output}
    (h : Work.Runs (r.work settings) t result t' new) :
    (Run.ofRequest settings r t).ending = .exit 0 ↔ result = .ok 0 := by
  rw [Run.ofRequest_eq (runs_exitCode h), Ending.ofResult_eq_exit_iff, answer_eq_ok_zero_iff]

theorem map_zero_eq_ok_iff {outcome : Except Failure Unit} :
    (outcome.map fun _ => 0) = .ok 0 ↔ outcome = .ok () := by
  cases outcome <;> simp [Except.map]

/-- Nothing keeps a generation from its delivery: the references are sound, and all that there is to say
can be said. -/
structure IsDeliverable (config : Value) (verbose : Bool) : Prop where
  said : ¬ Check.NamesOverlong config
  issues : Check.issues config = []
  announced : ∀ p : Project, p.config = config → p.verbose = verbose → ¬ p.IsUnsayable

/-- What a generation needs where nothing is in the way of its files. -/
def IsGenerable (config : Value) (verbose : Bool) : Prop :=
  IsDeliverable config verbose ∧ ∀ e ∈ (Documents.ofConfig config).files, IsStorable e.2

/-- What its dry run needs. -/
def IsShowable (console : Console) (config : Value) (verbose : Bool) : Prop :=
  IsDeliverable config verbose
    ∧ ∀ e ∈ (Documents.ofConfig config).files, ∃ text, Shows console e.2 text

theorem IsGenerable.isShowable {config : Value} (h : IsGenerable config verbose)
    (hconsole : console.TakesEncodable) : IsShowable console config verbose :=
  ⟨h.1, fun e he => exists_shows_of_isStorable (h.2 e he) hconsole⟩

theorem IsShowable.isGenerable {config : Value} (h : IsShowable console config verbose)
    (hconsole : console.TakesOnlyEncodable) : IsGenerable config verbose :=
  ⟨h.1, fun e he => (h.2 e he).elim fun _ hshows => isStorable_of_shows hshows hconsole⟩

/-- Two projects with one config announce the same. -/
theorem isDeliverable_of_project {p : Project} (hsaid : ¬ Check.NamesOverlong p.config)
    (hissues : Check.issues p.config = []) (hannounces : ¬ p.IsUnsayable) :
    IsDeliverable p.config p.verbose where
  said := hsaid
  issues := hissues
  announced q hconfig hverbose := by
    rwa [Project.IsUnsayable, Project.remarks, hconfig, hverbose]

/-- The base directory that a generation is given, the working directory by default. -/
def baseDirectory (t : FileTree) (base : Option String) : FilePath :=
  (base.map FilePath.ofText).getD ⟨.slash, t.cwd⟩

/-- The directory that the documents of a generation go to. -/
def documentDirectory (settings : Settings) (t : FileTree) (base : Option String) : FilePath :=
  (baseDirectory t base).child settings.actorDirectory

theorem runs_preview_titled (console : Console) (d : Documents) (t : FileTree) :
    ∃ outcome new, Work.Runs (preview console "Generated Schemas" (titled d)) t outcome t new
      ∧ (outcome = .ok () ↔ ∀ e ∈ d.files, ∃ text, Shows console e.2 text) := by
  obtain ⟨new, hrun⟩ :=
    @runs_preview_stopped console _ (titled d) isPlainHeading_schemas (isPlainTitle_titled d) t
  refine ⟨_, new, hrun, ?_⟩
  rw [stoppedBy_eq_ok_iff, List.findSome?_eq_none_iff, titled, List.map_map, List.forall_mem_map]
  simp only [unshown?_eq_none_iff]
  rfl

theorem runs_store_stored {p : Project} (hdry : p.dryRun = false)
    (hwritable : ∀ f : DocumentFile, t.isWritable (p.actorDirectory.child f.name) = true) :
    ∃ outcome t' new, Work.Runs p.store t outcome t' new
      ∧ (outcome = .ok () ↔ ∀ e ∈ (Documents.ofConfig p.config).files, IsStorable e.2) := by
  obtain ⟨outcome, t', new, hrun, hend⟩ := Project.runs_store hdry t
  refine ⟨outcome, t', new, hrun, fun hok => ?_, fun htexts => ?_⟩
  · rcases hend with ⟨-, hall⟩ | ⟨fault, hfault, -⟩
    · intro e he
      obtain ⟨text, htext, hencodable, -⟩ := FileTree.holds_iff.mp (hall.written e he)
      exact ⟨(Json.write_eq_ok_iff .unicode _).mp ⟨text, htext⟩, hencodable⟩
    · cases hok.symm.trans hfault
  · obtain ⟨t'', hstore⟩ := Project.store_ok hdry htexts hwritable
    exact (hrun.unique hstore).1

/-- A generation that gets to its delivery exits with zero exactly if that succeeds; one that does not,
does not. -/
theorem generation_exits_zero_iff_of_deliver (Delivers : Value → Prop)
    (hdeliver : ∀ l, t.loadedSpec file = .ok l → ∃ outcome t' new,
      Work.Runs (deliver settings.console (projectOf settings t l base dryRun verbose)) t outcome t' new
      ∧ (outcome = .ok () ↔ ∀ e ∈ (Documents.ofConfig l.schemas).files, Delivers e.2)) :
    (Run.ofRequest settings (.generateSchemas file base dryRun verbose) t).ending = .exit 0 ↔
      ∃ l, t.loadedSpec file = .ok l ∧ IsDeliverable l.schemas verbose
        ∧ ∀ e ∈ (Documents.ofConfig l.schemas).files, Delivers e.2 := by
  cases hload : t.loadedSpec file with
  | error failure =>
      rw [exits_zero_iff_of_runs (r := .generateSchemas file base dryRun verbose)
        (runs_runGenerateSchemas_unloaded hload)]
      simp
  | ok l =>
      have hl : ∀ {P : LoadedSpec → Prop}, (∃ l', Except.ok l = Except.ok (ε := Failure) l' ∧ P l') ↔
          P l := by simp
      rw [hl]
      by_cases hsaid : Check.NamesOverlong l.schemas
      · rw [exits_zero_iff_of_runs (r := .generateSchemas file base dryRun verbose)
          (runs_runGenerateSchemas_unchecked hload hsaid)]
        exact iff_of_false nofun fun h => h.1.said hsaid
      by_cases hissues : Check.issues l.schemas = []
      · have hnone := (l.referenceErrors_eq_nil_iff t.cwd).mpr hissues
        by_cases hannounces : (projectOf settings t l base dryRun verbose).IsUnsayable
        · rw [exits_zero_iff_of_runs (r := .generateSchemas file base dryRun verbose)
            (runs_runGenerateSchemas_unannounced hload hsaid hnone hannounces)]
          have hnot : ¬ IsDeliverable l.schemas verbose := fun h =>
            h.announced (projectOf settings t l base dryRun verbose) rfl rfl hannounces
          exact iff_of_false nofun fun h => hnot h.1
        · obtain ⟨outcome, t', new, hrun, hiff⟩ := hdeliver l hload
          rw [exits_zero_iff_of_runs (r := .generateSchemas file base dryRun verbose)
            (runs_runGenerateSchemas hload hsaid hnone hannounces hrun), map_zero_eq_ok_iff, hiff]
          have hsound : IsDeliverable l.schemas verbose :=
            @isDeliverable_of_project (projectOf settings t l base dryRun verbose) hsaid hissues hannounces
          exact ⟨fun hall => ⟨hsound, hall⟩, fun h => h.2⟩
      · have hsome : l.referenceErrors t.cwd ≠ [] := mt (l.referenceErrors_eq_nil_iff t.cwd).mp hissues
        rw [exits_zero_iff_of_runs (r := .generateSchemas file base dryRun verbose)
          (runs_runGenerateSchemas_refused hload hsaid hsome)]
        exact iff_of_false nofun fun h => hissues h.1.issues

theorem generation_exits_zero_iff (hwritable : ∀ f : DocumentFile,
      t.isWritable ((documentDirectory settings t base).child f.name) = true) :
    (Run.ofRequest settings (.generateSchemas file base false verbose) t).ending = .exit 0 ↔
      ∃ l, t.loadedSpec file = .ok l ∧ IsGenerable l.schemas verbose :=
  generation_exits_zero_iff_of_deliver IsStorable fun l _ => by
    rw [deliver_of_not_dryRun rfl]
    exact runs_store_stored (p := projectOf settings t l base false verbose) rfl hwritable

theorem preview_exits_zero_iff :
    (Run.ofRequest settings (.generateSchemas file base true verbose) t).ending = .exit 0 ↔
      ∃ l, t.loadedSpec file = .ok l ∧ IsShowable settings.console l.schemas verbose :=
  generation_exits_zero_iff_of_deliver (∃ text, Shows settings.console · text) fun l _ => by
    rw [deliver_of_dryRun rfl]
    obtain ⟨outcome, new, hrun, hiff⟩ :=
      runs_preview_titled settings.console (.ofConfig l.schemas) t
    exact ⟨outcome, t, new, hrun, hiff⟩

/-- The file that the input of a local run goes to. -/
def inputTarget (settings : Settings) (t : FileTree) (output : String) : FilePath :=
  if output = "" then (baseDirectory t none).child settings.inputFile else .ofText output

/-- The input of a config, as a document. -/
def inputOf (config : Value) : Value := .mapping (DefaultInput.ofConfig config)

theorem isPlainTitle_none : IsPlainTitle none := rfl

theorem runs_preview_input (console : Console) (v : Value) (t : FileTree) :
    ∃ outcome new, Work.Runs (preview console "Generated INPUT.json" [(none, v)]) t outcome t new
      ∧ (outcome = .ok () ↔ ∃ text, Shows console v text) := by
  obtain ⟨new, hrun⟩ := @runs_preview_stopped console _ [(none, v)] isPlainHeading_input
    (List.forall_mem_singleton.mpr isPlainTitle_none) t
  refine ⟨_, new, hrun, ?_⟩
  rw [stoppedBy_eq_ok_iff, List.findSome?_eq_none_iff, List.map_singleton, List.forall_mem_singleton,
    unshown?_eq_none_iff]

theorem runs_storeInput_stored {p : Project} (hdry : p.dryRun = false)
    (hwritable : t.isWritable (p.inputPath output) = true) :
    ∃ outcome t' new, Work.Runs (p.storeInput output) t outcome t' new
      ∧ (outcome = .ok () ↔ IsStorable (inputOf p.config)) := by
  rw [Project.storeInput_of_not_dryRun hdry]
  rcases Work.writeDocument_cases t (p.inputPath output) (inputOf p.config) with
    ⟨text, t', htext, hencodable, -, -, hrun⟩ | ⟨fault, t', new, -, hencodable, -, -, hrun⟩
      | ⟨reason, new, hnot, hrun⟩
  · refine ⟨_, t', _, (hrun.adapt Failure.output).bind (Work.Runs.put _ t'), fun _ => ?_, fun _ => rfl⟩
    exact ⟨(Json.write_eq_ok_iff .unicode _).mp ⟨text, htext⟩, hencodable⟩
  · refine ⟨_, _, _, (hrun.adapt Failure.output).bind_error _, iff_of_false nofun fun h => ?_⟩
    cases hencodable.symm.trans h.2
  · exact ⟨_, _, _, (hrun.adapt Failure.output).bind_error _,
      iff_of_false nofun fun h => hnot ⟨h.1, hwritable⟩⟩

theorem input_exits_zero_iff_of_deliver (Delivers : Value → Prop)
    (hdeliver : ∀ l, t.loadedSpec file = .ok l → ∃ outcome t' new,
      Work.Runs (deliverInput settings.console (projectOf settings t l none dryRun verbose) output) t
        outcome t' new
      ∧ (outcome = .ok () ↔ Delivers (inputOf l.schemas))) :
    (Run.ofRequest settings (.generateInput file output dryRun verbose) t).ending = .exit 0 ↔
      ∃ l, t.loadedSpec file = .ok l ∧ Delivers (inputOf l.schemas) := by
  cases hload : t.loadedSpec file with
  | error failure =>
      rw [exits_zero_iff_of_runs (r := .generateInput file output dryRun verbose)
        (runs_runGenerateInput_unloaded hload)]
      simp
  | ok l =>
      obtain ⟨outcome, t', new, hrun, hiff⟩ := hdeliver l hload
      rw [exits_zero_iff_of_runs (r := .generateInput file output dryRun verbose)
        (runs_runGenerateInput hload hrun), map_zero_eq_ok_iff, hiff]
      simp

theorem input_exits_zero_iff (hwritable : t.isWritable (inputTarget settings t output) = true) :
    (Run.ofRequest settings (.generateInput file output false verbose) t).ending = .exit 0 ↔
      ∃ l, t.loadedSpec file = .ok l ∧ IsStorable (inputOf l.schemas) :=
  input_exits_zero_iff_of_deliver IsStorable fun l _ => by
    rw [deliverInput_of_not_dryRun rfl]
    exact runs_storeInput_stored (p := projectOf settings t l none false verbose) rfl hwritable

theorem inputPreview_exits_zero_iff :
    (Run.ofRequest settings (.generateInput file output true verbose) t).ending = .exit 0 ↔
      ∃ l, t.loadedSpec file = .ok l ∧ ∃ text, Shows settings.console (inputOf l.schemas) text :=
  input_exits_zero_iff_of_deliver (∃ text, Shows settings.console · text) fun l _ => by
    rw [deliverInput_of_dryRun rfl]
    obtain ⟨outcome, new, hrun, hiff⟩ := runs_preview_input settings.console (inputOf l.schemas) t
    exact ⟨outcome, t, new, hrun, hiff⟩

/-! ## The preview and the files -/

/-- The standard output of a run that logs and then prints. -/
theorem standardOutput_ofRequest {r : Request} {result : Except Failure Nat} {before : List Record}
    {lines : List String} (h : Work.Runs (r.exitCode settings) t result t'
      (before.map .record ++ printed lines)) :
    (Run.ofRequest settings r t).standardOutput =
      Output.text settings.console (settings.routing r.isVerbose) .standardOutput (before.map .record)
        ++ String.join (lines.map (· ++ "\n")) := by
  rw [Run.ofRequest_eq h]
  dsimp only
  rw [Output.text_append, Output.text_printed]

/-- Documents that can be stored are stored one after the other, each with its text. -/
theorem runs_deliver_stored (console : Console) {p : Project} (hdry : p.dryRun = false)
    (hstorable : ∀ e ∈ (Documents.ofConfig p.config).files, IsStorable e.2)
    (hwritable : ∀ f : DocumentFile, t.isWritable (p.actorDirectory.child f.name) = true) :
    ∃ (text : DocumentFile → String) (t' : FileTree),
      (∀ e ∈ (Documents.ofConfig p.config).files, Json.write .unicode e.2 = .ok (text e.1))
      ∧ Work.Runs (deliver console p) t (.ok ()) t'
        ((Work.directoryRecords t p.actorDirectory
          ++ (DocumentFile.order.map (fun f => Work.writtenRecord (p.actorDirectory.child f.name))
            ++ [p.generatedRecord])).map .record)
      ∧ (∀ f : DocumentFile,
          t'.read (p.actorDirectory.child f.name) = .ok (Text.bytes (text f ++ "\n")))
      ∧ t.Delivered t' p.actorDirectory (Documents.ofConfig p.config).files := by
  obtain ⟨t', hstore⟩ := Project.store_ok hdry hstorable hwritable
  obtain ⟨outcome, t'', new, hrun, hend⟩ := Project.runs_store hdry t
  obtain ⟨rfl, rfl, -⟩ := hstore.unique hrun
  have hdelivered : t.Delivered t' p.actorDirectory (Documents.ofConfig p.config).files := by
    rcases hend with ⟨-, hall⟩ | ⟨fault, hfault, -⟩
    · exact hall
    · cases hfault
  obtain ⟨text, htext⟩ := Documents.exists_texts (P := fun f v text => Json.write .unicode v = .ok text
    ∧ v.isEncodable = true ∧ t'.read (p.actorDirectory.child f.name) = .ok (Text.bytes (text ++ "\n")))
    fun e he => FileTree.holds_iff.mp (hdelivered.written e he)
  refine ⟨text, t', fun e he => (htext e he).1, ?_, fun f => ?_, hdelivered⟩
  · rw [deliver_of_not_dryRun hdry]
    exact hstore
  · have hf : f ∈ (Documents.ofConfig p.config).files.map (·.1) := f.mem_order
    obtain ⟨e, he, rfl⟩ := List.mem_map.mp hf
    exact (htext e he).2.2

/-- In a dry run their texts are shown, in that order. -/
theorem runs_deliver_shown {p : Project} {text : DocumentFile → String} (hdry : p.dryRun = true)
    (hshows : ∀ e ∈ (Documents.ofConfig p.config).files, Shows console e.2 (text e.1)) (t : FileTree) :
    Work.Runs (deliver console p) t (.ok ()) t (printed (previewLines "Generated Schemas"
      (DocumentFile.order.map fun f => (some f.name, text f)))) := by
  rw [deliver_of_dryRun hdry]
  exact runs_preview isPlainHeading_schemas (isPlainTitle_titled _) (areTexts_titled hshows) t

/-- An input that can be stored is stored with its text. -/
theorem runs_deliverInput_stored (console : Console) {p : Project} (hdry : p.dryRun = false)
    (hstorable : IsStorable (inputOf p.config))
    (hwritable : t.isWritable (p.inputPath output) = true) : ∃ text t' new,
      Json.write .unicode (inputOf p.config) = .ok text
      ∧ Work.Runs (deliverInput console p output) t (.ok ()) t' new
      ∧ t'.read (p.inputPath output) = .ok (Text.bytes (text ++ "\n"))
      ∧ ∀ place bytes, t'.placeOf (p.inputPath output) ≠ .ok place →
          (t'.node? place = some (.file bytes) ↔ t.node? place = some (.file bytes)) := by
  obtain ⟨text, htext⟩ := (Json.write_eq_ok_iff .unicode _).mpr hstorable.1
  obtain ⟨ready, t', hready, hwrite, hrun⟩ :=
    Work.runs_writeDocument_of_isWritable hwritable htext hstorable.2
  rw [deliverInput_of_not_dryRun hdry, Project.storeInput_of_not_dryRun hdry]
  refine ⟨text, t', _, htext, (hrun.adapt Failure.output).bind (Work.Runs.put _ t'),
    FileTree.read_write hwrite, fun place bytes hother => ?_⟩
  exact FileTree.node_file_iff_of_write hready hwrite hother

theorem runs_deliverInput_shown {p : Project} {text : String} (hdry : p.dryRun = true)
    (hshows : Shows console (inputOf p.config) text) (output : String) (t : FileTree) :
    Work.Runs (deliverInput console p output) t (.ok ()) t
      (printed (previewLines "Generated INPUT.json" [(none, text)])) := by
  rw [deliverInput_of_dryRun hdry]
  exact runs_preview isPlainHeading_input (List.forall_mem_singleton.mpr isPlainTitle_none)
    (areTexts_single hshows) t

/-- Without the dry run the documents go to files of their own, and it prints what these then hold. -/
theorem generation_previewed (hwritable : ∀ f : DocumentFile,
      t.isWritable ((documentDirectory settings t base).child f.name) = true)
    (hexits : (Run.ofRequest settings (.generateSchemas file base false verbose) t).ending = .exit 0)
    (hdryExits : (Run.ofRequest settings (.generateSchemas file base true verbose) t).ending = .exit 0) :
    let dir := documentDirectory settings t base
    let generation := Request.generateSchemas file base false verbose
    let dry := Run.ofRequest settings (.generateSchemas file base true verbose) t
    let real := Run.ofRequest settings generation t
    ∃ (text : DocumentFile → String) (logged : String) (before after : List Record),
      dry.standardOutput = logged ++ previewText "Generated Schemas"
          (DocumentFile.order.map fun f => (some f.name, text f))
      ∧ dry.files = t
      ∧ (∀ f : DocumentFile, real.files.read (dir.child f.name) = .ok (Text.bytes (text f ++ "\n")))
      ∧ Work.Runs (generation.exitCode settings) t (.ok 0) real.files
          ((before ++ DocumentFile.order.map (fun f => Work.writtenRecord (dir.child f.name))
            ++ after).map .record)
      ∧ ∀ place bytes,
          (∀ f : DocumentFile, real.files.placeOf (dir.child f.name) ≠ .ok place) →
          (real.files.node? place = some (.file bytes) ↔ t.node? place = some (.file bytes)) := by
  obtain ⟨l, hload, hdeliverable, hstorable⟩ := (generation_exits_zero_iff hwritable).mp hexits
  obtain ⟨l', hload', -, hshown⟩ := preview_exits_zero_iff.mp hdryExits
  obtain rfl := Except.ok.inj (hload.symm.trans hload')
  have hnone : l.referenceErrors t.cwd = [] :=
    (l.referenceErrors_eq_nil_iff t.cwd).mpr hdeliverable.issues
  obtain ⟨text, t', htext, hreal, hread, hdelivered⟩ := runs_deliver_stored settings.console
    (p := projectOf settings t l base false verbose) rfl hstorable hwritable
  have hshows : ∀ e ∈ (Documents.ofConfig l.schemas).files, Shows settings.console e.2 (text e.1) :=
    fun e he => .of_write (htext e he) (hshown e he)
  have hdry := runs_deliver_shown (p := projectOf settings t l base true verbose) rfl hshows t
  have hdryRun : Work.Runs ((Request.generateSchemas file base true verbose).exitCode settings) t
      (.ok 0) t _ := runs_exitCode_ok (runs_runGenerateSchemas hload hdeliverable.said hnone
        (hdeliverable.announced _ rfl rfl) hdry)
  have hrealRun : Work.Runs ((Request.generateSchemas file base false verbose).exitCode settings) t
      (.ok 0) t' _ := runs_exitCode_ok (runs_runGenerateSchemas hload hdeliverable.said hnone
        (hdeliverable.announced _ rfl rfl) hreal)
  dsimp only
  have hfiles : (Run.ofRequest settings (.generateSchemas file base false verbose) t).files = t' := by
    rw [Run.ofRequest_eq hrealRun]
  rw [hfiles]
  refine ⟨text, _, loadRecords t file ++ Check.records l.schemas
      ++ Project.announced l.schemas verbose
      ++ Work.directoryRecords t (documentDirectory settings t base),
    [(projectOf settings t l base false verbose).generatedRecord],
    standardOutput_ofRequest hdryRun, ?_, hread, ?_, ?_⟩
  · rw [Run.ofRequest_eq hdryRun]
  · simp only [List.map_append, List.append_assoc] at hrealRun ⊢
    exact hrealRun
  · intro place bytes hother
    exact hdelivered.otherFiles place bytes fun e _ => hother e.1

theorem input_previewed (hwritable : t.isWritable (inputTarget settings t output) = true)
    (hexits : (Run.ofRequest settings (.generateInput file output false verbose) t).ending = .exit 0)
    (hdryExits : (Run.ofRequest settings (.generateInput file output true verbose) t).ending = .exit 0) :
    let target := inputTarget settings t output
    let dry := Run.ofRequest settings (.generateInput file output true verbose) t
    let real := Run.ofRequest settings (.generateInput file output false verbose) t
    ∃ text logged,
      dry.standardOutput = logged ++ previewText "Generated INPUT.json" [(none, text)]
      ∧ dry.files = t
      ∧ real.files.read target = .ok (Text.bytes (text ++ "\n"))
      ∧ ∀ place bytes, real.files.placeOf target ≠ .ok place →
          (real.files.node? place = some (.file bytes) ↔ t.node? place = some (.file bytes)) := by
  obtain ⟨l, hload, hstorable⟩ := (input_exits_zero_iff hwritable).mp hexits
  obtain ⟨l', hload', hshown⟩ := inputPreview_exits_zero_iff.mp hdryExits
  obtain rfl := Except.ok.inj (hload.symm.trans hload')
  obtain ⟨text, t', new, htext, hreal, hread, hother⟩ := runs_deliverInput_stored settings.console
    (p := projectOf settings t l none false verbose) rfl hstorable hwritable
  have hdry := runs_deliverInput_shown (p := projectOf settings t l none true verbose) rfl
    (.of_write htext hshown) output t
  have hdryRun : Work.Runs ((Request.generateInput file output true verbose).exitCode settings) t
      (.ok 0) t _ := runs_exitCode_ok (runs_runGenerateInput hload hdry)
  have hrealRun : Work.Runs ((Request.generateInput file output false verbose).exitCode settings) t
      (.ok 0) t' _ := runs_exitCode_ok (runs_runGenerateInput hload hreal)
  have hfiles : (Run.ofRequest settings (.generateInput file output false verbose) t).files = t' := by
    rw [Run.ofRequest_eq hrealRun]
  dsimp only
  rw [hfiles]
  refine ⟨text, _, standardOutput_ofRequest hdryRun, ?_, hread, hother⟩
  rw [Run.ofRequest_eq hdryRun]

/-- A dry run is a faithful preview wherever nothing is in the way of the files. It exits with zero if
the real run does, where the console takes all that files take, and only then, where the console takes
nothing else. On any console, if both do, the dry run changes no file and prints, behind what is logged,
one text for each file that the real run writes and in the order in which they are written, and the file
holds this text and a line feed behind it; the real run changes no other file. Either exit code says of
the documents that they can be made (`generation_exits_zero_iff`, `preview_exits_zero_iff`), so the runs
are compared there. -/
theorem dryRun_previews (settings : Settings) (t : FileTree) (file : String) (verbose : Bool) :
    (∀ base,
      let dir := documentDirectory settings t base
      let generation := Request.generateSchemas file base false verbose
      let dry := Run.ofRequest settings (.generateSchemas file base true verbose) t
      let real := Run.ofRequest settings generation t
      (∀ f : DocumentFile, t.isWritable (dir.child f.name) = true) →
      (settings.console.TakesEncodable → real.ending = .exit 0 → dry.ending = .exit 0)
      ∧ (settings.console.TakesOnlyEncodable → dry.ending = .exit 0 → real.ending = .exit 0)
      ∧ (real.ending = .exit 0 → dry.ending = .exit 0 →
        ∃ (text : DocumentFile → String) (logged : String) (before after : List Record),
          dry.standardOutput = logged ++ previewText "Generated Schemas"
              (DocumentFile.order.map fun f => (some f.name, text f))
          ∧ dry.files = t
          ∧ (∀ f : DocumentFile,
              real.files.read (dir.child f.name) = .ok (Text.bytes (text f ++ "\n")))
          ∧ Work.Runs (generation.exitCode settings) t (.ok 0) real.files
              ((before ++ DocumentFile.order.map (fun f => Work.writtenRecord (dir.child f.name))
                ++ after).map .record)
          ∧ ∀ place bytes,
              (∀ f : DocumentFile, real.files.placeOf (dir.child f.name) ≠ .ok place) →
              (real.files.node? place = some (.file bytes) ↔ t.node? place = some (.file bytes))))
    ∧ ∀ output,
      let target := inputTarget settings t output
      let dry := Run.ofRequest settings (.generateInput file output true verbose) t
      let real := Run.ofRequest settings (.generateInput file output false verbose) t
      t.isWritable target = true →
      (settings.console.TakesEncodable → real.ending = .exit 0 → dry.ending = .exit 0)
      ∧ (settings.console.TakesOnlyEncodable → dry.ending = .exit 0 → real.ending = .exit 0)
      ∧ (real.ending = .exit 0 → dry.ending = .exit 0 → ∃ text logged,
          dry.standardOutput = logged ++ previewText "Generated INPUT.json" [(none, text)]
          ∧ dry.files = t
          ∧ real.files.read target = .ok (Text.bytes (text ++ "\n"))
          ∧ ∀ place bytes, real.files.placeOf target ≠ .ok place →
              (real.files.node? place = some (.file bytes) ↔
                t.node? place = some (.file bytes))) := by
  constructor
  · intro base dir generation dry real hwritable
    refine ⟨fun hconsole hreal => ?_, fun hconsole hdry => ?_, generation_previewed hwritable⟩
    · obtain ⟨l, hload, hgenerable⟩ := (generation_exits_zero_iff hwritable).mp hreal
      exact preview_exits_zero_iff.mpr ⟨l, hload, hgenerable.isShowable hconsole⟩
    · obtain ⟨l, hload, hshowable⟩ := preview_exits_zero_iff.mp hdry
      exact (generation_exits_zero_iff hwritable).mpr ⟨l, hload, hshowable.isGenerable hconsole⟩
  · intro output target dry real hwritable
    refine ⟨fun hconsole hreal => ?_, fun hconsole hdry => ?_, input_previewed hwritable⟩
    · obtain ⟨l, hload, hstorable⟩ := (input_exits_zero_iff hwritable).mp hreal
      exact inputPreview_exits_zero_iff.mpr
        ⟨l, hload, exists_shows_of_isStorable hstorable hconsole⟩
    · obtain ⟨l, hload, text, htext⟩ := inputPreview_exits_zero_iff.mp hdry
      exact (input_exits_zero_iff hwritable).mpr ⟨l, hload, isStorable_of_shows htext hconsole⟩

/-- A small spec with a name that is not ASCII, and a default for its input. -/
def plainText : String :=
  "schemas:\n  actor:\n    name: caf\u00e9\n  input:\n    fields:\n      pages:\n        type: integer\n"

def plainTree : FileTree := SpecSession.specTree plainText

/-- Whether a generation gets to its delivery can be evaluated. -/
theorem isDeliverable_of_evaluated {config : Value}
    (h : (Check.remarks config).all (·.isSayable) = true ∧ Check.issues config = []
      ∧ (Project.bareProject config false verbose).remarks.all (·.isSayable) = true) :
    IsDeliverable config verbose := by
  obtain ⟨hsaid, hissues, hannounces⟩ := h
  refine @isDeliverable_of_project (Project.bareProject config false verbose) ?_ hissues ?_
  · exact fun hnames => nomatch ((Check.remarks_not_sayable _).mpr hnames).symm.trans hsaid
  · exact fun hunsayable => nomatch hannounces.symm.trans hunsayable

theorem exists_plainSpec :
    ∃ l, plainTree.loadedSpec "spec.yml" = .ok l ∧ (∀ verbose, IsGenerable l.schemas verbose)
      ∧ IsStorable (inputOf l.schemas) := by
  obtain ⟨l, hload, hfound⟩ := LoadedSpec.exists_loadedSpec plainText
    (fun l => (∀ verbose, (Check.remarks l.schemas).all (·.isSayable) = true
        ∧ Check.issues l.schemas = []
        ∧ (Project.bareProject l.schemas false verbose).remarks.all (·.isSayable) = true)
      ∧ ((Documents.ofConfig l.schemas).files.all fun e => decide (IsStorable e.2)) = true
      ∧ IsStorable (inputOf l.schemas))
    (by decide) (by decide +kernel)
  obtain ⟨hdeliverable, hstorable, hinput⟩ := of_decide_eq_true hfound
  refine ⟨l, hload, fun verbose =>
    ⟨isDeliverable_of_evaluated (hdeliverable verbose), fun e he => ?_⟩, hinput⟩
  exact of_decide_eq_true (List.all_eq_true.mp hstorable e he)

/-- Beside a spec that is alone in its directory there is room for the documents. -/
theorem isWritable_specTree (text : String) (console : Console) (f : DocumentFile) :
    (SpecSession.specTree text).isWritable
      ((documentDirectory (.ofEnvironment [] console) (SpecSession.specTree text) none).child f.name) =
        true := by
  have hdirectory : documentDirectory (.ofEnvironment [] console) (SpecSession.specTree text) none =
      ⟨.slash, ["work", ".actor"]⟩ := by
    change FilePath.child ⟨.slash, ["work"]⟩ ".actor" = _
    decide
  have hplace := @FileTree.placeOf_of_faultless (SpecSession.specTree text) ⟨.slash, ["work"]⟩ (by decide)
  rw [hdirectory]
  exact FileTree.isWritable_of_fresh ⟨.slash, ["work"]⟩ ".actor" (Project.pathFault?_documents f)
    (by decide) (by decide) hplace rfl fun rest => rfl

theorem isWritable_inputTarget_specTree (text : String) (console : Console) :
    (SpecSession.specTree text).isWritable
      (inputTarget (.ofEnvironment [] console) (SpecSession.specTree text) "INPUT.json") = true := by
  have htarget : inputTarget (.ofEnvironment [] console) (SpecSession.specTree text) "INPUT.json" =
      ⟨.none, ["INPUT.json"]⟩ := by
    rw [inputTarget, if_neg (by decide)]
    decide
  have hplace := @FileTree.placeOf_of_faultless (SpecSession.specTree text) ⟨.none, ["INPUT.json"]⟩ (by decide)
  have hhere := @FileTree.placeOf_of_faultless (SpecSession.specTree text) ⟨.none, []⟩ (by decide)
  have hparent : (SpecSession.specTree text).exists ⟨.none, []⟩ = true := by
    rw [FileTree.exists, FileTree.at?, hhere]
    rfl
  rw [htarget]
  exact FileTree.isWritable_of_new hparent hplace rfl

def plainRun (r : Request) : Run := Run.ofRequest (.ofEnvironment [] .strict) r plainTree

/-- The manifest and the input as they are shown and as they are written. -/
theorem plainText_previewed :
    (∃ (text : DocumentFile → String) (logged : String),
      (plainRun (.generateSchemas "spec.yml" none true false)).standardOutput =
          logged ++ previewText "Generated Schemas"
            (DocumentFile.order.map fun f => (some f.name, text f))
      ∧ (plainRun (.generateSchemas "spec.yml" none false false)).ending = .exit 0
      ∧ (plainRun (.generateSchemas "spec.yml" none false false)).files.read
          ⟨.slash, ["work", ".actor", "actor.json"]⟩ = .ok (Text.bytes (text .manifest ++ "\n")))
    ∧ ∃ text logged,
      (plainRun (.generateInput "spec.yml" "INPUT.json" true false)).standardOutput =
          logged ++ previewText "Generated INPUT.json" [(none, text)]
      ∧ (plainRun (.generateInput "spec.yml" "INPUT.json" false false)).ending = .exit 0
      ∧ (plainRun (.generateInput "spec.yml" "INPUT.json" false false)).files.read
          ⟨.none, ["INPUT.json"]⟩ = .ok (Text.bytes (text ++ "\n")) := by
  obtain ⟨l, hload, hgenerable, hinput⟩ := exists_plainSpec
  obtain ⟨hgenerations, hinputs⟩ :=
    dryRun_previews (.ofEnvironment [] .strict) plainTree "spec.yml" false
  have htarget := isWritable_inputTarget_specTree plainText .strict
  obtain ⟨-, honlyThen, hcontents⟩ := hgenerations none (isWritable_specTree plainText .strict)
  obtain ⟨hthen, -, hcontents'⟩ := hinputs "INPUT.json" htarget
  have hdry : (plainRun (.generateSchemas "spec.yml" none true false)).ending = .exit 0 :=
    preview_exits_zero_iff.mpr ⟨l, hload, (hgenerable false).isShowable Console.strict_takesEncodable⟩
  have hreal := honlyThen Console.strict_takesOnlyEncodable hdry
  have hreal' : (plainRun (.generateInput "spec.yml" "INPUT.json" false false)).ending = .exit 0 :=
    (input_exits_zero_iff htarget).mpr ⟨l, hload, hinput⟩
  have hdry' := hthen Console.strict_takesEncodable hreal'
  obtain ⟨text, logged, -, -, houtput, -, hread, -⟩ := hcontents hreal hdry
  obtain ⟨text', logged', houtput', -, hread', -⟩ := hcontents' hreal' hdry'
  exact ⟨⟨text, logged, houtput, hreal, hread .manifest⟩, text', logged', houtput', hreal', hread'⟩

/-- The title of the actor is a surrogate. -/
def halfTitle : Value := .ofFields [("actor", .ofFields [
  ("name", .str "a"), ("title", .str (String.ofList (Text.ofCode 0xD800)))])]

def halfTitleText : String := "schemas:\n  actor:\n    name: a\n    title: \"\\ud800\"\n"

/-- The config is `halfTitle`. -/
def isHalfTitle : Value → Bool
  | .mapping [(.str actor, .mapping [(.str name, .scalar (.str a)), (.str title, .scalar (.str half))])] =>
    [actor, name, a, title] = ["actor", "name", "a", "title"]
      ∧ half = String.ofList (Text.ofCode 0xD800)
  | _ => false

theorem eq_of_isHalfTitle {config : Value} (h : isHalfTitle config = true) : config = halfTitle := by
  unfold isHalfTitle at h
  split at h
  · obtain ⟨hnames, rfl⟩ := of_decide_eq_true h
    obtain ⟨rfl, rfl, rfl, rfl, -⟩ := by simpa only [List.cons.injEq] using hnames
    rfl
  · cases h

def halfRun (dryRun : Bool) : Run :=
  Run.ofRequest (.ofEnvironment [] .lenient) (.generateSchemas "spec.yml" none dryRun false)
    (SpecSession.specTree halfTitleText)

/-- A console that takes surrogates shows what no file takes: the dry run ends well, and the real run does
not. -/
theorem halfTitle_previewed_only :
    (∀ f : DocumentFile, (SpecSession.specTree halfTitleText).isWritable
      ((documentDirectory (.ofEnvironment [] .lenient) (SpecSession.specTree halfTitleText) none).child
        f.name) = true)
    ∧ (halfRun true).ending = .exit 0 ∧ (halfRun false).ending ≠ .exit 0 := by
  have hdirectory := isWritable_specTree halfTitleText .lenient
  obtain ⟨l, hload, hfound⟩ := LoadedSpec.exists_loadedSpec halfTitleText (isHalfTitle ·.schemas)
    (by decide) (by decide +kernel)
  have hschemas := eq_of_isHalfTitle hfound
  refine ⟨hdirectory, preview_exits_zero_iff.mpr ⟨l, hload, ?_⟩, fun hreal => ?_⟩
  · rw [hschemas]
    have hdeliverable : IsDeliverable halfTitle false :=
      isDeliverable_of_evaluated (by decide +kernel)
    refine ⟨hdeliverable, fun e he => ?_⟩
    have hwritable : ((Documents.ofConfig halfTitle).files.all fun e => e.2.isWritable) = true := by
      decide +kernel
    obtain ⟨text, htext⟩ :=
      (Json.write_eq_ok_iff .unicode e.2).mpr (List.all_eq_true.mp hwritable e he)
    exact ⟨text, htext, Console.takes_iff.mp (Console.lenient_takes text)⟩
  · obtain ⟨l', hload', -, hstorable⟩ := (generation_exits_zero_iff hdirectory).mp hreal
    obtain rfl := Except.ok.inj (hload.symm.trans hload')
    rw [hschemas] at hstorable
    have hall : ((Documents.ofConfig halfTitle).files.all fun e => e.2.isEncodable) = false := by
      decide
    cases hall.symm.trans (List.all_eq_true.mpr fun e he => (hstorable e he).2)

end Request

end ActorSpec
