import ActorSpec.Project
import Mathlib.Data.List.Basic

/-!
# Runs of work

`Runs m files result files' new` says all that a run of `m` does: with `files` around it ends in
`result`, leaves `files'` and appends `new` to the output, whatever has been put out before. One rule
for each way to build work up gives the run of the whole from the runs of its parts.

`Emits P m` keeps of this that `m` runs at all and that all of its output is `P`; the work on files
logs on channels of its own, and no warnings, which is `Emits Output.IsOfFiles`.
-/

namespace ActorSpec

namespace Work

variable {ε δ α β : Type}

theorem runOn_bind (m : Work ε α) (f : α → Work ε β) (w : Workspace) :
    runOn w (m >>= f) = match runOn w m with
      | (.ok a, w') => runOn w' (f a)
      | (.error e, w') => (.error e, w') := by
  have hbind : runOn w (m >>= f) = (fun r : Except ε α × Workspace =>
      runOn r.2 (ExceptT.mk (ExceptT.bindCont f r.1))) (runOn w m) := rfl
  rw [hbind]
  rcases runOn w m with ⟨e | a, w'⟩ <;> rfl

def Runs (m : Work ε α) (files : FileTree) (result : Except ε α) (files' : FileTree)
    (new : List Output) : Prop :=
  ∀ before, runOn ⟨files, before⟩ m = (result, ⟨files', before ++ new⟩)

/-! ## One rule for each way to build work up -/

namespace Runs

variable {m : Work ε α} {t t' t'' : FileTree} {new new' : List Output}

theorem pure (a : α) (t : FileTree) : Runs (Pure.pure a : Work ε α) t (.ok a) t [] := by
  intro before
  rw [List.append_nil]
  rfl

theorem throw (e : ε) (t : FileTree) : Runs (throw e : Work ε α) t (.error e) t [] := by
  intro before
  rw [List.append_nil]
  rfl

theorem put (o : Output) (t : FileTree) : Runs (put o : Work ε Unit) t (.ok ()) t [o] :=
  fun _ => rfl

theorem files (t : FileTree) : Runs (files : Work ε FileTree) t (.ok t) t [] := by
  intro before
  rw [List.append_nil]
  rfl

theorem setFiles (t t' : FileTree) : Runs (setFiles t' : Work ε Unit) t (.ok ()) t' [] := by
  intro before
  rw [List.append_nil]
  rfl

theorem bind {a : α} {f : α → Work ε β} {result : Except ε β} (hm : Runs m t (.ok a) t' new)
    (hf : Runs (f a) t' result t'' new') : Runs (m >>= f) t result t'' (new ++ new') := by
  intro before
  rw [runOn_bind, hm before]
  exact (hf _).trans (by rw [List.append_assoc])

theorem bind_error {e : ε} (hm : Runs m t (.error e) t' new) (f : α → Work ε β) :
    Runs (m >>= f) t (.error e) t' new := by
  intro before
  rw [runOn_bind, hm before]

theorem adapt {m : Work δ α} {result : Except δ α} (f : δ → ε) (hm : Runs m t result t' new) :
    Runs (m.adapt f) t (result.mapError f) t' new := by
  intro before
  have hrun : runOn ⟨t, before⟩ (m.adapt f) =
      ((runOn ⟨t, before⟩ m).1.mapError f, (runOn ⟨t, before⟩ m).2) := rfl
  rw [hrun, hm before]

/-- The result of other work, a fault of it included. -/
theorem attempt {m : Work δ α} {result : Except δ α} (hm : Runs m t result t' new) :
    Runs (liftM m.run : Work ε (Except δ α)) t (.ok result) t' new := by
  intro before
  have hrun : runOn ⟨t, before⟩ (liftM m.run : Work ε (Except δ α)) =
      (.ok (runOn ⟨t, before⟩ m).1, (runOn ⟨t, before⟩ m).2) := rfl
  rw [hrun, hm before]

theorem logAll (records : List Record) (t : FileTree) :
    Runs (logAll records : Work ε Unit) t (.ok ()) t (records.map .record) := by
  induction records with
  | nil => exact pure () t
  | cons r rest ih => exact (put (.record r) t).bind ih

theorem ofResult_ok (fault : δ → ε) (a : α) (t : FileTree) :
    Runs (ofResult fault (.ok a)) t (.ok a) t [] := pure a t

theorem ofResult_error (fault : δ → ε) (e : δ) (t : FileTree) :
    Runs (ofResult fault (.error e) : Work ε α) t (.error (fault e)) t [] := throw (fault e) t

/-- Where everything can be said, nothing happens. -/
theorem ensureSayable {remarks : List Remark} (h : remarks.all (·.isSayable) = true) (t : FileTree) :
    Runs (Work.ensureSayable remarks) t (.ok ()) t [] := by
  rw [Work.ensureSayable, if_pos h]
  exact pure () t

/-- What can be said is said, up to the first remark that names an integer of too many digits. -/
theorem ensureSayable_fault {remarks : List Remark} (h : remarks.all (·.isSayable) = false)
    (t : FileTree) : Runs (Work.ensureSayable remarks) t (.error .longInteger) t
      ((Remark.records (remarks.takeWhile (·.isSayable))).map .record) := by
  rw [Work.ensureSayable, h, if_neg Bool.false_ne_true]
  rw [← List.append_nil (List.map _ _)]
  exact (logAll (Remark.records (remarks.takeWhile (·.isSayable))) t).bind
    (throw RemarkFault.longInteger t)

/-- Work has one run. -/
theorem unique {result result' : Except ε α} (h : Runs m t result t' new)
    (h' : Runs m t result' t'' new') : result = result' ∧ t' = t'' ∧ new = new' := by
  have heq := (h []).symm.trans (h' [])
  simp only [List.nil_append, Prod.mk.injEq, Workspace.mk.injEq] at heq
  exact heq

end Runs

/-! ## Work that emits -/

/-- The work runs, and all that it puts out is `P`. -/
def Emits (P : Output → Prop) (m : Work ε α) : Prop :=
  ∀ t, ∃ result t' new, Runs m t result t' new ∧ ∀ o ∈ new, P o

namespace Emits

variable {P : Output → Prop}

theorem of_silent {m : Work ε α} {t' : FileTree → FileTree} {result : FileTree → Except ε α}
    (h : ∀ t, Runs m t (result t) (t' t) []) : Emits P m :=
  fun t => ⟨result t, t' t, [], h t, fun _ ho => absurd ho List.not_mem_nil⟩

theorem pure (a : α) : Emits P (Pure.pure a : Work ε α) := of_silent (Runs.pure a)

theorem throw (e : ε) : Emits P (throw e : Work ε α) := of_silent (Runs.throw e)

theorem files : Emits P (files : Work ε FileTree) := of_silent Runs.files

theorem setFiles (t' : FileTree) : Emits P (setFiles t' : Work ε Unit) :=
  of_silent (Runs.setFiles · t')

theorem ofResult (fault : δ → ε) (r : Except δ α) : Emits P (ofResult fault r) := by
  cases r with
  | ok a => exact pure a
  | error e => exact throw (fault e)

theorem logAll {records : List Record} (h : ∀ r ∈ records, P (.record r)) :
    Emits P (logAll records : Work ε Unit) := fun t =>
  ⟨_, _, _, Runs.logAll records t, fun o ho => by
    obtain ⟨r, hr, rfl⟩ := List.mem_map.mp ho
    exact h r hr⟩

theorem put {o : Output} (h : P o) : Emits P (put o : Work ε Unit) :=
  fun t => ⟨_, _, _, Runs.put o t, fun _ ho => List.mem_singleton.mp ho ▸ h⟩

theorem bind {m : Work ε α} {f : α → Work ε β} (hm : Emits P m) (hf : ∀ a, Emits P (f a)) :
    Emits P (m >>= f) := by
  intro t
  obtain ⟨result, t', new, hrun, hnew⟩ := hm t
  cases result with
  | error e => exact ⟨.error e, t', new, hrun.bind_error f, hnew⟩
  | ok a =>
      obtain ⟨result', t'', new', hrun', hnew'⟩ := hf a t'
      refine ⟨result', t'', new ++ new', hrun.bind hrun', fun o ho => ?_⟩
      rcases List.mem_append.mp ho with h | h
      · exact hnew o h
      · exact hnew' o h

theorem mono {Q : Output → Prop} {m : Work ε α} (hm : Emits P m) (h : ∀ o, P o → Q o) :
    Emits Q m := by
  intro t
  obtain ⟨result, t', new, hrun, hnew⟩ := hm t
  exact ⟨result, t', new, hrun, fun o ho => h o (hnew o ho)⟩

theorem adapt {m : Work δ α} (f : δ → ε) (hm : Emits P m) : Emits P (m.adapt f) := fun t =>
  let ⟨_, t', new, hrun, hnew⟩ := hm t
  ⟨_, t', new, hrun.adapt f, hnew⟩

theorem attempt {m : Work δ α} (hm : Emits P m) :
    Emits P (liftM m.run : Work ε (Except δ α)) := fun t =>
  let ⟨_, t', new, hrun, hnew⟩ := hm t
  ⟨_, t', new, hrun.attempt, hnew⟩

theorem forM {f : β → Work ε Unit} (hf : ∀ b, Emits P (f b)) (l : List β) :
    Emits P (l.forM f) := by
  induction l with
  | nil => exact pure ()
  | cons b rest ih => exact (hf b).bind fun _ => ih

end Emits

end Work

/-! ## Work without warnings -/

/-- A record that is no warning and not logged by a command itself. -/
def Output.IsOfFiles : Output → Prop
  | .record r => r.level ≠ Level.warning ∧ r.channel ≠ Channel.command.name
  | .printed _ => False

/-- The warnings among some records. -/
def warningsIn (records : List Record) : List Record :=
  records.filter fun r => r.level = Level.warning

theorem warningsIn_append (rs rs' : List Record) :
    warningsIn (rs ++ rs') = warningsIn rs ++ warningsIn rs' := List.filter_append ..

/-- Records that are all made on one channel at one level are warnings together or not at all. -/
theorem warningsIn_map_record {α : Type} (c : Channel) (level : Level) (message : α → String)
    (l : List α) :
    warningsIn (l.map fun a => c.record level (message a)) =
      if level = Level.warning then l.map fun a => c.record level (message a) else [] := by
  rw [warningsIn]
  split
  · refine List.filter_eq_self.mpr fun r hr => ?_
    obtain ⟨a, -, rfl⟩ := List.mem_map.mp hr
    exact decide_eq_true ‹_›
  · refine List.filter_eq_nil_iff.mpr fun r hr => ?_
    obtain ⟨a, -, rfl⟩ := List.mem_map.mp hr
    rwa [decide_eq_true_iff]

namespace Output

end Output

namespace Work

variable {ε : Type}

theorem emits_log {c : Channel} {level : Level} (h : level ≠ Level.warning)
    (hc : c.name ≠ Channel.command.name) (message : String) :
    Emits Output.IsOfFiles (log (c.record level message) : Work ε Unit) := .put ⟨h, hc⟩

theorem emits_ensureDirectory (p : FilePath) : Emits Output.IsOfFiles (ensureDirectory p) := by
  refine .bind .files fun t => .bind (.ofResult _ _) fun found => ?_
  split
  · exact .pure ()
  · refine .bind (.setFiles _) fun _ => ?_
    split
    · exact .throw _
    · exact emits_log (by decide) (by decide) _

theorem emits_storeBytes (p : FilePath) (content : ByteArray) :
    Emits Output.IsOfFiles (storeBytes p content) :=
  .bind .files fun _ => .bind (.ofResult _ _) fun t' => .setFiles t'

theorem emits_storeText (p : FilePath) (text : String) :
    Emits Output.IsOfFiles (storeText p text) := by
  rw [storeText]
  split
  · exact emits_storeBytes p _
  · exact .bind (emits_storeBytes p _) fun _ => .throw _

theorem emits_storeDocument (p : FilePath) (v : Value) :
    Emits Output.IsOfFiles (storeDocument p v) := by
  refine .bind (.adapt _ (emits_ensureDirectory _)) fun _ => ?_
  exact .bind (.ofResult _ _) fun text => emits_storeText p _

theorem emits_writeDocument (p : FilePath) (v : Value) :
    Emits Output.IsOfFiles (writeDocument p v) := by
  refine .bind (.attempt (emits_storeDocument p v)) fun r => ?_
  cases r with
  | ok _ => exact emits_log (by decide) (by decide) _
  | error reason =>
      refine .bind .files fun t => ?_
      exact .bind (emits_log (by decide) (by decide) _) fun _ => .throw _

end Work

theorem Project.emits_writeAll (p : Project) (files : List (DocumentFile × Value)) :
    Work.Emits Output.IsOfFiles (p.writeAll files) := by
  refine Work.Emits.forM (fun e => ?_) files
  exact (Work.emits_writeDocument (p.actorDirectory.child e.1.name) e.2).adapt Failure.output

end ActorSpec
