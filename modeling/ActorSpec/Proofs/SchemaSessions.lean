import ActorSpec.Lint.Session
import ActorSpec.Proofs.ActorIds
import Mathlib.Data.List.DropRight

/-!
# What a session remembers of schemas

The steps of a session, each with what it gave, tell what every later load gives, without a look into the
store: the schema that the first load of the name has given since the last clearing
(`SchemaSession.firstGiven`), and what its file holds if none has given any. One step does to the entry of
a name what its event says (`SchemaSession.find?_next`), so a whole session does
(`SchemaSession.find?_after`). A reading of the file looks at what its path leads to, and there are three
answers (`FileTree.ask_file_cases`), each with failures of its own.
-/

namespace ActorSpec

/-! ## Reading a file -/

namespace Json

/-- A reader calls an integer long only if it is. -/
def MeetsLong {α : Type} (result : Except ReadFault α) : Prop :=
  ∀ digits, result = .error (.longInteger digits) → Numeral.maxDigits < digits

namespace MeetsLong

variable {α β : Type}

theorem ok (a : α) : MeetsLong (.ok a) := fun _ h => nomatch h

theorem malformed : MeetsLong (.error .malformed : Except ReadFault α) := fun _ h => nomatch h

theorem bind {result : Except ReadFault α} {f : α → Except ReadFault β} (h : MeetsLong result)
    (hf : ∀ a, MeetsLong (f a)) : MeetsLong (result >>= f) := by
  cases result with
  | error fault => exact fun digits heq => h digits (congrArg _ (Except.error.inj heq))
  | ok a => exact hf a

end MeetsLong

theorem numeral_meetsLong (negative : Bool) (cs : List Char) : MeetsLong (numeral negative cs) := by
  rw [numeral]
  dsimp only
  split
  · exact .malformed
  · split
    · split
      · next hlong =>
          intro digits h
          obtain rfl := ReadFault.longInteger.inj (Except.error.inj h)
          exact hlong
      · exact .ok _
    · exact .ok _

theorem readers_meetLong (fuel : Nat) :
    (∀ cs, MeetsLong (valueAt fuel cs)) ∧ (∀ cs, MeetsLong (itemsAt fuel cs))
      ∧ ∀ cs, MeetsLong (membersAt fuel cs) := by
  induction fuel with
  | zero => exact ⟨fun _ => .malformed, fun _ => .malformed, fun _ => .malformed⟩
  | succ fuel ih =>
      obtain ⟨hvalue, hitems, hmembers⟩ := ih
      refine ⟨fun cs => ?_, fun cs => ?_, fun cs => ?_⟩
      · unfold valueAt
        split
        · split
          · exact .ok _
          · exact .malformed
        · split
          · exact .ok _
          · exact .bind (hitems _) fun _ => .ok _
        · split
          · exact .ok _
          · exact .bind (hmembers _) fun _ => .ok _
        iterate 6
          · exact .ok _
        · exact numeral_meetsLong true _
        · exact numeral_meetsLong false _
      · rw [itemsAt]
        refine .bind (hvalue _) fun _ => ?_
        dsimp only
        split
        · exact .ok _
        · exact .bind (hitems _) fun _ => .ok _
        · exact .malformed
      · unfold membersAt
        split
        · split
          · exact .malformed
          · split
            · refine .bind (hvalue _) fun _ => ?_
              dsimp only
              split
              · exact .ok _
              · exact .bind (hmembers _) fun _ => .ok _
              · exact .malformed
            · exact .malformed
        · exact .malformed

theorem read_meetsLong (text : String) : MeetsLong (read text) := by
  rw [read]
  refine .bind ((readers_meetLong _).1 _) fun _ => ?_
  dsimp only
  split
  · exact .ok _
  · exact .malformed

end Json

/-- What the content of a file is refused for as a schema: it is no text, it is no document, or it has an
integer in it that is too long. -/
inductive SchemaFault.IsOfContent (bytes : ByteArray) (path : FilePath) : SchemaFault → Prop where
  | undecodable (h : decodeText? bytes = none) : IsOfContent bytes path .undecodable
  | malformed {text : String} (h : decodeText? bytes = some text)
      (hread : Json.read text = .error .malformed) : IsOfContent bytes path (.malformed path)
  | longInteger {text : String} {digits : Nat} (h : decodeText? bytes = some text)
      (hread : Json.read text = .error (.longInteger digits))
      (hlong : Numeral.maxDigits < digits) : IsOfContent bytes path (.longInteger digits)

namespace FileTree

variable {t : FileTree} {directory : FilePath} {name : String}

theorem isFile_eq_false_iff {p : FilePath} :
    t.isFile p = false ↔ ∀ bytes, t.at? p ≠ some (.file bytes) := by
  unfold isFile
  split
  · next bytes hfile => simp [hfile]
  · next hno => exact iff_of_true rfl hno

/-- A path leads to a file, or cannot be asked about, or leads to something else or to nothing. -/
theorem ask_file_cases (t : FileTree) (p : FilePath) :
    (∃ bytes, t.at? p = some (.file bytes) ∧ t.ask p = .ok (some (.file bytes)))
    ∨ (t.placeOf p = .error .nameTooLong ∧ t.isFile p = false ∧ t.ask p = .error ⟨.nameTooLong, p⟩)
    ∨ (t.placeOf p ≠ .error .nameTooLong ∧ t.isFile p = false
      ∧ ∃ node?, t.ask p = .ok node? ∧ ∀ bytes, node? ≠ some (.file bytes)) := by
  have hfile : ∀ {bytes}, t.at? p = some (.file bytes) → t.ask p = .ok (some (.file bytes)) :=
    ask_eq_some_iff.mpr
  cases hask : t.ask p with
  | error fault =>
      obtain ⟨hlong, rfl⟩ := ask_eq_error_iff.mp hask
      refine .inr (.inl ⟨hlong, isFile_eq_false_iff.mpr fun bytes hbytes => ?_, rfl⟩)
      cases hask.symm.trans (hfile hbytes)
  | ok node? =>
      by_cases hsome : ∃ bytes, node? = some (.file bytes)
      · obtain ⟨bytes, rfl⟩ := hsome
        exact .inl ⟨bytes, ask_eq_some_iff.mp hask, rfl⟩
      · refine .inr (.inr ⟨fun hlong => ?_, ?_, node?, rfl, fun bytes hbytes => hsome ⟨bytes, hbytes⟩⟩)
        · cases hask.symm.trans (ask_eq_error_iff.mpr ⟨hlong, rfl⟩)
        · refine isFile_eq_false_iff.mpr fun bytes hbytes => hsome ⟨bytes, ?_⟩
          exact Except.ok.inj (hask.symm.trans (hfile hbytes))

theorem readSchema_of_file {bytes : ByteArray}
    (h : t.ask (schemaPath directory name) = .ok (some (.file bytes))) :
    t.readSchema directory name = match decodeText? bytes with
      | none => .error .undecodable
      | some text => (Json.read text).mapError fun
        | .malformed => .malformed (schemaPath directory name)
        | .longInteger digits => .longInteger digits := by
  unfold readSchema
  dsimp only
  exact h ▸ rfl

theorem readSchema_of_unasked
    (h : t.ask (schemaPath directory name) = .error ⟨.nameTooLong, schemaPath directory name⟩) :
    t.readSchema directory name = .error (.unreachable ⟨.nameTooLong, schemaPath directory name⟩) := by
  unfold readSchema
  dsimp only
  rw [h]

theorem readSchema_of_no_file {node? : Option FileNode}
    (h : t.ask (schemaPath directory name) = .ok node?) (hno : ∀ bytes, node? ≠ some (.file bytes)) :
    t.readSchema directory name = .error (.missing name (schemaPath directory name)) := by
  unfold readSchema
  dsimp only
  rw [h]
  match node?, hno with
  | none, _ => rfl
  | some .directory, _ => rfl
  | some (.file bytes), hno => exact absurd rfl (hno bytes)

theorem readSchema_eq_ok_iff {v : Value} : t.readSchema directory name = .ok v ↔
    ∃ bytes text, t.at? (schemaPath directory name) = some (.file bytes)
      ∧ decodeText? bytes = some text ∧ Json.read text = .ok v := by
  constructor
  · intro h
    obtain ⟨bytes, hfile, hask⟩ | ⟨-, -, hask⟩ | ⟨-, -, node?, hask, hno⟩ :=
      t.ask_file_cases (schemaPath directory name)
    · rw [readSchema_of_file hask] at h
      split at h
      · cases h
      · next text htext => exact ⟨bytes, text, hfile, htext, ok_of_mapError_eq_ok h⟩
    · cases (readSchema_of_unasked hask).symm.trans h
    · cases (readSchema_of_no_file hask hno).symm.trans h
  · rintro ⟨bytes, text, hfile, htext, hread⟩
    rw [readSchema_of_file (ask_eq_some_iff.mpr hfile)]
    simp only [htext, hread]
    rfl

/-- The failures of a reading are those of the path, of what it leads to, and of the content. -/
theorem readSchema_eq_error_iff {fault : SchemaFault} : t.readSchema directory name = .error fault ↔
    t.placeOf (schemaPath directory name) = .error .nameTooLong
        ∧ fault = .unreachable ⟨.nameTooLong, schemaPath directory name⟩
      ∨ t.placeOf (schemaPath directory name) ≠ .error .nameTooLong
        ∧ t.isFile (schemaPath directory name) = false
        ∧ fault = .missing name (schemaPath directory name)
      ∨ ∃ bytes, t.at? (schemaPath directory name) = some (.file bytes)
          ∧ fault.IsOfContent bytes (schemaPath directory name) := by
  obtain ⟨bytes, hfile, hask⟩ | ⟨hlong, hno, hask⟩ | ⟨hshort, hno, node?, hask, hother⟩ :=
    t.ask_file_cases (schemaPath directory name)
  · rw [readSchema_of_file hask]
    constructor
    · intro h
      refine .inr (.inr ⟨bytes, hfile, ?_⟩)
      split at h
      · next hnone =>
          obtain rfl := Except.error.inj h
          exact .undecodable hnone
      · next text htext =>
          cases hread : Json.read text with
          | ok v => rw [hread] at h; cases h
          | error first =>
              rw [hread] at h
              obtain rfl := Except.error.inj h
              cases first with
              | malformed => exact .malformed htext hread
              | longInteger digits =>
                  exact .longInteger htext hread (Json.read_meetsLong text digits hread)
    · rintro (⟨hlong, -⟩ | ⟨-, hno, -⟩ | ⟨bytes', hfile', hfault⟩)
      · cases hask.symm.trans (ask_eq_error_iff.mpr ⟨hlong, rfl⟩)
      · exact absurd hfile (isFile_eq_false_iff.mp hno bytes)
      · obtain rfl := FileNode.file.inj (Option.some.inj (hfile.symm.trans hfile'))
        cases hfault with
        | undecodable hnone => simp only [hnone]
        | malformed htext hread | longInteger htext hread =>
            simp only [htext, hread]
            rfl
  · rw [readSchema_of_unasked hask]
    constructor
    · intro h
      exact .inl ⟨hlong, (Except.error.inj h).symm⟩
    · rintro (⟨-, rfl⟩ | ⟨hshort, -, -⟩ | ⟨bytes, hfile, -⟩)
      · rfl
      · exact absurd hlong hshort
      · exact absurd hfile (isFile_eq_false_iff.mp hno bytes)
  · rw [readSchema_of_no_file hask hother]
    constructor
    · intro h
      exact .inr (.inl ⟨hshort, hno, (Except.error.inj h).symm⟩)
    · rintro (⟨hlong, -⟩ | ⟨-, -, rfl⟩ | ⟨bytes, hfile, -⟩)
      · exact absurd hlong hshort
      · rfl
      · exact absurd hfile (isFile_eq_false_iff.mp hno bytes)

end FileTree

/-! ## One load -/

namespace SchemaStore

variable (s : SchemaStore) (t : FileTree) (name other : String)

/-- What a load can do: it gives what is kept, or reads the file and keeps what it gives, or fails and
keeps nothing. -/
theorem load_cases :
    (∃ schema, s.find? name = some schema ∧ s.load t name = ⟨s, .ok schema⟩)
    ∨ (∃ schema, s.find? name = none ∧ t.readSchema s.directory name = .ok schema
      ∧ s.load t name = ⟨{ s with kept := (name, schema) :: s.kept }, .ok schema⟩)
    ∨ ∃ fault, s.find? name = none ∧ t.readSchema s.directory name = .error fault
      ∧ s.load t name = ⟨s, .error fault⟩ := by
  rw [load]
  cases s.find? name with
  | some schema => exact .inl ⟨schema, rfl, rfl⟩
  | none =>
      cases t.readSchema s.directory name with
      | ok schema => exact .inr (.inl ⟨schema, rfl, rfl, rfl⟩)
      | error fault => exact .inr (.inr ⟨fault, rfl, rfl, rfl⟩)

theorem result_load : (s.load t name).result =
    match s.find? name with
    | some schema => .ok schema
    | none => t.readSchema s.directory name := by
  obtain ⟨schema, hfind, hload⟩ | ⟨schema, hfind, hread, hload⟩ | ⟨fault, hfind, hread, hload⟩ :=
    s.load_cases t name
  · rw [hload, hfind]
  · rw [hload, hfind, hread]
  · rw [hload, hfind, hread]

theorem directory_load : (s.load t name).store.directory = s.directory := by
  obtain ⟨_, _, hload⟩ | ⟨_, _, _, hload⟩ | ⟨_, _, _, hload⟩ := s.load_cases t name <;> rw [hload]

/-- A load that fails leaves the store as it is. -/
theorem store_load_of_failure {fault : SchemaFault} (h : (s.load t name).result = .error fault) :
    (s.load t name).store = s := by
  obtain ⟨_, _, hload⟩ | ⟨_, _, _, hload⟩ | ⟨_, _, _, hload⟩ := s.load_cases t name
  · rw [hload]
  · rw [hload] at h
    cases h
  · rw [hload]

/-- A load keeps every entry, and adds what it gives under its own name. -/
theorem find?_load : (s.load t name).store.find? other =
    (s.find? other).or (if name = other then (s.load t name).result.toOption else none) := by
  obtain ⟨schema, hfind, hload⟩ | ⟨schema, hfind, -, hload⟩ | ⟨fault, -, -, hload⟩ :=
    s.load_cases t name
  · rw [hload]
    by_cases h : name = other
    · rw [← h, hfind]
      rfl
    · rw [if_neg h, Option.or_none]
  · rw [hload]
    refine (lookup_cons_eq_ite (name, schema) s.kept other).trans ?_
    by_cases h : name = other
    · rw [if_pos h.symm, if_pos h, ← h, hfind]
      rfl
    · rw [if_neg (Ne.symm h), if_neg h, Option.or_none]
      rfl
  · have hnothing : (Except.error fault : Except SchemaFault Value).toOption = none := rfl
    rw [hload, hnothing, ite_self, Option.or_none]

end SchemaStore

/-! ## Steps and what they gave -/

/-- What has happened at a step. -/
inductive SchemaEvent where
  | loaded (name : String) (result : Except SchemaFault Value)
  | cleared
  | changed

namespace SchemaEvent

def clears : SchemaEvent → Bool
  | .cleared => true
  | _ => false

/-- The schema that a load of the name has given. -/
def given? (name : String) : SchemaEvent → Option Value
  | .loaded loadedName result => if loadedName = name then result.toOption else none
  | _ => none

end SchemaEvent

namespace SchemaSession

/-- The first schema given for a name since the last clearing. -/
def firstGiven (name : String) (events : List SchemaEvent) : Option Value :=
  (events.rtakeWhile fun e => !e.clears).findSome? (·.given? name)

theorem firstGiven_concat (name : String) (events : List SchemaEvent) (e : SchemaEvent) :
    firstGiven name (events ++ [e]) =
      if e.clears then none else (firstGiven name events).or (e.given? name) := by
  rw [firstGiven, List.rtakeWhile_concat]
  cases e.clears with
  | true => rfl
  | false =>
      simp only [Bool.not_false, if_true, Bool.false_eq_true, if_false, List.findSome?_append,
        List.findSome?_singleton]
      rfl

/-- A session with a new store. -/
def opened (directory : FilePath) (files : FileTree) : SchemaSession := ⟨.empty directory, files⟩

def event (s : SchemaSession) : SchemaStep → SchemaEvent
  | .load name => .loaded name (s.load name).result
  | .clear => .cleared
  | .change _ => .changed

/-- The events of some steps. -/
def events (s : SchemaSession) : List SchemaStep → List SchemaEvent
  | [] => []
  | step :: rest => s.event step :: (s.next step).events rest

theorem events_concat (s : SchemaSession) (steps : List SchemaStep) (step : SchemaStep) :
    s.events (steps ++ [step]) = s.events steps ++ [(s.after steps).event step] := by
  induction steps generalizing s with
  | nil => rfl
  | cons first rest ih =>
      rw [List.cons_append, events, events, ih, List.cons_append]
      rfl

theorem directory_after (s : SchemaSession) (steps : List SchemaStep) :
    (s.after steps).store.directory = s.store.directory := by
  induction steps generalizing s with
  | nil => rfl
  | cons step rest ih =>
      refine (ih (s.next step)).trans ?_
      cases step with
      | load name => exact s.store.directory_load s.files name
      | clear | change files => rfl

/-- A step does to the entry of a name what its event says. -/
theorem find?_next (s : SchemaSession) (step : SchemaStep) (name : String) :
    (s.next step).store.find? name =
      if (s.event step).clears then none
      else (s.store.find? name).or ((s.event step).given? name) := by
  cases step with
  | load loadedName => exact s.store.find?_load s.files loadedName name
  | clear => rfl
  | change files => exact Option.or_none.symm

/-- The entry of a name is the first schema given for it since the last clearing. -/
theorem find?_after (directory : FilePath) (files : FileTree) (steps : List SchemaStep)
    (name : String) : ((opened directory files).after steps).store.find? name =
      firstGiven name ((opened directory files).events steps) := by
  induction steps using List.reverseRecOn with
  | nil => rfl
  | append_singleton steps step ih =>
      rw [events_concat, firstGiven_concat, ← ih, after, List.foldl_concat, ← after]
      exact find?_next _ step name

theorem result_load_after (directory : FilePath) (files : FileTree) (steps : List SchemaStep)
    (name : String) : (((opened directory files).after steps).load name).result =
      match firstGiven name ((opened directory files).events steps) with
      | some schema => .ok schema
      | none => ((opened directory files).after steps).files.readSchema directory name := by
  rw [load, SchemaStore.result_load, find?_after, directory_after]
  rfl

/-- A load of another name leaves what a load of this one gives. -/
theorem result_load_next {name other : String} (h : other ≠ name) (s : SchemaSession) :
    ((s.next (.load other)).load name).result = (s.load name).result := by
  have hfind : (s.load other).store.find? name = s.store.find? name := by
    rw [load, SchemaStore.find?_load, if_neg h, Option.or_none]
  have hdirectory : (s.load other).store.directory = s.store.directory :=
    s.store.directory_load s.files other
  rw [load, load, next, SchemaStore.result_load, SchemaStore.result_load, hfind, hdirectory]

/-- A load that fails is as if it had not been, so the next one gives what the file holds then. -/
theorem next_of_failure {s : SchemaSession} {name : String} {fault : SchemaFault}
    (h : (s.load name).result = .error fault) :
    s.next (.load name) = s
      ∧ ∀ t, ((s.next (.change t)).load name).result = t.readSchema s.store.directory name := by
  constructor
  · rw [next, load, SchemaStore.store_load_of_failure _ _ _ h]
  · intro t
    rw [load, SchemaStore.result_load] at h
    rw [load, next, SchemaStore.result_load]
    cases hfind : s.store.find? name with
    | some schema => rw [hfind] at h; cases h
    | none => rfl

/-- A load gives, whatever the file is by then, the first schema that a load of the name has given since
the last clearing, and without one what the file holds now: the document in it, or a failure that says
that there is no file, or what is wrong with its content. Only a path with a name that is too long fails
in a way of its own. A load that fails is not kept, so that one after the file has been mended gives
what the file holds then; and a load of one name is nothing to another one. The entry of a name is
followed through the events of the steps (`result_load_after`). -/
theorem load_gives_first_given (directory : FilePath) (files : FileTree) (steps : List SchemaStep)
    (name : String) :
    (∀ v, firstGiven name ((opened directory files).events steps) = some v →
      (((opened directory files).after steps).load name).result = .ok v)
    ∧ (firstGiven name ((opened directory files).events steps) = none →
      (((opened directory files).after steps).load name).result =
        ((opened directory files).after steps).files.readSchema directory name)
    ∧ (∀ (t : FileTree) (v : Value), t.readSchema directory name = .ok v ↔
        ∃ bytes text, t.at? (schemaPath directory name) = some (.file bytes)
          ∧ decodeText? bytes = some text ∧ Json.read text = .ok v)
    ∧ (∀ (t : FileTree) (fault : SchemaFault), t.readSchema directory name = .error fault ↔
        t.placeOf (schemaPath directory name) = .error .nameTooLong
            ∧ fault = .unreachable ⟨.nameTooLong, schemaPath directory name⟩
          ∨ t.placeOf (schemaPath directory name) ≠ .error .nameTooLong
            ∧ t.isFile (schemaPath directory name) = false
            ∧ fault = .missing name (schemaPath directory name)
          ∨ ∃ bytes, t.at? (schemaPath directory name) = some (.file bytes)
              ∧ fault.IsOfContent bytes (schemaPath directory name))
    ∧ (∀ (s : SchemaSession) (fault : SchemaFault), (s.load name).result = .error fault →
        s.next (.load name) = s
        ∧ ∀ t, ((s.next (.change t)).load name).result = t.readSchema s.store.directory name)
    ∧ ∀ (s : SchemaSession) (other : String), other ≠ name →
        ((s.next (.load other)).load name).result = (s.load name).result := by
  refine ⟨fun v hv => ?_, fun hnone => ?_, fun t v => FileTree.readSchema_eq_ok_iff,
    fun t fault => FileTree.readSchema_eq_error_iff, fun s fault => next_of_failure,
    fun s other h => result_load_next h s⟩
  · rw [result_load_after, hv]
  · rw [result_load_after, hnone]

/-- A directory with one schema in it. -/
def schemaTree (text : String) : FileTree :=
  ⟨["work"], [(["work"], .directory), (["work", "s.json"], .file text.toUTF8)]⟩

theorem placeOf_schemaPath {t : FileTree} (h : t.node? t.cwd = some .directory) :
    t.placeOf (schemaPath .here "s") = .ok (t.cwd ++ ["s.json"]) := by
  have hpath : schemaPath .here "s" = ⟨.none, ["s.json"]⟩ := by decide
  rw [hpath]
  exact FileTree.placeOf_named (by decide) (by decide +kernel) (by decide) h

theorem at?_schemaTree (text : String) :
    (schemaTree text).at? (schemaPath .here "s") = some (.file text.toUTF8) := by
  rw [FileTree.at?, placeOf_schemaPath rfl]
  rfl

theorem result_load_opened (files : FileTree) :
    ((opened .here files).load "s").result = files.readSchema .here "s" :=
  result_load_after .here files [] "s"

/-- A schema that has been mended after a load of it failed is given, also with its file removed, and no
more once the store is cleared. -/
theorem mendedSchema_kept :
    ∃ schema, schema.display = "7"
      ∧ ((opened .here (schemaTree "nul")).load "s").result =
          .error (.malformed (schemaPath .here "s"))
      ∧ firstGiven "s" ((opened .here (schemaTree "nul")).events
          [.load "s", .change (schemaTree "7"), .load "s", .change bareTree]) = some schema
      ∧ (((opened .here (schemaTree "nul")).after
          [.load "s", .change (schemaTree "7"), .load "s", .change bareTree]).load "s").result =
            .ok schema
      ∧ (((opened .here (schemaTree "nul")).after
          [.load "s", .change (schemaTree "7"), .load "s", .change bareTree, .clear]).load
            "s").result = .error (.missing "s" (schemaPath .here "s"))
      ∧ (((opened .here (schemaTree "7")).next (.load "S")).load "s").result = .ok schema := by
  have hseven : (Json.read "7").toOption.any (fun v => v.display = "7") = true := by decide +kernel
  have hnul : (Json.read "nul").map (fun _ => ()) = .error .malformed := by decide +kernel
  obtain ⟨-, -, hok, herror, hfailure, hother⟩ := load_gives_first_given .here (schemaTree "nul") [] "s"
  have hfails : ((opened .here (schemaTree "nul")).load "s").result =
      .error (.malformed (schemaPath .here "s")) := by
    rw [result_load_opened]
    exact (herror _ _).mpr (.inr (.inr ⟨_, at?_schemaTree _,
      .malformed (decodeText?_toUTF8 (by decide)) (error_of_map_eq_error hnul)⟩))
  cases hread : Json.read "7" with
  | error fault => rw [hread] at hseven; cases hseven
  | ok schema =>
      rw [hread] at hseven
      have hgives : ((opened .here (schemaTree "7")).load "s").result = .ok schema := by
        rw [result_load_opened]
        exact (hok _ _).mpr ⟨_, _, at?_schemaTree _, decodeText?_toUTF8 (by decide), hread⟩
      have hevents : (opened .here (schemaTree "nul")).events
          [.load "s", .change (schemaTree "7"), .load "s", .change bareTree] =
            [.loaded "s" (.error (.malformed (schemaPath .here "s"))), .changed,
              .loaded "s" (.ok schema), .changed] := by
        rw [events, event, (hfailure _ _ hfails).1, hfails, ← hgives]
        rfl
      have hfirst : firstGiven "s" ((opened .here (schemaTree "nul")).events
          [.load "s", .change (schemaTree "7"), .load "s", .change bareTree]) = some schema := by
        rw [hevents]
        rfl
      have hmissing : bareTree.readSchema .here "s" = .error (.missing "s" (schemaPath .here "s")) := by
        refine (herror _ _).mpr (.inr (.inl ⟨?_, ?_, rfl⟩))
        · rw [placeOf_schemaPath rfl]
          exact nofun
        · rw [FileTree.isFile, FileTree.at?, placeOf_schemaPath rfl]
          decide
      exact ⟨schema, of_decide_eq_true hseven, hfails, hfirst,
        (load_gives_first_given .here _ _ "s").1 schema hfirst,
        ((load_gives_first_given .here _ _ "s").2.1 rfl).trans hmissing,
        (hother _ "S" (by decide)).trans hgives⟩

/-- A file with a document in it, a mapping with a number, is refused if the number has 4301 digits. -/
theorem numberedSchema_refused :
    (∃ schema, ((opened .here (schemaTree (numberedText 4299))).load "s").result = .ok schema)
    ∧ ((opened .here (schemaTree (numberedText 4300))).load "s").result =
        .error (.longInteger 4301) := by
  constructor
  · have hread : (Json.read (numberedText 4299)).isOk = true := by
      rw [read_numberedText]
      decide +kernel
    cases hschema : Json.read (numberedText 4299) with
    | error fault => rw [hschema] at hread; cases hread
    | ok schema =>
        refine ⟨schema, (result_load_opened _).trans (FileTree.readSchema_eq_ok_iff.mpr
          ⟨_, _, at?_schemaTree _, decodeText?_numberedText 4299, hschema⟩)⟩
  · have hread : (Json.read (numberedText 4300)).map (fun _ => ()) = .error (.longInteger 4301) := by
      rw [read_numberedText]
      decide +kernel
    refine (result_load_opened _).trans (FileTree.readSchema_eq_error_iff.mpr
      (.inr (.inr ⟨_, at?_schemaTree _, ?_⟩)))
    exact .longInteger (decodeText?_numberedText 4300) (error_of_map_eq_error hread) (by decide)

end SchemaSession

end ActorSpec
