import ActorSpec.Files.Document
import ActorSpec.Proofs.DocumentBytes
import ActorSpec.Proofs.Run

/-!
# Documents in files read back

A document that is written to a file is found there again. What is decoded from its bytes is its text
(`decodeText?_bytes`), and the reader takes the text for the document (`Json.read_write`); the file has
what was put into it, because no step of its path goes through it (`FileTree.read_write`). Only a text
without bytes leaves an empty file behind.
-/

namespace ActorSpec

/-! ## Trees -/

namespace FileTree

theorem lookup_enter (place : Place) (node : FileNode) (nodes : List (Place × FileNode))
    (other : Place) :
    (enter place node nodes).lookup other =
      if other = place then some node else nodes.lookup other :=
  lookup_of_enter (enter place node) rfl (fun _ _ => rfl) nodes other

theorem node?_put (t : FileTree) {place : Place} (hplace : place ≠ []) (node : FileNode)
    (other : Place) :
    (t.put place node).node? other = if other = place then some node else t.node? other := by
  rw [node?, node?, put, lookup_enter]
  by_cases hroot : other = []
  · rw [if_pos hroot, if_pos hroot, if_neg (hroot ▸ hplace.symm)]
  · rw [if_neg hroot, if_neg hroot]

/-- Nothing but a directory is on the way that steps go, so a file at its end does not change it. -/
theorem follow_put {t : FileTree} {start place : Place} {steps : List String}
    (h : t.follow start steps = .ok place) (hfile : t.node? place ≠ some .directory)
    (content : ByteArray) :
    (t.put place (.file content)).follow start steps = .ok place := by
  have hplace : place ≠ [] := by
    rintro rfl
    exact hfile (if_pos rfl)
  induction steps generalizing start with
  | nil => exact h
  | cons step rest ih =>
      rw [follow] at h ⊢
      rw [node?_put t hplace]
      by_cases hstart : start = place
      · rw [hstart] at h
        split at h
        · cases h
        · cases h
        · next hdirectory => exact absurd hdirectory hfile
      · rw [if_neg hstart]
        split at h
        · cases h
        · cases h
        · split at h
          · cases h
          · next hshort =>
              rw [if_neg hshort]
              exact ih h

/-- Where a file can be written, and is read then. -/
theorem write_eq_ok {t t' : FileTree} {p : FilePath} {content : ByteArray}
    (h : t.write p content = .ok t') : ∃ place, t.placeOf p = .ok place
      ∧ t.node? place ≠ some .directory ∧ t' = t.put place (.file content) := by
  rw [write] at h
  split at h
  · cases h
  · next place hplace =>
      split at h
      · cases h
      · next hfile => exact ⟨place, hplace, hfile, (Except.ok.inj h).symm⟩

/-- A path that nothing is wrong with is followed from where it starts. -/
theorem placeOf_of_faultless {t : FileTree} {p : FilePath} (h : pathFault? p = none) :
    t.placeOf p = t.follow (if p.root.absolute then [] else t.cwd) p.steps := by
  rw [placeOf, h]

/-- A file is read where it has been written. -/
theorem read_write {t t' : FileTree} {p : FilePath} {content : ByteArray}
    (h : t.write p content = .ok t') : t'.read p = .ok content := by
  obtain ⟨place, hplace, hfile, rfl⟩ := write_eq_ok h
  have hsame : (t.put place (.file content)).placeOf p = .ok place := by
    rw [placeOf] at hplace ⊢
    split at hplace
    · cases hplace
    · exact follow_put hplace hfile content
  have hroot : place ≠ [] := by
    rintro rfl
    exact hfile (if_pos rfl)
  rw [read, hsame]
  simp only [node?_put t hroot, if_pos]

theorem ask_eq_some_iff {t : FileTree} {p : FilePath} {node : FileNode} :
    t.ask p = .ok (some node) ↔ t.at? p = some node := by
  rw [ask, at?]
  cases t.placeOf p with
  | ok place => exact ⟨Except.ok.inj, congrArg Except.ok⟩
  | error cause => cases cause <;> exact ⟨nofun, nofun⟩

/-- Only a name that is too long is in the way of an answer. -/
theorem ask_eq_error_iff {t : FileTree} {p : FilePath} {fault : FileFault} :
    t.ask p = .error fault ↔ t.placeOf p = .error .nameTooLong ∧ fault = ⟨.nameTooLong, p⟩ := by
  rw [ask]
  cases t.placeOf p with
  | ok place => simp
  | error cause => cases cause <;> simp [eq_comm]

theorem ask_of_exists {t : FileTree} {p : FilePath} (h : t.exists p = true) :
    ∃ node, t.ask p = .ok (some node) :=
  (Option.isSome_iff_exists.mp h).imp fun _ => ask_eq_some_iff.mpr

theorem exists_of_ask {t : FileTree} {p : FilePath} {node : FileNode}
    (h : t.ask p = .ok (some node)) : t.exists p = true :=
  Option.isSome_of_eq_some (ask_eq_some_iff.mp h)

/-- The tree in which a directory is there or has been made, and why it cannot be made. -/
def withDirectory (t : FileTree) (p : FilePath) : FileTree × Option FileFault :=
  match t.ask p with
  | .error fault => (t, some fault)
  | .ok (some _) => (t, none)
  | .ok none => t.makeDirectories p.steps.length p

/-- The tree with the directory that a path is in, and why it cannot be made. -/
def readyFor (t : FileTree) (p : FilePath) : FileTree × Option FileFault := t.withDirectory p.parent

theorem withDirectory_of_exists {t : FileTree} {p : FilePath} (h : t.exists p = true) :
    t.withDirectory p = (t, none) := by
  obtain ⟨node, hnode⟩ := ask_of_exists h
  rw [withDirectory, hnode]

/-- A file can be written to a path: its directory is there or can be made, and it is no directory
itself. -/
def isWritable (t : FileTree) (p : FilePath) : Bool :=
  match t.readyFor p with
  | (ready, none) => (ready.placeOf p).isOk && !ready.isDirectory p
  | (_, some _) => false

theorem isWritable_of_ready {t ready : FileTree} {p : FilePath} (h : t.readyFor p = (ready, none)) :
    t.isWritable p = ((ready.placeOf p).isOk && !ready.isDirectory p) := by
  rw [isWritable, h]

theorem isWritable_of_fault {t ready : FileTree} {p : FilePath} {fault : FileFault}
    (h : t.readyFor p = (ready, some fault)) : t.isWritable p = false := by
  rw [isWritable, h]

/-- A new file can be written into a directory that is there. -/
theorem isWritable_of_new {t : FileTree} {p : FilePath} {place : Place}
    (hparent : t.exists p.parent = true) (hplace : t.placeOf p = .ok place)
    (hnone : t.node? place = none) : t.isWritable p = true := by
  have hready : t.readyFor p = (t, none) := withDirectory_of_exists hparent
  rw [isWritable_of_ready hready]
  simp only [isDirectory, at?, hplace, hnone]
  rfl

theorem exists_write {t : FileTree} {p : FilePath} (hplace : (t.placeOf p).isOk = true)
    (hfile : t.isDirectory p = false) (content : ByteArray) :
    ∃ t', t.write p content = .ok t' := by
  cases h : t.placeOf p with
  | error cause =>
      rw [h] at hplace
      cases hplace
  | ok place =>
      rw [write, h]
      simp only [isDirectory, at?, h] at hfile ⊢
      split
      · next hdirectory =>
          rw [hdirectory] at hfile
          cases hfile
      · exact ⟨_, rfl⟩

theorem exists_write_of_isWritable {t ready : FileTree} {p : FilePath}
    (hready : t.readyFor p = (ready, none)) (h : t.isWritable p = true) (content : ByteArray) :
    ∃ t', ready.write p content = .ok t' := by
  rw [isWritable_of_ready hready, Bool.and_eq_true, Bool.not_eq_true'] at h
  exact exists_write h.1 h.2 content

end FileTree

/-! ## Documents -/

namespace Work

variable {t ready t' : FileTree} {p : FilePath} {v : Value}

def createdRecord (p : FilePath) : Record :=
  Channel.output.record .debug ("Created directory: " ++ p.text)

def writtenRecord (p : FilePath) : Record := Channel.output.record .debug ("Written: " ++ p.text)

/-- What is logged when a directory is there or has been made. -/
def directoryRecords (t : FileTree) (p : FilePath) : List Record :=
  if t.exists p then [] else [createdRecord p]

theorem runs_ensureDirectory (h : t.withDirectory p = (ready, none)) :
    Runs (ensureDirectory p) t (.ok ()) ready ((directoryRecords t p).map .record) := by
  unfold FileTree.withDirectory at h
  have hfiles : Runs (ε := FileFault) files t (.ok t) t [] := Runs.files t
  split at h
  · cases h
  · next node hask =>
      obtain ⟨rfl, -⟩ := Prod.mk.inj h
      rw [directoryRecords, if_pos (FileTree.exists_of_ask hask)]
      refine hfiles.bind ?_
      rw [hask]
      exact (Runs.pure (some node) t).bind (Runs.pure () t)
  · next hask =>
      have hmissing : ¬ t.exists p = true := fun hexists => by
        obtain ⟨node, hnode⟩ := FileTree.ask_of_exists hexists
        cases hask.symm.trans hnode
      rw [directoryRecords, if_neg hmissing]
      refine hfiles.bind ?_
      rw [hask]
      refine (Runs.pure none t).bind ?_
      simp only [h]
      exact (Runs.setFiles t ready).bind (Runs.put (.record (createdRecord p)) ready)

theorem runs_ensureDirectory_fault {fault : FileFault} (h : t.withDirectory p = (ready, some fault)) :
    Runs (ensureDirectory p) t (.error fault) ready [] := by
  unfold FileTree.withDirectory at h
  have hfiles : Runs (ε := FileFault) files t (.ok t) t [] := Runs.files t
  refine hfiles.bind ?_
  split at h
  · next hask =>
      obtain ⟨rfl, hfault⟩ := Prod.mk.inj h
      obtain rfl := Option.some.inj hfault
      rw [hask]
      exact (Runs.throw _ t).bind_error _
  · cases h
  · next hask =>
      rw [hask]
      refine (Runs.pure none t).bind ?_
      simp only [h]
      exact (Runs.setFiles t ready).bind (Runs.throw fault ready)

theorem runs_storeBytes {content : ByteArray} (h : t.write p content = .ok t') :
    Runs (storeBytes p content) t (.ok ()) t' [] := by
  refine (Runs.files t).bind ?_
  rw [h]
  exact (Runs.pure t' t).bind (Runs.setFiles t t')

/-- A document that has a text with bytes ends up in its file, with a line break behind it. -/
theorem runs_writeDocument {text : String} (hready : t.readyFor p = (ready, none))
    (htext : Json.write .unicode v = .ok text) (hencodable : v.isEncodable = true)
    (hwrite : ready.write p (Text.bytes (text ++ "\n")) = .ok t') :
    Runs (writeDocument p v) t (.ok ()) t'
      ((directoryRecords t p.parent ++ [writtenRecord p]).map .record) := by
  have hmade := runs_ensureDirectory (p := p.parent) hready
  have hbytes : Text.encode (text ++ "\n") = .ok (Text.bytes (text ++ "\n")) :=
    Text.encode_eq ((Json.isEncodable_line_of_write htext).trans hencodable)
  have hstore : Runs (storeDocument p v) t (.ok ()) t'
      ((directoryRecords t p.parent).map .record) := by
    rw [← List.append_nil (List.map _ _)]
    refine (hmade.adapt DocumentFault.file).bind ?_
    rw [htext]
    refine (Runs.pure text ready).bind ?_
    rw [storeText, hbytes]
    exact runs_storeBytes hwrite
  rw [List.map_append]
  refine hstore.attempt.bind ?_
  exact Runs.put (.record (writtenRecord p)) t'

end Work

/-- The file at a path holds a document: the bytes of its text with a line break behind it. -/
def FileTree.Holds (t : FileTree) (p : FilePath) (v : Value) : Prop :=
  ∃ text content, Json.write .unicode v = .ok text ∧ Text.encode (text ++ "\n") = .ok content
    ∧ t.read p = .ok content

theorem FileTree.holds_iff {t : FileTree} {p : FilePath} {v : Value} : t.Holds p v ↔
    ∃ text, Json.write .unicode v = .ok text ∧ v.isEncodable = true
      ∧ t.read p = .ok (Text.bytes (text ++ "\n")) := by
  constructor
  · rintro ⟨text, content, htext, hcontent, hread⟩
    obtain ⟨hencodable, rfl⟩ := Text.encode_eq_ok_iff.mp hcontent
    exact ⟨text, htext, (Json.isEncodable_line_of_write htext).symm.trans hencodable, hread⟩
  · rintro ⟨text, htext, hencodable, hread⟩
    have hbytes := Text.encode_eq ((Json.isEncodable_line_of_write htext).trans hencodable)
    exact ⟨text, _, htext, hbytes, hread⟩

/-- A file that holds the text of a document holds the document. -/
theorem readDocument_of_read {t : FileTree} {p : FilePath} {v : Value} {text : String}
    (htext : Json.write .unicode v = .ok text) (hencodable : v.isEncodable = true)
    (hread : t.read p = .ok (Text.bytes (text ++ "\n"))) :
    t.readDocument p = .ok (v.asDocument .unicode) := by
  have hspelled : Json.IsSpelled .utf8 v.isEncodable (text ++ "\n").toList := Json.spelled_write htext
  rw [hencodable] at hspelled
  rw [FileTree.readDocument, hread]
  simp only [Except.mapError, bind, Except.bind, decodeText?_bytes hspelled, Json.read_write htext]

/-- The document that is written to a file is read back from it, as documents have it. -/
theorem readDocument_of_write {t t' : FileTree} {p : FilePath} {v : Value} {text : String}
    (htext : Json.write .unicode v = .ok text) (hencodable : v.isEncodable = true)
    (hwrite : t.write p (Text.bytes (text ++ "\n")) = .ok t') :
    t'.readDocument p = .ok (v.asDocument .unicode) :=
  readDocument_of_read htext hencodable (FileTree.read_write hwrite)

/-- What has a text with bytes is written to any path that takes a file. -/
theorem Work.runs_writeDocument_of_isWritable {t : FileTree} {p : FilePath} {v : Value} {text : String}
    (hwritable : t.isWritable p = true) (htext : Json.write .unicode v = .ok text)
    (hencodable : v.isEncodable = true) :
    ∃ ready t', t.readyFor p = (ready, none) ∧ ready.write p (Text.bytes (text ++ "\n")) = .ok t'
      ∧ Work.Runs (Work.writeDocument p v) t (.ok ()) t'
        ((Work.directoryRecords t p.parent ++ [Work.writtenRecord p]).map .record) := by
  rcases hready : t.readyFor p with ⟨ready, fault?⟩
  cases fault? with
  | some fault =>
      rw [FileTree.isWritable_of_fault hready] at hwritable
      cases hwritable
  | none =>
      obtain ⟨t', hwrite⟩ :=
        FileTree.exists_write_of_isWritable hready hwritable (Text.bytes (text ++ "\n"))
      exact ⟨ready, t', rfl, hwrite, Work.runs_writeDocument hready htext hencodable hwrite⟩

/-- It is read back from there. -/
theorem runs_writeDocument_readDocument {v : Value} (hwritable : v.isWritable = true)
    (hencodable : v.isEncodable = true) {t : FileTree} {p : FilePath}
    (hpath : t.isWritable p = true) :
    ∃ t' new, Work.Runs (Work.writeDocument p v) t (.ok ()) t' new
      ∧ t'.readDocument p = .ok (v.asDocument .unicode) := by
  obtain ⟨text, htext⟩ := (Json.write_eq_ok_iff .unicode v).mpr hwritable
  obtain ⟨ready, t', -, hwrite, hrun⟩ :=
    Work.runs_writeDocument_of_isWritable hpath htext hencodable
  exact ⟨t', _, hrun, readDocument_of_write htext hencodable hwrite⟩

/-- A value has a text exactly if there is no date, time, bytes, set or integer of too many digits in
it, as a value or as a key; without such an integer, what is wrong is the type of something. If there is
a text and no surrogate is in it, writing it to a path that a file can be written to and reading it
again gives the value as documents have it: lists for tuples, texts for keys, and of several keys with
one text the place of the first and the value of the last. A value that has neither tuples nor other
keys than texts comes back as it was. The two halves are `Json.read_write` on texts and
`FileTree.read_write` on files. -/
theorem document_roundtrip (v : Value) :
    (if v.isWritable then ∃ text, Json.write .unicode v = .ok text
      else ∃ fault, Json.write .unicode v = .error fault
        ∧ (fault = .longInteger → v.isOverlong = true))
    ∧ (v.isWritable = true → v.isEncodable = true →
        ∀ t p, FileTree.isWritable t p = true →
        ∃ t' new, Work.Runs (Work.writeDocument p v) t (.ok ()) t' new
          ∧ t'.readDocument p = .ok (v.asDocument .unicode))
    ∧ (v.hasTextKeys = true → v.everyPart Value.isNoTuple = true →
        v.everyScalar Scalar.isStandard = true → v.WellFormed → v.asDocument .unicode = v) := by
  refine ⟨?_, fun hwritable hencodable t p => runs_writeDocument_readDocument hwritable hencodable,
    Value.asDocument_eq_self v⟩
  split
  · next hwritable => exact (Json.write_eq_ok_iff .unicode v).mpr hwritable
  · next hwritable => exact Json.exists_write_fault (Bool.eq_false_iff.mpr hwritable)

/-- A working directory with nothing in it. -/
def bareTree : FileTree := ⟨["work"], [(["work"], .directory)]⟩

def plainFile : FilePath := ⟨.none, ["document.json"]⟩

theorem isWritable_plainFile : bareTree.isWritable plainFile = true := by
  have hplace : bareTree.placeOf plainFile = .ok ["work", "document.json"] :=
    FileTree.placeOf_of_faultless (by decide)
  exact FileTree.isWritable_of_new (by decide) hplace rfl

/-- Keys of several kinds, two of which are written alike, around a tuple. -/
def mixedKeys : Value := .mapping [
  (.int 1, .tuple [.str "a\r\"", .scalar (.float (.finite true ⟨1, by decide⟩))]),
  (.null, .list []),
  (.str "1", .int (-20))]

/-- A mapping with one text for a key. -/
def singleField : Value := .mapping [(.str "name", .list [.str "é"])]

theorem mixedKeys_roundtrip :
    (∃ t' new, Work.Runs (Work.writeDocument plainFile mixedKeys) bareTree (.ok ()) t' new
      ∧ t'.readDocument plainFile =
          .ok (.mapping [(.str "1", .int (-20)), (.str "null", .list [])]))
    ∧ singleField.asDocument .unicode = singleField := by
  have hwritable : mixedKeys.isWritable = true := by decide +kernel
  have hencodable : mixedKeys.isEncodable = true := by decide
  have hdocument : mixedKeys.asDocument .unicode =
      .mapping [(.str "1", .int (-20)), (.str "null", .list [])] := by
    rfl
  constructor
  · have hread := (document_roundtrip mixedKeys).2.1 hwritable hencodable bareTree plainFile
      isWritable_plainFile
    rwa [hdocument] at hread
  · exact (document_roundtrip singleField).2.2 (by decide) (by decide) (by decide)
      (Value.wellFormed_of_isWellFormed _ (by decide))

/-- A mapping whose key is the infinite double. -/
def endlessKey : Value := .mapping [(.float (.infinity false), .int 1)]

/-- The key of a double without digits does not come back as the text that messages have for it. -/
theorem endlessKey_renamed :
    ∃ t' new, Work.Runs (Work.writeDocument plainFile endlessKey) bareTree (.ok ()) t' new
      ∧ t'.readDocument plainFile = .ok (.mapping [(.str "Infinity", .int 1)])
      ∧ (Scalar.float (.infinity false)).display = "inf" := by
  obtain ⟨t', new, hrun, hread⟩ := runs_writeDocument_readDocument (v := endlessKey) (t := bareTree)
    (p := plainFile) (by decide +kernel) (by decide) isWritable_plainFile
  have hdocument : endlessKey.asDocument .unicode = .mapping [(.str "Infinity", .int 1)] := by
    rfl
  exact ⟨t', new, hrun, hdocument ▸ hread, by decide⟩

end ActorSpec
