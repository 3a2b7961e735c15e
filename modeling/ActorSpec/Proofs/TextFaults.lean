import ActorSpec.Proofs.SpecPositions

/-!
# Faults of reading a text

A text is taken apart into tokens and put together to a tree before any of its scalars has a value. So
few things can be wrong with it then: it is malformed, an escape names a character that does not exist,
the number of a version is too long, or an alias stands inside of what it stands for.

Every reader is built up from others, so there is one lemma for each, by the rules for the ways to build
them up (`ReadsText`, `Parse.Reads`).
-/

namespace ActorSpec.Yaml

/-- The faults that are met before a scalar has a value. -/
inductive Fault.IsOfText : Fault → Prop where
  | malformed : IsOfText .malformed
  | character {code : Nat} (h : 0x110000 ≤ code) : IsOfText (.character code)
  | longVersion {digits : Nat} (h : Numeral.maxDigits < digits) : IsOfText (.longInteger digits)
  | endless : IsOfText .endless

/-- A reader fails with such faults only. -/
def ReadsText {α : Type} (result : Except Fault α) : Prop :=
  ∀ fault, result = .error fault → fault.IsOfText

namespace ReadsText

variable {α β : Type}

theorem ok (a : α) : ReadsText (.ok a) := fun _ h => nomatch h

theorem error {fault : Fault} (h : fault.IsOfText) : ReadsText (.error fault : Except Fault α) :=
  fun _ heq => Except.error.inj heq ▸ h

theorem malformed : ReadsText (.error .malformed : Except Fault α) := error .malformed

theorem bind {result : Except Fault α} {f : α → Except Fault β} (h : ReadsText result)
    (hf : ∀ a, ReadsText (f a)) : ReadsText (result >>= f) := by
  cases result with
  | error fault => exact error (h fault rfl)
  | ok a => exact hf a

theorem ite {c : Prop} [Decidable c] {x y : Except Fault α} (hx : ReadsText x) (hy : ReadsText y) :
    ReadsText (if c then x else y) := by
  split
  · exact hx
  · exact hy

end ReadsText

/-! ## Scalars -/

theorem reads_quotedBreaks (fuel : Nat) (c : Cursor) : ReadsText (quotedBreaks fuel c) := by
  induction fuel generalizing c with
  | zero => exact .ok _
  | succ fuel ih =>
      rw [quotedBreaks]
      refine .ite .malformed ?_
      dsimp only
      split
      · exact .ok _
      · exact .bind (ih _) fun _ => .ok _

theorem reads_escape (c : Cursor) : ReadsText (escape c) := by
  rw [escape]
  split
  · exact .ok _
  · dsimp only
    split
    · refine .ite .malformed ?_
      split
      · next hlarge => exact .error (.character hlarge)
      · exact .ok _
    · exact .malformed
  · split
    · exact reads_quotedBreaks _ _
    · exact .malformed

theorem reads_quotedRun (double : Bool) (fuel : Nat) (c : Cursor) :
    ReadsText (quotedRun double fuel c) := by
  induction fuel generalizing c with
  | zero => exact .malformed
  | succ fuel ih =>
      rw [quotedRun]
      dsimp only
      refine .ite (.bind (ih _) fun _ => .ok _) (.ite (.bind (ih _) fun _ => .ok _) (.ite ?_ (.ok _)))
      exact .bind (reads_escape _) fun _ => .bind (ih _) fun _ => .ok _

theorem reads_quotedGap (c : Cursor) : ReadsText (quotedGap c) := by
  rw [quotedGap]
  dsimp only
  refine .ite .malformed ?_
  split
  · exact .ok _
  · exact .bind (reads_quotedBreaks _ _) fun _ => .ok _

theorem reads_quotedRest (quote : Char) (fuel : Nat) (c : Cursor) :
    ReadsText (quotedRest quote fuel c) := by
  induction fuel generalizing c with
  | zero => exact .malformed
  | succ fuel ih =>
      rw [quotedRest]
      refine .ite (.ok _) (.bind (reads_quotedGap _) fun _ => ?_)
      exact .bind (reads_quotedRun _ _ _) fun _ => .bind (ih _) fun _ => .ok _

theorem reads_quotedText (c : Cursor) : ReadsText (quotedText c) :=
  .bind (reads_quotedRun _ _ _) fun _ => .bind (reads_quotedRest _ _ _) fun _ => .ok _

theorem reads_blockIndicators (c : Cursor) : ReadsText (blockIndicators c) := by
  rw [blockIndicators]
  dsimp only
  exact .ite (.bind .malformed fun _ => .ite (.ok _) .malformed) (.ite (.ok _) .malformed)

theorem reads_ignoredLine (c : Cursor) : ReadsText (ignoredLine c) := .ite (.ok _) .malformed

theorem reads_blockText (folded : Bool) (parent : Int) (c : Cursor) :
    ReadsText (blockText folded parent c) :=
  .bind (reads_blockIndicators _) fun _ => .bind (reads_ignoredLine _) fun _ => .ok _

/-! ## Tokens -/

namespace Lexer

theorem reads_dropKey (s : Lexer) : ReadsText s.dropKey := by
  rw [dropKey]
  split
  · exact .ite .malformed (.ok _)
  · exact .ok _

theorem reads_dropStaleKeys (s : Lexer) : ReadsText s.dropStaleKeys := .ite .malformed (.ok _)

theorem reads_noteKey (s : Lexer) : ReadsText s.noteKey :=
  .ite (.bind (reads_dropKey _) fun _ => .ok _) (.ok _)

theorem reads_openBlock (s : Lexer) (kind : TokenKind) : ReadsText (s.openBlock kind) :=
  .ite (.ok _) (.ite (.ok _) .malformed)

theorem reads_closeDocument (s : Lexer) : ReadsText s.closeDocument :=
  .bind (reads_dropKey _) fun _ => .ok _

theorem reads_lexBlockEntry (s : Lexer) : ReadsText s.lexBlockEntry :=
  .bind (reads_openBlock _ _) fun _ => .bind (reads_dropKey _) fun _ => .ok _

theorem reads_lexKey (s : Lexer) : ReadsText s.lexKey :=
  .bind (reads_openBlock _ _) fun _ => .bind (reads_dropKey _) fun _ => .ok _

theorem reads_lexValue (s : Lexer) : ReadsText s.lexValue := by
  rw [lexValue]
  split
  · exact .ok _
  · exact .bind (reads_openBlock _ _) fun _ => .bind (reads_dropKey _) fun _ => .ok _

theorem reads_anchorName (c : Cursor) : ReadsText (anchorName c) :=
  .ite .malformed (.ite (.ok _) .malformed)

theorem reads_lexAnchor (s : Lexer) (kind : String → TokenKind) : ReadsText (s.lexAnchor kind) :=
  .bind (reads_noteKey _) fun _ => .bind (reads_anchorName _) fun _ => .ok _

theorem reads_uriBytes (fuel : Nat) (c : Cursor) : ReadsText (uriBytes fuel c) := by
  induction fuel generalizing c with
  | zero => exact .ok _
  | succ fuel ih =>
      rw [uriBytes]
      refine .ite ?_ (.ok _)
      split
      · exact .bind (ih _) fun _ => .ok _
      · exact .malformed

theorem reads_uriParts (fuel : Nat) (c : Cursor) : ReadsText (uriParts fuel c) := by
  induction fuel generalizing c with
  | zero => exact .ok _
  | succ fuel ih =>
      rw [uriParts]
      refine .ite (.bind (reads_uriBytes _ _) fun e => ?_) (.ite (.ok _) (.bind (ih _) fun _ => .ok _))
      obtain ⟨bytes, c⟩ := e
      dsimp only
      split
      · exact .bind (ih _) fun _ => .ok _
      · exact .malformed

theorem reads_uri (c : Cursor) : ReadsText (uri c) := by
  refine .bind (reads_uriParts _ _) fun e => ?_
  exact .ite (.bind .malformed fun _ => .ok _) (.ok _)

theorem reads_tagHandle (c : Cursor) : ReadsText (tagHandle c) :=
  .ite .malformed (.ite (.ok _) (.ite (.ok _) .malformed))

theorem reads_tagName (c : Cursor) : ReadsText (tagName c) := by
  have hclose : ∀ (name : TagName) (c : Cursor), ReadsText
      (if c.peek = ' ' || isBreakOrEnd c.peek then return (name, c) else throw .malformed) :=
    fun _ _ => .ite (.ok _) .malformed
  refine .ite (.bind (reads_uri _) fun _ => .ite (.bind .malformed fun _ => hclose _ _) (hclose _ _)) ?_
  refine .ite (hclose _ _) (.ite (.bind (reads_tagHandle _) fun _ => ?_) (.bind (.ok _) fun _ => ?_))
  · exact .bind (reads_uri _) fun _ => hclose _ _
  · exact .bind (reads_uri _) fun _ => hclose _ _

theorem reads_lexTag (s : Lexer) : ReadsText s.lexTag :=
  .bind (reads_noteKey _) fun _ => .bind (reads_tagName _) fun _ => .ok _

theorem reads_lexQuoted (s : Lexer) : ReadsText s.lexQuoted :=
  .bind (reads_noteKey _) fun _ => .bind (reads_quotedText _) fun _ => .ok _

theorem reads_lexBlock (s : Lexer) (folded : Bool) : ReadsText (s.lexBlock folded) :=
  .bind (reads_dropKey _) fun _ => .bind (reads_blockText _ _ _) fun _ => .ok _

theorem reads_number (c : Cursor) : ReadsText (number c) := by
  refine .ite .malformed ?_
  split
  · next hlong => exact .error (.longVersion hlong)
  · exact .ok _

theorem reads_versionDirective (c : Cursor) : ReadsText (versionDirective c) := by
  refine .bind (reads_number _) fun _ => .ite (.bind .malformed fun _ => ?_) ?_
  · exact .bind (reads_number _) fun _ => .ite (.ok _) .malformed
  · exact .bind (reads_number _) fun _ => .ite (.ok _) .malformed

theorem reads_tagDirective (c : Cursor) : ReadsText (tagDirective c) := by
  refine .bind (reads_tagHandle _) fun _ => .ite (.bind .malformed fun _ => ?_) ?_
  · exact .bind (reads_uri _) fun _ => .ite (.ok _) .malformed
  · exact .bind (reads_uri _) fun _ => .ite (.ok _) .malformed

theorem reads_directive (c : Cursor) : ReadsText (directive c) := by
  rw [directive]
  extract_lets line
  have hline : ∀ e, ReadsText (line e) := fun _ => .bind (reads_ignoredLine _) fun _ => .ok _
  clear_value line
  split
  extract_lets named
  have hnamed : ∀ u, ReadsText (named u) := by
    intro u
    unfold named
    split
    · exact .bind (reads_versionDirective _) hline
    · exact .bind (reads_tagDirective _) hline
    · exact hline _
  exact .ite (.bind .malformed hnamed) (hnamed ())

theorem reads_lexDirective (s : Lexer) : ReadsText s.lexDirective :=
  .bind (reads_closeDocument _) fun _ => .bind (reads_directive _) fun _ => .ok _

theorem reads_lexContent (s : Lexer) : ReadsText s.lexContent := by
  rw [lexContent]
  split
  · exact .bind (reads_noteKey _) fun _ => .ok _
  · exact .bind (reads_noteKey _) fun _ => .ok _
  · exact .bind (reads_dropKey _) fun _ => .ok _
  · exact .bind (reads_dropKey _) fun _ => .ok _
  · exact .bind (reads_dropKey _) fun _ => .ok _
  · exact reads_lexAnchor _ _
  · exact reads_lexAnchor _ _
  · exact reads_lexTag _
  · exact reads_lexQuoted _
  · exact reads_lexQuoted _
  · refine .ite (reads_lexBlockEntry _) (.ite (reads_lexKey _) (.ite (reads_lexValue _) ?_))
    refine .ite (reads_lexBlock _ _) (.ite (reads_lexBlock _ _) (.ite ?_ .malformed))
    exact .bind (reads_noteKey _) fun _ => .ok _

theorem reads_lexNext (s : Lexer) : ReadsText s.lexNext := by
  refine .bind (reads_dropStaleKeys _) fun s => ?_
  refine .ite (.bind (reads_closeDocument _) fun _ => .ok _) (.ite (reads_lexDirective _) ?_)
  exact .ite (.bind (reads_closeDocument _) fun _ => .ok _) (reads_lexContent _)

theorem fault_of_run {fuel : Nat} {s : Lexer} {fault : Fault} (h : (s.run fuel).2 = some fault) :
    fault.IsOfText := by
  induction fuel generalizing s with
  | zero => cases h
  | succ fuel ih =>
      rw [run] at h
      split at h
      · next heq => exact reads_lexNext s fault (heq.trans (by rw [Option.some.inj h]))
      · split at h
        · cases h
        · exact ih h

end Lexer

/-- What stops the reading of tokens is wrong with the text. -/
theorem fault_of_tokens {text : String} {fault : Fault} (h : (tokens text).2 = some fault) :
    fault.IsOfText := by
  rw [tokens] at h
  split at h
  · exact Lexer.fault_of_run h
  · exact Option.some.inj h ▸ .malformed

/-! ## Nodes -/

/-- The tokens of a parser end where they do for a fault of the text. -/
def Parser.IsSound (s : Parser) : Prop := ∀ fault, s.fault = some fault → fault.IsOfText

namespace Parse

/-- Started on such tokens a parser fails with faults of the text only, and leaves such tokens. -/
def Reads {α : Type} (m : Parse α) : Prop :=
  ∀ s : Parser, s.IsSound → match m.run s with
    | .error fault => fault.IsOfText
    | .ok (_, s') => s'.IsSound

namespace Reads

variable {α β : Type}

theorem pure (a : α) : Reads (Pure.pure a) := fun _ h => h

theorem bind {m : Parse α} {f : α → Parse β} (hm : Reads m) (hf : ∀ a, Reads (f a)) :
    Reads (m >>= f) := by
  intro s hs
  rw [StateT.run_bind]
  have hrun := hm s hs
  cases hresult : m.run s with
  | error fault =>
      rw [hresult] at hrun
      exact hrun
  | ok result =>
      rw [hresult] at hrun
      exact hf result.1 result.2 hrun

theorem map {m : Parse α} (f : α → β) (hm : Reads m) : Reads (f <$> m) := by
  rw [map_eq_pure_bind]
  exact hm.bind fun _ => pure _

theorem ite {c : Prop} [Decidable c] {x y : Parse α} (hx : Reads x) (hy : Reads y) :
    Reads (if c then x else y) := by
  split
  · exact hx
  · exact hy

theorem get : Reads get := fun _ h => h

theorem modify {f : Parser → Parser} (hf : ∀ s, (f s).fault = s.fault) : Reads (modify f) :=
  fun s hs fault hfault => hs fault ((hf s).symm.trans hfault)

end Reads

/-! ### Parts of a node -/

theorem reads_malformed {α : Type} : Reads (malformed : Parse α) := fun _ _ => .malformed

theorem reads_advance : Reads advance := .modify fun _ => rfl

theorem reads_peek : Reads peek := by
  rintro ⟨tokens, fault, handles, anchors, endless⟩ hs
  cases tokens with
  | cons token rest => exact hs
  | nil =>
      cases fault with
      | none => exact .malformed
      | some fault => exact hs fault rfl

theorem reads_tagName? (name : TagName) : Reads (tagName? name) := by
  have hfull : ∀ full : String, Reads (do return some full) := fun _ => .pure _
  rw [tagName?]
  split
  · exact hfull _
  · refine .bind .get fun s => ?_
    split
    · exact hfull _
    · exact .bind reads_malformed hfull

theorem reads_properties : Reads properties := by
  refine .bind reads_peek fun first => ?_
  split
  · refine .bind reads_advance fun _ => .bind reads_peek fun second => ?_
    split
    · exact .bind reads_advance fun _ => .bind (reads_tagName? _) fun _ => .pure _
    · exact .pure _
  · refine .bind reads_advance fun _ => .bind reads_peek fun second => ?_
    split
    · exact .bind reads_advance fun _ => .bind (reads_tagName? _) fun _ => .pure _
    · exact .bind (reads_tagName? _) fun _ => .pure _
  · exact .pure _

theorem reads_reserve (anchor : Option String) : Reads (reserve anchor) := by
  have hreserved : ∀ name : String, Reads (modify fun s =>
      { s with anchors := (name, none) :: s.anchors }) := fun _ => .modify fun _ => rfl
  cases anchor with
  | none => exact .pure _
  | some name =>
      exact .bind .get fun _ => .ite (.bind reads_malformed fun _ => hreserved _) (hreserved _)

theorem reads_define (anchor : Option String) (node : Node) : Reads (define anchor node) := by
  cases anchor with
  | none => exact .pure _
  | some name => exact .bind (.modify fun _ => rfl) fun _ => .pure _

theorem reads_referent (name : String) (mark : Mark) : Reads (referent name mark) := by
  refine .bind .get fun s => ?_
  split
  · exact .pure _
  · exact .bind (.modify fun _ => rfl) fun _ => .pure _
  · exact reads_malformed

theorem reads_comma (first : Bool) : Reads (comma first) := by
  refine .ite (.bind reads_peek fun token => ?_) (.pure _)
  split
  · exact reads_advance
  · exact reads_malformed

theorem reads_missing (tag anchor : Option String) (start : Mark) :
    Reads (missing tag anchor start) :=
  .ite (.bind reads_malformed fun _ => .pure _) (.pure _)

/-! ### Nodes by their depth -/

/-- All readers of nodes that are bounded by a depth. -/
structure AllRead (fuel : Nat) : Prop where
  node : ∀ place, Reads (node fuel place)
  nodeUnless : ∀ place ends mark, Reads (nodeUnless fuel place ends mark)
  blockItems : Reads (blockItems fuel)
  openItems : Reads (openItems fuel)
  entryValue : ∀ place ends, Reads (entryValue fuel place ends)
  blockEntries : Reads (blockEntries fuel)
  flowItems : ∀ first, Reads (flowItems fuel first)
  flowEntries : ∀ first, Reads (flowEntries fuel first)

namespace AllRead

variable {fuel : Nat}

theorem zero : AllRead 0 where
  node _ := reads_malformed
  nodeUnless _ _ _ := reads_malformed
  blockItems := reads_malformed
  openItems := reads_malformed
  entryValue _ _ := reads_malformed
  blockEntries := reads_malformed
  flowItems _ := reads_malformed
  flowEntries _ := reads_malformed

theorem node_succ (h : AllRead fuel) (place : Place) : Reads (Parse.node (fuel + 1) place) := by
  refine .bind reads_peek fun token => ?_
  split
  · exact .bind reads_advance fun _ => reads_referent _ _
  · refine .bind reads_properties fun e => .bind reads_peek fun token => ?_
    obtain ⟨anchor, tag, mark⟩ := e
    dsimp only
    refine .bind (reads_reserve anchor) fun _ => ?_
    have hnode : ∀ n : Node, Reads (define anchor n) := reads_define anchor
    have hmissing : Reads (do
        let content ← missing tag anchor (mark.getD token.start)
        define anchor content) := .bind (reads_missing _ _ _) hnode
    split
    · exact .bind reads_advance fun _ => hnode _
    · exact .bind reads_advance fun _ => .bind (h.flowItems _) fun _ => hnode _
    · exact .bind reads_advance fun _ => .bind (h.flowEntries _) fun _ => hnode _
    · exact .ite hmissing (.bind reads_advance fun _ => .bind h.blockItems fun _ => hnode _)
    · exact .ite hmissing (.bind reads_advance fun _ => .bind h.blockEntries fun _ => hnode _)
    · exact .ite (.bind h.openItems fun _ => hnode _) hmissing
    · exact hmissing

theorem nodeUnless_succ (h : AllRead fuel) (place : Place) (ends : TokenKind → Bool) (mark : Mark) :
    Reads (Parse.nodeUnless (fuel + 1) place ends mark) :=
  .bind reads_peek fun _ => .ite (.pure _) (h.node place)

theorem blockItems_succ (h : AllRead fuel) : Reads (Parse.blockItems (fuel + 1)) := by
  refine .bind reads_peek fun token => ?_
  split
  · exact .bind reads_advance fun _ => .bind (h.nodeUnless _ _ _) fun _ =>
      .bind h.blockItems fun _ => .pure _
  · exact .bind reads_advance fun _ => .pure _
  · exact reads_malformed

theorem openItems_succ (h : AllRead fuel) : Reads (Parse.openItems (fuel + 1)) := by
  refine .bind reads_peek fun token => ?_
  split
  · exact .bind reads_advance fun _ => .bind (h.nodeUnless _ _ _) fun _ =>
      .bind h.openItems fun _ => .pure _
  · exact .pure _

theorem entryValue_succ (h : AllRead fuel) (place : Place) (ends : TokenKind → Bool) :
    Reads (Parse.entryValue (fuel + 1) place ends) := by
  refine .bind reads_peek fun token => ?_
  split
  · exact .bind reads_advance fun _ => h.nodeUnless _ _ _
  · exact .pure _

theorem blockEntries_succ (h : AllRead fuel) : Reads (Parse.blockEntries (fuel + 1)) := by
  refine .bind reads_peek fun token => ?_
  split
  · exact .bind reads_advance fun _ => .bind (h.nodeUnless _ _ _) fun _ =>
      .bind (h.entryValue _ _) fun _ => .bind h.blockEntries fun _ => .pure _
  · exact .bind reads_advance fun _ => .pure _
  · exact reads_malformed

theorem flowItems_succ (h : AllRead fuel) (first : Bool) :
    Reads (Parse.flowItems (fuel + 1) first) := by
  refine .bind reads_peek fun token => ?_
  split
  · exact .bind reads_advance fun _ => .pure _
  · refine .bind (reads_comma _) fun _ => .bind reads_peek fun token => ?_
    split
    · exact .bind reads_advance fun _ => .bind (h.nodeUnless _ _ _) fun _ =>
        .bind (h.entryValue _ _) fun _ => .bind (h.flowItems _) fun _ => .pure _
    · exact .bind reads_advance fun _ => .pure _
    · exact .bind (h.node _) fun _ => .bind (h.flowItems _) fun _ => .pure _

theorem flowEntries_succ (h : AllRead fuel) (first : Bool) :
    Reads (Parse.flowEntries (fuel + 1) first) := by
  refine .bind reads_peek fun token => ?_
  split
  · exact .bind reads_advance fun _ => .pure _
  · refine .bind (reads_comma _) fun _ => .bind reads_peek fun token => ?_
    split
    · exact .bind reads_advance fun _ => .bind (h.nodeUnless _ _ _) fun _ =>
        .bind (h.entryValue _ _) fun _ => .bind (h.flowEntries _) fun _ => .pure _
    · exact .bind reads_advance fun _ => .pure _
    · exact .bind (h.node _) fun _ => .bind reads_peek fun _ =>
        .bind (h.flowEntries _) fun _ => .pure _

end AllRead

theorem allRead (fuel : Nat) : AllRead fuel := by
  induction fuel with
  | zero => exact .zero
  | succ fuel ih =>
      exact ⟨ih.node_succ, ih.nodeUnless_succ, ih.blockItems_succ, ih.openItems_succ,
        ih.entryValue_succ, ih.blockEntries_succ, ih.flowItems_succ, ih.flowEntries_succ⟩

/-! ### The document -/

theorem reads_directives (fuel : Nat) (versioned : Bool) : Reads (directives fuel versioned) := by
  induction fuel generalizing versioned with
  | zero => exact reads_malformed
  | succ fuel ih =>
      refine .bind reads_peek fun token => ?_
      split
      · refine .ite (.bind reads_malformed fun _ => ?_) ?_
        · exact .bind reads_advance fun _ => ih true
        · exact .bind reads_advance fun _ => ih true
      · have hrest : ∀ handle expansion : String, Reads (do
            modify fun s => { s with handles := (handle, expansion) :: s.handles }
            advance
            directives fuel versioned) :=
          fun _ _ => .bind (.modify fun _ => rfl) fun _ => .bind reads_advance fun _ => ih versioned
        exact .bind .get fun _ => .ite (.bind reads_malformed fun _ => hrest _ _) (hrest _ _)
      · exact .bind reads_advance fun _ => ih versioned
      · exact .modify fun _ => rfl

theorem reads_dropDocumentEnds (fuel : Nat) : Reads (dropDocumentEnds fuel) := by
  induction fuel with
  | zero => exact reads_malformed
  | succ fuel ih =>
      refine .bind reads_peek fun token => ?_
      split
      · exact .bind reads_advance fun _ => ih
      · exact .pure _

theorem reads_explicitRoot (fuel : Nat) : Reads (explicitRoot fuel) := by
  refine .bind (reads_directives _ _) fun _ => .bind reads_peek fun token => ?_
  extract_lets content
  have hroot : ∀ u, Reads (content u) := by
    refine fun _ => .bind reads_peek fun token => ?_
    split
    · exact .pure _
    · exact .pure _
    · exact .pure _
    · exact .pure _
    · exact (allRead fuel).node _
  split
  · exact .bind reads_advance hroot
  · exact .bind reads_malformed hroot

theorem reads_root (fuel : Nat) : Reads (root fuel) := by
  refine .bind reads_peek fun token => ?_
  extract_lets finish
  have hend : ∀ found, Reads (finish found) := by
    refine fun found => .bind (reads_dropDocumentEnds _) fun _ => .bind reads_peek fun token => ?_
    split
    · exact .pure _
    · exact reads_malformed
  split
  · exact hend none
  · exact .bind (.map _ (reads_explicitRoot _)) hend
  · exact .bind (.map _ (reads_explicitRoot _)) hend
  · exact .bind (.modify fun _ => rfl) fun _ => .bind (.map _ ((allRead fuel).node _)) hend

end Parse

/-- A text without a tree is at fault as a text. -/
theorem reads_ofText (text : String) : ReadsText (Node.ofText text) := by
  have hsound : Parser.IsSound ⟨(tokens text).1, (tokens text).2, [], [], false⟩ :=
    fun _ => fault_of_tokens
  have hroot := Parse.reads_root (4 * (tokens text).1.length + 8) _ hsound
  have hread : ReadsText ((Parse.root (4 * (tokens text).1.length + 8)).run
      ⟨(tokens text).1, (tokens text).2, [], [], false⟩) := by
    intro fault h
    rw [h] at hroot
    exact hroot
  exact .bind hread fun _ => .ite (.bind (.error .endless) fun _ => .ok _) (.ok _)

/-- No alias in the text stands inside of the node that its anchor names. -/
def IsAcyclic (text : String) : Prop := Node.ofText text ≠ .error .endless

end ActorSpec.Yaml
