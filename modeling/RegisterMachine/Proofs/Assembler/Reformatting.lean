import Mathlib.Data.List.TakeWhile
import RegisterMachine.Proofs.Assembler.Lines
import RegisterMachine.Proofs.Assembler.Passes

/-!
# Reformatted texts

A text may be given more blank lines and comment lines, its lines may be indented by spaces and
tabs, and blanks and comments may be appended to them. The assembler then does what it did before:
it accepts both texts or neither, with the same instructions, labels and entry, or with the same
fault. A line that the program or the failure refers to is the image of the line before.
-/
namespace RegisterMachine

open Text (ofString byte newline)

def isSpaceOrTab (b : UInt8) : Bool := b == byte ' ' || b == byte '\t'

/-- What may be appended to a line: nothing, or spaces and tabs, at least one, with nothing or a
comment behind them. -/
def IsAppendix (appendix : Text) : Prop :=
  appendix = [] ∨ appendix.takeWhile isSpaceOrTab ≠ [] ∧
    (appendix.dropWhile isSpaceOrTab = [] ∨ slashes <+: appendix.dropWhile isSpaceOrTab)

instance (appendix : Text) : Decidable (IsAppendix appendix) :=
  inferInstanceAs (Decidable (_ ∨ _ ∧ (_ ∨ _)))

/-- A line of an edited text, up to its line break. -/
inductive EditedLine where
  /-- A line that was put in. -/
  | inserted (line : Text)
  /-- A line of the text with what was put in front of it and what was appended to it. The carriage
  return of its line break, if there is one, is kept apart. -/
  | kept (front line appendix lineEnd : Text)

namespace EditedLine

def original? : EditedLine → Option Text
  | inserted _ => none
  | kept _ line _ lineEnd => some (line ++ lineEnd)

def edited : EditedLine → Text
  | inserted line => line
  | kept front line appendix lineEnd => front ++ line ++ appendix ++ lineEnd

/-- Only blank lines, with or without a comment, are put in; spaces and tabs are put in front. -/
def Legal : EditedLine → Prop
  | inserted line => LineContent.strip line = []
  | kept front _ appendix lineEnd => front.all isSpaceOrTab ∧ IsAppendix appendix ∧
      (lineEnd = [] ∨ lineEnd = [Text.carriageReturn])

instance : (entry : EditedLine) → Decidable entry.Legal
  | inserted line => inferInstanceAs (Decidable (LineContent.strip line = []))
  | kept _ _ _ _ => inferInstanceAs (Decidable (_ ∧ _ ∧ _))

end EditedLine

/-- The second text is the first one after an edit: each line is one of the first text or was put
in. All lines are short enough, and the readers end well. -/
structure Reformatted (script : List EditedLine) (reader reader' : Reader) : Prop where
  legal : ∀ entry ∈ script, entry.Legal
  original : Source.pieces reader.pending = script.filterMap EditedLine.original?
  edited : Source.pieces reader'.pending = script.map EditedLine.edited
  short : ∀ piece ∈ Source.pieces reader.pending, piece.length < Source.lineLimit
  short' : ∀ piece ∈ Source.pieces reader'.pending, piece.length < Source.lineLimit
  ending : reader.ending = .endOfFile
  ending' : reader'.ending = .endOfFile

/-- A line and where it is after the edit, both with their numbers and as they are recorded. -/
inductive Image (script : List EditedLine) : SourceLine → SourceLine → Prop
  | mk {above below : List EditedLine} {entry : EditedLine} {line : Text} :
      script = above ++ entry :: below → entry.original? = some line →
      Image script
        ⟨(above.filterMap EditedLine.original?).length + 1,
          line.dropTrailing Text.carriageReturn⟩
        ⟨above.length + 1, entry.edited.dropTrailing Text.carriageReturn⟩

/-- The same program but for the recorded lines, which are the images of those before. -/
structure Program.Moved (script : List EditedLine) (program program' : Program) : Prop where
  instructions : program'.instructions = program.instructions
  labels : program'.labels = program.labels
  entry : program'.entry = program.entry
  lines : List.Forall₂ (Image script) program.lines.toList program'.lines.toList

/-- The same cause, at the image of the line or at no line. -/
inductive Failure.Moved (script : List EditedLine) : Failure → Failure → Prop
  | line {line line' : SourceLine} (cause : Fault) : Image script line line' →
      Moved script ⟨[.source line.number line.text], cause⟩
        ⟨[.source line'.number line'.text], cause⟩
  | unplaced (cause : Fault) : Moved script (.ofFault cause) (.ofFault cause)

theorem isSpace_of_isSpaceOrTab {b : UInt8} (h : isSpaceOrTab b) : Text.IsSpace b := by
  rw [isSpaceOrTab, Bool.or_eq_true, beq_iff_eq, beq_iff_eq] at h
  obtain rfl | rfl := h
  · exact ⟨by decide, by decide⟩
  · exact ⟨by decide, by decide⟩

theorem IsAppendix.strip_append {appendix lineEnd : Text} (h : IsAppendix appendix)
    (hend : ∀ b ∈ lineEnd, Text.IsSpace b) (line : Text) :
    LineContent.strip (line ++ (appendix ++ lineEnd)) = LineContent.strip line := by
  have hblanks (b : UInt8) (hb : b ∈ appendix.takeWhile isSpaceOrTab) : Text.IsSpace b :=
    isSpace_of_isSpaceOrTab (List.mem_takeWhile_imp hb)
  rw [← List.takeWhile_append_dropWhile (p := isSpaceOrTab) (l := appendix)]
  obtain rfl | ⟨hne, hnil | ⟨comment, hcomment⟩⟩ := h
  · exact LineContent.strip_blanks hend line
  · rw [hnil, List.append_nil, ← List.append_assoc, LineContent.strip_blanks hend,
      LineContent.strip_blanks hblanks]
  · obtain ⟨init, last, hlast⟩ := (List.eq_nil_or_concat' _).resolve_left hne
    rw [hlast] at hblanks ⊢
    have hshape : line ++ (init ++ [last] ++ (slashes ++ comment) ++ lineEnd) =
        (line ++ init) ++ last :: (slashes ++ (comment ++ lineEnd)) := by
      simp only [List.append_assoc, List.cons_append, List.nil_append]
    rw [← hcomment, hshape, LineContent.strip_comment (hblanks last (by simp)),
      LineContent.strip_blanks fun b hb => hblanks b (by simp [hb])]

namespace EditedLine

variable {entry : EditedLine} {line : Text}

/-- A line that was put in is blank as a reader of lines delivers it. -/
theorem Legal.ofLine_inserted (h : entry.Legal) (hentry : entry.original? = none) :
    LineContent.ofLine (entry.edited.dropTrailing Text.carriageReturn) = .ok .blank := by
  cases entry with
  | inserted line =>
      have hblank : LineContent.strip line = [] := h
      rw [LineContent.ofLine, LineContent.strip_dropTrailing]
      simp only [edited, hblank]
  | kept front line appendix lineEnd => cases hentry

/-- A line of the text holds after the edit what it held before. -/
theorem Legal.ofLine_kept (h : entry.Legal) (hentry : entry.original? = some line) :
    LineContent.ofLine (entry.edited.dropTrailing Text.carriageReturn) =
      LineContent.ofLine (line.dropTrailing Text.carriageReturn) := by
  cases entry with
  | inserted line => cases hentry
  | kept front body appendix lineEnd =>
      cases hentry
      obtain ⟨hfront, happendix, hend⟩ := h
      have hspaces : ∀ b ∈ lineEnd, Text.IsSpace b := by
        obtain rfl | rfl := hend
        · simp
        · simpa using Text.isSpace_carriageReturn
      refine LineContent.ofLine_congr ?_
      rw [LineContent.strip_dropTrailing, LineContent.strip_dropTrailing, edited,
        List.append_assoc, List.append_assoc, LineContent.strip_front fun b hb =>
        isSpace_of_isSpaceOrTab (List.all_eq_true.1 hfront b hb), happendix.strip_append hspaces,
        LineContent.strip_blanks hspaces]

end EditedLine

namespace Draft

/-- Drafts that differ in the lines only, which are images of each other. -/
structure Moved (script : List EditedLine) (draft draft' : Draft) : Prop where
  labels : draft'.labels = draft.labels
  scanned : List.Forall₂
    (fun s s' : Scanned => s'.op = s.op ∧ s'.words = s.words ∧ Image script s.line s'.line)
    draft.scanned.toList draft'.scanned.toList

variable {script : List EditedLine} {draft draft' : Draft}

theorem moved_empty (script : List EditedLine) : Moved script empty empty := ⟨rfl, .nil⟩

theorem Moved.size (h : Moved script draft draft') :
    draft'.scanned.size = draft.scanned.size := by
  have hlength := h.scanned.length_eq
  simpa using hlength.symm

/-- A line and its image fit both or neither. -/
theorem Moved.addLine (h : Moved script draft draft') {line line' : SourceLine}
    (hline : Image script line line')
    (hcontent : LineContent.ofLine line'.text = LineContent.ofLine line.text) :
    (∃ next next', draft.addLine line = .ok next ∧ draft'.addLine line' = .ok next' ∧
      Moved script next next') ∨
    ∃ fault, draft.addLine line = .error fault ∧ draft'.addLine line' = .error fault := by
  rw [Draft.addLine, Draft.addLine, hcontent, h.labels, h.size]
  cases LineContent.ofLine line.text with
  | error fault => exact .inr ⟨fault, rfl, rfl⟩
  | ok content =>
      cases content with
      | blank => exact .inl ⟨draft, draft', rfl, rfl, h⟩
      | label name =>
          dsimp only
          by_cases hdeclared : draft.labels.contains name
          · rw [if_pos hdeclared, if_pos hdeclared]
            exact .inr ⟨_, rfl, rfl⟩
          · rw [if_neg hdeclared, if_neg hdeclared]
            exact .inl ⟨_, _, rfl, rfl, rfl, h.scanned⟩
      | instruction op words =>
          refine .inl ⟨_, _, rfl, rfl, rfl, ?_⟩
          simp only [Array.toList_push]
          exact List.rel_append h.scanned (.cons ⟨rfl, rfl, hline⟩ .nil)

/-- The lines of both texts, from some place on, are read to the end or to a line and its image. -/
theorem Moved.addLines (h : Moved script draft draft') (hlegal : ∀ entry ∈ script, entry.Legal)
    {above below : List EditedLine} (hscript : script = above ++ below) :
    Moved script
      (draft.addLines (above.filterMap EditedLine.original?).length
        ((below.filterMap EditedLine.original?).map (·.dropTrailing Text.carriageReturn))).1
      (draft'.addLines above.length
        ((below.map EditedLine.edited).map (·.dropTrailing Text.carriageReturn))).1 ∧
    Option.Rel (Failure.Moved script)
      (draft.addLines (above.filterMap EditedLine.original?).length
        ((below.filterMap EditedLine.original?).map (·.dropTrailing Text.carriageReturn))).2.2
      (draft'.addLines above.length
        ((below.map EditedLine.edited).map (·.dropTrailing Text.carriageReturn))).2.2 := by
  induction below generalizing above draft draft' with
  | nil => exact ⟨h, .none⟩
  | cons entry below ih =>
      have hentry : entry.Legal := hlegal entry (by simp [hscript])
      have hnext : script = (above ++ [entry]) ++ below := by simp [hscript]
      have hlength : (above ++ [entry]).length = above.length + 1 := by simp
      rw [List.map_cons, List.map_cons, Draft.addLines]
      cases horiginal : entry.original? with
      | none =>
          have hcount : ((above ++ [entry]).filterMap EditedLine.original?).length =
              (above.filterMap EditedLine.original?).length := by simp [horiginal]
          have hblank : draft'.addLine ⟨above.length + 1,
              entry.edited.dropTrailing Text.carriageReturn⟩ = .ok draft' := by
            rw [Draft.addLine, hentry.ofLine_inserted horiginal]
          have hrest := ih h hnext
          rw [hcount, hlength] at hrest
          rw [List.filterMap_cons_none horiginal, hblank]
          exact hrest
      | some line =>
          have hcount : ((above ++ [entry]).filterMap EditedLine.original?).length =
              (above.filterMap EditedLine.original?).length + 1 := by simp [horiginal]
          have himage := Image.mk hscript horiginal
          rw [List.filterMap_cons_some horiginal, List.map_cons, Draft.addLines]
          obtain ⟨next, next', hadd, hadd', hmoved⟩ | ⟨fault, hadd, hadd'⟩ :=
            h.addLine himage (hentry.ofLine_kept horiginal)
          · have hrest := ih hmoved hnext
            rw [hcount, hlength] at hrest
            rw [hadd, hadd']
            exact hrest
          · rw [hadd, hadd']
            exact ⟨h, .some (.line fault himage)⟩

end Draft

namespace Scanned

variable {script : List EditedLine}

/-- Lines and their images are built alike, up to the first line that cannot be built. -/
theorem buildAll_moved {scanned scanned' : List Scanned} (evaluate : Text → Evaluation × Text)
    (done : Array Instruction) (h : List.Forall₂ (fun s s' : Scanned => s'.op = s.op ∧
      s'.words = s.words ∧ Image script s.line s'.line) scanned scanned') :
    (∃ instructions, (buildAll evaluate done scanned).1 = .ok instructions ∧
      (buildAll evaluate done scanned').1 = .ok instructions) ∨
    ∃ failure failure', (buildAll evaluate done scanned).1 = .error failure ∧
      (buildAll evaluate done scanned').1 = .error failure' ∧
      Failure.Moved script failure failure' := by
  induction h generalizing done with
  | nil => exact .inl ⟨done, rfl, rfl⟩
  | @cons s s' scanned scanned' hhead _ ih =>
      obtain ⟨hop, hwords, himage⟩ := hhead
      have hbuild : s'.build evaluate = s.build evaluate := by rw [build, build, hop, hwords]
      rw [buildAll, buildAll, hbuild]
      rcases s.build evaluate with ⟨fault | inst, printed⟩
      · exact .inr ⟨_, _, rfl, rfl, .line fault himage⟩
      · exact ih (done.push inst)

end Scanned

namespace Assembler

variable {evaluate : Evaluator} {asm : Assembler} {script : List EditedLine}
  {reader reader' : Reader}

/-- A draft and its image are finished alike. -/
theorem finish_moved {draft draft' : Draft} (h : Draft.Moved script draft draft') :
    (∃ program program', (asm.finish evaluate draft).1 = .ok program ∧
      (asm.finish evaluate draft').1 = .ok program' ∧ Program.Moved script program program') ∨
    ∃ failure failure', (asm.finish evaluate draft).1 = .error failure ∧
      (asm.finish evaluate draft').1 = .error failure' ∧
      Failure.Moved script failure failure' := by
  cases hentry : draft.labels.find? asm.entry with
  | none =>
      rw [finish, finish, h.labels, hentry]
      exact .inr ⟨_, _, rfl, rfl, .unplaced _⟩
  | some entry =>
      have hentry' : draft'.labels.find? asm.entry = some entry := by rw [h.labels, hentry]
      rw [finish_of_entry hentry, finish_of_entry hentry', h.labels]
      obtain ⟨instructions, hbuild, hbuild'⟩ | ⟨failure, failure', hbuild, hbuild', hmoved⟩ :=
        Scanned.buildAll_moved (evaluate (environment asm.predefined draft.labels)) #[] h.scanned
      · rw [hbuild, hbuild']
        refine .inl ⟨_, _, rfl, rfl, rfl, rfl, rfl, ?_⟩
        rw [Array.toList_map, Array.toList_map, List.forall₂_map_left_iff,
          List.forall₂_map_right_iff]
        exact h.scanned.imp fun _ _ hs => hs.2.2
      · rw [hbuild, hbuild']
        exact .inr ⟨_, _, rfl, rfl, hmoved⟩

/-- A text and the text after an edit are both accepted or both rejected. -/
theorem parse_moved (evaluate : Evaluator) (asm : Assembler)
    (h : Reformatted script reader reader') :
    (∃ program program', (asm.parse evaluate reader).1 = .ok program ∧
      (asm.parse evaluate reader').1 = .ok program' ∧ Program.Moved script program program') ∨
    ∃ failure failure', (asm.parse evaluate reader).1 = .error failure ∧
      (asm.parse evaluate reader').1 = .error failure' ∧
      Failure.Moved script failure failure' := by
  have hread := Source.ofReader_of_short h.short h.ending
  have hread' := Source.ofReader_of_short h.short' h.ending'
  have hscript : script = [] ++ script := rfl
  obtain ⟨hdraft, hfailure⟩ := (Draft.moved_empty script).addLines h.legal hscript
  rw [← h.original, ← h.edited] at hdraft hfailure
  rw [parse_of_no_fault (by rw [hread]), parse_of_no_fault (by rw [hread']), hread, hread']
  dsimp only [List.filterMap_nil, List.length_nil] at hdraft hfailure ⊢
  generalize (Draft.empty.addLines 0 ((Source.pieces reader.pending).map _)).2.2 = failure
    at hfailure ⊢
  generalize (Draft.empty.addLines 0 ((Source.pieces reader'.pending).map _)).2.2 = failure'
    at hfailure ⊢
  cases hfailure with
  | some hmoved => exact .inr ⟨_, _, rfl, rfl, hmoved⟩
  | none => exact finish_moved hdraft

/-- An edit of a text that puts in blank lines and comment lines, indents lines by spaces and tabs
and appends blanks and comments to lines: both texts are accepted or neither is. The programs have
the same instructions, labels and entry, and the lines recorded after the edit are the images of
those before. The failures have the same cause, and name a line and its image, or no line. -/
theorem parse_reformatted (h : Reformatted script reader reader') :
    ((∃ program', (asm.parse evaluate reader').1 = .ok program') ↔
      ∃ program, (asm.parse evaluate reader).1 = .ok program) ∧
    (∀ program program', (asm.parse evaluate reader).1 = .ok program →
      (asm.parse evaluate reader').1 = .ok program' → Program.Moved script program program') ∧
    ∀ failure failure', (asm.parse evaluate reader).1 = .error failure →
      (asm.parse evaluate reader').1 = .error failure' →
      Failure.Moved script failure failure' := by
  obtain ⟨program, program', hparse, hparse', hmoved⟩ |
    ⟨failure, failure', hparse, hparse', hmoved⟩ :=
      parse_moved evaluate asm h
  · rw [hparse, hparse']
    refine ⟨by simp, ?_, ?_⟩
    · rintro _ _ ⟨⟩ ⟨⟩
      exact hmoved
    · rintro _ _ ⟨⟩
  · rw [hparse, hparse']
    refine ⟨by simp, ?_, ?_⟩
    · rintro _ _ ⟨⟩
    · rintro _ _ ⟨⟩ ⟨⟩
      exact hmoved

def tidying : List EditedLine :=
  [.inserted (ofString "// greets"), .kept (ofString "\t") (ofString "!_start") (ofString " ")
    [Text.carriageReturn], .kept [] (ofString "out:72// H") (ofString " // a letter") [],
    .inserted (ofString " \t"), .kept (ofString "  ") (ofString "halt:/") (ofString "\t//") []]

def untidy : Reader := .ofText (ofString "!_start\r\nout:72// H\nhalt:/")

def tidied : Reader :=
  .ofText (ofString "// greets\n\t!_start \r\nout:72// H // a letter\n \t\n  halt:/\t//\n")

theorem parse_reformatted_tidied :
    Reformatted tidying untidy tidied ∧
      ∃ program', (initial.parse (fun _ _ => (.failed, [])) tidied).1 = .ok program' ∧
        program'.instructions = #[.output (ofString "72"), .halt (ofString "/")] ∧
        List.Forall₂ (Image tidying) [⟨2, ofString "out:72// H"⟩, ⟨3, ofString "halt:/"⟩]
          program'.lines.toList := by
  have hreformatted : Reformatted tidying untidy tidied :=
    ⟨by decide +kernel, by decide, by decide, by decide, by decide, rfl, rfl⟩
  have hparse : (initial.parse (fun _ _ => (.failed, [])) untidy).1 =
      .ok ⟨#[.output (ofString "72"), .halt (ofString "/")],
        #[⟨2, ofString "out:72// H"⟩, ⟨3, ofString "halt:/"⟩], .ofPairs [(ofString "_start", 0)], 0⟩ := by
    decide +kernel
  obtain ⟨haccepted, hmoved, -⟩ :=
    @parse_reformatted (fun _ _ => (.failed, [])) initial tidying untidy tidied hreformatted
  obtain ⟨program', hparse'⟩ := haccepted.2 ⟨_, hparse⟩
  have hsame := hmoved _ _ hparse hparse'
  exact ⟨hreformatted, program', hparse', hsame.instructions, hsame.lines⟩

end Assembler

end RegisterMachine
