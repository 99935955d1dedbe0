import RegisterMachine.Proofs.Assembler.Constants
import RegisterMachine.Proofs.Assembler.Listing

/-!
# Entry labels that can be declared

Settings are valid as soon as their entry label is not blank. A line can declare exactly the names
that are not empty, have no blanks at their ends and hold no comment. So there are valid settings
with which no text is accepted, because no line declares the entry.
-/
namespace RegisterMachine

open Text (ofString byte newline)
open LineContent (labelLine IsLabelName)

namespace LineContent

/-- A name that some line declares is declared by the line of an exclamation mark and the name. -/
theorem exists_line_iff {name : Text} :
    (∃ line, Source.Fits line ∧ ofLine line = .ok (.label name)) ↔
      IsLabelName name ∧ Source.Fits (labelLine name) := by
  constructor
  · intro h
    obtain ⟨line, hfits, hline⟩ := h
    exact ⟨(ofLine_eq_label hline).1, fits_labelLine hline hfits⟩
  · intro h
    exact ⟨labelLine name, h.2, ofLine_labelLine h.1⟩

/-- A name of one line that is not empty is declared unless blanks or a comment are cut off it. -/
theorem isLabelName_iff {name : Text} (hne : name ≠ []) :
    IsLabelName name ↔ Text.trim name = name ∧ ¬ slashes <:+: name := by
  constructor
  · intro h
    exact ⟨h.trimmed.trim_eq, h.noComment⟩
  · intro h
    obtain ⟨htrim, hcomment⟩ := h
    refine ⟨hne, ?_, hcomment⟩
    rw [← htrim]
    exact Text.trimmed_trim name

end LineContent

namespace Settings

/-- The entry label of valid settings is not blank. That is all that is checked of it. -/
theorem trim_entryLabel_ne_nil {s : Settings} (h : s.validate = .ok s) :
    Text.trim s.entryLabel ≠ [] := by
  intro hblank
  rw [validate_eq_ok, issues, hblank, List.append_eq_nil_iff, List.append_eq_nil_iff] at h
  obtain ⟨⟨-, hissue⟩, -⟩ := h
  cases hissue

theorem entryLabel_ne_nil {s : Settings} (h : s.validate = .ok s) : s.entryLabel ≠ [] := by
  intro hnil
  apply trim_entryLabel_ne_nil h
  rw [hnil, Text.Trimmed.nil.trim_eq]

end Settings

namespace Source

theorem fits_labelLine_of_length {name : Text} (hbreak : newline ∉ name)
    (hlength : name.length < 65000) : Fits (labelLine name) := by
  constructor
  · rw [labelLine, List.mem_cons, not_or]
    exact ⟨by decide, hbreak⟩
  · rw [labelLine, List.length_cons, lineLimit]
    omega

end Source

namespace Assembler

variable {evaluate : Evaluator} {asm : Assembler} {reader : Reader} {program : Program}

/-- An accepted text has a line that declares the entry. -/
theorem exists_line_of_parse (h : (asm.parse evaluate reader).1 = .ok program) :
    ∃ line, Source.Fits line ∧ LineContent.ofLine line = .ok (.label asm.entry) := by
  obtain ⟨-, -, hfinish⟩ := parse_eq_ok.1 h
  obtain ⟨index, -, hentry, -⟩ := finish_eq_ok.1 hfinish
  have hsound := Draft.sound_ofLines (Source.ofReader reader).lines 0
  rw [NameTable.find?_eq_some_iff] at hentry
  obtain ⟨line, hline, hcontent⟩ := hsound.label _ hentry
  exact ⟨line, Source.fits_of_mem_lines hline, hcontent⟩

/-- One line is enough to declare the entry, in a program without instructions. -/
theorem parse_labelLine (evaluate : Evaluator) (hname : IsLabelName asm.entry)
    (hfits : Source.Fits (labelLine asm.entry)) :
    (asm.parse evaluate (Reader.ofText (Text.ofLines [labelLine asm.entry]))).1 =
      .ok ⟨#[], #[], .ofPairs [(asm.entry, 0)], 0⟩ := by
  have hsource : Source.ofReader (Reader.ofText (Text.ofLines [labelLine asm.entry])) =
      ⟨[labelLine asm.entry], none⟩ := by
    apply Source.ofReader_ofLines
    · simpa using hfits
    · simpa using hname.trimmed_labelLine
  have hdraft : Draft.empty.addLines 0 [labelLine asm.entry] =
      (⟨.ofPairs [(asm.entry, 0)], #[]⟩, 1, none) := by
    simp only [Draft.addLines, Draft.addLine, LineContent.ofLine_labelLine hname]
    rfl
  rw [parse_eq_ok, hsource, hdraft]
  refine ⟨rfl, rfl, finish_eq_ok.2 ⟨0, #[], ?_, rfl, by simp⟩⟩
  simp [NameTable.find?]

/-- With an entry label some text is accepted exactly if some line declares it. -/
theorem exists_text_iff (evaluate : Evaluator) :
    (∃ text program, (asm.parse evaluate (Reader.ofText text)).1 = .ok program) ↔
      ∃ line, Source.Fits line ∧ LineContent.ofLine line = .ok (.label asm.entry) := by
  constructor
  · intro h
    obtain ⟨text, program, hparse⟩ := h
    exact exists_line_of_parse hparse
  · intro h
    obtain ⟨hname, hfits⟩ := LineContent.exists_line_iff.1 h
    exact ⟨_, _, parse_labelLine evaluate hname hfits⟩

/-- The entry label of valid settings is the label that is looked for. -/
theorem entry_of_valid {s : Settings} (hvalid : s.validate = .ok s)
    (hentry : asm.entryLabel = s.entryLabel) : asm.entry = s.entryLabel := by
  have hne := Settings.entryLabel_ne_nil hvalid
  rw [entry, hentry, if_neg (by simpa using hne)]

/-- With an entry label of one line that valid settings have, some text is accepted exactly if the
label has no blanks at its ends and holds no comment. Exactly then some line declares it. -/
theorem entry_declarable_iff {s : Settings} (hvalid : s.validate = .ok s)
    (hbreak : newline ∉ s.entryLabel) (hlength : s.entryLabel.length < 65000)
    (evaluate : Evaluator) {asm : Assembler} (hentry : asm.entryLabel = s.entryLabel) :
    ((∃ text program, (asm.parse evaluate (Reader.ofText text)).1 = .ok program) ↔
      Text.trim s.entryLabel = s.entryLabel ∧ ¬ slashes <:+: s.entryLabel) ∧
    ((∃ line, Source.Fits line ∧ LineContent.ofLine line = .ok (.label s.entryLabel)) ↔
      Text.trim s.entryLabel = s.entryLabel ∧ ¬ slashes <:+: s.entryLabel) := by
  have hne : s.entryLabel ≠ [] := Settings.entryLabel_ne_nil hvalid
  have hdeclared : (∃ line, Source.Fits line ∧
      LineContent.ofLine line = .ok (.label s.entryLabel)) ↔
      Text.trim s.entryLabel = s.entryLabel ∧ ¬ slashes <:+: s.entryLabel := by
    rw [LineContent.exists_line_iff, LineContent.isLabelName_iff hne, and_iff_left]
    exact Source.fits_labelLine_of_length hbreak hlength
  refine ⟨?_, hdeclared⟩
  rw [exists_text_iff, entry_of_valid hvalid hentry, hdeclared]

def withEntry (label : String) : Settings := { Settings.initial with entryLabel := ofString label }

theorem entry_declarable_iff_inner :
    (∃ text program, (({ initial with entryLabel := ofString "the start" } : Assembler).parse
      smallEvaluator (Reader.ofText text)).1 = .ok program) ∧
    ¬ ∃ text program, (({ initial with entryLabel := ofString "a//b" } : Assembler).parse
      smallEvaluator (Reader.ofText text)).1 = .ok program := by
  have hblank : (withEntry "the start").validate = .ok (withEntry "the start") :=
    Settings.validate_eq_ok.2 (by decide +kernel)
  have hslashes : (withEntry "a//b").validate = .ok (withEntry "a//b") :=
    Settings.validate_eq_ok.2 (by decide +kernel)
  constructor
  · rw [(entry_declarable_iff hblank (by decide) (by decide) _ rfl).1]
    decide +kernel
  · rw [(entry_declarable_iff hslashes (by decide) (by decide) _ rfl).1]
    decide +kernel

/-- Settings are valid with a blank before the entry label, but no line declares it, and no text is
accepted with it. -/
theorem entry_after_blank :
    (withEntry " main").validate = .ok (withEntry " main") ∧
    newline ∉ (withEntry " main").entryLabel ∧ (withEntry " main").entryLabel.length < 65000 ∧
    (∀ line, LineContent.ofLine line ≠ .ok (.label (withEntry " main").entryLabel)) ∧
    ∀ (evaluate : Evaluator) (asm : Assembler) (reader : Reader) (program : Program),
      asm.entryLabel = (withEntry " main").entryLabel →
        (asm.parse evaluate reader).1 ≠ .ok program := by
  have hvalid : (withEntry " main").validate = .ok (withEntry " main") :=
    Settings.validate_eq_ok.2 (by decide +kernel)
  have hundeclared (line : Text) :
      LineContent.ofLine line ≠ .ok (.label (withEntry " main").entryLabel) := by
    intro hline
    have htrim := (LineContent.ofLine_eq_label hline).1.trimmed.trim_eq
    revert htrim
    decide +kernel
  refine ⟨hvalid, by decide, by decide, hundeclared, ?_⟩
  intro evaluate asm reader program hentry hparse
  obtain ⟨line, -, hline⟩ := exists_line_of_parse hparse
  rw [entry_of_valid hvalid hentry] at hline
  exact hundeclared line hline

end Assembler

end RegisterMachine
