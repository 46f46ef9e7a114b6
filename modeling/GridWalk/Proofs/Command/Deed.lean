import GridWalk.Command.Perform
import GridWalk.Proofs.Storage.ProgramFile

namespace GridWalk

-- Nothing is said about a program being too large to be saved.
def Verdict.NotTooLarge (verdict : Verdict) : Prop :=
  ∀ width height, verdict ≠ .failure (.program (.tooLarge width height)) ∧
    verdict ≠ .failure (.unopened (.tooLarge width height))

theorem Verdict.notTooLarge_program {cause : ProgramError} (h : cause.isTooLarge = false) :
    (Verdict.failure (.program cause)).NotTooLarge := by
  intro width height
  refine ⟨?_, by simp⟩
  intro heq
  cases heq
  cases h

namespace Command

-- The commands that work on program files, with sides that arguments can ask for.
def OnPrograms : Command → Prop
  | .create o => o.width ≤ Grid.maxSide ∧ o.height ≤ Grid.maxSide
  | .paint _ | .display _ | .run _ => True
  | .listOpcodes | .explore _ => False

theorem OnPrograms.fitsHeader {o : CreateOptions} (h : (Command.create o).OnPrograms) :
    (Program.ofGrid (Grid.blank o.width o.height)).grid.fitsHeader = true :=
  Grid.fitsHeader_iff.mpr h

open Access Verdict

section Ends

variable {disk final : Disk} {verdict : Verdict}

theorem ends_create {o : CreateOptions} (hsides : (Command.create o).OnPrograms)
    (h : (performCreate o).Ends disk verdict final) :
    (∃ lines, verdict = .report lines ∧ (o.force = true ∨ disk.contains o.file = false) ∧
      disk.write o.file (Program.ofGrid (Grid.blank o.width o.height)).encode = .ok final) ∨
      (final = disk ∧ (∃ complaint, verdict = .failure complaint) ∧ verdict.NotTooLarge) := by
  unfold performCreate at h
  obtain ⟨found, between, hfound, hrest⟩ := ends_bind h
  obtain ⟨rfl, rfl⟩ := ends_probing hfound
  split at hrest
  · obtain ⟨rfl, rfl⟩ := ends_pure hrest
    exact .inr ⟨rfl, ⟨_, rfl⟩, by simp [NotTooLarge]⟩
  · next hallowed =>
      obtain ⟨saved, last, hsaved, hlast⟩ := ends_bind hrest
      rcases Program.ends_save hsides.fitsHeader hsaved with ⟨rfl, hwrite⟩ | ⟨rfl, e, rfl, he⟩
      · obtain ⟨rfl, rfl⟩ := ends_pure hlast
        refine .inl ⟨_, rfl, ?_, hwrite⟩
        cases hforce : o.force with
        | true => exact .inl rfl
        | false => exact .inr (by simpa [hforce] using hallowed)
      · obtain ⟨rfl, rfl⟩ := ends_pure hlast
        exact .inr ⟨rfl, ⟨_, rfl⟩, notTooLarge_program he⟩

-- A creation is reported if nothing is in its way and the file can be written.
theorem ends_create_report_iff {o : CreateOptions} (hsides : (Command.create o).OnPrograms) :
    (∃ lines, (performCreate o).Ends disk (.report lines) final) ↔
      (o.force = true ∨ disk.contains o.file = false) ∧
        disk.write o.file (Program.ofGrid (Grid.blank o.width o.height)).encode = .ok final := by
  constructor
  · rintro ⟨lines, h⟩
    rcases ends_create hsides h with ⟨_, _, hallowed, hwrite⟩ | ⟨_, ⟨_, hfailure⟩, _⟩
    · exact ⟨hallowed, hwrite⟩
    · cases hfailure
  · rintro ⟨hallowed, hwrite⟩
    have hgoes : (disk.contains o.file && !o.force) = false := by
      rcases hallowed with hforce | hfree
      · simp [hforce]
      · simp [hfree]
    refine ⟨[s!"Created {o.width}x{o.height} program {o.file}"], .bind (.probe rfl (.done _ _)) ?_⟩
    rw [hgoes]
    exact .bind (Program.ends_save_of_write hsides.fitsHeader hwrite) (.done _ _)

theorem ends_paint {o : PaintOptions} (h : (performPaint o).Ends disk verdict final) :
    (∃ lines bytes p q, verdict = .report lines ∧ disk.read o.file = .ok bytes ∧
      Program.decode bytes = .ok p ∧ p.painted ⟨o.x, o.y⟩ o.instruction = some q ∧
      disk.write o.file q.encode = .ok final) ∨
      (final = disk ∧ (∃ complaint, verdict = .failure complaint) ∧ verdict.NotTooLarge) := by
  unfold performPaint at h
  obtain ⟨answer, between, hpaint, hrest⟩ := ends_bind h
  rcases Program.ends_paint hpaint with ⟨bytes, p, q, previous, rfl, hread, hdecode, hq, hwrite⟩ |
    ⟨rfl, e, rfl, he⟩
  · obtain ⟨rfl, rfl⟩ := ends_pure hrest
    exact .inl ⟨_, bytes, p, q, rfl, hread, hdecode, hq, hwrite⟩
  · obtain ⟨rfl, rfl⟩ := ends_pure hrest
    exact .inr ⟨rfl, ⟨_, rfl⟩, notTooLarge_program he⟩

-- A painting is reported if there is a program with such a cell and the file can be written.
theorem ends_paint_report_iff {o : PaintOptions} :
    (∃ lines, (performPaint o).Ends disk (.report lines) final) ↔
      ∃ p q, disk.program? o.file = some p ∧ p.painted ⟨o.x, o.y⟩ o.instruction = some q ∧
        disk.write o.file q.encode = .ok final := by
  constructor
  · rintro ⟨lines, h⟩
    rcases ends_paint h with ⟨_, _, p, q, _, hread, hdecode, hq, hwrite⟩ | ⟨_, ⟨_, hfailure⟩, _⟩
    · exact ⟨p, q, Disk.program?_of_read hread hdecode, hq, hwrite⟩
    · cases hfailure
  · rintro ⟨p, q, hprogram, hq, hwrite⟩
    obtain ⟨previous, hends⟩ := Program.ends_paint_of_write hprogram hq hwrite
    exact ⟨_, .bind hends (.done _ _)⟩

theorem ends_display {file : String} (h : (performDisplay file).Ends disk verdict final) :
    final = disk ∧ verdict.NotTooLarge := by
  unfold performDisplay at h
  obtain ⟨answer, between, hload, hrest⟩ := ends_bind h
  obtain ⟨rfl, hanswer⟩ := Program.ends_load hload
  rcases hanswer with ⟨_, p, rfl, _⟩ | ⟨e, rfl, he⟩
  · obtain ⟨rfl, rfl⟩ := ends_pure hrest
    exact ⟨rfl, by simp [NotTooLarge]⟩
  · obtain ⟨rfl, rfl⟩ := ends_pure hrest
    exact ⟨rfl, notTooLarge_program he⟩

theorem ends_run {o : RunOptions} (h : (performRun o).Ends disk verdict final) :
    final = disk ∧ verdict.NotTooLarge := by
  unfold performRun at h
  obtain ⟨answer, between, hload, hrest⟩ := ends_bind h
  obtain ⟨rfl, hanswer⟩ := Program.ends_load hload
  rcases hanswer with ⟨_, p, rfl, _⟩ | ⟨e, rfl, he⟩
  · simp only at hrest
    split at hrest
    · obtain ⟨rfl, rfl⟩ := ends_pure hrest
      exact ⟨rfl, by simp [NotTooLarge]⟩
    · obtain ⟨rfl, rfl⟩ := ends_pure hrest
      exact ⟨rfl, by simp [NotTooLarge]⟩
  · obtain ⟨rfl, rfl⟩ := ends_pure hrest
    exact ⟨rfl, notTooLarge_program he⟩

end Ends

end Command

-- A command that was performed: how it ended, with the files before and after.
structure Deed where
  command : Command
  before : Disk
  verdict : Verdict
  after : Disk

namespace Deed

def Done (deed : Deed) : Prop := deed.command.perform.Ends deed.before deed.verdict deed.after

-- The path under which a deed has written a program. Only a new program or a
-- painted one is written, and then the deed is reported.
def written? (deed : Deed) : Option String :=
  match deed.command, deed.verdict with
  | .create o, .report _ => some o.file
  | .paint o, .report _ => some o.file
  | _, _ => none

-- What a deed makes of the program under a path. Paths are of the same file if
-- they lead to the same place of the disk.
def effect (disk : Disk) (path : String) (program : Option Program) (deed : Deed) : Option Program :=
  match deed.command, deed.verdict with
  | .create o, .report _ =>
      if disk.fileAt? o.file = disk.fileAt? path then
        some (Program.ofGrid (Grid.blank o.width o.height))
      else program
  | .paint o, .report _ =>
      if disk.fileAt? o.file = disk.fileAt? path then
        program.bind fun p => p.painted ⟨o.x, o.y⟩ o.instruction
      else program
  | _, _ => program

theorem written?_eq_none {deed : Deed}
    (h : (∃ file, deed.command = .display file) ∨ (∃ o, deed.command = .run o) ∨
      ∀ lines, deed.verdict ≠ .report lines) : deed.written? = none := by
  rcases h with ⟨file, hdisplay⟩ | ⟨o, hrun⟩ | hreport
  · simp [written?, hdisplay]
  · simp [written?, hrun]
  · unfold written?
    split
    · next hverdict => exact absurd hverdict (hreport _)
    · next hverdict => exact absurd hverdict (hreport _)
    · rfl

theorem effect_of_written?_eq_none {deed : Deed} (h : deed.written? = none) (disk : Disk)
    (path : String) (program : Option Program) : deed.effect disk path program = program := by
  unfold written? at h
  unfold effect
  split
  · next hcommand hverdict => simp [hcommand, hverdict] at h
  · next hcommand hverdict => simp [hcommand, hverdict] at h
  · rfl

theorem effect_congr {disk other : Disk} (h : ∀ path, other.fileAt? path = disk.fileAt? path)
    (path : String) : effect other path = effect disk path := by
  funext program deed
  simp only [effect, h]

section Done

variable {deed : Deed}

-- A deed creates a program, paints one or leaves all files alone.
theorem Done.cases (h : deed.Done) (hcommand : deed.command.OnPrograms) :
    (∃ o lines, deed.command = .create o ∧ deed.verdict = .report lines ∧
      (o.force = true ∨ deed.before.contains o.file = false) ∧
      deed.before.write o.file (Program.ofGrid (Grid.blank o.width o.height)).encode = .ok deed.after) ∨
    (∃ o lines bytes p q, deed.command = .paint o ∧ deed.verdict = .report lines ∧
      deed.before.read o.file = .ok bytes ∧ Program.decode bytes = .ok p ∧
      p.painted ⟨o.x, o.y⟩ o.instruction = some q ∧
      deed.before.write o.file q.encode = .ok deed.after) ∨
    (deed.written? = none ∧ deed.after = deed.before ∧ deed.verdict.NotTooLarge) := by
  obtain ⟨command, before, verdict, after⟩ := deed
  cases command with
  | create o =>
      rcases Command.ends_create hcommand h with ⟨lines, rfl, hallowed, hwrite⟩ |
        ⟨hsame, ⟨_, rfl⟩, hcause⟩
      · exact .inl ⟨o, lines, rfl, rfl, hallowed, hwrite⟩
      · exact .inr (.inr ⟨rfl, hsame, hcause⟩)
  | paint o =>
      rcases Command.ends_paint h with ⟨lines, bytes, p, q, rfl, hread, hdecode, hq, hwrite⟩ |
        ⟨hsame, ⟨_, rfl⟩, hcause⟩
      · exact .inr (.inl ⟨o, lines, bytes, p, q, rfl, rfl, hread, hdecode, hq, hwrite⟩)
      · exact .inr (.inr ⟨rfl, hsame, hcause⟩)
  | display file =>
      obtain ⟨hsame, hcause⟩ := Command.ends_display h
      exact .inr (.inr ⟨rfl, hsame, hcause⟩)
  | run o =>
      obtain ⟨hsame, hcause⟩ := Command.ends_run h
      exact .inr (.inr ⟨rfl, hsame, hcause⟩)
  | listOpcodes => exact hcommand.elim
  | explore o => exact hcommand.elim

theorem Done.wrote_or_kept (h : deed.Done) (hcommand : deed.command.OnPrograms) :
    (∃ file p, deed.written? = some file ∧ p.grid.fitsHeader = true ∧
      deed.before.write file (Program.encode p) = .ok deed.after) ∨
      (deed.written? = none ∧ deed.after = deed.before) := by
  rcases h.cases hcommand with ⟨o, lines, hcreate, hverdict, _, hwrite⟩ |
    ⟨o, lines, bytes, p, q, hpaint, hverdict, _, hdecode, hq, hwrite⟩ | ⟨hnone, hsame, _⟩
  · rw [hcreate] at hcommand
    exact .inl ⟨o.file, _, by simp [written?, hcreate, hverdict], hcommand.fitsHeader, hwrite⟩
  · have hfits := Program.fitsHeader_of_painted hdecode hq
    exact .inl ⟨o.file, q, by simp [written?, hpaint, hverdict], hfits, hwrite⟩
  · exact .inr ⟨hnone, hsame⟩

theorem Done.kept (h : deed.Done) (hcommand : deed.command.OnPrograms)
    (hnone : deed.written? = none) : deed.after = deed.before := by
  rcases h.wrote_or_kept hcommand with ⟨file, p, hfile, _⟩ | ⟨_, hsame⟩
  · rw [hnone] at hfile
    cases hfile
  · exact hsame

theorem Done.create_refused {o : CreateOptions} (h : deed.Done) (hcommand : deed.command.OnPrograms)
    (hcreate : deed.command = .create o) (hforce : o.force = false)
    (hfound : deed.before.contains o.file = true) :
    deed.after = deed.before ∧ ∀ lines, deed.verdict ≠ .report lines := by
  rcases h.cases hcommand with ⟨other, _, hother, _, hallowed, _⟩ |
    ⟨_, _, _, _, _, hpaint, _⟩ | ⟨hnone, hsame, _⟩
  · rw [hcreate] at hother
    cases hother
    simp [hforce, hfound] at hallowed
  · rw [hcreate] at hpaint
    cases hpaint
  · refine ⟨hsame, fun lines hverdict => ?_⟩
    simp [written?, hcreate, hverdict] at hnone

theorem Done.paint_bytes {o : PaintOptions} {lines : List String} (h : deed.Done)
    (hcommand : deed.command.OnPrograms) (hpaint : deed.command = .paint o)
    (hreport : deed.verdict = .report lines) :
    ∃ bytes, deed.before.read o.file = .ok bytes ∧
      let w := (wordOf bytes).toInt
      let h := (wordOf (bytes.drop 4)).toInt
      (0 ≤ o.x.toInt ∧ o.x.toInt < w) ∧ (0 ≤ o.y.toInt ∧ o.y.toInt < h) ∧
      16 + (w * h).toNat ≤ bytes.length ∧
      deed.after.read o.file = .ok ((bytes.take (16 + (w * h).toNat)).set
        (16 + (o.x.toInt * h + o.y.toInt).toNat) o.instruction.opcode) := by
  rcases h.cases hcommand with ⟨_, _, hcreate, _⟩ |
    ⟨other, _, bytes, p, q, hother, _, hread, hdecode, hq, hwrite⟩ | ⟨hnone, _⟩
  · rw [hpaint] at hcreate
    cases hcreate
  · rw [hpaint] at hother
    cases hother
    obtain ⟨hx, hy, hlength, hbytes⟩ := Program.bytes_of_painted hdecode hq
    refine ⟨bytes, hread, hx, hy, hlength, ?_⟩
    rw [Disk.read_of_write hwrite, hbytes]
    rfl
  · simp [written?, hpaint, hreport] at hnone

theorem Done.notTooLarge (h : deed.Done) (hcommand : deed.command.OnPrograms) :
    deed.verdict.NotTooLarge := by
  rcases h.cases hcommand with ⟨_, _, _, hverdict, _⟩ | ⟨_, _, _, _, _, _, hverdict, _⟩ |
    ⟨_, _, hcause⟩
  · simp [Verdict.NotTooLarge, hverdict]
  · simp [Verdict.NotTooLarge, hverdict]
  · exact hcause

theorem Done.fileAt?_after (h : deed.Done) (hcommand : deed.command.OnPrograms) (path : String) :
    deed.after.fileAt? path = deed.before.fileAt? path := by
  rcases h.wrote_or_kept hcommand with ⟨file, p, _, _, hwrite⟩ | ⟨_, hsame⟩
  · exact Disk.fileAt?_of_write hwrite path
  · rw [hsame]

theorem Done.read_after (h : deed.Done) (hcommand : deed.command.OnPrograms) {path : String}
    (hother : ∀ file, deed.written? = some file →
      deed.before.fileAt? file ≠ deed.before.fileAt? path) (content : List UInt8) :
    deed.after.read path = .ok content ↔ deed.before.read path = .ok content := by
  rcases h.wrote_or_kept hcommand with ⟨file, p, hfile, _, hwrite⟩ | ⟨_, hsame⟩
  · exact Disk.read_of_write_of_ne hwrite (hother file hfile) content
  · rw [hsame]

theorem Done.program?_after (h : deed.Done) (hcommand : deed.command.OnPrograms) (path : String) :
    deed.after.program? path = deed.effect deed.before path (deed.before.program? path) := by
  rcases h.cases hcommand with ⟨o, lines, hcreate, hverdict, _, hwrite⟩ |
    ⟨o, lines, bytes, p, q, hpaint, hverdict, hread, hdecode, hq, hwrite⟩ | ⟨hnone, hsame, _⟩
  · rw [hcreate] at hcommand
    rw [Disk.program?_of_write hwrite hcommand.fitsHeader path]
    simp only [effect, hcreate, hverdict]
  · have hfits := Program.fitsHeader_of_painted hdecode hq
    rw [Disk.program?_of_write hwrite hfits path]
    simp only [effect, hpaint, hverdict]
    by_cases hfile : deed.before.fileAt? o.file = deed.before.fileAt? path
    · have hp : deed.before.program? path = some p :=
        Disk.program?_of_read (Disk.read_congr hfile hread) hdecode
      rw [if_pos hfile, if_pos hfile, hp]
      exact hq.symm
    · rw [if_neg hfile, if_neg hfile]
  · rw [effect_of_written?_eq_none hnone, hsame]

-- A program that was written can be read, and stays so.
theorem Done.isSome_program? (h : deed.Done) (hcommand : deed.command.OnPrograms) {path : String}
    (hsome : (deed.before.program? path).isSome = true ∨
      ∃ file, deed.written? = some file ∧ deed.before.fileAt? file = deed.before.fileAt? path) :
    (deed.after.program? path).isSome = true := by
  rcases h.wrote_or_kept hcommand with ⟨file, p, hfile, hfits, hwrite⟩ | ⟨hnone, hsame⟩
  · rw [Disk.program?_of_write hwrite hfits path]
    split
    · rfl
    · next hother =>
        rcases hsome with hbefore | ⟨written, hwritten, hpath⟩
        · exact hbefore
        · rw [hfile] at hwritten
          cases hwritten
          exact absurd hpath hother
  · rw [hsame]
    rcases hsome with hbefore | ⟨written, hwritten, _⟩
    · exact hbefore
    · rw [hnone] at hwritten
      cases hwritten

end Done

-- Deeds that follow one another, from the first files to the last.
inductive Performed : Disk → List Deed → Disk → Prop where
  | nil (disk : Disk) : Performed disk [] disk
  | cons {deed : Deed} {rest : List Deed} {final : Disk} (h : deed.Done)
      (hrest : Performed deed.after rest final) : Performed deed.before (deed :: rest) final

section Performed

variable {disk final : Disk} {deeds : List Deed}

theorem Performed.done (h : Performed disk deeds final) : ∀ deed ∈ deeds, deed.Done := by
  induction h with
  | nil => simp
  | cons hdone _ ih =>
      intro deed hmem
      rcases List.mem_cons.mp hmem with rfl | hlater
      · exact hdone
      · exact ih deed hlater

theorem Performed.program?_eq (h : Performed disk deeds final)
    (hcommands : ∀ deed ∈ deeds, deed.command.OnPrograms) (path : String) :
    final.program? path = deeds.foldl (effect disk path) (disk.program? path) := by
  induction h with
  | nil => rfl
  | @cons deed rest final hdone _ ih =>
      have hcommand := hcommands deed List.mem_cons_self
      have hlater := ih fun later hmem => hcommands later (List.mem_cons_of_mem _ hmem)
      rw [effect_congr (hdone.fileAt?_after hcommand)] at hlater
      rw [hlater, hdone.program?_after hcommand, List.foldl_cons]

theorem Performed.isSome_program? (h : Performed disk deeds final)
    (hcommands : ∀ deed ∈ deeds, deed.command.OnPrograms) {path : String}
    (hsome : (disk.program? path).isSome = true ∨
      ∃ deed ∈ deeds, ∃ file, deed.written? = some file ∧ disk.fileAt? file = disk.fileAt? path) :
    (final.program? path).isSome = true := by
  induction h with
  | nil =>
      rcases hsome with hbefore | ⟨deed, hmem, _⟩
      · exact hbefore
      · cases hmem
  | @cons deed rest final hdone _ ih =>
      have hcommand := hcommands deed List.mem_cons_self
      have hplaces := hdone.fileAt?_after hcommand
      apply ih fun later hmem => hcommands later (List.mem_cons_of_mem _ hmem)
      rcases hsome with hbefore | ⟨writer, hmem, file, hfile, hpath⟩
      · exact .inl (hdone.isSome_program? hcommand (.inl hbefore))
      · rcases List.mem_cons.mp hmem with rfl | hlater
        · exact .inl (hdone.isSome_program? hcommand (.inr ⟨file, hfile, hpath⟩))
        · refine .inr ⟨writer, hlater, file, hfile, ?_⟩
          rw [hplaces file, hplaces path]
          exact hpath

-- Files that fail for no reason of their own let any commands be performed.
theorem exists_performed (disk : Disk) (commands : List Command) :
    ∃ deeds, deeds.map Deed.command = commands ∧
      Performed disk deeds (commands.foldl (fun files command => (command.perform.on files).2) disk) := by
  induction commands generalizing disk with
  | nil => exact ⟨[], rfl, .nil disk⟩
  | cons command rest ih =>
      obtain ⟨deeds, hcommands, hperformed⟩ := ih (command.perform.on disk).2
      have hdone : Done ⟨command, disk, (command.perform.on disk).1, (command.perform.on disk).2⟩ :=
        Access.ends_on command.perform disk
      exact ⟨_ :: deeds, by rw [List.map_cons, hcommands], .cons hdone hperformed⟩

-- Program files under any sequence of commands. Only a reported creation or
-- painting changes a file, and no other file with it; a painting changes one byte
-- and drops what is behind the cells; and a file that was written holds what its
-- own history makes of it. Neither is refused without a reason.
theorem commands_keep_program_files (h : Performed disk deeds final)
    (hcommands : ∀ deed ∈ deeds, deed.command.OnPrograms) :
    (∀ deed ∈ deeds,
      ((∃ file, deed.command = .display file) ∨ (∃ o, deed.command = .run o) ∨
        (∀ lines, deed.verdict ≠ .report lines) → deed.after = deed.before) ∧
      (∀ o, deed.command = .create o → o.force = false → deed.before.contains o.file = true →
        deed.after = deed.before ∧ ∀ lines, deed.verdict ≠ .report lines) ∧
      (∀ o lines, deed.command = .paint o → deed.verdict = .report lines →
        ∃ bytes, deed.before.read o.file = .ok bytes ∧
          let w := (wordOf bytes).toInt
          let h := (wordOf (bytes.drop 4)).toInt
          (0 ≤ o.x.toInt ∧ o.x.toInt < w) ∧ (0 ≤ o.y.toInt ∧ o.y.toInt < h) ∧
          16 + (w * h).toNat ≤ bytes.length ∧
          deed.after.read o.file = .ok ((bytes.take (16 + (w * h).toNat)).set
            (16 + (o.x.toInt * h + o.y.toInt).toNat) o.instruction.opcode)) ∧
      (∀ path, (∀ file, deed.written? = some file →
          deed.before.fileAt? file ≠ deed.before.fileAt? path) →
        ∀ content, deed.after.read path = .ok content ↔ deed.before.read path = .ok content) ∧
      ∀ width height, deed.verdict ≠ .failure (.program (.tooLarge width height)) ∧
        deed.verdict ≠ .failure (.unopened (.tooLarge width height))) ∧
    (∀ path,
      final.program? path = deeds.foldl (effect disk path) (disk.program? path) ∧
      ((∃ deed ∈ deeds, ∃ file, deed.written? = some file ∧ disk.fileAt? file = disk.fileAt? path) →
        ∃ program, final.program? path = some program)) ∧
    (∀ o after, (Command.create o).OnPrograms →
      ((∃ lines, Done ⟨.create o, disk, .report lines, after⟩) ↔
        (o.force = true ∨ disk.contains o.file = false) ∧
          disk.write o.file (Program.ofGrid (Grid.blank o.width o.height)).encode = .ok after)) ∧
    (∀ o after, (∃ lines, Done ⟨.paint o, disk, .report lines, after⟩) ↔
      ∃ p q, disk.program? o.file = some p ∧ p.painted ⟨o.x, o.y⟩ o.instruction = some q ∧
        disk.write o.file q.encode = .ok after) ∧
    ∀ commands : List Command, ∃ others, others.map Deed.command = commands ∧
      Performed disk others (commands.foldl (fun files command => (command.perform.on files).2) disk) := by
  refine ⟨?_, ?_, fun _ _ => Command.ends_create_report_iff, fun _ _ => Command.ends_paint_report_iff,
    exists_performed disk⟩
  · intro deed hmem
    have hdone := h.done deed hmem
    have hcommand := hcommands deed hmem
    refine ⟨fun hquiet => hdone.kept hcommand (written?_eq_none hquiet), ?_, ?_, ?_, ?_⟩
    · exact fun _ => hdone.create_refused hcommand
    · exact fun _ _ => hdone.paint_bytes hcommand
    · exact fun _ => hdone.read_after hcommand
    · exact hdone.notTooLarge hcommand
  · intro path
    refine ⟨h.program?_eq hcommands path, fun hwritten => ?_⟩
    exact Option.isSome_iff_exists.mp (h.isSome_program? hcommands (.inr hwritten))

end Performed

-- A single name leads into the working directory, whatever there is.
theorem fileAt?_single_name (disk : Disk) : disk.fileAt? "a" = some (.inside ["a"]) := by
  have hnames : Disk.namesOf "a" = ["a"] := by
    unfold Disk.namesOf String.splitOn
    rw [if_neg (by decide), String.splitOnAux, if_neg (by decide +kernel),
      if_neg (by decide +kernel), String.splitOnAux, if_pos (by decide +kernel)]
    decide +kernel
  have horigin : Disk.origin "a" = .inside [] := by decide +kernel
  have hslash : "a".endsWith "/" = false := by decide +kernel
  have htarget : disk.target "a" = .ok (.entry (.inside []) "a" false) := by
    unfold Disk.target
    rw [if_neg (by decide), if_neg (by decide), if_neg (by decide +kernel)]
    simp only [hnames, horigin, hslash]
    rfl
  exact Disk.fileAt?_eq_some_iff.mpr ⟨_, _, htarget, by decide +kernel, rfl⟩

-- A program with a start that is off its grid and a byte behind its cells, and
-- what painting its second cell leaves of it.
def untidy : Disk :=
  ⟨[(.inside ["a"], .file [2, 0, 0, 0, 1, 0, 0, 0, 255, 255, 255, 255, 5, 0, 0, 0, 0, 9, 99])]⟩

def tidied : Disk :=
  ⟨[(.inside ["a"], .file [2, 0, 0, 0, 1, 0, 0, 0, 255, 255, 255, 255, 5, 0, 0, 0, 0, 25])]⟩

-- The program is painted once; then there is no such cell, the file may not be
-- replaced, and it cannot be written.
theorem commands_keep_program_files_painted :
    let noCell : ProgramError := .outOfGrid ⟨⟨2, 0⟩, 2, 1⟩
    let noSpace : ProgramError := .file "a" .storageFull
    let painted : Deed :=
      ⟨.paint ⟨"a", 1, 0, .print⟩, untidy, .report ["(1, 0): Increment -> Print"], tidied⟩
    let missed : Deed := ⟨.paint ⟨"a", 2, 0, .exit⟩, tidied, .failure (.program noCell), tidied⟩
    let refused : Deed := ⟨.create ⟨"a", 3, 3, false⟩, tidied,
      .failure (.alreadyExists "a"), tidied⟩
    let unsaved : Deed := ⟨.paint ⟨"a", 0, 0, .exit⟩, tidied, .failure (.program noSpace), tidied⟩
    let deeds := [painted, missed, refused, unsaved]
    Performed untidy deeds tidied ∧ (∀ deed ∈ deeds, deed.command.OnPrograms) ∧
      untidy.program? "a" = some ⟨⟨2, 1, #[.noOperation, .increment], rfl⟩, -1, 5⟩ ∧
      tidied.program? "a" = some ⟨⟨2, 1, #[.noOperation, .print], rfl⟩, -1, 5⟩ := by
  intro noCell noSpace painted missed refused unsaved deeds
  have huntidy : untidy.read "a" =
      .ok [2, 0, 0, 0, 1, 0, 0, 0, 255, 255, 255, 255, 5, 0, 0, 0, 0, 9, 99] :=
    Disk.read_eq_ok_iff.mpr ⟨_, fileAt?_single_name _, by decide⟩
  have htidied : tidied.read "a" =
      .ok [2, 0, 0, 0, 1, 0, 0, 0, 255, 255, 255, 255, 5, 0, 0, 0, 0, 25] :=
    Disk.read_eq_ok_iff.mpr ⟨_, fileAt?_single_name _, by decide⟩
  have hwrite : untidy.write "a" [2, 0, 0, 0, 1, 0, 0, 0, 255, 255, 255, 255, 5, 0, 0, 0, 0, 25] =
      .ok tidied :=
    Disk.write_eq_ok_iff.mpr ⟨_, fileAt?_single_name _, by decide, by decide⟩
  have hpainted : painted.Done := .read huntidy (.write hwrite (.done _ _))
  have hmissed : missed.Done := .read htidied (.done _ _)
  have hrefused : refused.Done := .probe (Disk.contains_of_read htidied) (.done _ _)
  have hunsaved : unsaved.Done := .read htidied (.failedWrite .storageFull (.done _ _))
  have hperformed : Performed untidy deeds tidied :=
    .cons hpainted (.cons hmissed (.cons hrefused (.cons hunsaved (.nil tidied))))
  have hcommands : ∀ deed ∈ deeds, deed.command.OnPrograms := by
    simp [deeds, painted, missed, refused, unsaved, Command.OnPrograms, Grid.maxSide]
  have hbefore : untidy.program? "a" = some ⟨⟨2, 1, #[.noOperation, .increment], rfl⟩, -1, 5⟩ :=
    Disk.program?_of_read huntidy rfl
  refine ⟨hperformed, hcommands, hbefore, ?_⟩
  calc tidied.program? "a"
      = deeds.foldl (effect untidy "a") (untidy.program? "a") :=
        ((commands_keep_program_files hperformed hcommands).2.1 "a").1
    _ = Program.painted ⟨⟨2, 1, #[.noOperation, .increment], rfl⟩, -1, 5⟩ ⟨1, 0⟩ .print := by
        simp [hbefore, deeds, effect, painted, missed, refused, unsaved]
    _ = some ⟨⟨2, 1, #[.noOperation, .print], rfl⟩, -1, 5⟩ := rfl

end Deed

end GridWalk
