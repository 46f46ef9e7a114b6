import GridWalk.Storage.ProgramFile
import GridWalk.Proofs.Storage.Disk
import GridWalk.Proofs.Program.Paint

namespace GridWalk

namespace Access

variable {α β : Type}

-- How a piece of work can end on files. The answers are those of the disk, but a
-- read or a write may also fail for a reason that is not in it, and then it
-- changes nothing.
inductive Ends : Access α → Disk → α → Disk → Prop where
  | done (result : α) (disk : Disk) : Ends (.done result) disk result disk
  | probe {path : String} {found : Bool} {next : Bool → Access α} {disk final : Disk} {result : α}
      (hfound : disk.contains path = found) (h : Ends (next found) disk result final) :
      Ends (.probe path next) disk result final
  | read {path : String} {bytes : Except FileError (List UInt8)}
      {next : Except FileError (List UInt8) → Access α} {disk final : Disk} {result : α}
      (hread : disk.read path = bytes) (h : Ends (next bytes) disk result final) :
      Ends (.read path next) disk result final
  | failedRead {path : String} {next : Except FileError (List UInt8) → Access α}
      {disk final : Disk} {result : α} (e : FileError) (h : Ends (next (.error e)) disk result final) :
      Ends (.read path next) disk result final
  | write {path : String} {content : List UInt8} {next : Except FileError Unit → Access α}
      {disk after final : Disk} {result : α} (hwrite : disk.write path content = .ok after)
      (h : Ends (next (.ok ())) after result final) : Ends (.write path content next) disk result final
  | failedWrite {path : String} {content : List UInt8} {next : Except FileError Unit → Access α}
      {disk final : Disk} {result : α} (e : FileError) (h : Ends (next (.error e)) disk result final) :
      Ends (.write path content next) disk result final

-- Work that only fails where the disk says so ends in one of these ways.
theorem ends_on (work : Access α) (disk : Disk) : work.Ends disk (work.on disk).1 (work.on disk).2 := by
  induction work generalizing disk with
  | done result => exact .done result disk
  | probe path next ih => exact .probe rfl (ih _ disk)
  | read path next ih => exact .read rfl (ih _ disk)
  | write path content next ih =>
      unfold on
      split
      · next after hwrite => exact .write hwrite (ih _ after)
      · next e hwrite => exact .failedWrite e (ih _ disk)

-- Work that ends goes on with what follows it.
theorem Ends.bind {work : Access α} {f : α → Access β} {disk between final : Disk} {answer : α}
    {result : β} (hfirst : work.Ends disk answer between) (hrest : (f answer).Ends between result final) :
    (work >>= f).Ends disk result final := by
  change (work.bind f).Ends disk result final
  induction hfirst with
  | done => exact hrest
  | probe hfound _ ih => exact .probe hfound (ih hrest)
  | read hread _ ih => exact .read hread (ih hrest)
  | failedRead e _ ih => exact .failedRead e (ih hrest)
  | write hwrite _ ih => exact .write hwrite (ih hrest)
  | failedWrite e _ ih => exact .failedWrite e (ih hrest)

section Inversion

variable {disk final : Disk}

theorem ends_pure {result given : α} (h : (pure given : Access α).Ends disk result final) :
    result = given ∧ final = disk := by
  cases h
  exact ⟨rfl, rfl⟩

theorem ends_bind {work : Access α} {f : α → Access β} {result : β}
    (h : (work >>= f).Ends disk result final) :
    ∃ answer between, work.Ends disk answer between ∧ (f answer).Ends between result final := by
  change (work.bind f).Ends disk result final at h
  induction work generalizing disk with
  | done answer => exact ⟨answer, disk, .done answer disk, h⟩
  | probe path next ih =>
      cases h with
      | probe hfound h =>
          obtain ⟨answer, between, hfirst, hrest⟩ := ih _ h
          exact ⟨answer, between, .probe hfound hfirst, hrest⟩
  | read path next ih =>
      cases h with
      | read hread h =>
          obtain ⟨answer, between, hfirst, hrest⟩ := ih _ h
          exact ⟨answer, between, .read hread hfirst, hrest⟩
      | failedRead e h =>
          obtain ⟨answer, between, hfirst, hrest⟩ := ih _ h
          exact ⟨answer, between, .failedRead e hfirst, hrest⟩
  | write path content next ih =>
      cases h with
      | write hwrite h =>
          obtain ⟨answer, between, hfirst, hrest⟩ := ih _ h
          exact ⟨answer, between, .write hwrite hfirst, hrest⟩
      | failedWrite e h =>
          obtain ⟨answer, between, hfirst, hrest⟩ := ih _ h
          exact ⟨answer, between, .failedWrite e hfirst, hrest⟩

theorem ends_probing {path : String} {answer : Bool} (h : (probing path).Ends disk answer final) :
    answer = disk.contains path ∧ final = disk := by
  cases h with
  | probe hfound h =>
      obtain ⟨hanswer, hfinal⟩ := ends_pure h
      exact ⟨hanswer.trans hfound.symm, hfinal⟩

theorem ends_reading {path : String} {answer : Except FileError (List UInt8)}
    (h : (reading path).Ends disk answer final) :
    (answer = disk.read path ∨ ∃ e, answer = .error e) ∧ final = disk := by
  cases h with
  | read hread h =>
      obtain ⟨hanswer, hfinal⟩ := ends_pure h
      exact ⟨.inl (hanswer.trans hread.symm), hfinal⟩
  | failedRead e h =>
      obtain ⟨hanswer, hfinal⟩ := ends_pure h
      exact ⟨.inr ⟨e, hanswer⟩, hfinal⟩

theorem ends_writing {path : String} {content : List UInt8} {answer : Except FileError Unit}
    (h : (writing path content).Ends disk answer final) :
    (answer = .ok () ∧ disk.write path content = .ok final) ∨
      ((∃ e, answer = .error e) ∧ final = disk) := by
  cases h with
  | write hwrite h =>
      obtain ⟨hanswer, rfl⟩ := ends_pure h
      exact .inl ⟨hanswer, hwrite⟩
  | failedWrite e h =>
      obtain ⟨hanswer, hfinal⟩ := ends_pure h
      exact .inr ⟨⟨e, hanswer⟩, hfinal⟩

end Inversion

end Access

-- The program in the file under a path, if there is one.
def Disk.program? (disk : Disk) (path : String) : Option Program :=
  match disk.read path with
  | .ok bytes => (Program.decode bytes).toOption
  | .error _ => none

namespace Disk

variable {disk after : Disk} {file : String} {bytes : List UInt8}

theorem program?_of_read {p : Program} (hread : disk.read file = .ok bytes)
    (hdecode : Program.decode bytes = .ok p) : disk.program? file = some p := by
  simp [program?, hread, hdecode, Except.toOption]

theorem exists_read_of_program? {p : Program} (h : disk.program? file = some p) :
    ∃ bytes, disk.read file = .ok bytes ∧ Program.decode bytes = .ok p := by
  unfold program? at h
  cases hread : disk.read file with
  | error e => simp [hread] at h
  | ok bytes =>
      cases hdecode : Program.decode bytes with
      | error e => simp [hread, hdecode, Except.toOption] at h
      | ok q =>
          obtain rfl : q = p := by simpa [hread, hdecode, Except.toOption] using h
          exact ⟨bytes, rfl, hdecode⟩

theorem fileAt?_of_write (h : disk.write file bytes = .ok after) (path : String) :
    after.fileAt? path = disk.fileAt? path := by
  obtain ⟨place, _, hnode, rfl⟩ := write_eq_ok_iff.mp h
  exact fileAt?_put hnode bytes path

theorem read_of_write (h : disk.write file bytes = .ok after) : after.read file = .ok bytes := by
  obtain ⟨place, hfile, hnode, rfl⟩ := write_eq_ok_iff.mp h
  exact read_put_of_eq hnode bytes hfile

theorem read_of_write_of_ne (h : disk.write file bytes = .ok after) {path : String}
    (hother : disk.fileAt? file ≠ disk.fileAt? path) (content : List UInt8) :
    after.read path = .ok content ↔ disk.read path = .ok content := by
  obtain ⟨place, hfile, hnode, rfl⟩ := write_eq_ok_iff.mp h
  exact read_put_of_ne hnode bytes (fun heq => hother (hfile.trans heq.symm)) content

-- A write is seen under every path that leads to the file, and under no other.
theorem program?_of_write {p : Program} (h : disk.write file p.encode = .ok after)
    (hfits : p.grid.fitsHeader = true) (path : String) :
    after.program? path = if disk.fileAt? file = disk.fileAt? path then some p else disk.program? path := by
  by_cases hsame : disk.fileAt? file = disk.fileAt? path
  · rw [if_pos hsame]
    have hafter : after.fileAt? file = after.fileAt? path := by
      rw [fileAt?_of_write h, fileAt?_of_write h, hsame]
    exact program?_of_read (read_congr hafter (read_of_write h)) (Program.decode_encode hfits)
  · rw [if_neg hsame]
    have hread := read_of_write_of_ne h hsame
    unfold program?
    cases hbefore : disk.read path with
    | ok content => rw [(hread content).mpr hbefore]
    | error e =>
        cases hafter : after.read path with
        | ok content => rw [(hread content).mp hafter] at hbefore; cases hbefore
        | error e' => rfl

end Disk

def ProgramError.isTooLarge : ProgramError → Bool
  | .tooLarge _ _ => true
  | _ => false

namespace Program

open Access

variable {path : String} {disk final : Disk}

theorem ends_load {answer : Except ProgramError Program} (h : (load path).Ends disk answer final) :
    final = disk ∧
      ((∃ bytes p, answer = .ok p ∧ disk.read path = .ok bytes ∧ decode bytes = .ok p) ∨
        ∃ e, answer = .error e ∧ e.isTooLarge = false) := by
  unfold load at h
  obtain ⟨read, between, hread, hrest⟩ := ends_bind h
  obtain ⟨hread, rfl⟩ := ends_reading hread
  cases read with
  | error cause =>
      obtain ⟨hanswer, hfinal⟩ := ends_pure hrest
      exact ⟨hfinal, .inr ⟨_, hanswer, rfl⟩⟩
  | ok bytes =>
      have hbytes : between.read path = .ok bytes := by
        rcases hread with hread | ⟨e, he⟩
        · exact hread.symm
        · cases he
      simp only at hrest
      split at hrest
      · obtain ⟨hanswer, hfinal⟩ := ends_pure hrest
        exact ⟨hfinal, .inr ⟨_, hanswer, rfl⟩⟩
      · next p hdecode =>
          obtain ⟨hanswer, hfinal⟩ := ends_pure hrest
          exact ⟨hfinal, .inl ⟨bytes, p, hanswer, hbytes, hdecode⟩⟩

theorem ends_save {p : Program} (hfits : p.grid.fitsHeader = true) {answer : Except ProgramError Unit}
    (h : (save path p).Ends disk answer final) :
    (answer = .ok () ∧ disk.write path p.encode = .ok final) ∨
      (final = disk ∧ ∃ e, answer = .error e ∧ e.isTooLarge = false) := by
  unfold save at h
  rw [if_pos hfits] at h
  obtain ⟨written, between, hwritten, hrest⟩ := ends_bind h
  rcases ends_writing hwritten with ⟨rfl, hwrite⟩ | ⟨⟨cause, rfl⟩, rfl⟩
  · obtain ⟨hanswer, rfl⟩ := ends_pure hrest
    exact .inl ⟨hanswer, hwrite⟩
  · obtain ⟨hanswer, hfinal⟩ := ends_pure hrest
    exact .inr ⟨hfinal, _, hanswer, rfl⟩

theorem ends_load_of_program? {p : Program} (h : disk.program? path = some p) :
    (load path).Ends disk (.ok p) disk := by
  obtain ⟨bytes, hread, hdecode⟩ := Disk.exists_read_of_program? h
  unfold load
  refine .bind (.read hread (.done _ _)) ?_
  simp only [hdecode]
  exact .done _ _

theorem ends_save_of_write {p : Program} (hfits : p.grid.fitsHeader = true)
    (hwrite : disk.write path p.encode = .ok final) : (save path p).Ends disk (.ok ()) final := by
  unfold save
  rw [if_pos hfits]
  exact .bind (.write hwrite (.done _ _)) (.done _ _)

-- What was read fits the header, and painting keeps the sides, so nothing but
-- the file itself stands in the way of saving it.
theorem ends_paint {point : Point} {i : Instruction} {answer : Except ProgramError Instruction}
    (h : (paint path point i).Ends disk answer final) :
    (∃ bytes p q previous, answer = .ok previous ∧ disk.read path = .ok bytes ∧
      decode bytes = .ok p ∧ p.painted point i = some q ∧ disk.write path q.encode = .ok final) ∨
      (final = disk ∧ ∃ e, answer = .error e ∧ e.isTooLarge = false) := by
  unfold paint at h
  obtain ⟨loaded, between, hloaded, hrest⟩ := ends_bind h
  obtain ⟨rfl, hloaded⟩ := ends_load hloaded
  rcases hloaded with ⟨bytes, p, rfl, hread, hdecode⟩ | ⟨e, rfl, he⟩
  · simp only at hrest
    split at hrest
    · obtain ⟨hanswer, hfinal⟩ := ends_pure hrest
      exact .inr ⟨hfinal, _, hanswer, rfl⟩
    · next previous grid hset =>
        have hpaint := painted_of_set hset
        have hfits := fitsHeader_of_painted hdecode hpaint
        obtain ⟨saved, last, hsaved, hlast⟩ := ends_bind hrest
        rcases ends_save hfits hsaved with ⟨rfl, hwrite⟩ | ⟨rfl, e, rfl, he⟩
        · obtain ⟨hanswer, rfl⟩ := ends_pure hlast
          exact .inl ⟨bytes, p, _, previous, hanswer, hread, hdecode, hpaint, hwrite⟩
        · obtain ⟨hanswer, hfinal⟩ := ends_pure hlast
          exact .inr ⟨hfinal, e, hanswer, he⟩
  · obtain ⟨hanswer, hfinal⟩ := ends_pure hrest
    exact .inr ⟨hfinal, e, hanswer, he⟩

theorem ends_paint_of_write {point : Point} {i : Instruction} {p q : Program}
    (hprogram : disk.program? path = some p) (hpaint : p.painted point i = some q)
    (hwrite : disk.write path q.encode = .ok final) :
    ∃ previous, (paint path point i).Ends disk (.ok previous) final := by
  obtain ⟨_, _, hdecode⟩ := Disk.exists_read_of_program? hprogram
  have hfits := fitsHeader_of_painted hdecode hpaint
  obtain ⟨previous, hset, hstart⟩ := exists_set_of_painted hpaint
  refine ⟨previous, ?_⟩
  unfold paint
  refine .bind (ends_load_of_program? hprogram) ?_
  simp only [hset, ← hstart]
  exact .bind (ends_save_of_write hfits hwrite) (.done _ _)

end Program

end GridWalk
