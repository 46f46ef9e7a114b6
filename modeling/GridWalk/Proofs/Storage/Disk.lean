import GridWalk.Storage.Disk

namespace GridWalk.Disk

section Put

variable {disk : Disk} {place : Place}

theorem names_ne_nil_of_node? (h : disk.node? place ≠ some .directory) : place.names ≠ [] := by
  intro hnames
  simp [node?, hnames] at h

theorem node?_put_self (hnames : place.names ≠ []) (node : Node) :
    (disk.put place node).node? place = some node := by
  simp [node?, put, hnames]

theorem node?_put_of_ne {other : Place} (hne : other ≠ place) (node : Node) :
    (disk.put place node).node? other = disk.node? other := by
  have hlookup : (disk.put place node).nodes.lookup other = disk.nodes.lookup other := by
    simp only [put, List.lookup_cons, beq_eq_false_iff_ne.mpr hne]
    induction disk.nodes with
    | nil => rfl
    | cons entry rest ih =>
        obtain ⟨there, stored⟩ := entry
        by_cases hthere : there = place
        · have hother : (other == there) = false := beq_eq_false_iff_ne.mpr (hthere ▸ hne)
          simp only [List.filter_cons, hthere, ne_eq, not_true_eq_false, decide_false,
            Bool.false_eq_true, if_false, ih]
          rw [List.lookup_cons, ← hthere, hother]
        · simp only [List.filter_cons, hthere, ne_eq, not_false_eq_true, decide_true, if_true,
            List.lookup_cons, ih]
  simp only [node?, hlookup]

end Put

-- The place of the file that is read or written under a path, whether or not
-- there is one yet.
def fileAt? (disk : Disk) (path : String) : Option Place :=
  match disk.target path with
  | .ok (.entry here name false) =>
      if maxName < name.utf8ByteSize then none else some (here.child name)
  | _ => none

theorem fileAt?_eq_some_iff {disk : Disk} {path : String} {place : Place} :
    disk.fileAt? path = some place ↔
      ∃ here name, disk.target path = .ok (.entry here name false) ∧
        ¬maxName < name.utf8ByteSize ∧ place = here.child name := by
  unfold fileAt?
  split
  · next here name htarget =>
      constructor
      · intro h
        split at h
        · cases h
        · next hname =>
            cases h
            exact ⟨here, name, htarget, hname, rfl⟩
      · rintro ⟨here', name', htarget', hname, rfl⟩
        rw [htarget] at htarget'
        cases htarget'
        rw [if_neg hname]
  · next hother =>
      constructor
      · nofun
      · rintro ⟨here, name, htarget, _⟩
        exact absurd htarget (hother here name)

theorem read_eq_ok_iff {disk : Disk} {path : String} {bytes : List UInt8} :
    disk.read path = .ok bytes ↔
      ∃ place, disk.fileAt? path = some place ∧ disk.node? place = some (.file bytes) := by
  constructor
  · intro h
    unfold read find at h
    cases htarget : disk.target path with
    | error e => simp [htarget] at h
    | ok target =>
        cases target with
        | directory => simp [htarget] at h
        | entry here name slashed =>
            by_cases hname : maxName < name.utf8ByteSize
            · simp [htarget, hname] at h
            · cases hnode : disk.node? (here.child name) with
              | none => simp [htarget, hname, hnode] at h
              | some node =>
                  cases node with
                  | directory => simp [htarget, hname, hnode] at h
                  | file content =>
                      cases slashed with
                      | true => simp [htarget, hname, hnode] at h
                      | false =>
                          simp only [htarget, hname, hnode, if_false, Bool.false_eq_true,
                            Except.ok.injEq] at h
                          subst h
                          exact ⟨_, fileAt?_eq_some_iff.mpr ⟨here, name, htarget, hname, rfl⟩, hnode⟩
  · rintro ⟨place, hfile, hnode⟩
    obtain ⟨here, name, htarget, hname, rfl⟩ := fileAt?_eq_some_iff.mp hfile
    simp [read, find, htarget, hname, hnode]

theorem contains_of_read {disk : Disk} {path : String} {bytes : List UInt8}
    (h : disk.read path = .ok bytes) : disk.contains path = true := by
  unfold read at h
  unfold contains
  cases hfind : disk.find path with
  | error e => simp [hfind] at h
  | ok node => rfl

theorem read_congr {disk : Disk} {path other : String} {bytes : List UInt8}
    (hsame : disk.fileAt? path = disk.fileAt? other) (hread : disk.read path = .ok bytes) :
    disk.read other = .ok bytes := by
  obtain ⟨place, hfile, hnode⟩ := read_eq_ok_iff.mp hread
  exact read_eq_ok_iff.mpr ⟨place, hsame.symm.trans hfile, hnode⟩

theorem write_eq_ok_iff {disk after : Disk} {path : String} {bytes : List UInt8} :
    disk.write path bytes = .ok after ↔
      ∃ place, disk.fileAt? path = some place ∧ disk.node? place ≠ some .directory ∧
        after = disk.put place (.file bytes) := by
  constructor
  · intro h
    unfold write at h
    cases htarget : disk.target path with
    | error e => simp [htarget] at h
    | ok target =>
        cases target with
        | directory => simp [htarget] at h
        | entry here name slashed =>
            cases slashed with
            | true => simp [htarget] at h
            | false =>
                by_cases hname : maxName < name.utf8ByteSize
                · simp [htarget, hname] at h
                · by_cases hnode : disk.node? (here.child name) = some .directory
                  · simp [htarget, hname, hnode] at h
                  · simp only [htarget, hname, hnode, if_false, Bool.false_eq_true,
                      Except.ok.injEq] at h
                    exact ⟨_, fileAt?_eq_some_iff.mpr ⟨here, name, htarget, hname, rfl⟩, hnode, h.symm⟩
  · rintro ⟨place, hfile, hnode, rfl⟩
    obtain ⟨here, name, htarget, hname, rfl⟩ := fileAt?_eq_some_iff.mp hfile
    simp [write, htarget, hname, hnode]

-- A written file takes no directory's place and makes none, so paths lead
-- through the same directories before and after.
section Resolution

variable {disk : Disk} {place : Place} (hnode : disk.node? place ≠ some .directory)
  (bytes : List UInt8)

include hnode

theorem walk_put (here : Place) (names : List String) (there : Place) :
    (disk.put place (.file bytes)).walk here names = .ok there ↔ disk.walk here names = .ok there := by
  induction names generalizing here with
  | nil => rfl
  | cons name rest ih =>
      unfold walk
      by_cases hdot : name = "."
      · simp only [if_pos hdot, ih]
      by_cases hdots : name = ".."
      · simp only [if_neg hdot, if_pos hdots, ih]
      by_cases hlong : maxName < name.utf8ByteSize
      · simp only [if_neg hdot, if_neg hdots, if_pos hlong]
      simp only [if_neg hdot, if_neg hdots, if_neg hlong]
      by_cases hchild : here.child name = place
      · rw [hchild, node?_put_self (names_ne_nil_of_node? hnode)]
        cases hbefore : disk.node? place with
        | none => simp
        | some node =>
            cases node with
            | directory => exact absurd hbefore hnode
            | file content => simp
      · rw [node?_put_of_ne hchild]
        cases disk.node? (here.child name) with
        | none => simp
        | some node =>
            cases node with
            | directory => exact ih (here.child name)
            | file content => simp

theorem target_put (path : String) (reached : Target) :
    (disk.put place (.file bytes)).target path = .ok reached ↔ disk.target path = .ok reached := by
  have hmap : ∀ (f : Place → Target) (here : Place) (names : List String),
      f <$> (disk.put place (.file bytes)).walk here names = .ok reached ↔
        f <$> disk.walk here names = .ok reached := by
    intro f here names
    have hwalk := walk_put hnode bytes here names
    cases hbefore : disk.walk here names with
    | ok there => rw [(hwalk there).mpr hbefore]
    | error e =>
        cases hafter : (disk.put place (.file bytes)).walk here names with
        | ok there => rw [(hwalk there).mp hafter] at hbefore; cases hbefore
        | error e' => constructor <;> nofun
  unfold target
  split
  · rfl
  split
  · rfl
  split
  · rfl
  simp only
  split
  · rfl
  split
  · exact hmap _ _ _
  · exact hmap _ _ _

theorem fileAt?_put (path : String) :
    (disk.put place (.file bytes)).fileAt? path = disk.fileAt? path := by
  apply Option.ext
  intro there
  simp only [fileAt?_eq_some_iff, target_put hnode bytes]

theorem read_put_of_eq {path : String} (hfile : disk.fileAt? path = some place) :
    (disk.put place (.file bytes)).read path = .ok bytes :=
  read_eq_ok_iff.mpr ⟨place, (fileAt?_put hnode bytes path).trans hfile,
    node?_put_self (names_ne_nil_of_node? hnode) _⟩

theorem read_put_of_ne {path : String} (hfile : disk.fileAt? path ≠ some place)
    (content : List UInt8) :
    (disk.put place (.file bytes)).read path = .ok content ↔ disk.read path = .ok content := by
  simp only [read_eq_ok_iff, fileAt?_put hnode bytes]
  constructor
  · rintro ⟨there, hthere, hcontent⟩
    have hne : there ≠ place := fun heq => hfile (heq ▸ hthere)
    exact ⟨there, hthere, (node?_put_of_ne hne _).symm.trans hcontent⟩
  · rintro ⟨there, hthere, hcontent⟩
    have hne : there ≠ place := fun heq => hfile (heq ▸ hthere)
    exact ⟨there, hthere, (node?_put_of_ne hne _).trans hcontent⟩

end Resolution

end GridWalk.Disk
