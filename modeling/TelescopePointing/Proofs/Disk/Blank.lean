import TelescopePointing.Disk
import TelescopePointing.Proofs.Alike

namespace TelescopePointing

def DiskNode.blank : DiskNode → DiskNode
  | folder => folder
  | file _ => file ""

namespace Disk

/-- A disk with all its files emptied. Whether an action on a disk succeeds does not depend on what
the files hold. -/
def blank (d : Disk) : Disk := { d with nodes := d.nodes.map fun e => (e.1, e.2.blank) }

theorem node?_blank (d : Disk) (place : List String) :
    d.blank.node? place = (d.node? place).map DiskNode.blank := by
  unfold node?
  split
  · rfl
  · simp only [blank]
    induction d.nodes with
    | nil => rfl
    | cons e rest ih =>
      rw [List.map_cons, List.lookup_cons, List.lookup_cons]
      cases h : place == e.1 with
      | true => rfl
      | false => exact ih

theorem blank_put (d : Disk) (place : List String) (n : DiskNode) :
    (d.put place n).blank = d.blank.put place n.blank := by
  simp only [put, blank, List.map_cons, List.filter_map]
  rfl

theorem enter_blank (d : Disk) (here names : List String) :
    d.blank.enter here names = d.enter here names := by
  unfold enter
  induction names generalizing here with
  | nil => rfl
  | cons name names ih =>
    rw [List.foldlM_cons, List.foldlM_cons]
    cases hchild : child here name with
    | error fault => rfl
    | ok next =>
      have hnode := d.node?_blank next
      simp only [bind, Except.bind] at ih ⊢
      rw [hnode]
      cases d.node? next with
      | none => rfl
      | some n =>
        cases n with
        | folder => exact ih next
        | file text => rfl

theorem place_blank (d : Disk) (path : String) : d.blank.place path = d.place path := by
  have horigin : d.blank.origin path = d.origin path := rfl
  simp only [place, enter_blank, horigin]

theorem write_blank (d : Disk) (path text : String) :
    (d.write path text).map blank = d.blank.write path "" := by
  unfold write
  rw [place_blank]
  cases d.place path with
  | error fault => rfl
  | ok place =>
    simp only [bind, Except.bind]
    rw [node?_blank]
    cases d.node? place with
    | none =>
      simp only [Option.map_none]
      split
      · rfl
      · split
        · rfl
        · exact congrArg Except.ok (blank_put d place _)
    | some n =>
      cases n with
      | folder => rfl
      | file known =>
        simp only [Option.map_some, DiskNode.blank]
        split
        · rfl
        · split
          · rfl
          · exact congrArg Except.ok (blank_put d place _)

/-- What a file holds does not decide whether it can be written. -/
theorem write_alike {d d' : Disk} (h : d'.blank = d.blank) (path text text' : String) :
    Alike (fun x y => y.blank = x.blank) (d.write path text) (d'.write path text') :=
  .of_map_eq (by rw [write_blank, write_blank, h])

theorem makeFolder_blank (d : Disk) (start names : List String) :
    (d.makeFolder start names).map blank = d.blank.makeFolder start names := by
  unfold makeFolder
  rw [enter_blank]
  cases d.enter start names.dropLast with
  | error fault => rfl
  | ok here =>
    simp only [bind, Except.bind]
    cases child here (names.getLast?.getD ".") with
    | error fault => rfl
    | ok next =>
      simp only
      rw [node?_blank]
      cases d.node? next with
      | none => exact congrArg Except.ok (blank_put d next .folder)
      | some n => rfl

theorem makeFolders_blank (start : List String) (fuel : Nat) (names : List String) (d : Disk) :
    (makeFolders start fuel names d).map blank = makeFolders start fuel names d.blank := by
  induction fuel generalizing names d with
  | zero => rfl
  | succ fuel ih =>
    unfold makeFolders
    dsimp only
    rw [← makeFolder_blank]
    cases d.makeFolder start names with
    | ok made => rfl
    | error fault =>
      cases fault with
      | notFound =>
        simp only [Except.map]
        rw [← ih]
        cases makeFolders start fuel (Path.parent names) d with
        | error fault => rfl
        | ok way =>
          simp only [Except.map, bind, Except.bind]
          rw [← makeFolder_blank]
          cases way.makeFolder start names with
          | ok made => rfl
          | error fault =>
            dsimp only
            rw [enter_blank]
            cases way.enter start names <;> rfl
      | _ =>
        dsimp only
        rw [enter_blank]
        cases d.enter start names <;> rfl

theorem createFolder_blank (d : Disk) (path : String) :
    (d.createFolder path).map blank = d.blank.createFolder path := by
  unfold createFolder
  cases checkPath path with
  | error fault => rfl
  | ok _ => exact makeFolders_blank (d.origin path) _ _ d

theorem createFolder_alike {d d' : Disk} (h : d'.blank = d.blank) (path : String) :
    Alike (fun x y => y.blank = x.blank) (d.createFolder path) (d'.createFolder path) :=
  .of_map_eq (by rw [createFolder_blank, createFolder_blank, h])

end Disk

end TelescopePointing
