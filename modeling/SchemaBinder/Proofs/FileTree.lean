import SchemaBinder.Fault
import SchemaBinder.FileTree.Basic
import SchemaBinder.Proofs.Text
/-!
# Reading what was written

A file that is written is read back, and writing one file leaves the others as they are.

Both rest on `target_put`: a path is walked through directories, and a file is never put in the
place of a directory, so every path that led somewhere before leads there afterwards.
-/

namespace SchemaBinder

/-! ## Path names -/

namespace PathName

/-- The text can be the name of a file. -/
structure IsName (name : String) : Prop where
  nonempty : name ≠ ""
  notHere : name ≠ "."
  notOuter : name ≠ ".."
  noSlash : '/' ∉ name.toList

variable {directory name path part : String}

theorem parts_of_isName (isName : IsName name) : parts name = [name] := by
  rw [parts, Text.segments, Text.split_of_notMem isName.noSlash]
  simp [isName.nonempty]

theorem parts_append_slash (cs : List Char) (isName : IsName name) :
    parts (String.ofList (cs ++ '/' :: name.toList)) = parts (String.ofList cs) ++ [name] := by
  simp only [parts, Text.segments, String.toList_ofList, Text.split_append, List.map_append,
    List.filter_append, Text.split_of_notMem isName.noSlash]
  simp [isName.nonempty]

theorem parts_closed (cs : List Char) :
    parts (String.ofList (cs ++ ['/'])) = parts (String.ofList cs) := by
  simp [parts, Text.segments, Text.split_append, Text.split]

/-- A name below a directory is one part more. -/
theorem parts_join (directory : String) (isName : IsName name) :
    parts (join directory name) = parts directory ++ [name] := by
  rw [join]
  by_cases here : directory = ""
  · have none : parts "" = [] := by simp [parts, Text.segments, Text.split]
    rw [here, none]
    simpa using parts_of_isName isName
  · by_cases closed : endsInSlash directory = true
    · rw [if_pos (by simp [closed])]
      obtain ⟨cs, ends⟩ : ∃ cs, directory.toList = cs ++ ['/'] := by
        have last : directory.toList.getLast? = some '/' := by simpa [endsInSlash] using closed
        exact ⟨_, (List.dropLast_append_getLast? '/' last).symm⟩
      have asList : directory ++ name = String.ofList (cs ++ '/' :: name.toList) := by
        rw [← String.toList_inj]
        simp [ends]
      have asClosed : directory = String.ofList (cs ++ ['/']) := by
        rw [← String.toList_inj]
        simp [ends]
      rw [asList, parts_append_slash cs isName, asClosed, parts_closed]
    · rw [if_neg (by simp [here, closed])]
      have asList : directory ++ "/" ++ name =
          String.ofList (directory.toList ++ '/' :: name.toList) := by
        rw [← String.toList_inj]
        simp
      rw [asList, parts_append_slash directory.toList isName, String.ofList_toList]

theorem isRooted_join (directory : String) (isName : IsName name) :
    isRooted (join directory name) = isRooted directory := by
  have noSlash : name.toList.head? ≠ some '/' := fun slash =>
    isName.noSlash (List.mem_of_mem_head? slash)
  rw [join]
  by_cases here : directory = ""
  · rw [here]
    simp [isRooted, noSlash]
  · have front : directory.toList ≠ [] := by simpa using here
    obtain ⟨c, cs, starts⟩ := List.exists_cons_of_ne_nil front
    split <;> simp [isRooted, starts]

/-- A part between slashes holds none. -/
theorem noSlash_of_mem_parts (member : part ∈ parts path) : '/' ∉ part.toList := by
  obtain ⟨member, _⟩ := List.mem_filter.1 member
  obtain ⟨cs, segment, rfl⟩ := List.mem_map.1 member
  rw [String.toList_ofList]
  exact Text.notMem_of_mem_split cs segment

/-- Neither does the name at the end of a path, with its ending or without. -/
theorem noSlash_of_stem? (found : stem? path = some name) : '/' ∉ name.toList := by
  obtain ⟨whole, last, rfl⟩ := Option.map_eq_some_iff.1 found
  have isPart : whole ∈ parts path := by
    have isName : whole ∈ names path :=
      List.mem_of_getLast? (Option.filter_eq_some_iff.1 last).1
    exact List.mem_of_mem_filter isName
  have noSlash := noSlash_of_mem_parts isPart
  rw [splitName]
  split
  · exact noSlash
  · next front back _ split =>
    rw [Text.splitLast_eq split] at noSlash
    intro slash
    rw [String.toList_ofList] at slash
    exact noSlash (List.mem_append_left _ slash)
  · exact noSlash

end PathName

/-! ## Trees -/

namespace FileTree

variable {tree tree' : FileTree} {place part path other text s : String} {node : FileNode}
  {t : Target}

theorem node?_put (named : place ≠ "") (node : FileNode) (here : String) :
    (tree.put place node).node? here = if here = place then some node else tree.node? here := by
  by_cases root : here = ""
  · simp [node?, root, Ne.symm named]
  · simp [node?, root, put, SortedTable.get?_insert]

/-- What is no directory is not the root. -/
theorem ne_root (free : tree.node? place ≠ some .directory) : place ≠ "" := by
  rintro rfl
  exact free (if_pos rfl)

theorem enter_eq_ok_iff {next : String} : tree.enter place part = .ok next ↔
    isTooLong part = false ∧ tree.node? (step place part) = some .directory ∧
      next = step place part := by
  rw [enter]
  cases isTooLong part with
  | true => simp
  | false =>
    simp only [Bool.false_eq_true, if_false, true_and]
    cases tree.node? (step place part) with
    | none => simp
    | some node => cases node <;> simp [eq_comm]

/-- A step through a directory leads to the same place when something else is put in the tree. -/
theorem enter_put {start next : String} (free : tree.node? place ≠ some .directory)
    (entered : tree.enter start part = .ok next) :
    (tree.put place node).enter start part = .ok next := by
  obtain ⟨short, directory, same⟩ := enter_eq_ok_iff.1 entered
  refine enter_eq_ok_iff.2 ⟨short, ?_, same⟩
  rw [node?_put (ne_root free), if_neg]
  · exact directory
  · intro reached
    rw [reached] at directory
    exact free directory

theorem foldlM_enter_put {parts : List String} {start next : String}
    (free : tree.node? place ≠ some .directory)
    (walked : parts.foldlM tree.enter start = .ok next) :
    parts.foldlM (tree.put place node).enter start = .ok next := by
  induction parts generalizing start with
  | nil => exact walked
  | cons part rest ih =>
    rw [List.foldlM_cons] at walked ⊢
    obtain ⟨middle, entered, walked⟩ := bind_eq_ok_iff.1 walked
    exact bind_eq_ok_iff.2 ⟨middle, enter_put free entered, ih walked⟩

/-- The place that the parts of a path start from. -/
def startOf (tree : FileTree) (path : String) : String :=
  if PathName.isRooted path then "" else tree.home

/-- The directory around the end of a path. -/
def around (tree : FileTree) (path : String) : Except FileFailure String :=
  (PathName.parts path).dropLast.foldlM tree.enter (tree.startOf path)

/-- The end of a path, once its directory is known. -/
def targetIn (path around : String) : Except FileFailure Target :=
  match (PathName.parts path).getLast? with
  | none => .ok ⟨around, false, true⟩
  | some part =>
    if isTooLong part then .error .nameTooLong
    else .ok ⟨step around part, part ≠ "." && part ≠ "..", PathName.endsInSlash path⟩

/-- The path is not too long, not empty and without the character zero. -/
def IsPath (path : String) : Prop :=
  path.toList.contains (Char.ofNat 0) = false ∧ path ≠ "" ∧ ¬maxPath < path.utf8ByteSize

theorem target_eq_ok_iff : tree.target path = .ok t ↔
    IsPath path ∧ ∃ directory, tree.around path = .ok directory ∧
      targetIn path directory = .ok t := by
  rw [target, IsPath, around, startOf]
  cases path.toList.contains (Char.ofNat 0) with
  | true => simp
  | false =>
    simp only [Bool.false_eq_true, if_false, true_and]
    by_cases empty : path = ""
    · simp [empty]
    · by_cases long : maxPath < path.utf8ByteSize
      · simp [empty, long]
      · simp only [empty, long, if_false, not_false_eq_true, ne_eq, and_self, true_and]
        cases (PathName.parts path).dropLast.foldlM tree.enter
            (if PathName.isRooted path then "" else tree.home) with
        | error e => simp
        | ok directory =>
          simp only [Except.ok.injEq, exists_eq_left', targetIn]
          cases (PathName.parts path).getLast? <;> rfl

/-- A path that leads somewhere still leads there when something is put in the tree that takes the
place of no directory. -/
theorem target_put (free : tree.node? place ≠ some .directory)
    (found : tree.target path = .ok t) : (tree.put place node).target path = .ok t := by
  obtain ⟨isPath, directory, walked, inside⟩ := target_eq_ok_iff.1 found
  exact target_eq_ok_iff.2 ⟨isPath, directory, foldlM_enter_put free walked, inside⟩

theorem readText_eq_ok_iff : tree.readText path = .ok s ↔
    ∃ t, tree.target path = .ok t ∧ t.isClosed = false ∧
      tree.node? t.place = some (.file (some s)) := by
  rw [readText, bind_eq_ok_iff]
  refine exists_congr fun t => and_congr_right fun _ => ?_
  cases tree.node? t.place with
  | none => simp
  | some node =>
    cases node with
    | directory => simp
    | file text => cases t.isClosed <;> cases text <;> simp

theorem writeText_eq_ok_iff : tree.writeText path text = .ok tree' ↔
    ∃ t, tree.target path = .ok t ∧ t.isNamed = true ∧ t.isClosed = false ∧
      tree.node? t.place ≠ some .directory ∧ tree' = tree.put t.place (.file (some text)) := by
  rw [writeText, bind_eq_ok_iff]
  refine exists_congr fun t => and_congr_right fun _ => ?_
  by_cases directory : tree.node? t.place = some .directory
  · simp [directory]
  · cases t.isNamed <;> cases t.isClosed <;> simp [directory]
    exact eq_comm

/-- What is written is read. -/
theorem readText_writeText (written : tree.writeText path text = .ok tree') :
    tree'.readText path = .ok text := by
  obtain ⟨t, found, _, notClosed, free, rfl⟩ := writeText_eq_ok_iff.1 written
  refine readText_eq_ok_iff.2 ⟨t, target_put free found, notClosed, ?_⟩
  rw [node?_put (ne_root free), if_pos rfl]

/-- A file at another place is read as before. -/
theorem readText_of_writeText (written : tree.writeText path text = .ok tree')
    (read : tree.readText other = .ok s)
    (apart : ∀ t t', tree.target path = .ok t → tree.target other = .ok t' →
      t'.place ≠ t.place) : tree'.readText other = .ok s := by
  obtain ⟨t, found, _, _, free, rfl⟩ := writeText_eq_ok_iff.1 written
  obtain ⟨t', there, notClosed, file⟩ := readText_eq_ok_iff.1 read
  refine readText_eq_ok_iff.2 ⟨t', target_put free there, notClosed, ?_⟩
  rw [node?_put (ne_root free), if_neg (apart t t' found there)]
  exact file

/-- The place of a name below a directory is found once the directory is. -/
theorem target_join {directory name : String} (isName : PathName.IsName name)
    (found : tree.target (PathName.join directory name) = .ok t) :
    ∃ place, (PathName.parts directory).foldlM tree.enter (tree.startOf directory) = .ok place ∧
      t.place = inner place name := by
  obtain ⟨_, place, walked, inside⟩ := target_eq_ok_iff.1 found
  rw [around, startOf, PathName.isRooted_join directory isName, PathName.parts_join directory isName,
    List.dropLast_concat] at walked
  rw [targetIn, PathName.parts_join directory isName, List.getLast?_concat] at inside
  refine ⟨place, walked, ?_⟩
  dsimp only at inside
  split at inside
  · cases inside
  · cases inside
    rw [step, if_neg isName.notHere, if_neg isName.notOuter]

/-- Two names in one directory are at different places. -/
theorem place_ne_of_name_ne {directory name name' : String} {t' : Target}
    (isName : PathName.IsName name) (isName' : PathName.IsName name') (differ : name ≠ name')
    (found : tree.target (PathName.join directory name) = .ok t)
    (found' : tree.target (PathName.join directory name') = .ok t') : t'.place ≠ t.place := by
  obtain ⟨place, walked, same⟩ := target_join isName found
  obtain ⟨place', walked', same'⟩ := target_join isName' found'
  cases walked.symm.trans walked'
  rw [same, same', inner, inner]
  intro equal
  have asLists := congrArg String.toList equal
  simp only [String.toList_append, List.append_assoc, List.append_cancel_left_eq] at asLists
  exact differ (String.toList_inj.1 asLists).symm

end FileTree

end SchemaBinder
