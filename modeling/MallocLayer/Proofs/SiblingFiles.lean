import MallocLayer.Files.Tree.Lemmas

/-!
# Files beside each other

Writing to a path changes the file that it leads to, and a path to another name in the
same directory does not lead to that file. Hence one file is read as before after
another one was written beside it (`read_write_beside`), and two names joined to one
directory are such paths, whatever the text of the directory looks like
(`beside_join`).
-/

namespace MallocLayer.FileTree

/-! ## 1. Where a path leads -/

/-- The place, taken or not. -/
def Target.place : Target → List String
  | .found place | .vacant place => place

/-- The last name of a path is looked up in the directory that the others lead to. -/
theorem target_place {t : FileTree} {path : FilePath} {name : String} {target : Target}
    (last : path.names.getLast? = some name) (here : name ≠ ".") (up : name ≠ "..")
    (leads : t.target path = .ok target) :
    ∃ directory,
      path.names.dropLast.foldlM t.enter (if path.absolute then [] else t.workingDirectory) =
        .ok directory ∧ target.place = directory ++ [name] := by
  unfold FileTree.target at leads
  simp only [last] at leads
  cases followed : path.names.dropLast.foldlM t.enter
      (if path.absolute then [] else t.workingDirectory) with
  | error err => simp [followed] at leads
  | ok directory =>
    refine ⟨directory, rfl, ?_⟩
    simp only [followed] at leads
    cases entered : t.enter directory name with
    | error err =>
      cases err <;> simp only [entered] at leads <;> cases leads
      rfl
    | ok place =>
      simp only [entered] at leads
      cases leads
      have inside := hasDirectory_of_enter entered
      rw [enter_eq_of_hasDirectory name inside, if_neg here, if_neg up] at entered
      split at entered
      · cases entered
      · split at entered
        · cases entered
          rfl
        · cases entered

theorem Grows.target {t u : FileTree} (grows : Grows t u) {path : FilePath} {place : List String}
    (leads : t.target path = .ok (.found place)) : u.target path = .ok (.found place) := by
  unfold FileTree.target at leads ⊢
  rw [grows.workingDirectory]
  cases last : path.names.getLast? with
  | none => simpa [last] using leads
  | some name =>
    simp only [last] at leads ⊢
    generalize (if path.absolute = true then [] else t.workingDirectory) = start at *
    cases followed : path.names.dropLast.foldlM t.enter start with
    | error err => simp [followed] at leads
    | ok directory =>
      simp only [followed] at leads
      simp only [grows.follow followed]
      cases entered : t.enter directory name with
      | ok next =>
        simp only [entered] at leads
        simp only [grows.enter entered]
        exact leads
      | error err => cases err <;> simp only [entered] at leads <;> cases leads

/-! ## 2. Reading and writing -/

theorem read_eq_ok {t : FileTree} {path : String} {contents : ByteArray}
    (read : t.read path = .ok contents) :
    ∃ p place, FilePath.ofString path = .ok p ∧ t.target p = .ok (.found place) ∧
      t.file? place = some contents ∧ p.asksDirectory = false := by
  unfold FileTree.read at read
  cases parsed : FilePath.ofString path with
  | error err => simp [parsed, bind, Except.bind] at read
  | ok p =>
    simp only [parsed, bind, Except.bind] at read
    cases leads : t.target p with
    | error err => simp [leads] at read
    | ok target =>
      rw [leads] at read
      cases target with
      | vacant place => cases read
      | found place =>
        dsimp only at read
        cases file : t.file? place with
        | none => simp only [file] at read; cases read
        | some old =>
          simp only [file] at read
          split at read
          · cases read
          next asks =>
            cases read
            exact ⟨p, place, rfl, leads, file, Bool.eq_false_iff.2 asks⟩

theorem read_of_found {t : FileTree} {path : String} {p : FilePath} {place : List String}
    {contents : ByteArray} (parsed : FilePath.ofString path = .ok p)
    (leads : t.target p = .ok (.found place)) (file : t.file? place = some contents)
    (asks : p.asksDirectory = false) : t.read path = .ok contents := by
  unfold FileTree.read
  simp only [parsed, bind, Except.bind, leads, file, asks, Bool.false_eq_true, if_false]
  rfl

theorem write_eq_ok {t u : FileTree} {path : String} {contents : ByteArray}
    (written : t.write path contents = .ok u) :
    ∃ p target, FilePath.ofString path = .ok p ∧ t.target p = .ok target ∧
      u = t.put target.place contents := by
  unfold FileTree.write at written
  cases parsed : FilePath.ofString path with
  | error err => simp [parsed, bind, Except.bind] at written
  | ok p =>
    simp only [parsed, bind, Except.bind] at written
    cases leads : t.target p with
    | error err => simp [leads] at written
    | ok target =>
      rw [leads] at written
      cases target with
      | found place =>
        dsimp only at written
        split at written
        · cases written
        · cases written
          exact ⟨p, .found place, rfl, leads, rfl⟩
      | vacant place =>
        dsimp only at written
        split at written
        · cases written
        · cases written
          exact ⟨p, .vacant place, rfl, leads, rfl⟩

/-! ## 3. Files beside each other -/

/-- The paths name different things in one directory. -/
structure Beside (p q : FilePath) : Prop where
  absolute : p.absolute = q.absolute
  directory : p.names.dropLast = q.names.dropLast
  names : ∃ a b, p.names.getLast? = some a ∧ q.names.getLast? = some b ∧ a ≠ b ∧
    (a ≠ "." ∧ a ≠ "..") ∧ b ≠ "." ∧ b ≠ ".."

theorem Beside.ne {t : FileTree} {p q : FilePath} (beside : Beside p q) {mine other : Target}
    (leads : t.target p = .ok mine) (leadsOther : t.target q = .ok other) :
    mine.place ≠ other.place := by
  obtain ⟨a, b, lastA, lastB, ne, ⟨hereA, upA⟩, hereB, upB⟩ := beside.names
  obtain ⟨d, followed, place⟩ := target_place lastA hereA upA leads
  obtain ⟨d', followed', place'⟩ := target_place lastB hereB upB leadsOther
  rw [beside.absolute, beside.directory, followed'] at followed
  cases followed
  rw [place, place']
  intro same
  exact ne (List.cons.inj (List.append_cancel_left same)).1

/-- A file is as it was after something was written beside it. -/
theorem read_write_beside {t u : FileTree} {path other : String} {old contents : ByteArray}
    (beside : ∀ p q, FilePath.ofString path = .ok p → FilePath.ofString other = .ok q → Beside p q)
    (read : t.read path = .ok old) (written : t.write other contents = .ok u) :
    u.read path = .ok old := by
  obtain ⟨p, mine, parsed, leads, file, asks⟩ := read_eq_ok read
  obtain ⟨q, target, parsedOther, leadsOther, rfl⟩ := write_eq_ok written
  have ne : mine ≠ target.place := (beside p q parsed parsedOther).ne leads leadsOther
  refine read_of_found parsed ((grows_put t target.place contents).target leads) ?_ asks
  rw [file?_put, if_neg ne, file]

/-! ## 4. Paths into one directory -/

theorem ofString_eq_ok {path : String} {p : FilePath} (parsed : FilePath.ofString path = .ok p) :
    p.names = FilePath.namesOf path ∧ p.absolute = FilePath.startsAtRoot path := by
  unfold FilePath.ofString at parsed
  split at parsed
  · cases parsed
  · split at parsed
    · cases parsed
    · split at parsed
      · cases parsed
      · cases parsed
        exact ⟨rfl, rfl⟩

theorem namesOf_of_slash {path : String} {front file : List Char}
    (shape : path.toList = front ++ '/' :: file) :
    FilePath.namesOf path =
      FilePath.namesOf (String.ofList front) ++ FilePath.namesOf (String.ofList file) := by
  simp only [FilePath.namesOf, shape, List.splitOn_append_cons_self, List.map_append,
    List.filter_append, String.toList_ofList]

theorem namesOf_name {file : String} (plain : '/' ∉ file.toList) (nonempty : file ≠ "") :
    FilePath.namesOf file = [file] := by
  rw [FilePath.namesOf, List.splitOn_eq_singleton plain, List.map_singleton, String.ofList_toList]
  exact List.filter_cons_of_pos (bne_iff_ne.2 nonempty)

theorem startsAtRoot_name {file : String} (plain : '/' ∉ file.toList) :
    FilePath.startsAtRoot file = false := by
  cases rooted : FilePath.startsAtRoot file with
  | false => rfl
  | true => exact absurd (List.mem_of_head? (beq_iff_eq.1 rooted)) plain

/-- The text of a directory either is empty, or ends in a slash, or gets one. -/
theorem join_cases (directory : String) {file : String} (plain : '/' ∉ file.toList) :
    (directory = "" ∧ FileStore.join directory file = file) ∨
      (∃ front, directory.toList = front ++ ['/'] ∧
        (FileStore.join directory file).toList = front ++ '/' :: file.toList) ∨
      (directory ≠ "" ∧
        (FileStore.join directory file).toList = directory.toList ++ '/' :: file.toList) := by
  unfold FileStore.join
  rw [startsAtRoot_name plain, if_neg Bool.false_ne_true]
  by_cases empty : directory = ""
  · subst empty
    exact .inl ⟨rfl, String.empty_append⟩
  · have full : directory.isEmpty = false := by
      rw [Bool.eq_false_iff]
      exact fun none => empty (String.isEmpty_iff.1 none)
    cases slash : directory.toList.getLast? == some '/' with
    | true =>
      obtain ⟨front, shape⟩ := List.getLast?_eq_some_iff.1 (beq_iff_eq.1 slash)
      refine .inr (.inl ⟨front, shape, ?_⟩)
      simp [full, shape]
    | false =>
      refine .inr (.inr ⟨empty, ?_⟩)
      simp [full]

/-- The name of a file comes after those of its directory. -/
theorem namesOf_join (directory : String) {file : String} (plain : '/' ∉ file.toList)
    (nonempty : file ≠ "") :
    FilePath.namesOf (FileStore.join directory file) = FilePath.namesOf directory ++ [file] := by
  have name := namesOf_name plain nonempty
  rcases join_cases directory plain with ⟨rfl, same⟩ | ⟨front, ends, shape⟩ | ⟨_, shape⟩
  · rw [same, name]
    rfl
  · have nothing : FilePath.namesOf (String.ofList []) = [] := rfl
    rw [namesOf_of_slash shape, namesOf_of_slash ends, String.ofList_toList, name, nothing,
      List.append_nil]
  · rw [namesOf_of_slash shape, String.ofList_toList, String.ofList_toList, name]

theorem startsAtRoot_join (directory : String) {file : String} (plain : '/' ∉ file.toList) :
    FilePath.startsAtRoot (FileStore.join directory file) = FilePath.startsAtRoot directory := by
  rcases join_cases directory plain with ⟨rfl, same⟩ | ⟨front, ends, shape⟩ | ⟨nonempty, shape⟩
  · rw [same, startsAtRoot_name plain]
    rfl
  · rw [FilePath.startsAtRoot, FilePath.startsAtRoot, shape, ends]
    cases front <;> rfl
  · rw [FilePath.startsAtRoot, FilePath.startsAtRoot, shape]
    cases directory_eq : directory.toList with
    | nil => exact absurd (String.toList_eq_nil_iff.1 directory_eq) nonempty
    | cons c rest => rfl

/-- Two files in a directory are beside each other. -/
theorem beside_join (directory : String) {a b : String} (ne : a ≠ b)
    (plainA : '/' ∉ a.toList ∧ a ≠ "" ∧ a ≠ "." ∧ a ≠ "..")
    (plainB : '/' ∉ b.toList ∧ b ≠ "" ∧ b ≠ "." ∧ b ≠ "..") {p q : FilePath}
    (parsedA : FilePath.ofString (FileStore.join directory a) = .ok p)
    (parsedB : FilePath.ofString (FileStore.join directory b) = .ok q) : Beside p q := by
  obtain ⟨namesA, absoluteA⟩ := ofString_eq_ok parsedA
  obtain ⟨namesB, absoluteB⟩ := ofString_eq_ok parsedB
  rw [namesOf_join directory plainA.1 plainA.2.1] at namesA
  rw [namesOf_join directory plainB.1 plainB.2.1] at namesB
  rw [startsAtRoot_join directory plainA.1] at absoluteA
  rw [startsAtRoot_join directory plainB.1] at absoluteB
  constructor
  · rw [absoluteA, absoluteB]
  · rw [namesA, namesB, List.dropLast_concat, List.dropLast_concat]
  · exact ⟨a, b, by rw [namesA, List.getLast?_concat], by rw [namesB, List.getLast?_concat], ne,
      plainA.2.2, plainB.2.2⟩

end MallocLayer.FileTree
