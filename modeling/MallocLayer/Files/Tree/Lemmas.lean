import MallocLayer.Files.Tree

/-!
# What is read after a write

A path that leads somewhere leads to the same place in every tree that holds
more. Writing adds to a tree, so a path that was written to leads to what was
written: `read_write`.
-/

namespace MallocLayer.FileTree

/-- Tree `u` has something wherever `t` has something, and a directory wherever
`t` has one. -/
structure Grows (t u : FileTree) : Prop where
  workingDirectory : u.workingDirectory = t.workingDirectory
  hasDirectory : ∀ place, t.hasDirectory place = true → u.hasDirectory place = true
  has : ∀ place, t.has place = true → u.has place = true

theorem enter_eq_of_hasDirectory {t : FileTree} {place : List String} (name : String)
    (directory : t.hasDirectory place = true) :
    t.enter place name =
      if name = "." then .ok place
      else if name = ".." then .ok place.dropLast
      else if FilePath.longestName < name.utf8ByteSize then .error .nameTooLong
      else if t.has (place ++ [name]) then .ok (place ++ [name])
      else .error .notFound := by
  simp [enter, directory]

/-- Names are looked up in directories only. -/
theorem hasDirectory_of_enter {t : FileTree} {place next : List String} {name : String}
    (entered : t.enter place name = .ok next) : t.hasDirectory place = true := by
  by_cases directory : t.hasDirectory place = true
  · exact directory
  · simp [enter, directory] at entered

theorem Grows.enter {t u : FileTree} (grows : Grows t u) {place next : List String}
    {name : String} (entered : t.enter place name = .ok next) :
    u.enter place name = .ok next := by
  have directory := hasDirectory_of_enter entered
  rw [enter_eq_of_hasDirectory name directory] at entered
  rw [enter_eq_of_hasDirectory name (grows.hasDirectory place directory)]
  by_cases there : t.has (place ++ [name]) = true
  · rwa [if_pos there, ← if_pos (c := u.has (place ++ [name]) = true) (grows.has _ there)
      (t := (.ok (place ++ [name]) : Except FileError _)) (e := .error .notFound)] at entered
  · rw [if_neg there] at entered
    split at entered
    · rw [if_pos ‹_›]; exact entered
    · split at entered
      · rw [if_neg ‹_›, if_pos ‹_›]; exact entered
      · split at entered <;> cases entered

theorem Grows.follow {t u : FileTree} (grows : Grows t u) {names : List String}
    {start place : List String} (followed : names.foldlM t.enter start = .ok place) :
    names.foldlM u.enter start = .ok place := by
  induction names generalizing start with
  | nil => exact followed
  | cons name names ih =>
    rw [List.foldlM_cons] at followed ⊢
    cases entered : t.enter start name with
    | error err => rw [entered] at followed; cases followed
    | ok next =>
      rw [entered] at followed
      rw [grows.enter entered]
      exact ih followed

/-- A name leads to a vacant place only in a directory that has no such name. -/
theorem enter_eq_notFound {t : FileTree} {place : List String} {name : String}
    (missing : t.enter place name = .error .notFound) :
    t.hasDirectory place = true ∧ name ≠ "." ∧ name ≠ ".." ∧
      ¬ FilePath.longestName < name.utf8ByteSize := by
  by_cases directory : t.hasDirectory place = true
  · rw [enter_eq_of_hasDirectory name directory] at missing
    refine ⟨directory, ?_, ?_, ?_⟩
    · intro h; rw [if_pos h] at missing; cases missing
    · intro h; simp [h] at missing
    · intro h
      rw [if_pos h] at missing
      split at missing
      · cases missing
      · split at missing <;> cases missing
  · simp [enter, directory] at missing

/-! ## Putting a file -/

theorem lookup_filter_ne {α β : Type} [BEq α] [LawfulBEq α] {k other : α} (ne : other ≠ k)
    (l : List (α × β)) : (l.filter (·.1 != k)).lookup other = l.lookup other := by
  induction l with
  | nil => rfl
  | cons x l ih =>
    obtain ⟨a, b⟩ := x
    by_cases same : a = k
    · subst same
      have : (other == a) = false := by simpa using ne
      simp [List.lookup_cons, this, ih]
    · simp [same, List.lookup_cons, ih]

theorem file?_put (t : FileTree) (place other : List String) (contents : ByteArray) :
    (t.put place contents).file? other =
      if other = place then some contents else t.file? other := by
  by_cases same : other = place
  · subst same; simp [put, file?]
  · have : (other == place) = false := by simpa using same
    simp [put, file?, List.lookup_cons, this, same, lookup_filter_ne same]

theorem hasDirectory_put {t : FileTree} {place other : List String} {contents : ByteArray}
    (directory : t.hasDirectory other = true) :
    (t.put place contents).hasDirectory other = true := by
  simp only [hasDirectory, put, List.any_cons, Bool.or_eq_true] at directory ⊢
  rcases directory with (root | made) | implied
  · exact .inl (.inl root)
  · exact .inl (.inr made)
  · obtain ⟨⟨file, old⟩, mem, inside⟩ := List.any_eq_true.1 implied
    by_cases same : file = place
    · subst same; exact .inr (.inl inside)
    · exact .inr (.inr (List.any_eq_true.2
        ⟨(file, old), List.mem_filter.2 ⟨mem, by simpa using same⟩, inside⟩))

theorem grows_put (t : FileTree) (place : List String) (contents : ByteArray) :
    Grows t (t.put place contents) where
  workingDirectory := rfl
  hasDirectory _ := hasDirectory_put
  has other there := by
    simp only [FileTree.has, Bool.or_eq_true, file?_put] at there ⊢
    rcases there with file | directory
    · by_cases same : other = place
      · simp [same]
      · simp only [same, if_false]; exact .inl file
    · exact .inr (hasDirectory_put directory)

/-- A path that leads to a place, taken or not, leads to the file put there. -/
theorem target_put {t : FileTree} {path : FilePath} {place : List String}
    (contents : ByteArray)
    (leads : t.target path = .ok (.found place) ∨ t.target path = .ok (.vacant place)) :
    (t.put place contents).target path = .ok (.found place) := by
  have grows := grows_put t place contents
  unfold target at leads ⊢
  rw [grows.workingDirectory]
  cases last : path.names.getLast? with
  | none => simpa [last] using leads
  | some name =>
    simp only [last] at leads ⊢
    generalize (if path.absolute = true then [] else t.workingDirectory) = start at *
    cases followed : path.names.dropLast.foldlM t.enter start with
    | error err => simp [followed] at leads
    | ok directory =>
      simp only [followed] at leads
      simp only [grows.follow followed]
      cases entered : t.enter directory name with
      | ok next =>
        have same : next = place := by simpa [entered] using leads
        rw [grows.enter entered, same]
      | error err =>
        by_cases missing : err = .notFound
        · subst missing
          have same : directory ++ [name] = place := by simpa [entered] using leads
          obtain ⟨isDirectory, notHere, notUp, short⟩ := enter_eq_notFound entered
          have there : (t.put place contents).has place = true := by
            simp [FileTree.has, file?_put]
          rw [enter_eq_of_hasDirectory name (hasDirectory_put isDirectory), if_neg notHere,
            if_neg notUp, if_neg short, same, if_pos there]
        · cases err <;> simp_all

/-- What was written to a path is read from it. -/
theorem read_write {t u : FileTree} {path : String} {contents : ByteArray}
    (written : t.write path contents = .ok u) : u.read path = .ok contents := by
  unfold FileTree.write at written
  unfold FileTree.read
  cases parsed : FilePath.ofString path with
  | error err => simp [parsed, bind, Except.bind] at written
  | ok p =>
    simp only [parsed, bind, Except.bind] at written ⊢
    cases leads : t.target p with
    | error err => simp [leads] at written
    | ok target =>
      rw [leads] at written
      cases target with
      | found place =>
        dsimp only at written
        split at written
        · cases written
        next no =>
          cases written
          rw [target_put contents (.inl leads)]
          simp_all [file?_put, pure, Except.pure]
      | vacant place =>
        dsimp only at written
        split at written
        · cases written
        next no =>
          cases written
          rw [target_put contents (.inr leads)]
          simp_all [file?_put, pure, Except.pure]

end MallocLayer.FileTree
