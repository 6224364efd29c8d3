import Mathlib.Logic.Basic
import KalmanHeader.Disk.Operation

/-!
# What operations leave alone

An operation on a file changes what stands at the place of the file, and nothing else. Paths
are resolved through directories only, so they lead to the same places as long as no
directory comes or goes: this is what a disk keeps while a file beside others is created,
written, synced or removed, whether that succeeds or not.
-/

namespace KalmanHeader.Disk

variable {disk disk' : Disk} {route other : Route} {entry : DiskEntry} {path : Path}
  {faults : FaultPattern}

section Entries

/-- The working directory is always there. -/
theorem entry?_nil (disk : Disk) : disk.entry? [] = some .directory :=
  if_pos rfl

/-- Below the working directory there is what the entries say. -/
theorem entry?_of_ne_nil (named : route ≠ []) : disk.entry? route = disk.entries.lookup route :=
  if_neg named

/-- Leaving out the entries of one place only hides that place. -/
theorem lookup_erase (disk : Disk) (route other : Route) :
    (disk.erase route).entries.lookup other =
      if other = route then none else disk.entries.lookup other := by
  unfold erase
  induction disk.entries with
  | nil => simp
  | cons first others ih =>
    obtain ⟨place, entry⟩ := first
    by_cases hidden : place = route
    · subst hidden
      rw [List.filter_cons_of_neg (by simp), ih]
      split
      · rfl
      · rename_i different
        rw [List.lookup_cons, beq_eq_false_iff_ne.2 different]
    · rw [List.filter_cons_of_pos (by simpa using hidden), List.lookup_cons, List.lookup_cons, ih]
      by_cases here : other = place
      · subst here
        simp [hidden]
      · rw [beq_eq_false_iff_ne.2 here]

/-- Erasing a place empties it and no other. -/
theorem entry?_erase (named : route ≠ []) :
    Disk.entry? (disk.erase route) other = if other = route then none else disk.entry? other := by
  by_cases top : other = []
  · subst top
    rw [if_neg named.symm, entry?_nil, entry?_nil]
  · rw [entry?_of_ne_nil top, entry?_of_ne_nil top, lookup_erase]

/-- Setting an entry changes what stands at its place and nowhere else. -/
theorem entry?_set (named : route ≠ []) :
    Disk.entry? (disk.set route entry) other =
      if other = route then some entry else disk.entry? other := by
  by_cases top : other = []
  · subst top
    rw [if_neg named.symm, entry?_nil, entry?_nil]
  · rw [entry?_of_ne_nil top, entry?_of_ne_nil top, set, List.lookup_cons, lookup_erase]
    by_cases here : other = route
    · subst here
      simp
    · rw [beq_eq_false_iff_ne.2 here, if_neg here, if_neg here]

end Entries

section Places

/-- A walk through directories leads to the same place where there are the same
directories. -/
theorem enter_congr (same : ∀ other, disk'.entry? other = some .directory ↔
    disk.entry? other = some .directory) (route : Route) (steps : List Step) :
    disk'.enter route steps = disk.enter route steps := by
  induction steps generalizing route with
  | nil => rfl
  | cons step steps ih =>
    cases step with
    | up => exact ih _
    | into name => simp only [enter, same, ih]

/-- A path names the same place where there are the same directories. -/
theorem place?_congr (same : ∀ other, disk'.entry? other = some .directory ↔
    disk.entry? other = some .directory) (path : Path) : disk'.place? path = disk.place? path := by
  simp only [place?, enter_congr same]

/-- A path names the same place where everything stands as it did. -/
theorem place?_of_entry?_eq (same : ∀ route, disk'.entry? route = disk.entry? route)
    (path : Path) : disk'.place? path = disk.place? path :=
  place?_congr (fun other => by rw [same]) path

/-- The place that a path names is its last name in the directory that the other steps lead
to. -/
theorem exists_of_place?_eq_some (located : disk.place? path = some route) :
    ∃ directory name, path.fileName? = some name ∧
      disk.enter [] path.steps.dropLast = some directory ∧ route = directory ++ [name] := by
  unfold place? at located
  split at located
  · rename_i name named
    split at located
    · obtain ⟨directory, entered, rfl⟩ := Option.map_eq_some_iff.1 located
      exact ⟨directory, name, named, entered, rfl⟩
    · contradiction
  · contradiction

/-- No file takes the place of the working directory. -/
theorem ne_nil_of_place? (located : disk.place? path = some route) : route ≠ [] := by
  obtain ⟨directory, name, _, _, rfl⟩ := exists_of_place?_eq_some located
  exact List.concat_ne_nil name directory

end Places

/-- Whether two disks have the same everywhere but at one place, where neither has a
directory. -/
structure AgreesBesides (disk disk' : Disk) (route : Route) : Prop where
  elsewhere : ∀ other, other ≠ route → disk'.entry? other = disk.entry? other
  noDirectory : disk.entry? route ≠ some .directory
  noDirectory' : disk'.entry? route ≠ some .directory

namespace AgreesBesides

variable (agrees : disk.AgreesBesides disk' route)

include agrees

/-- Disks that agree besides a file have the same directories. -/
theorem isDirectory_iff (other : Route) :
    disk'.entry? other = some .directory ↔ disk.entry? other = some .directory := by
  by_cases here : other = route
  · subst here
    exact ⟨fun found => absurd found agrees.noDirectory',
      fun found => absurd found agrees.noDirectory⟩
  · rw [agrees.elsewhere other here]

/-- Paths name the same places on disks that agree besides a file. -/
theorem place?_eq (path : Path) : disk'.place? path = disk.place? path :=
  place?_congr agrees.isDirectory_iff path

/-- Putting a file at the place keeps the agreement. -/
theorem set (named : route ≠ []) (text : String) :
    disk.AgreesBesides (disk'.set route (.file text)) route where
  elsewhere other different := by
    rw [entry?_set named, if_neg different, agrees.elsewhere other different]
  noDirectory := agrees.noDirectory
  noDirectory' := by
    rw [entry?_set named, if_pos rfl]
    exact nofun

/-- Emptying the place keeps the agreement. -/
theorem erase (named : route ≠ []) : disk.AgreesBesides (disk'.erase route) route where
  elsewhere other different := by
    rw [entry?_erase named, if_neg different, agrees.elsewhere other different]
  noDirectory := agrees.noDirectory
  noDirectory' := by
    rw [entry?_erase named, if_pos rfl]
    exact nofun

/-- Whatever an operation that failed leaves of the file keeps the agreement. -/
theorem leave (named : route ≠ []) (remains : Option String) :
    disk.AgreesBesides (disk'.leave route remains) route := by
  cases remains with
  | some text => exact agrees.set named text
  | none => exact agrees.erase named

end AgreesBesides

section Operations

/-- There is a file at a place, or a directory, or nothing. -/
theorem isFile_iff : disk.isFile route ↔ ∃ text, disk.entry? route = some (.file text) := by
  unfold isFile
  cases disk.entry? route with
  | none => simp
  | some entry => cases entry <;> simp

/-- A path is read as the text of the file at its place. -/
theorem read?_eq_some {text : String} :
    disk.read? path = some text ↔
      ∃ route, disk.place? path = some route ∧ disk.entry? route = some (.file text) := by
  unfold read?
  rw [← Option.bind_eq_some_iff]
  cases (disk.place? path).bind disk.entry? with
  | none => simp
  | some entry => cases entry <;> simp

/-- Paths are read alike where everything stands at the same places. -/
theorem read?_congr (same : ∀ route, disk'.entry? route = disk.entry? route) (path : Path) :
    disk'.read? path = disk.read? path := by
  rw [read?, read?, place?_of_entry?_eq same, funext same]

/-- What comes of an operation on the file at a known place: the change, no change, or what
a fault leaves. -/
theorem alter_cases (located : disk.place? path = some route) (fault : Option (Option String))
    (possible : Route → Bool) (change : Route → Disk) :
    disk.alter path fault possible change = (true, change route) ∨
      (disk.alter path fault possible change = (false, disk) ∧ ¬possible route) ∨
      ∃ remains, fault = some remains ∧
        disk.alter path fault possible change = (false, disk.leave route remains) := by
  unfold alter
  rw [located]
  by_cases able : possible route
  · cases fault with
    | none => exact .inl (if_pos able)
    | some remains => exact .inr (.inr ⟨remains, rfl, if_pos able⟩)
  · exact .inr (.inl ⟨if_neg able, able⟩)

/-- An operation on a file that is possible makes its change, unless there is a fault. -/
theorem alter_of_possible (located : disk.place? path = some route) {possible : Route → Bool}
    (able : possible route) (change : Route → Disk) :
    disk.alter path none possible change = (true, change route) := by
  unfold alter
  rw [located]
  exact if_pos able

/-- An operation on a file that succeeds makes its change. -/
theorem eq_change_of_alter (located : disk.place? path = some route)
    {fault : Option (Option String)} {possible : Route → Bool} {change : Route → Disk}
    (made : disk.alter path fault possible change = (true, disk')) : disk' = change route := by
  rcases alter_cases located fault possible change with same | ⟨failed, _⟩ | ⟨_, _, failed⟩
  · exact congrArg Prod.snd (made.symm.trans same)
  · rw [made] at failed
    exact nomatch failed
  · rw [made] at failed
    exact nomatch failed

/-- Nothing happens to a file that cannot be located. -/
theorem alter_of_place?_eq_none (missing : disk.place? path = none)
    (fault : Option (Option String)) (possible : Route → Bool) (change : Route → Disk) :
    disk.alter path fault possible change = (false, disk) := by
  unfold alter
  rw [missing]

/-- A file is renamed where there is no directory, unless there is a fault. -/
theorem perform_rename {source target : Path} {text : String} {route' : Route}
    (located : disk.place? source = some route) (there : disk.entry? route = some (.file text))
    (located' : disk.place? target = some route')
    (noDirectory : disk.entry? route' ≠ some .directory)
    (faultless : faults (.rename source target) = none) :
    disk.perform faults (.rename source target) =
      (true, (disk.erase route).set route' (.file text)) := by
  have read : disk.read? source = some text := read?_eq_some.2 ⟨route, located, there⟩
  unfold perform
  dsimp only
  rw [read, located, located', faultless]
  exact if_neg fun found => noDirectory (of_decide_eq_true found)

/-- Renaming moves a file as a whole, or nothing happens. -/
theorem perform_rename_cases {source : Path} {text : String}
    (located : disk.place? source = some route) (there : disk.entry? route = some (.file text))
    (target : Path) (faults : FaultPattern) :
    (∃ route', disk.place? target = some route' ∧ disk.entry? route' ≠ some .directory ∧
        disk.perform faults (.rename source target) =
          (true, (disk.erase route).set route' (.file text))) ∨
      disk.perform faults (.rename source target) = (false, disk) := by
  have read : disk.read? source = some text := read?_eq_some.2 ⟨route, located, there⟩
  unfold perform
  dsimp only
  rw [read, located]
  split
  · rename_i text route route' same same' located' _
    obtain rfl := Option.some.inj same
    obtain rfl := Option.some.inj same'
    split
    · exact .inr rfl
    · rename_i noDirectory
      exact .inl ⟨route', located', fun found => noDirectory (decide_eq_true found), rfl⟩
  · exact .inr rfl

end Operations

end KalmanHeader.Disk

namespace KalmanHeader

/-- Whether an operation only works on the file at a path. -/
def FileOperation.WorksOn (path : Path) : FileOperation → Prop
  | .create other | .write other _ | .sync other | .remove other => other = path
  | .rename _ _ => False

namespace Disk.AgreesBesides

variable {disk disk' : Disk} {route : Route} {path : Path}

/-- An operation on the file at a place, successful or not, changes nothing elsewhere. -/
theorem perform (agrees : disk.AgreesBesides disk' route) (located : disk.place? path = some route)
    (faults : FaultPattern) {operation : FileOperation} (works : operation.WorksOn path) :
    disk.AgreesBesides (disk'.perform faults operation).2 route := by
  have named := ne_nil_of_place? located
  rw [← agrees.place?_eq] at located
  have altered : ∀ (fault : Option (Option String)) (possible : Route → Bool)
      (change : Route → Disk), disk.AgreesBesides (change route) route →
        disk.AgreesBesides (disk'.alter path fault possible change).2 route := by
    intro fault possible change changed
    rcases alter_cases located fault possible change with made | ⟨made, _⟩ | ⟨remains, _, made⟩
    · rwa [made]
    · rwa [made]
    · rw [made]
      exact agrees.leave named remains
  cases operation with
  | create other =>
    obtain rfl : other = path := works
    exact altered _ _ _ (agrees.set named "")
  | write other text =>
    obtain rfl : other = path := works
    exact altered _ _ _ (agrees.set named text)
  | sync other =>
    obtain rfl : other = path := works
    exact altered _ _ _ agrees
  | rename source target => exact works.elim
  | remove other =>
    obtain rfl : other = path := works
    exact altered _ _ _ (agrees.erase named)

/-- Operations on the file at a place change nothing elsewhere, as far as they come. -/
theorem performAll (agrees : disk.AgreesBesides disk' route)
    (located : disk.place? path = some route) (faults : FaultPattern)
    {operations : List FileOperation} (work : ∀ operation ∈ operations, operation.WorksOn path) :
    disk.AgreesBesides (disk'.performAll faults operations).2 route := by
  induction operations generalizing disk' with
  | nil => exact agrees
  | cons operation operations ih =>
    obtain ⟨works, work⟩ := List.forall_mem_cons.1 work
    have next := agrees.perform located faults works
    rw [Disk.performAll]
    cases performed : disk'.perform faults operation with
    | mk made disk'' =>
      rw [performed] at next
      cases made with
      | true => exact ih next work
      | false => exact next

end Disk.AgreesBesides

end KalmanHeader
