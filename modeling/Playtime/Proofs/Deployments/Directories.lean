import Playtime.Proofs.Deployments.Names

namespace Playtime

namespace Disk

variable {disk other : Disk} {above : List String} {parent directory : Place}

theorem enter_of_entries (same : other.entries = disk.entries) (directory : Place) (component : String) :
    other.enter directory component = disk.enter directory component := by
  unfold enter
  rw [same]

theorem walk_of_entries (same : other.entries = disk.entries) (directory : Place) (path : List String) :
    other.walk directory path = disk.walk directory path := by
  induction path generalizing directory with
  | nil => rfl
  | cons component path ih =>
    rw [walk, walk, enter_of_entries same]
    split
    · exact ih _
    · rfl

theorem locate_of_entries (same : other.entries = disk.entries) (path : List String) :
    other.locate path = disk.locate path := by
  unfold locate
  simp only [walk_of_entries same]

theorem isDirectory_of_entries (same : other.entries = disk.entries) (place : Place) :
    other.isDirectory place = disk.isDirectory place := by
  rw [isDirectory, isDirectory, same]

theorem read_of_entries (same : other.entries = disk.entries) (path : List String) :
    other.read path = disk.read path := by
  unfold Disk.read
  simp only [locate_of_entries same, isDirectory_of_entries same, same]

theorem createBelow_of_entries (same : other.entries = disk.entries) (directory : Place) (path : List String) :
    (other.createBelow directory path).1 = (disk.createBelow directory path).1 ∧
      (other.createBelow directory path).2.entries = (disk.createBelow directory path).2.entries := by
  induction path generalizing disk other directory with
  | nil => exact ⟨rfl, same⟩
  | cons component path ih =>
    rw [createBelow, createBelow, enter_of_entries same]
    split
    · exact ih same _
    · exact ⟨rfl, same⟩
    · apply ih
      rw [put, put, same]

theorem createDirectories_of_entries (same : other.entries = disk.entries) (path : List String) :
    (other.createDirectories path).1 = (disk.createDirectories path).1 ∧
      (other.createDirectories path).2.entries = (disk.createDirectories path).2.entries := by
  unfold createDirectories
  split
  · exact createBelow_of_entries same [] path
  · exact ⟨rfl, same⟩

def Extends (disk other : Disk) : Prop :=
  ∀ place : Place, other.entries[place]? = disk.entries[place]? ∨
    disk.entries[place]? = none ∧ other.entries[place]? = some .directory

theorem Extends.refl (disk : Disk) : disk.Extends disk := fun _ => .inl rfl

theorem Extends.trans {third : Disk} (first : disk.Extends other) (second : other.Extends third) :
    disk.Extends third := by
  intro place
  rcases second place with same | ⟨free, made⟩
  · rw [same]
    exact first place
  · rcases first place with same | ⟨-, made'⟩
    · exact .inr ⟨same ▸ free, made⟩
    · cases free.symm.trans made'

theorem extends_put {place : Place} (absent : disk.entries[place]? = none) :
    disk.Extends (disk.put place .directory) := by
  intro other
  by_cases same : place = other
  · subst same
    exact .inr ⟨absent, by simp [put]⟩
  · exact .inl (by rw [put, Std.ExtTreeMap.getElem?_insert, if_neg (by simpa using same)])

theorem extends_createBelow (disk : Disk) (directory : Place) (path : List String) :
    disk.Extends (disk.createBelow directory path).2 := by
  induction path generalizing disk directory with
  | nil => exact .refl disk
  | cons component path ih =>
    rw [createBelow]
    cases entered : disk.enter directory component with
    | reached next => exact ih disk next
    | blocked => exact .refl disk
    | missing => exact (extends_put (enter_missing entered).2.2).trans (ih _ _)

theorem createBelow_keeps {path : List String} {place : Place} {entry : Entry}
    (stands : disk.entries[place]? = some entry) :
    (disk.createBelow directory path).2.entries[place]? = some entry := by
  rcases extends_createBelow disk directory path place with same | ⟨free, -⟩
  · rw [same, stands]
  · cases free.symm.trans stands

theorem enter_keeps {component : String} {walk : Walk}
    (keeps : ∀ (place : Place) (entry : Entry), disk.entries[place]? = some entry → other.entries[place]? = some entry)
    (entered : disk.enter directory component = walk) (known : walk ≠ .missing) :
    other.enter directory component = walk := by
  unfold enter at *
  split
  · next up => rwa [if_pos up] at entered
  · next down =>
    rw [if_neg down] at entered
    split
    · next bad => rwa [if_pos bad] at entered
    · next good =>
      rw [if_neg good] at entered
      cases stands : disk.entries[directory ++ [component]]? with
      | none =>
        rw [stands] at entered
        exact absurd entered.symm known
      | some entry =>
        rw [keeps _ _ stands]
        rwa [stands] at entered

/-- What has been created can be walked, and what could not be created stands in the way. -/
theorem walk_createBelow (disk : Disk) (directory : Place) (path : List String) :
    let created := disk.createBelow directory path
    created.1 = true ∧ (∃ parent, created.2.walk directory path = .reached parent) ∨
      created.1 = false ∧ created.2.walk directory path = .blocked := by
  intro created
  induction path generalizing disk directory with
  | nil => exact .inl ⟨rfl, directory, rfl⟩
  | cons component path ih =>
    have step (start : Disk) (next : Place) (entered : start.enter directory component = .reached next) :
        (start.createBelow next path).2.walk directory (component :: path) =
          (start.createBelow next path).2.walk next path := by
      rw [walk, enter_keeps (fun _ _ => createBelow_keeps) entered (by simp)]
    unfold created
    rw [createBelow]
    cases entered : disk.enter directory component with
    | reached next =>
      dsimp only
      rw [step disk next entered]
      exact ih disk next
    | blocked => exact .inr ⟨rfl, by rw [walk, entered]⟩
    | missing =>
      obtain ⟨plain, good, -⟩ := enter_missing entered
      dsimp only
      rw [step _ _ (enter_of_directory plain good (by simp [put]))]
      exact ih _ _

theorem createBelow_of_blocked {path : List String} (blocked : disk.walk directory path = .blocked) :
    disk.createBelow directory path = (false, disk) := by
  induction path generalizing directory with
  | nil => cases blocked
  | cons component path ih =>
    rw [walk] at blocked
    rw [createBelow]
    cases entered : disk.enter directory component with
    | reached next =>
      rw [entered] at blocked
      exact ih blocked
    | blocked => rfl
    | missing =>
      rw [entered] at blocked
      cases blocked

theorem createDirectories_again (disk : Disk) (above : List String) :
    (disk.createDirectories above).2.createDirectories above = disk.createDirectories above := by
  unfold createDirectories
  split
  · rcases walk_createBelow disk [] above with ⟨done, parent, way⟩ | ⟨failed, blocked⟩
    · rw [createBelow_of_walk way, ← done]
    · rw [createBelow_of_blocked blocked, ← failed]
  · rfl

structure Leads (disk : Disk) (above : List String) (parent : Place) : Prop where
  clean : Path.isPath above = true
  way : disk.walk [] above = .reached parent

theorem Leads.of_sameDirectories (leads : disk.Leads above parent) (same : SameDirectories disk other) :
    other.Leads above parent := ⟨leads.clean, same.walk leads.way⟩

theorem Leads.createDirectories (leads : disk.Leads above parent) : disk.createDirectories above = (true, disk) := by
  rw [Disk.createDirectories, if_pos leads.clean, createBelow_of_walk leads.way]

theorem leads_createDirectories (created : (disk.createDirectories above).1 = true) :
    ∃ parent, (disk.createDirectories above).2.Leads above parent := by
  unfold Disk.createDirectories at *
  split
  · next clean =>
    rw [if_pos clean] at created
    rcases walk_createBelow disk [] above with ⟨-, parent, way⟩ | ⟨failed, -⟩
    · exact ⟨parent, clean, way⟩
    · cases created.symm.trans failed
  · next unclean =>
    rw [if_neg unclean] at created
    cases created

theorem Leads.locate (leads : disk.Leads above parent) {name : String} (clean : Path.isPath [name] = true)
    (plain : name ≠ "..") :
    disk.locate (above ++ [name]) = if Path.isFileName name then .reached (parent ++ [name]) else .blocked := by
  have whole : Path.isPath (above ++ [name]) = true := by
    have := leads.clean
    simp_all [Path.isPath]
  rw [locate_of_plain disk _ name whole (by simp) plain, List.dropLast_concat, leads.way]

/-- What there is under some names in a directory, once what is missing of the way to it has been created. -/
def outlook (disk : Disk) (above names : List String) : Option (Place × List (Option Entry)) :=
  match disk.createDirectories above with
  | (false, _) => none
  | (true, created) =>
    match created.walk [] above with
    | .reached parent => some (parent, names.map fun name => created.entries[parent ++ [name]]?)
    | _ => none

theorem Leads.outlook (leads : disk.Leads above parent) (names : List String) :
    disk.outlook above names = some (parent, names.map fun name => disk.entries[parent ++ [name]]?) := by
  rw [Disk.outlook, leads.createDirectories]
  dsimp only
  rw [leads.way]

theorem outlook_createDirectories (disk : Disk) (above names : List String) :
    (disk.createDirectories above).2.outlook above names = disk.outlook above names := by
  rw [outlook, createDirectories_again, outlook]

theorem outlook_eq_none (failed : (disk.createDirectories above).1 = false) (names : List String) :
    disk.outlook above names = none := by
  unfold outlook
  split
  · rfl
  · next created => rw [created] at failed; cases failed

theorem outlook_of_entries (same : other.entries = disk.entries) (above names : List String) :
    other.outlook above names = disk.outlook above names := by
  obtain ⟨created, entries⟩ := createDirectories_of_entries same above
  unfold outlook
  generalize disk.createDirectories above = result at *
  generalize other.createDirectories above = result' at *
  obtain ⟨done', disk⟩ := result
  obtain ⟨done, other⟩ := result'
  obtain rfl : done = done' := created
  cases done with
  | false => rfl
  | true =>
    dsimp only at entries ⊢
    rw [walk_of_entries entries, entries]

structure Beside (above names : List String) (disk other : Disk) (parent : Place) : Prop where
  leads : disk.Leads above parent
  leadsToo : other.Leads above parent
  entries (name : String) (member : name ∈ names) : other.entries[parent ++ [name]]? = disk.entries[parent ++ [name]]?

theorem Beside.outlook {names : List String} (beside : Beside above names disk other parent) :
    other.outlook above names = disk.outlook above names := by
  rw [beside.leads.outlook, beside.leadsToo.outlook, List.map_congr_left beside.entries]

theorem Leads.beside {names : List String} {parent' : Place} (leads : disk.Leads above parent)
    (leadsToo : other.Leads above parent') (same : other.outlook above names = disk.outlook above names) :
    Beside above names disk other parent := by
  rw [leads.outlook, leadsToo.outlook] at same
  simp only [Option.some.injEq, Prod.mk.injEq] at same
  obtain ⟨rfl, entries⟩ := same
  exact ⟨leads, leadsToo, List.map_inj_left.mp entries⟩

end Disk

end Playtime
