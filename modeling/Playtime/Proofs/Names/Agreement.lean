import Playtime.Proofs.Names.Calls

namespace Playtime.Backend

theorem recordable_act {state : Backend × Host} (recordable : NamesRecordable state) (call : NameCall) :
    NamesRecordable (act state call).2 := by
  cases call with
  | set id text override => exact recordable_setName recordable id text override
  | setAll entries => exact recordable_setNames recordable entries
  | holder name => exact recordable
  | name id => exact recordable
  | names => exact recordable

/-- A directory whose changes can be recorded keeps a register. -/
def Works (state : Backend × Host) (register : Register) : Prop := KeepsNames state register ∧ NamesRecordable state

variable {first second : Backend × Host} {register : Register}

theorem Works.act_alike (works : Works first register) (worksToo : Works second register) (call : NameCall) :
    (act first call).1 = (act second call).1 ∧
      ∃ next, Works (act first call).2 next ∧ Works (act second call).2 next := by
  have recordable := recordable_act works.2 call
  have recordableToo := recordable_act worksToo.2 call
  have reads := readOut works.1
  have readsToo := readOut worksToo.1
  cases call with
  -- Both outcomes are that of the one register.
  | set id text override =>
    obtain ⟨same, next, kept, keptToo⟩ := (follows_setName works.1 id text override).agree
      (follows_setName worksToo.1 id text override) works.2 worksToo.2
    exact ⟨congrArg (Except.map _) same, next, ⟨kept, recordable⟩, ⟨keptToo, recordableToo⟩⟩
  | setAll entries =>
    obtain ⟨same, next, kept, keptToo⟩ := (follows_setNames works.1 entries).agree
      (follows_setNames worksToo.1 entries) works.2 worksToo.2
    exact ⟨congrArg (Except.map _) same, next, ⟨kept, recordable⟩, ⟨keptToo, recordableToo⟩⟩
  | holder name =>
    refine ⟨?_, register, works, worksToo⟩
    simp only [act, reads.holder name, readsToo.holder name]
  | name id =>
    refine ⟨?_, register, works, worksToo⟩
    simp only [act, reads.name_eq readsToo id]
  | names =>
    refine ⟨?_, register, works, worksToo⟩
    -- The lists may differ in order, the sets do not.
    obtain ⟨listed, read, members⟩ := reads.names
    obtain ⟨listedToo, readToo, membersToo⟩ := readsToo.names
    have same : (Std.ExtTreeSet.ofList listed : Std.ExtTreeSet String compare) = .ofList listedToo := by
      apply Std.ExtTreeSet.ext_mem
      intro name
      simp [members, membersToo]
    simp only [act, read, readToo, Except.map, same]

theorem eq_error_of_map {α β : Type} {outcome : Except StorageError α} {f : α → β} {error : StorageError}
    (failed : outcome.map f = .error error) : outcome = .error error := by
  cases outcome with
  | error other => exact congrArg _ (Except.error.inj failed)
  | ok value => cases failed

theorem Works.refusal (works : Works first register) {call : NameCall} {error : StorageError}
    (refused : (act first call).1 = .error error) : Register.Refusal error := by
  have reads := readOut works.1
  cases call with
  | set id text override =>
    exact Register.refusal_of_assignText
      ((follows_setName works.1 id text override).expected_eq_error works.2 (eq_error_of_map refused))
  | setAll entries =>
    exact Register.refusal_of_assignTexts
      ((follows_setNames works.1 entries).expected_eq_error works.2 (eq_error_of_map refused))
  | holder name =>
    have read := eq_error_of_map refused
    rw [reads.holder name] at read
    cases read
  | name id =>
    obtain ⟨held, found, -⟩ := reads.name id
    have read := eq_error_of_map refused
    rw [found] at read
    cases read
  | names =>
    obtain ⟨listed, found, -⟩ := reads.names
    have read := eq_error_of_map refused
    rw [found] at read
    cases read

theorem Works.answers_alike (works : Works first register) (worksToo : Works second register)
    (calls : List NameCall) :
    answers first calls = answers second calls ∧
      ∀ error, .error error ∈ answers first calls → Register.Refusal error := by
  induction calls generalizing first second register with
  | nil => exact ⟨rfl, nofun⟩
  | cons call later ih =>
    obtain ⟨same, next, rest, restToo⟩ := works.act_alike worksToo call
    obtain ⟨others, refusals⟩ := ih rest restToo
    refine ⟨?_, fun error member => ?_⟩
    · rw [answers, same, others]
      rfl
    · rcases List.mem_cons.mp member with head | tail
      · exact works.refusal head.symm
      · exact refusals error tail

/--
Two directories that start empty and whose changes can be recorded, such as one in a file and one in a database, answer
every call alike: with the same value, or with an error of the same cause and text. The cause is always an invalid name
or a taken one, so that no change ever breaks a constraint of the database.
-/
theorem directories_agree (first second : Backend × Host) (calls : List NameCall) (vacant : Vacant first)
    (vacantToo : Vacant second) (recordable : NamesRecordable first) (recordableToo : NamesRecordable second) :
    answers first calls = answers second calls ∧
      ∀ error, .error error ∈ answers second calls → error = .nameTaken ∨ ∃ fault, error = .invalidName fault := by
  have works : Works first .empty := ⟨vacant.keepsNames, recordable⟩
  have worksToo : Works second .empty := ⟨vacantToo.keepsNames, recordableToo⟩
  exact ⟨(works.answers_alike worksToo calls).1, (worksToo.answers_alike works calls).2⟩

/-- Two players swap their names in one batch, and then one is refused the name that it gave away. -/
theorem directories_agree_on_swap :
    let ann : PlayerId := ⟨1⟩
    let ben : PlayerId := ⟨2⟩
    let host : Host := ⟨.empty, [], 0⟩
    let calls : List NameCall := [.set ann "Ann" false, .set ben "Ben" false, .setAll [(ann, "Ben"), (ben, "Ann")],
      .holder "Ann", .set ann "Ann" false, .set ann "Ann!" true, .names]
    ∃ filed fileHost tabled tableHost,
      loadFiles host "data" "" = (.ok filed, fileHost) ∧
      loadRelational host .memory "" "hub" "world" = (.ok tabled, tableHost) ∧
      answers (filed, fileHost) calls = answers (tabled, tableHost) calls ∧
      (answers (filed, fileHost) calls).map Except.isOk = [true, true, true, true, false, false, true] ∧
      Holds (after (filed, fileHost) calls) ben "Ann" := by
  intro ann ben host calls
  let filed := files ⟨["data", "names.json"], ∅, true⟩ ⟨["data", "time.json"], ∅, true⟩
  let fileHost : Host := ⟨Disk.empty.put ["data"] .directory, [], 0⟩
  let tabled := relational ⟨0, "", 0, true⟩
  have opened : loadFiles host "data" "" = (.ok filed, fileHost) := rfl
  obtain ⟨tableHost, connected⟩ : ∃ tableHost, loadRelational host .memory "" "hub" "world" = (.ok tabled, tableHost) :=
    ⟨_, rfl⟩
  have recordable : NamesRecordable (filed, fileHost) :=
    ⟨rfl, ⟨["data", "names.json.tmp"], by decide +kernel, by decide +kernel⟩,
      ⟨["data", "names.json"], by decide +kernel, by decide +kernel⟩⟩
  have agree := directories_agree (filed, fileHost) (tabled, tableHost) calls
    (vacant_of_loadFiles (by decide +kernel) opened) (vacant_of_loadRelational rfl rfl connected) recordable trivial
  refine ⟨filed, fileHost, tabled, tableHost, opened, connected, agree.1, ?_, ?_⟩
  · decide +kernel
  · decide +kernel

end Playtime.Backend
