import Mathlib.Data.List.Nodup
import Playtime.Proofs.Ledger.Files
import Playtime.Proofs.Sessions.Worth

namespace Playtime.Sessions

variable {σ : Type} [Ledger σ]

/-- Every open session starts earlier by what a batch brings its player, and nothing else is different. -/
structure Backdated (before after : Sessions) (batch : List (PlayerId × Int64)) : Prop where
  pending : after.pending = before.pending
  starts (id : PlayerId) : after.started[id]?.map Int64.toInt =
    before.started[id]?.map fun started => started.toInt - 1000 * secondsFor id batch

theorem Backdated.nothing (sessions : Sessions) : Backdated sessions sessions [] := by
  refine ⟨rfl, fun id => ?_⟩
  simp [secondsFor]

theorem Backdated.append {before middle after : Sessions} {first second : List (PlayerId × Int64)}
    (head : Backdated before middle first) (tail : Backdated middle after second) :
    Backdated before after (first ++ second) := by
  refine ⟨tail.pending.trans head.pending, fun id => ?_⟩
  have shift : (fun started : Int64 => started.toInt - 1000 * secondsFor id second) =
      (fun started => started - 1000 * secondsFor id second) ∘ Int64.toInt := rfl
  rw [tail.starts, shift, ← Option.map_map, head.starts, Option.map_map]
  congr 1
  funext started
  simp only [Function.comp_apply, secondsFor_append]
  omega

theorem Backdated.isAccumulating {before after : Sessions} {batch : List (PlayerId × Int64)}
    (backdated : Backdated before after batch) (id : PlayerId) :
    after.isAccumulating id = before.isAccumulating id := by
  have known := congrArg Option.isSome (backdated.starts id)
  rw [Option.isSome_map, Option.isSome_map] at known
  rw [isAccumulating_eq, isAccumulating_eq, known]

theorem Backdated.eq_iff {before after : Sessions} {batch : List (PlayerId × Int64)}
    (backdated : Backdated before after batch) :
    after = before ↔ ∀ id, before.isAccumulating id = true → secondsFor id batch = 0 := by
  constructor
  · intro same id session
    rw [isAccumulating_eq] at session
    obtain ⟨started, found⟩ := Option.isSome_iff_exists.mp session
    have start := backdated.starts id
    rw [same, found] at start
    simp only [Option.map_some, Option.some.injEq] at start
    omega
  · intro none
    have started : after.started = before.started := by
      ext1 id
      have start := backdated.starts id
      cases found : before.started[id]? with
      | none => simpa [found] using start
      | some started =>
        have session : before.isAccumulating id = true := by
          rw [isAccumulating_eq, found]
          rfl
        rw [found, none id session, Int.mul_zero] at start
        obtain ⟨moved, after, same⟩ := Option.map_eq_some_iff.mp start
        rw [after, Int64.toInt_inj.mp (same.trans (Int.sub_zero _))]
    obtain ⟨_, _⟩ := before
    obtain ⟨_, _⟩ := after
    exact congrArg₂ Sessions.mk started backdated.pending

theorem Backdated.of_closed (sessions : Sessions) (id : PlayerId) (delta : Int64)
    (closed : sessions.isAccumulating id = false) : Backdated sessions sessions [(id, delta)] := by
  rw [isAccumulating_eq] at closed
  refine ⟨rfl, fun other => ?_⟩
  cases found : sessions.started[other]? with
  | none => rfl
  | some started =>
    have differs : id ≠ other := by
      intro same
      rw [same, found] at closed
      cases closed
    simp [secondsFor, differs]

theorem Backdated.of_shift (sessions : Sessions) (id : PlayerId) (started delta moved : Int64)
    (session : sessions.started[id]? = some started) (shifted : shift? started delta = some moved) :
    Backdated sessions { sessions with started := sessions.started.insert id moved } [(id, delta)] := by
  have earlier := shift?_eq_some started delta moved shifted
  refine ⟨rfl, fun other => ?_⟩
  by_cases same : id = other
  · subst same
    simp [session, secondsFor, earlier]
  · simp [Std.ExtTreeMap.getElem?_insert, secondsFor, same]

theorem absorb_cases (sessions : Sessions) (id : PlayerId) (delta : Int64) :
    (sessions.isAccumulating id = false ∧ sessions.absorb id delta = .ok none) ∨
      (∃ absorbed, sessions.isAccumulating id = true ∧ sessions.absorb id delta = .ok (some absorbed) ∧
        Backdated sessions absorbed [(id, delta)]) ∨
      sessions.isAccumulating id = true ∧ sessions.absorb id delta = .error (.outOfRange id delta) := by
  rw [isAccumulating_eq]
  unfold absorb
  cases found : sessions.started[id]? with
  | none => exact .inl ⟨rfl, rfl⟩
  | some started =>
    right
    cases shifted : shift? started delta with
    | none => exact .inr ⟨rfl, by simp [shifted]⟩
    | some moved => exact .inl ⟨_, rfl, by simp [shifted], .of_shift sessions id started delta moved found shifted⟩

/--
Sessions take a batch up to the first entry that one of them cannot take, if there is any; what they leave is the part
of the players without a session.
-/
theorem absorbAll_cases (sessions : Sessions) (deltas : List (PlayerId × Int64)) :
    (∃ absorbed, Backdated sessions absorbed deltas ∧ sessions.absorbAll deltas =
      (.ok (deltas.filter fun entry => !sessions.isAccumulating entry.1), absorbed)) ∨
      ∃ taken id delta rest absorbed, deltas = taken ++ (id, delta) :: rest ∧ Backdated sessions absorbed taken ∧
        absorbed.absorb id delta = .error (.outOfRange id delta) ∧
        sessions.absorbAll deltas = (.error (.outOfRange id delta), absorbed) := by
  induction deltas generalizing sessions with
  | nil => exact .inl ⟨sessions, .nothing sessions, rfl⟩
  | cons entry deltas ih =>
    obtain ⟨id, delta⟩ := entry
    unfold absorbAll
    rcases sessions.absorb_cases id delta with ⟨closed, left⟩ | ⟨first, session, took, head⟩ | ⟨-, refused⟩
    · have head := Backdated.of_closed sessions id delta closed
      rw [left]
      rcases ih sessions with ⟨absorbed, tail, all⟩ | ⟨taken, player, seconds, rest, absorbed, rfl, tail, misfit, all⟩
      · refine .inl ⟨absorbed, head.append tail, ?_⟩
        simp [all, closed]
      · refine .inr ⟨(id, delta) :: taken, player, seconds, rest, absorbed, rfl, head.append tail, misfit, ?_⟩
        rw [all]
    · rw [took]
      rcases ih first with ⟨absorbed, tail, all⟩ | ⟨taken, player, seconds, rest, absorbed, rfl, tail, misfit, all⟩
      · refine .inl ⟨absorbed, head.append tail, ?_⟩
        simp [all, session, head.isAccumulating]
      · exact .inr ⟨(id, delta) :: taken, player, seconds, rest, absorbed, rfl, head.append tail, misfit, all⟩
    · rw [refused]
      exact .inr ⟨[], id, delta, deltas, sessions, rfl, .nothing sessions, refused, rfl⟩

theorem addAll_of_left {sessions absorbed after : Sessions} {ledger kept : σ} {deltas left : List (PlayerId × Int64)}
    {error : StorageError} (all : sessions.absorbAll deltas = (.ok left, absorbed))
    (refused : sessions.addAll ledger deltas = (.error error, after, kept)) :
    (Ledger.creditAll ledger left).1 = .error error ∧ absorbed = after ∧ (Ledger.creditAll ledger left).2 = kept := by
  unfold addAll at refused
  rw [all] at refused
  cases left with
  | nil => cases refused
  | cons entry left =>
    obtain ⟨outcome, same⟩ := Prod.mk.inj refused
    exact ⟨outcome, Prod.mk.inj same⟩

theorem addAll_of_fault {sessions absorbed : Sessions} {deltas : List (PlayerId × Int64)} {fault : StorageError}
    (all : sessions.absorbAll deltas = (.error fault, absorbed)) (ledger : σ) :
    sessions.addAll ledger deltas = (.error fault, absorbed, ledger) := by
  unfold addAll
  rw [all]

theorem absorb_eq_error_iff (sessions : Sessions) (id : PlayerId) (delta : Int64) (error : StorageError) :
    sessions.absorb id delta = .error error ↔
      (∃ started, sessions.started[id]? = some started ∧ shift? started delta = none) ∧
        error = .outOfRange id delta := by
  unfold absorb
  cases found : sessions.started[id]? with
  | none => simp
  | some started => cases shifted : shift? started delta <;> simp [shifted, eq_comm]

theorem Backdated.started_eq {before after : Sessions} {batch : List (PlayerId × Int64)}
    (backdated : Backdated before after batch) (id : PlayerId) (absent : ∀ entry ∈ batch, entry.1 ≠ id) :
    after.started[id]? = before.started[id]? := by
  have start := backdated.starts id
  rw [secondsFor_of_absent id batch absent] at start
  simp only [Int.mul_zero, Int.sub_zero] at start
  exact Option.map_injective (fun _ _ => Int64.toInt_inj.mp) start

theorem Backdated.unmoved_iff {before after : Sessions} {batch : List (PlayerId × Int64)}
    (backdated : Backdated before after batch) (distinct : (batch.map Prod.fst).Nodup) :
    after = before ↔ ∀ entry ∈ batch, before.isAccumulating entry.1 = true → entry.2 = 0 := by
  rw [backdated.eq_iff]
  constructor
  · intro none entry member session
    exact (secondsFor_eq_zero_iff entry.1 batch distinct).mp (none entry.1 session) entry member rfl
  · intro zeros id session
    apply (secondsFor_eq_zero_iff id batch distinct).mpr
    rintro entry member rfl
    exact zeros entry member session

variable [LawfulLedger σ]

/--
A batch that is refused has changed no total in the ledger. The entries before the one at fault, or all of them if the
ledger is at fault, have moved the sessions of their players, so that the sessions are as before only if those entries
bring these players nothing.
-/
theorem refused_batch_backdates (sessions after : Sessions) (ledger kept : σ) (deltas : List (PlayerId × Int64))
    (error : StorageError) (distinct : (deltas.map Prod.fst).Nodup)
    (refused : sessions.addAll ledger deltas = (.error error, after, kept)) :
    ∃ taken left, deltas = taken ++ left ∧ Backdated sessions after taken ∧
      (∀ id, LawfulLedger.balance kept id = LawfulLedger.balance ledger id) ∧
      (after = sessions ↔ ∀ entry ∈ taken, sessions.isAccumulating entry.1 = true → entry.2 = 0) ∧
      ((left = [] ∧
          (Ledger.creditAll ledger (taken.filter fun entry => !sessions.isAccumulating entry.1)).1 = .error error) ∨
        ∃ id delta rest, left = (id, delta) :: rest ∧ sessions.absorb id delta = .error error) := by
  rcases sessions.absorbAll_cases deltas with ⟨absorbed, moved, all⟩ |
    ⟨taken, id, delta, rest, absorbed, rfl, moved, misfit, all⟩
  · obtain ⟨fault, rfl, rfl⟩ := addAll_of_left all refused
    refine ⟨deltas, [], (List.append_nil _).symm, moved, fun id => ?_, moved.unmoved_iff distinct, .inl ⟨rfl, fault⟩⟩
    exact LawfulLedger.balance_refused ledger _ error fault id
  · rw [addAll_of_fault all ledger] at refused
    cases refused
    rw [List.map_append, List.nodup_append] at distinct
    obtain ⟨first, -, apart⟩ := distinct
    refine ⟨taken, (id, delta) :: rest, rfl, moved, fun player => rfl, moved.unmoved_iff first,
      .inr ⟨id, delta, rest, rfl, ?_⟩⟩
    have absent : ∀ entry ∈ taken, entry.1 ≠ id :=
      fun entry member => apart entry.1 (List.mem_map_of_mem member) id (by simp)
    rw [absorb_eq_error_iff] at misfit ⊢
    rwa [moved.started_eq id absent] at misfit

/-- Two sessions have taken their seconds when the ledger is found to have no room for those of a third player. -/
theorem refused_batch_backdates_two :
    let first : PlayerId := ⟨1⟩
    let second : PlayerId := ⟨2⟩
    let full : PlayerId := ⟨3⟩
    let state := run (empty, TimeFile.inWorkingDirectory [])
      [.add full Int64.maxValue, .start first 0, .start second 500]
    let deltas : List (PlayerId × Int64) := [(first, 100), (full, 1), (second, -7)]
    ∃ after kept, state.1.addAll state.2 deltas = (.error (.outOfRange full 1), after, kept) ∧
      Backdated state.1 after deltas ∧ after ≠ state.1 ∧
      LawfulLedger.balance kept full = LawfulLedger.balance state.2 full := by
  intro first second full state deltas
  have outcome : (state.1.addAll state.2 deltas).1 = .error (.outOfRange full 1) := by decide +kernel
  have takes : ∀ entry ∈ deltas, (state.1.absorb entry.1 entry.2).isOk = true := by decide +kernel
  rcases made : state.1.addAll state.2 deltas with ⟨reply, after, kept⟩
  obtain rfl : reply = .error (.outOfRange full 1) := by rw [← outcome, made]
  obtain ⟨taken, left, split, moved, balances, unmoved, fault⟩ :=
    refused_batch_backdates state.1 after state.2 kept deltas _ (by decide +kernel) made
  have whole : left = [] := by
    rcases fault with ⟨nothing, -⟩ | ⟨id, delta, rest, rfl, misfit⟩
    · exact nothing
    · have fine := takes (id, delta) (by rw [split]; simp)
      rw [misfit] at fine
      cases fine
  rw [whole, List.append_nil] at split
  rw [← split] at moved unmoved
  refine ⟨after, kept, rfl, moved, fun same => ?_, balances full⟩
  have nothing := unmoved.mp same (first, 100) (List.mem_cons_self ..) (by decide +kernel)
  cases nothing

/--
The same batch in either order: the ledger has no room for one of its credits, and the session of the other player has
been moved. Once the batch is corrected and made again, this player has been credited twice.
-/
theorem refused_batch_credits_twice :
    let online : PlayerId := ⟨1⟩
    let full : PlayerId := ⟨2⟩
    let state := run (empty, TimeFile.inWorkingDirectory []) [.add full Int64.maxValue, .start online 0]
    let first := state.1.addAll state.2 [(online, 100), (full, 1)]
    let second := state.1.addAll state.2 [(full, 1), (online, 100)]
    let again := first.2.1.addAll first.2.2 [(online, 100)]
    first.1 = .error (.outOfRange full 1) ∧ second.1 = .error (.outOfRange full 1) ∧
      state.1.started[online]? = some 0 ∧ first.2.1.started[online]? = some (-100000) ∧
      second.2.1.started[online]? = some (-100000) ∧
      again.1 = .ok () ∧ again.2.1.seconds again.2.2 online 0 = .ok 200 := by
  intro online full state first second again
  refine ⟨?_, ?_, ?_, ?_, ?_, ?_, ?_⟩
  all_goals decide +kernel

end Playtime.Sessions
