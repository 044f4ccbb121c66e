import Playtime.Proofs.Manager.Rollup

namespace Playtime

theorem Totals.enter_comm (totals : Totals) {first second : PlayerId × Int64} (apart : first.1 ≠ second.1) :
    (totals.enter first).enter second = (totals.enter second).enter first := by
  ext id seconds
  simp only [Totals.enter, Std.ExtTreeMap.getElem?_insert, Std.ExtTreeMap.getD_insert,
    Std.LawfulEqOrd.compare_eq_iff_eq]
  by_cases mine : first.1 = id
  · subst mine
    simp [Ne.symm apart]
  · by_cases other : second.1 = id
    · subst other
      simp [mine]
    · simp [mine, other]

theorem Totals.merge_of_perm (totals : Totals) {others : Totals} {entries : List (PlayerId × Int64)}
    (perm : entries.Perm others.toList) : entries.foldl Totals.enter totals = totals.merge others := by
  have keys : (entries.map Prod.fst).Nodup := by
    rw [(perm.map Prod.fst).nodup_iff, Std.ExtTreeMap.map_fst_toList_eq_keys]
    exact Std.ExtTreeMap.nodup_keys
  apply perm.foldl_eq'
  intro first inside second insideToo start
  by_cases same : first.1 = second.1
  · rw [List.inj_on_of_nodup_map keys inside insideToo same]
  · exact Totals.enter_comm start same

namespace Manager

/-- More seconds, or as many and a smaller identifier. -/
def Before (first second : PlayerId × Int64) : Prop :=
  second.2 < first.2 ∨ first.2 = second.2 ∧ compare first.1 second.1 = .lt

theorem Before.trans {first second third : PlayerId × Int64} (one : Before first second)
    (two : Before second third) : Before first third := by
  unfold Before at *
  simp only [Int64.lt_iff_toInt_lt, ← Int64.toInt_inj] at *
  rcases one with more | ⟨same, smaller⟩
  · left; omega
  · rcases two with more | ⟨same', smaller'⟩
    · left; omega
    · right; exact ⟨same.trans same', Std.TransCmp.lt_trans smaller smaller'⟩

theorem Before.asymm {first second : PlayerId × Int64} (one : Before first second) : ¬ Before second first := by
  unfold Before at *
  simp only [Int64.lt_iff_toInt_lt, ← Int64.toInt_inj] at *
  rintro (more | ⟨same, smaller⟩)
  · omega
  · rcases one with more | ⟨-, smaller'⟩
    · omega
    · rw [Std.OrientedCmp.gt_of_lt smaller'] at smaller
      cases smaller

theorem before_or (first second : PlayerId × Int64) : Before first second ∨ first = second ∨ Before second first := by
  unfold Before
  simp only [Int64.lt_iff_toInt_lt, ← Int64.toInt_inj]
  rcases Int.lt_trichotomy first.2.toInt second.2.toInt with less | same | more
  · exact .inr (.inr (.inl less))
  · cases order : compare first.1 second.1 with
    | lt => exact .inl (.inr ⟨same, rfl⟩)
    | eq => exact .inr (.inl (Prod.ext (Std.LawfulEqOrd.eq_of_compare order) (Int64.toInt_inj.mp same)))
    | gt => exact .inr (.inr (.inr ⟨same.symm, Std.OrientedCmp.lt_of_gt order⟩))
  · exact .inl (.inl more)

theorem ranksBefore_iff (first second : PlayerId × Int64) :
    ranksBefore first second = true ↔ Before first second ∨ first = second := by
  unfold ranksBefore Before
  simp only [Bool.or_eq_true, decide_eq_true_eq, Bool.and_eq_true, Ordering.isLE_iff_eq_lt_or_eq_eq,
    Std.LawfulEqOrd.compare_eq_iff_eq, Prod.ext_iff]
  grind

def ranking (players : List (PlayerId × Int64)) : List (PlayerId × Int64) := players.mergeSort ranksBefore

theorem pairwise_ranking (players : List (PlayerId × Int64)) :
    (ranking players).Pairwise fun first second => ranksBefore first second = true := by
  apply List.pairwise_mergeSort
  · intro first second third
    simp only [ranksBefore_iff]
    rintro (one | rfl) (two | rfl)
    · exact .inl (one.trans two)
    · exact .inl one
    · exact .inl two
    · exact .inr rfl
  · intro first second
    rw [Bool.or_eq_true, ranksBefore_iff, ranksBefore_iff]
    rcases before_or first second with before | same | after
    · exact .inl (.inl before)
    · exact .inl (.inr same)
    · exact .inr (.inl after)

theorem ranking_perm (players : List (PlayerId × Int64)) : (ranking players).Perm players :=
  List.mergeSort_perm players ranksBefore

/-- No two rankings of the same players differ. -/
theorem ranking_of_perm {players others : List (PlayerId × Int64)} (perm : players.Perm others) :
    ranking players = ranking others := by
  apply List.Perm.eq_of_pairwise _ (pairwise_ranking players) (pairwise_ranking others)
    ((ranking_perm players).trans (perm.trans (ranking_perm others).symm))
  intro first second _ _ one two
  rw [ranksBefore_iff] at one two
  rcases one with before | same
  · rcases two with after | same
    · exact absurd after before.asymm
    · exact same.symm
  · exact same

theorem before_of_ranking {players : List (PlayerId × Int64)} (distinct : players.Nodup) :
    (ranking players).Pairwise Before := by
  have apart : (ranking players).Pairwise (· ≠ ·) := (ranking_perm players).nodup_iff.mpr distinct
  apply ((pairwise_ranking players).and apart).imp
  rintro first second ⟨ranked, differs⟩
  exact ((ranksBefore_iff first second).mp ranked).resolve_right differs

def standing (backend : Backend) (host : Host) (entry : PlayerId × Int64) : Standing :=
  ⟨entry.1, ((backend.nameOf? host entry.1).toOption).join, entry.2⟩

theorem named_eq {backend : Backend} {host : Host} {players : List (PlayerId × Int64)}
    (told : ∀ entry ∈ players, ∃ name, backend.nameOf? host entry.1 = .ok name) :
    named backend host players = .ok (players.map (standing backend host)) := by
  induction players with
  | nil => rfl
  | cons entry rest ih =>
    obtain ⟨name, read⟩ := told entry List.mem_cons_self
    rw [named, read, ih fun other member => told other (List.mem_cons_of_mem _ member), List.map_cons, standing, read]
    rfl

theorem nameOf?_standing {backend : Backend} {host : Host} {entry : PlayerId × Int64}
    (told : ∃ name, backend.nameOf? host entry.1 = .ok name) :
    backend.nameOf? host (standing backend host entry).id = .ok (standing backend host entry).name := by
  obtain ⟨name, read⟩ := told
  simp [standing, read, Except.toOption]

/-- The first players of an account, at most so many, with their seconds and names. -/
structure Leads (totals : Totals) (nameOf? : PlayerId → Except StorageError (Option String)) (limit : Nat)
    (leaders : List Standing) : Prop where
  length : leaders.length = min limit totals.size
  distinct : (leaders.map Standing.id).Nodup
  entries (leader : Standing) (member : leader ∈ leaders) :
    totals[leader.id]? = some leader.seconds ∧ nameOf? leader.id = .ok leader.name
  ordered : leaders.Pairwise fun first second => Before (first.id, first.seconds) (second.id, second.seconds)
  others (id : PlayerId) (seconds : Int64) (known : totals[id]? = some seconds) (out : id ∉ leaders.map Standing.id)
    (leader : Standing) (member : leader ∈ leaders) : Before (leader.id, leader.seconds) (id, seconds)

theorem leads_of_ranking {backend : Backend} {host : Host} {totals : Totals}
    (told : ∀ id ∈ totals, ∃ name, backend.nameOf? host id = .ok name) (limit : Nat) :
    Leads totals (backend.nameOf? host) limit
      (((ranking totals.toList).take limit).map (standing backend host)) := by
  have perm := ranking_perm totals.toList
  have keys : ((ranking totals.toList).map Prod.fst).Nodup := by
    rw [(perm.map Prod.fst).nodup_iff, Std.ExtTreeMap.map_fst_toList_eq_keys]
    exact Std.ExtTreeMap.nodup_keys
  have ranked : (ranking totals.toList).Pairwise Before :=
    before_of_ranking (perm.nodup_iff.mp (.of_map Prod.fst keys))
  have found (entry : PlayerId × Int64) : entry ∈ ranking totals.toList ↔ totals[entry.1]? = some entry.2 := by
    rw [perm.mem_iff, Std.ExtTreeMap.mem_toList_iff_getElem?_eq_some]
  have length : (ranking totals.toList).length = totals.size := by
    rw [perm.length_eq, Std.ExtTreeMap.length_toList]
  generalize ranking totals.toList = players at keys ranked found length
  have ids : ((players.take limit).map (standing backend host)).map Standing.id =
      (players.take limit).map Prod.fst := by
    rw [List.map_map]
    rfl
  constructor
  · rw [List.length_map, List.length_take, length]
  · rw [ids]
    exact keys.sublist ((List.take_sublist limit players).map Prod.fst)
  · intro leader member
    obtain ⟨entry, inside, rfl⟩ := List.mem_map.mp member
    have known := (found entry).mp (List.mem_of_mem_take inside)
    exact ⟨known, nameOf?_standing (told entry.1 (Std.ExtTreeMap.mem_iff_isSome_getElem?.mpr (by rw [known]; rfl)))⟩
  · apply List.pairwise_map.mpr
    exact ranked.sublist (List.take_sublist limit players)
  · intro id seconds known out leader member
    obtain ⟨entry, inside, rfl⟩ := List.mem_map.mp member
    rw [ids] at out
    -- Who is not among the first comes in the rest of the ranking.
    have later : (id, seconds) ∈ players.drop limit := by
      have somewhere := (found (id, seconds)).mpr known
      rw [← List.take_append_drop limit players, List.mem_append] at somewhere
      apply somewhere.resolve_left
      intro first
      exact out (List.mem_map_of_mem first)
    rw [← List.take_append_drop limit players, List.pairwise_append] at ranked
    exact ranked.2.2 entry inside (id, seconds) later

theorem timesOpen_of_totals {state : Backend × Host} {totals : Totals} (read : Ledger.totals state = .ok totals) :
    LawfulLedger.IsOpen state := by
  have table (store : Sql.Store) (host : Host) (read : store.totals host = .ok totals) :
      store.isOpen = true ∧ (store.tables? host).isSome = true := by
    unfold Sql.Store.totals Sql.Store.read at read
    split at read
    · next isOpen =>
      split at read
      · cases read
      · next held => exact ⟨isOpen, by rw [held]; rfl⟩
    · cases read
  obtain ⟨backend, host⟩ := state
  cases backend with
  | files names times =>
    change TimeFile.totals times = .ok totals at read
    show FlatFile.isOpen times = true
    unfold TimeFile.totals FlatFile.read at read
    by_cases isOpen : FlatFile.isOpen times = true
    · exact isOpen
    · rw [if_neg isOpen] at read
      cases read
  | relational store => exact table store host read
  | mixed names store => exact table store host read

theorem seconds_of_totals {sessions : Sessions} {state : Backend × Host} {now : Int64} {totals : Totals}
    (keyed : ListedLedger.Keyed state) (read : sessions.totals state now = .ok totals) {id : PlayerId}
    {seconds : Int64} (known : totals[id]? = some seconds) : sessions.seconds state id now = .ok seconds := by
  have isOpen : LawfulLedger.IsOpen state := by
    unfold Sessions.totals at read
    split at read
    · cases read
    · next listed => exact timesOpen_of_totals listed
  have fits (id : PlayerId) : Fits (LawfulLedger.balance state id) := by
    by_contra misfit
    rw [(Sessions.fail_alike sessions state now id isOpen keyed misfit).1] at read
    cases read
  obtain ⟨stored, all, alike⟩ := Sessions.exists_readAlike sessions state now isOpen keyed fits
  cases alike.read.symm.trans read
  exact alike.seconds id seconds known

theorem top_of_read {manager : Manager} {site : Site} {number : Nat} {storages : Storages} {now : Int64}
    {totals : Totals} (current : manager.current = some number) (known : site.storages[number]? = some storages)
    (read : storages.sessions.totals (storages.backend, site.host) now = .ok totals) (limit : Nat) :
    manager.top site limit now = named storages.backend site.host ((ranking totals.toList).take limit) := by
  unfold Manager.top Manager.storages Site.read
  rw [current]
  dsimp only
  rw [known]
  dsimp only
  rw [read]
  rfl

/--
While the seconds of all players and their names can be read, the leaderboard for a limit has that many players if there
are as many: the first in the order of seconds and identifiers, with the seconds and the name that each has then. The
leaderboard for a smaller limit is its beginning, and it does not matter in which order the sessions, the pending
credits and the players are gone through.
-/
theorem top_leads (manager : Manager) (site : Site) (number : Nat) (storages : Storages) (now : Int64)
    (totals : Totals) (current : manager.current = some number) (known : site.storages[number]? = some storages)
    (read : storages.sessions.totals (storages.backend, site.host) now = .ok totals)
    (told : ∀ id ∈ totals, ∃ name, storages.backend.nameOf? site.host id = .ok name) (limit : Nat) :
    ∃ leaders, manager.top site limit now = .ok leaders ∧
      Leads totals (storages.backend.nameOf? site.host) limit leaders ∧
      (∀ start occasions, start.Orderly → manager.after start occasions = site → ∀ leader ∈ leaders,
        storages.sessions.seconds (storages.backend, site.host) leader.id now = .ok leader.seconds) ∧
      (∀ fewer ≤ limit, manager.top site fewer now = .ok (leaders.take fewer)) ∧
      ∀ (stored : Totals) (owed pending players : List (PlayerId × Int64)),
        Ledger.totals (storages.backend, site.host) = .ok stored →
        owed.Perm (storages.sessions.owed now).toList → pending.Perm storages.sessions.pending.toList →
        players.Perm (pending.foldl Totals.enter (owed.foldl Totals.enter stored)).toList →
        named storages.backend site.host ((ranking players).take limit) = .ok leaders := by
  have top (limit : Nat) : manager.top site limit now =
      .ok (((ranking totals.toList).take limit).map (standing storages.backend site.host)) := by
    rw [top_of_read current known read]
    apply named_eq
    intro entry member
    apply told
    have inside := (ranking_perm totals.toList).mem_iff.mp (List.mem_of_mem_take member)
    rw [Std.ExtTreeMap.mem_iff_isSome_getElem?, Std.ExtTreeMap.mem_toList_iff_getElem?_eq_some.mp inside]
    rfl
  have leads := leads_of_ranking told limit
  refine ⟨_, top limit, leads, ?_, ?_, ?_⟩
  · intro start occasions orderly reached leader member
    have keyed := (reached ▸ manager.orderly_after orderly occasions).keyed (List.mem_of_getElem? known)
    exact seconds_of_totals keyed read (leads.entries leader member).1
  · intro fewer less
    rw [top, ← List.map_take, List.take_take, Nat.min_eq_left less]
  · intro stored owed pending players listed sessions credits perm
    have whole : players.Perm totals.toList := by
      rw [Totals.merge_of_perm stored sessions, Totals.merge_of_perm _ credits] at perm
      rw [Sessions.totals, listed] at read
      cases read
      exact perm
    rw [ranking_of_perm whole, ← top_of_read current known read, top]

/-- Of two players with as many seconds the one with the smaller identifier is first, though nobody knows its name. -/
theorem top_leads_through_tie :
    let ann : PlayerId := ⟨1⟩
    let ben : PlayerId := ⟨2⟩
    let cid : PlayerId := ⟨3⟩
    let dot : PlayerId := ⟨4⟩
    let manager := around 0
    let host : Host := ⟨.empty, [(∅ : Sql.Database).createTables "ot_"], 0⟩
    let site : Site := ⟨host, [⟨.relational ⟨0, "ot_", 0, true⟩, .empty⟩]⟩
    let occasions : List (Int64 × Occasion) := [(0, .deed 0 (.name (.set cid "Cid" false))),
      (0, .deed 0 (.use (.credit dot (-5)))), (0, .deed 0 (.use (.call (.start cid 0)))),
      (0, .deed 0 (.use (.credit ann 100))), (0, .deed 0 (.use (.credit ben 60)))]
    let reached := manager.after site occasions
    let leaders : List Standing := [⟨ann, none, 100⟩, ⟨ben, none, 60⟩, ⟨cid, some "Cid", 60⟩]
    manager.top reached 3 60000 = .ok leaders ∧ manager.top reached 2 60000 = .ok (leaders.take 2) ∧
      ∀ leader ∈ leaders, Before (leader.id, leader.seconds) (dot, -5) := by
  intro ann ben cid dot manager host site occasions reached leaders
  let players : List (PlayerId × Int64) := [(ann, 100), (ben, 60), (cid, 60), (dot, -5)]
  have recorded : reached.storages[0]?.map (fun storages =>
      ((Ledger.totals (storages.backend, reached.host)).map (·.toList), (storages.sessions.owed 60000).toList,
        storages.sessions.pending.toList)) =
      some (.ok [(ann, 100), (ben, 60), (dot, -5)], [(cid, 60)], []) := by decide +kernel
  have seen : reached.storages[0]?.map (fun storages =>
      ((storages.sessions.totals (storages.backend, reached.host) 60000).map (·.toList),
        players.map fun entry => storages.backend.nameOf? reached.host entry.1)) =
      some (.ok players, [.ok none, .ok none, .ok (some "Cid"), .ok none]) := by decide +kernel
  have ranked : ranking players = players := List.mergeSort_of_pairwise (by decide +kernel)
  generalize reached = site' at recorded seen ⊢
  obtain ⟨storages, known, recorded⟩ := Option.map_eq_some_iff.mp recorded
  rw [known] at seen
  simp only [Option.map_some, Option.some.injEq, Prod.mk.injEq] at recorded seen
  obtain ⟨listed, owed, pending⟩ := recorded
  obtain ⟨read, names⟩ := seen
  obtain ⟨totals, read, entries⟩ : ∃ totals,
      storages.sessions.totals (storages.backend, site'.host) 60000 = .ok totals ∧ totals.toList = players := by
    cases given : storages.sessions.totals (storages.backend, site'.host) 60000 with
    | error error => rw [given] at read; cases read
    | ok totals => rw [given] at read; exact ⟨totals, rfl, Except.ok.inj read⟩
  simp only [players, List.map_cons, List.map_nil, List.cons.injEq] at names
  obtain ⟨annName, benName, cidName, dotName, -⟩ := names
  have told : ∀ id ∈ totals, ∃ name, storages.backend.nameOf? site'.host id = .ok name := by
    intro id member
    rw [← Std.ExtTreeMap.mem_keys, ← Std.ExtTreeMap.map_fst_toList_eq_keys, entries] at member
    simp only [players, List.map_cons, List.map_nil, List.mem_cons, List.not_mem_nil, or_false] at member
    rcases member with rfl | rfl | rfl | rfl
    exacts [⟨_, annName⟩, ⟨_, benName⟩, ⟨_, cidName⟩, ⟨_, dotName⟩]
  obtain ⟨leaders', top, leads, -, fewer, -⟩ := top_leads manager site' 0 storages 60000 totals rfl known read told 3
  have first : leaders' = leaders := by
    rw [top_of_read rfl known read, entries, ranked] at top
    simp only [players, List.take_succ_cons, List.take_zero, named, annName, benName, cidName] at top
    exact (Except.ok.inj top).symm
  subst first
  refine ⟨top, fewer 2 (by decide), ?_⟩
  apply leads.others dot (-5)
  · rw [← Std.ExtTreeMap.mem_toList_iff_getElem?_eq_some, entries]
    decide
  · decide

end Manager

end Playtime
