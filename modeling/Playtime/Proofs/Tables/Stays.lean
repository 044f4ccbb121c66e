import Playtime.Proofs.Site.Deeds

namespace Playtime.Sql

/-- An interval with the key of its player in place of the number of the player's row. -/
structure Stay where
  player : Option Key
  world : Nat
  joined : Timestamp
  left : Timestamp
deriving DecidableEq, Repr

namespace Stay

def seconds (stay : Stay) : Int := stay.left.seconds - stay.joined.seconds

def secondsOf? (stays : List Stay) (key : Key) : Option Int :=
  match stays.filter fun stay => stay.player = some key with
  | [] => none
  | mine => some (mine.map seconds).sum

end Stay

namespace Tables

def stayOf (tables : Tables) (row : IntervalRow) : Stay :=
  ⟨(tables.players[row.player]?).map PlayerRow.key, row.world, row.joined, row.left⟩

def stays (tables : Tables) : List Stay := tables.intervals.map tables.stayOf

/-- What the schema demands of tables: each player has one row, each name one holder and each interval its player. -/
structure Regular (tables : Tables) : Prop where
  keyed : tables.Keyed
  owned : tables.Owned
  single {key other : Key} {name : String} (held : ⟨key, some name⟩ ∈ tables.players)
    (heldToo : ⟨other, some name⟩ ∈ tables.players) : key = other

theorem regular_of_nobody {tables : Tables} (players : tables.players = []) (intervals : tables.intervals = []) :
    tables.Regular where
  keyed := by constructor <;> simp [players]
  owned := by simp [Owned, intervals]
  single held _ := by simp [players] at held

variable {tables changed other : Tables}

theorem sum_eq_sum_map (rows : List IntervalRow) : IntervalRow.sum rows = (rows.map IntervalRow.seconds).sum := by
  induction rows with
  | nil => rfl
  | cons row rows ih => rw [IntervalRow.sum, ih, List.map_cons, List.sum_cons]

theorem Keyed.player_iff (keyed : tables.Keyed) {key : Key} {player : Nat}
    (known : (tables.players.findIdx? fun row => row.key = key) = some player) (number : Nat) :
    (tables.players[number]?).map PlayerRow.key = some key ↔ number = player := by
  constructor
  · intro found
    obtain ⟨row, inside, rfl⟩ := Option.map_eq_some_iff.mp found
    exact Option.some.inj ((keyed.row_of_getElem? number row inside).symm.trans known)
  · rintro rfl
    obtain ⟨inside, mine, -⟩ := List.findIdx?_eq_some_iff_getElem.mp known
    rw [List.getElem?_eq_getElem inside, Option.map_some, of_decide_eq_true mine]

theorem Keyed.secondsOf?_eq (keyed : tables.Keyed) (key : Key) :
    tables.secondsOf? key = Stay.secondsOf? tables.stays key := by
  unfold Stay.secondsOf? stays
  rw [List.filter_map]
  cases known : tables.players.findIdx? fun row => row.key = key with
  | none =>
    have nobody : tables.intervals.filter ((fun stay : Stay => stay.player = some key) ∘ tables.stayOf) = [] := by
      refine List.filter_eq_nil_iff.mpr fun row _ mine => ?_
      obtain ⟨holder, inside, same⟩ := Option.map_eq_some_iff.mp (of_decide_eq_true mine)
      have absent := List.findIdx?_eq_none_iff.mp known holder (List.mem_of_getElem? inside)
      simp [same] at absent
    rw [secondsOf?_of_no_row tables key known, nobody]
    rfl
  | some player =>
    have mine : tables.intervals.filter ((fun stay : Stay => stay.player = some key) ∘ tables.stayOf) =
        tables.intervalsOf player := by
      refine List.filter_congr fun row _ => ?_
      exact decide_eq_decide.mpr (keyed.player_iff known row.player)
    rw [secondsOf?_of_row tables key player known, mine]
    cases tables.intervalsOf player with
    | nil => rfl
    | cons row rows =>
      show some (IntervalRow.sum (row :: rows)) = some (((row :: rows).map tables.stayOf).map Stay.seconds).sum
      rw [sum_eq_sum_map, List.map_map]
      rfl

theorem grandTotal_eq (tables : Tables) : tables.grandTotal = (tables.stays.map Stay.seconds).sum := by
  rw [grandTotal, sum_eq_sum_map, stays, List.map_map]
  rfl

theorem stays_of_keys (owned : tables.Owned) (intervals : changed.intervals = tables.intervals)
    (keys : tables.players.map PlayerRow.key <+: changed.players.map PlayerRow.key) : changed.stays = tables.stays := by
  unfold stays
  rw [intervals]
  refine List.map_congr_left fun row member => ?_
  obtain ⟨added, same⟩ := keys
  have stays : (changed.players[row.player]?).map PlayerRow.key = (tables.players[row.player]?).map PlayerRow.key := by
    rw [← List.getElem?_map, ← List.getElem?_map, ← same, List.getElem?_append_left]
    rw [List.length_map]
    exact owned row member
  unfold stayOf
  rw [stays]

theorem stays_insertInterval {key : Key} (known : ∃ row ∈ tables.players, row.key = key) (world : Nat)
    (joined left : Timestamp) :
    (tables.insertInterval key world joined left).stays = tables.stays ++ [⟨some key, world, joined, left⟩] := by
  have some : (tables.players.findIdx? fun row => row.key = key).isSome := by
    simpa [List.findIdx?_isSome] using known
  obtain ⟨player, found⟩ := Option.isSome_iff_exists.mp some
  obtain ⟨inside, mine, -⟩ := List.findIdx?_eq_some_iff_getElem.mp found
  unfold insertInterval
  rw [found]
  unfold stays
  rw [List.map_append, List.map_singleton]
  have resolved : stayOf tables ⟨player, world, joined, left⟩ = ⟨.some key, world, joined, left⟩ := by
    rw [stayOf, List.getElem?_eq_getElem inside, Option.map_some, of_decide_eq_true mine]
  rw [← resolved]
  rfl

theorem keys_ensurePlayer (tables : Tables) (key : Key) :
    tables.players.map PlayerRow.key <+: (tables.ensurePlayer key).players.map PlayerRow.key := by
  unfold ensurePlayer
  split
  · exact List.prefix_refl _
  · rw [List.map_append]
    exact List.prefix_append _ _

theorem fields_insertInterval (tables : Tables) (key : Key) (world : Nat) (joined left : Timestamp) :
    (tables.insertInterval key world joined left).players = tables.players := by
  unfold insertInterval
  split <;> rfl

theorem stays_record (owned : tables.Owned) (world : Nat) (left : Timestamp) (batch : List (PlayerId × Timestamp)) :
    (Store.record tables world left batch).stays =
      tables.stays ++ batch.map fun entry => ⟨some entry.1.toBytes, world, entry.2, left⟩ := by
  induction batch generalizing tables with
  | nil => rw [List.map_nil, List.append_nil, Store.record]
  | cons entry rest ih =>
    obtain ⟨id, joined⟩ := entry
    have ensured : (tables.ensurePlayer id.toBytes).stays = tables.stays := by
      refine stays_of_keys owned ?_ (tables.keys_ensurePlayer id.toBytes)
      unfold ensurePlayer
      split <;> rfl
    have known : ∃ row ∈ (tables.ensurePlayer id.toBytes).players, row.key = id.toBytes := by
      obtain ⟨player, found⟩ := tables.row_of_ensurePlayer id.toBytes
      obtain ⟨inside, mine, -⟩ := List.findIdx?_eq_some_iff_getElem.mp found
      exact ⟨_, List.getElem_mem inside, of_decide_eq_true mine⟩
    have owned' := (owned.ensurePlayer id.toBytes).insertInterval id.toBytes world joined left
    rw [Store.record, ih owned', stays_insertInterval known, ensured, List.map_cons, List.append_assoc,
      List.singleton_append]

end Tables

end Playtime.Sql
