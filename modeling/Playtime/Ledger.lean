import Std.Data.ExtTreeMap
import Playtime.StorageError

namespace Playtime

abbrev Totals := Std.ExtTreeMap PlayerId Int64 compare

/--
A durable account of seconds by player, with what it is kept on. A credit either takes effect or is refused with
nothing changed, and a batch of credits is one credit in this respect.
-/
class Ledger (σ : Type) where
  seconds? : σ → PlayerId → Except StorageError (Option Int64)
  totals : σ → Except StorageError Totals
  credit : σ → PlayerId → Int64 → Except StorageError Unit × σ
  creditAll : σ → List (PlayerId × Int64) → Except StorageError Unit × σ
  close : σ → σ

end Playtime
