import Playtime.Daemon
import Playtime.Proofs.Daemon.Opening
import Playtime.Proofs.Node.Advance
import Playtime.Proofs.Node.Service

namespace Playtime

open Replication (Link)

namespace Site

def Idle (site : Site) : Prop := ∀ storages ∈ site.storages, storages.sessions = .empty

variable {site : Site}

theorem Idle.showing (idle : site.Idle) (clock : Int64) : (site.showing clock).Idle := idle

end Site

namespace Manager

variable {site : Site}

theorem flush_of_idle (manager : Manager) (idle : site.Idle) (now : Int64) : (manager.flush site now).2 = site := by
  unfold Manager.flush
  split
  · rfl
  · next number _ =>
    cases known : site.storages[number]? with
    | none =>
      unfold Site.onSessions
      rw [known]
    | some storages =>
      refine Site.onSessions_of_still known ?_
      rw [idle storages (List.mem_of_getElem? known)]
      rfl

theorem host_close_of_idle (manager : Manager) (idle : site.Idle) (now : Int64) :
    (manager.close site now).2.host = site.host := by
  unfold Manager.close
  split
  · next number _ =>
    show (site.close number now).host = site.host
    rw [Site.close_eq]
    cases known : site.storages[number]? with
    | none => rw [Site.deed_of_unknown known, Site.deed_of_unknown known]
    | some storages =>
      rw [Site.deed_of_known (Site.known_deed known _), Site.deed_of_known known]
      show (Sessions.use (storages.sessions, storages.backend, site.host) (.close now)).2.2 = site.host
      rw [idle storages (List.mem_of_getElem? known), Sessions.use, Sessions.close_empty]
      exact Backend.host_close _
  · rfl

end Manager

namespace Node

variable {site : Site} {managers : List Manager}

theorem flush_of_idle (idle : site.Idle) (number : Nat) : flush managers number site = site := by
  unfold flush
  split
  · next manager _ => exact manager.flush_of_idle idle _
  · rfl

theorem advance_of_idle {node : Node} (linkless : node.links = []) (managers : List Manager) (idle : site.Idle)
    (millis : Nat) :
    (node.advance managers site millis).1.links = [] ∧ (node.advance managers site millis).2 = site := by
  refine Prod.mk.inj (node.advance_preserves managers site millis (fun _ state => state = ([], site)) ?_ ?_
    (by rw [linkless]))
  · rintro _ _ rfl
    rfl
  · rintro _ _ _ timer _ _ rfl
    cases timer.duty with
    | flush number => exact congrArg (Prod.mk []) (flush_of_idle idle number)
    | poll link => exact congrArg (·, site) (List.modify_nil ..)

theorem flushLast_of_idle (idle : site.Idle) (timers : List (Timer Duty)) : flushLast managers timers site = site := by
  induction timers with
  | nil => rfl
  | cons timer timers ih =>
    unfold flushLast
    split
    · rw [flush_of_idle idle]
      exact ih
    · exact ih

end Node

namespace Manager

end Manager

namespace Settings

def configured (settings : Settings) (surroundings : Surroundings) (kind : StorageKind) (dialect : Sql.Dialect) :
    Configuration :=
  ⟨kind, settings.directory surroundings, settings.stem, dialect, settings.database surroundings, settings.server,
    settings.world⟩

/--
What it takes to open the storages of a kind and a dialect. Files are to be legible in a directory that is there or can
be created; the names are looked for before it is, the times after.
-/
def Opens (settings : Settings) (surroundings : Surroundings) (host : Host) : StorageKind → Sql.Dialect → Prop
  | .file, _ =>
    let names := NameFile.path (settings.directory surroundings) settings.stem
    let created := host.disk.createDirectories names.dropLast
    created.1 = true ∧ FlatFile.Legible String host.disk names ∧
      FlatFile.Legible Int64 created.2 (TimeFile.path (settings.directory surroundings) settings.stem)
  | .sql, dialect => dialect = .sqlite ∧
    ∃ store, (Sql.Store.load host (settings.database surroundings) settings.stem settings.server settings.world).1 =
      .ok store

variable {settings : Settings} {surroundings : Surroundings} {host : Host} {kind : StorageKind} {dialect : Sql.Dialect}

theorem exists_load_iff :
    (∃ backend, (Backend.load host (settings.configured surroundings kind dialect)).1 = .ok backend) ↔
      settings.Opens surroundings host kind dialect := by
  cases kind with
  | file =>
    refine Iff.trans ?_ (Backend.exists_loadFiles_iff host (settings.directory surroundings) settings.stem)
    unfold Backend.load configured
    dsimp only
    generalize Backend.loadFiles host (settings.directory surroundings) settings.stem = result
    obtain ⟨_ | _, _⟩ := result <;> simp [Except.mapError]
  | sql =>
    unfold Backend.load Opens configured Backend.loadRelational
    dsimp only
    split
    · next sqlite =>
      generalize Sql.Store.load host (settings.database surroundings) settings.stem settings.server settings.world =
        result
      obtain ⟨_ | _, _⟩ := result <;> simp [sqlite, Except.map, Except.mapError]
    · next other => simp [other]

end Settings

namespace Daemon

structure Idle (daemon : Daemon) : Prop where
  links : daemon.node.links = []
  site : daemon.site.Idle

/-- Time passes, a span after the other, and the wall clock shows a time of its own in each. -/
def spend (daemon : Daemon) : List (Int64 × Nat) → Daemon
  | [] => daemon
  | (clock, millis) :: later => ({ daemon with site := daemon.site.showing clock }.advance millis).spend later

variable {daemon : Daemon}

theorem Idle.spend (idle : daemon.Idle) (spans : List (Int64 × Nat)) :
    (daemon.spend spans).Idle ∧ (daemon.spend spans).site.host.disk = daemon.site.host.disk := by
  induction spans generalizing daemon with
  | nil => exact ⟨idle, rfl⟩
  | cons span later ih =>
    obtain ⟨clock, millis⟩ := span
    obtain ⟨links, same⟩ := Node.advance_of_idle idle.links [daemon.manager] (idle.site.showing clock) millis
    have spent : ({ daemon with site := daemon.site.showing clock }.advance millis).Idle := by
      refine ⟨links, ?_⟩
      show (daemon.node.advance [daemon.manager] (daemon.site.showing clock) millis).2.Idle
      rw [same]
      exact idle.site.showing clock
    obtain ⟨still, disk⟩ := ih spent
    refine ⟨still, disk.trans ?_⟩
    show (daemon.node.advance [daemon.manager] (daemon.site.showing clock) millis).2.host.disk = _
    rw [same]
    rfl

theorem Idle.stop (idle : daemon.Idle) : daemon.stop = daemon.site.host := by
  have flushed : (daemon.node.shutdown [daemon.manager] daemon.site).2 = daemon.site :=
    Node.flushLast_of_idle idle.site daemon.node.timers
  show (daemon.manager.close (daemon.node.shutdown [daemon.manager] daemon.site).2 _).2.host = _
  rw [flushed]
  exact daemon.manager.host_close_of_idle idle.site _

section Starting

variable (surroundings : Surroundings) (orders : Traversals) (environment : Variables) (host : Host)

end Starting

end Daemon

end Playtime
