import Playtime.Proofs.Replication.InertFrames
import Playtime.Proofs.Site.Deeds

namespace Playtime

namespace Backend

open Sql (Store Source)

def Opened {ε : Type} (host : Host) (opened : Except ε Backend × Host) : Prop :=
  (opened.2.databases = host.databases ∧ ∀ backend, opened.1 = .ok backend → backend.timeStore? = none) ∨
    ∃ met source stem server world, met.databases = host.databases ∧
      opened.2 = (Store.load met source stem server world).2 ∧
      ∀ backend, opened.1 = .ok backend → ∃ store, backend.timeStore? = some store ∧
        (Store.load met source stem server world).1 = .ok store

theorem opened_loadMixed (host : Host) (directory stem server world : String) :
    Opened host (loadMixed host directory stem server world) := by
  unfold loadMixed
  split
  · exact .inl ⟨rfl, nofun⟩
  · next names disk _ =>
    refine .inr ⟨{ host with disk }, .memory, stem, server, world, rfl, ?_⟩
    generalize Store.load { host with disk } .memory stem server world = result
    obtain ⟨_ | store, after⟩ := result
    · exact ⟨rfl, nofun⟩
    · refine ⟨rfl, fun backend opened => ?_⟩
      cases opened
      exact ⟨store, rfl, rfl⟩

theorem opened_loadFiles (host : Host) (directory stem : String) : Opened host (loadFiles host directory stem) := by
  unfold loadFiles
  split
  · exact .inl ⟨rfl, nofun⟩
  · split
    · exact .inl ⟨rfl, nofun⟩
    · refine .inl ⟨rfl, fun backend opened => ?_⟩
      cases opened
      rfl

theorem opened_loadRelational (host : Host) (source : Source) (stem server world : String) :
    Opened host (loadRelational host source stem server world) := by
  refine .inr ⟨host, source, stem, server, world, rfl, ?_⟩
  unfold loadRelational
  generalize Store.load host source stem server world = result
  obtain ⟨_ | store, after⟩ := result
  · exact ⟨rfl, nofun⟩
  · refine ⟨rfl, fun backend opened => ?_⟩
    cases opened
    exact ⟨store, rfl, rfl⟩

theorem Opened.mapError {ε ε' : Type} {host : Host} {opened : Except ε Backend × Host} (made : Opened host opened)
    (f : ε → ε') : Opened host (opened.1.mapError f, opened.2) := by
  have same : ∀ backend, opened.1.mapError f = .ok backend → opened.1 = .ok backend := by
    obtain ⟨_ | found, after⟩ := opened
    · nofun
    · rintro backend ⟨⟩
      rfl
  rcases made with ⟨kept, storeless⟩ | ⟨met, source, stem, server, world, kept, reached, stored⟩
  · exact .inl ⟨kept, fun backend told => storeless backend (same backend told)⟩
  · exact .inr ⟨met, source, stem, server, world, kept, reached, fun backend told => stored backend (same backend told)⟩

theorem opened_load (host : Host) (configuration : Configuration) : Opened host (load host configuration) := by
  unfold load
  split
  · exact (opened_loadFiles host configuration.directory configuration.stem).mapError LoadError.storage
  · split
    · exact (opened_loadRelational host configuration.database configuration.stem configuration.server
        configuration.world).mapError LoadError.storage
    · exact .inl ⟨rfl, nofun⟩

end Backend

namespace Site

inductive Errand where
  | load (configuration : Configuration)
  | loadMixed (directory stem server world : String)
  | deed (number : Nat) (deed : Deed)
  | meet (clock : Int64) (faults : List Fault)

def adopt {ε : Type} (site : Site) : Except ε Backend × Host → Site
  | (.error _, host) => { site with host }
  | (.ok backend, host) => (insert { site with host } backend).2

def perform (site : Site) : Errand → Site
  | .load configuration => (site.load configuration).2
  | .loadMixed directory stem server world => site.adopt (Backend.loadMixed site.host directory stem server world)
  | .deed number deed => site.deed number deed
  | .meet clock faults => { site with host := site.host.meeting clock faults }

theorem load_eq_adopt (site : Site) (configuration : Configuration) :
    (site.load configuration).2 = site.adopt (Backend.load site.host configuration) := by
  unfold Site.load
  generalize Backend.load site.host configuration = opened
  obtain ⟨_ | backend, host⟩ := opened <;> rfl

def run (site : Site) : List Errand → Site
  | [] => site
  | errand :: later => run (site.perform errand) later

variable {site : Site} {number : Nat} {storages : Storages}

theorem known_adopt {ε : Type} (known : site.storages[number]? = some storages) (opened : Except ε Backend × Host) :
    (site.adopt opened).storages[number]? = some storages := by
  obtain ⟨_ | backend, host⟩ := opened
  · exact known
  · obtain ⟨inside, -⟩ := List.getElem?_eq_some_iff.mp known
    exact (List.getElem?_append_left inside).trans known

theorem known_perform (known : site.storages[number]? = some storages) (errand : Errand) :
    (site.perform errand).storages[number]? = some storages ∨ ∃ deed, errand = .deed number deed ∧
      let after := deed.act (storages.sessions, storages.backend, site.host)
      (site.perform errand).storages[number]? = some ⟨after.2.1, after.1⟩ := by
  cases errand with
  | load configuration =>
    left
    rw [perform, load_eq_adopt]
    exact known_adopt known _
  | loadMixed directory stem server world => exact .inl (known_adopt known _)
  | meet clock faults => exact .inl known
  | deed place deed =>
    by_cases mine : place = number
    · subst mine
      exact .inr ⟨deed, rfl, known_deed known deed⟩
    · left
      show (site.deed place deed).storages[number]? = _
      cases held : site.storages[place]? with
      | none => rwa [deed_of_unknown held]
      | some other => rwa [deed_of_known held, List.getElem?_set_ne mine]

/-- What deeds keep of storages, wherever the host has got to, a run keeps too. -/
theorem known_run {property : Storages → Prop} {permitted : Deed → Prop}
    (deeds : ∀ storages host deed, permitted deed → property storages →
      let after := deed.act (storages.sessions, storages.backend, host)
      property ⟨after.2.1, after.1⟩)
    (errands : List Errand) (allowed : ∀ deed, .deed number deed ∈ errands → permitted deed)
    (known : site.storages[number]? = some storages) (holds : property storages) :
    ∃ after, (site.run errands).storages[number]? = some after ∧ property after := by
  induction errands generalizing site storages with
  | nil => exact ⟨storages, known, holds⟩
  | cons errand later ih =>
    have rest : ∀ deed, .deed number deed ∈ later → permitted deed := fun deed member =>
      allowed deed (List.mem_cons_of_mem errand member)
    rcases known_perform known errand with same | ⟨deed, rfl, changed⟩
    · exact ih rest same holds
    · exact ih rest changed (deeds storages site.host deed (allowed deed (List.mem_cons_self ..)) holds)

def Reaches (site after : Site) : Prop := ∃ errands, site.run errands = after

variable {middle after : Site}

theorem run_append (site : Site) (first second : List Errand) :
    site.run (first ++ second) = (site.run first).run second := by
  induction first generalizing site with
  | nil => rfl
  | cons errand first ih => exact ih (site.perform errand)

theorem Reaches.refl (site : Site) : site.Reaches site := ⟨[], rfl⟩

theorem Reaches.trans (first : site.Reaches middle) (second : middle.Reaches after) : site.Reaches after := by
  obtain ⟨errands, rfl⟩ := first
  obtain ⟨others, rfl⟩ := second
  exact ⟨errands ++ others, run_append site errands others⟩

theorem reaches_perform (site : Site) (errand : Errand) : site.Reaches (site.perform errand) := ⟨[errand], rfl⟩

theorem reaches_deed (site : Site) (number : Nat) (deed : Deed) : site.Reaches (site.deed number deed) :=
  site.reaches_perform (.deed number deed)

theorem Reaches.known (reaches : site.Reaches after) (known : site.storages[number]? = some storages) :
    ∃ later, after.storages[number]? = some later := by
  obtain ⟨errands, rfl⟩ := reaches
  have deeds (_ : Storages) (_ : Host) (_ : Deed) (_ _ : True) : True := trivial
  obtain ⟨later, found, -⟩ := known_run deeds errands (fun _ _ => trivial) known trivial
  exact ⟨later, found⟩

theorem run_uses (known : site.storages[number]? = some storages) (uses : List Sessions.Use) :
    let after := uses.foldl Sessions.use (storages.sessions, storages.backend, site.host)
    site.run (uses.map fun what => .deed number (.use what)) =
      ⟨after.2.2, site.storages.set number ⟨after.2.1, after.1⟩⟩ := by
  induction uses generalizing site storages with
  | nil =>
    obtain ⟨inside, rfl⟩ := List.getElem?_eq_some_iff.mp known
    show site = ⟨site.host, site.storages.set number site.storages[number]⟩
    rw [List.set_getElem_self]
  | cons what uses ih =>
    intro after
    rw [List.map_cons, run, perform, ih (known_deed known (.use what)), deed_of_known known, List.set_set]
    rfl

end Site

end Playtime
