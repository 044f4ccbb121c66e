import Playtime.Arithmetic
import Playtime.Disk
import Playtime.Sql.Database

namespace Playtime

structure Host where
  disk : Disk
  /-- Databases by number; one whose file is gone lives on for whoever opened it. -/
  databases : List Sql.Database
  /-- The wall clock in unix milliseconds; it may show a time before 1970. -/
  clock : Int64

/-- The milliseconds that are read off a wall clock, which reads as 1970 before that year. -/
def unixMillis (clock : Int64) : Int64 := if clock < 0 then 0 else clock

def unixSeconds (clock : Int64) : Int64 := wholeSeconds (unixMillis clock)

theorem unixSeconds_nonneg (clock : Int64) : 0 ≤ (unixSeconds clock).toInt := by
  unfold unixSeconds unixMillis
  rw [toInt_wholeSeconds]
  split
  · decide
  · next late =>
    rw [Int64.lt_iff_toInt_lt, Int.not_lt] at late
    exact Int.tdiv_nonneg late (by decide)

namespace Host

def now (host : Host) : Int64 := unixMillis host.clock

def seconds (host : Host) : Int64 := unixSeconds host.clock

def database? (host : Host) (number : Nat) : Option Sql.Database := host.databases[number]?

def setDatabase (host : Host) (number : Nat) (database : Sql.Database) : Host :=
  { host with databases := host.databases.set number database }

def newDatabase (host : Host) : Nat × Host :=
  (host.databases.length, { host with databases := host.databases ++ [∅] })

end Host

end Playtime
