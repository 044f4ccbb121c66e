import Playtime.Sql.TableName

namespace Playtime.Sql

inductive Dialect where
  | sqlite
  | mysql
deriving DecidableEq, Repr

namespace Dialect

def ofWord? : String → Option Dialect
  | "sqlite" => some sqlite
  | "mysql" => some mysql
  | "mariadb" => some mysql
  | _ => none

def name : Dialect → String
  | sqlite => "sqlite"
  | mysql => "mysql"

def createTable (table : String) (columns : List String) : String :=
  "CREATE TABLE IF NOT EXISTS " ++ table ++ " (\n    " ++ ",\n    ".intercalate columns ++ "\n)"

def rowNumber : Dialect → String
  | sqlite => "id INTEGER PRIMARY KEY AUTOINCREMENT"
  | mysql => "id INT NOT NULL AUTO_INCREMENT PRIMARY KEY"

def keyType : Dialect → String
  | sqlite => "BLOB"
  | mysql => "BINARY(16)"

def following (table : String) : String := "REFERENCES " ++ table ++ "(id) ON DELETE CASCADE"

def reference : Dialect → String → String → String
  | sqlite, column, table => column ++ " INTEGER NOT NULL " ++ following table
  | mysql, column, _ => column ++ " INT NOT NULL"

def referenceKey : Dialect → String → String → List String
  | sqlite, _, _ => []
  | mysql, column, table => ["FOREIGN KEY (" ++ column ++ ") " ++ following table]

def timeColumn : Dialect → String → String
  | sqlite, column => column ++ " TIMESTAMP NOT NULL"
  | mysql, column => column ++ " TIMESTAMP NOT NULL DEFAULT CURRENT_TIMESTAMP"

def columns (dialect : Dialect) (stem : String) : Noun → List String
  | .player =>
    [dialect.rowNumber, "identifier " ++ dialect.keyType ++ " NOT NULL UNIQUE", "name VARCHAR(16) UNIQUE",
      "last_seen TIMESTAMP NOT NULL DEFAULT CURRENT_TIMESTAMP"]
  | .server => [dialect.rowNumber, "name VARCHAR(255) NOT NULL UNIQUE"]
  | .world =>
    let server := Noun.server.tableName stem
    [dialect.rowNumber, dialect.reference "server_id" server, "name VARCHAR(255) NOT NULL",
      "UNIQUE(server_id, name)"] ++ dialect.referenceKey "server_id" server
  | .time =>
    let player := Noun.player.tableName stem
    let world := Noun.world.tableName stem
    [dialect.rowNumber, dialect.reference "player_id" player, dialect.reference "world_id" world,
      dialect.timeColumn "join_time", dialect.timeColumn "leave_time"] ++
      dialect.referenceKey "player_id" player ++ dialect.referenceKey "world_id" world
  | .statistic =>
    [dialect.rowNumber, "statistic_name VARCHAR(255) NOT NULL", dialect.timeColumn "calculation_time",
      "result BIGINT NOT NULL", "UNIQUE(statistic_name, calculation_time)"]

def createTables (dialect : Dialect) (stem : String) : List String :=
  Noun.all.map fun noun => createTable (noun.tableName stem) (dialect.columns stem noun)

def duration : Dialect → String → String → String
  | sqlite, start, finish =>
    "(CAST(strftime('%s', " ++ finish ++ ") AS INTEGER) - CAST(strftime('%s', " ++ start ++ ") AS INTEGER))"
  | mysql, start, finish => "TIMESTAMPDIFF(SECOND, " ++ start ++ ", " ++ finish ++ ")"

def ofUnix : Dialect → String → String
  | sqlite, second => "datetime(" ++ second ++ ", 'unixepoch')"
  | mysql, second => "FROM_UNIXTIME(" ++ second ++ ")"

def toUnix : Dialect → String → String
  | sqlite, time => "CAST(strftime('%s', " ++ time ++ ") AS INTEGER)"
  | mysql, time => "UNIX_TIMESTAMP(" ++ time ++ ")"

def insertNew : Dialect → String
  | sqlite => "INSERT OR IGNORE"
  | mysql => "INSERT IGNORE"

def replaced : Dialect → String → String
  | sqlite, column => column ++ " = excluded." ++ column
  | mysql, column => column ++ " = VALUES(" ++ column ++ ")"

def onPresent : Dialect → String → String
  | sqlite, columns => " ON CONFLICT(" ++ columns ++ ") DO UPDATE SET "
  | mysql, _ => " ON DUPLICATE KEY UPDATE "

def upsertPlayer (dialect : Dialect) (stem : String) : String :=
  "INSERT INTO " ++ Noun.player.tableName stem ++
    " (identifier, name, last_seen) VALUES (?, ?, CURRENT_TIMESTAMP)" ++ dialect.onPresent "identifier" ++
    dialect.replaced "name" ++ ", last_seen = CURRENT_TIMESTAMP"

def upsertStatistic (dialect : Dialect) (stem : String) : String :=
  "INSERT INTO " ++ Noun.statistic.tableName stem ++
    " (statistic_name, calculation_time, result) VALUES (?, " ++ dialect.ofUnix "?" ++ ", ?)" ++
    dialect.onPresent "statistic_name, calculation_time" ++ dialect.replaced "result"

end Dialect

end Playtime.Sql
