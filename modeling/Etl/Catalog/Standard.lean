import Etl.Catalog
import Etl.Settings.Choice

/-!
The built-in node types.
-/

namespace Etl.Catalog

/-- A source that reads one table of a database. -/
def databaseSource (id name description : String) : NodeType where
  id
  category := .source
  displayName := name
  description
  fields :=
    [.mandatory "connection" .text, .mandatory "table" .text, .voluntary "schema" .text]

/-- A target that writes one table of a database. -/
def databaseTarget (id name description : String) : NodeType where
  id
  category := .target
  displayName := name
  description
  fields :=
    [.mandatory "connection" .text, .mandatory "table" .text, .voluntary "schema" .text,
     { FieldSpec.voluntary "load_strategy" .choice with
       options := LoadStrategy.all.map LoadStrategy.name
       default := some (.text LoadStrategy.append.name) },
     .voluntary "key_columns" .list, .voluntary "columns" .list]

def standardTypes : List NodeType :=
  [databaseSource "source-pg" "PostgreSQL" "Read a table from PostgreSQL",
   databaseSource "source-ch" "ClickHouse" "Read a table from ClickHouse",
   { id := "source-file"
     category := .source
     displayName := "File Source"
     description := "Read a CSV, Parquet or JSON file"
     fields :=
      [.mandatory "path" .text,
       { FieldSpec.mandatory "format" .choice with
         options := FileFormat.all.map FileFormat.name
         default := some (.text FileFormat.csv.name) }] },
   { id := "source-kafka"
     category := .source
     displayName := "Kafka"
     description := "Read records from a Kafka topic"
     fields := [.mandatory "connection" .text, .mandatory "topic" .text] },
   { id := "transform-filter"
     category := .transform
     displayName := "Filter"
     description := "Keep rows matching a predicate"
     fields := [.mandatory "condition" .text] },
   { id := "transform-aggregate"
     category := .transform
     displayName := "Aggregate"
     description := "Group rows and compute aggregate expressions"
     fields :=
      [.mandatory "group_by" .list, .mandatory "aggregates" .list,
       .voluntary "condition" .text] },
   { id := "transform-sql"
     category := .transform
     displayName := "SQL Transform"
     description := "Run a raw SQL query over the inputs"
     fields := [.mandatory "query" .text] },
   { id := "quality-check"
     category := .qualityCheck
     displayName := "Quality Check"
     description := "Assert a data quality rule without changing rows"
     fields :=
      [{ FieldSpec.mandatory "rule" .choice with
         options := QualityRule.all.map QualityRule.name },
       .mandatory "column" .text,
       .voluntary "expression" .text,
       { FieldSpec.voluntary "threshold" .number with
         default := some (.number (.integer 100 (by decide))) },
       { FieldSpec.voluntary "mode" .choice with
         options := QualityMode.all.map QualityMode.name
         default := some (.text QualityMode.warn.name) }] },
   databaseTarget "target-pg" "PostgreSQL" "Write to a PostgreSQL table",
   databaseTarget "target-ch" "ClickHouse" "Write to a ClickHouse table",
   databaseTarget "target-hdfs" "HDFS" "Write to a data lake table on HDFS"]

/-- The catalog of the built-in types. -/
def standard : Catalog := ⟨SortedMap.ofList (standardTypes.map fun type => (type.id, type))⟩

end Etl.Catalog
