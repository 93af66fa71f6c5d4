import Etl.Text.Name

/-!
The choices that settings offer. Their names are the options of the built-in node types.
-/

namespace Etl

/-- How a target is written. -/
inductive LoadStrategy where
  | append
  | overwrite
  | merge
  | upsert
deriving DecidableEq, Repr

namespace LoadStrategy

def name : LoadStrategy → String
  | append => "append"
  | overwrite => "overwrite"
  | merge => "merge"
  | upsert => "upsert"

def all : List LoadStrategy := [append, overwrite, merge, upsert]

/-- Strategies that match rows by key. -/
def needsKeys : LoadStrategy → Bool
  | merge | upsert => true
  | _ => false

def parse (text : String) : Except UnknownName LoadStrategy :=
  ofName "LoadStrategy" (all.map fun s => (s.name, s)) text

end LoadStrategy

/-- What a quality check asserts. -/
inductive QualityRule where
  | completeness
  | uniqueness
  | range
  | referential
  | format
  | custom
deriving DecidableEq, Repr

namespace QualityRule

def name : QualityRule → String
  | completeness => "completeness"
  | uniqueness => "uniqueness"
  | range => "range"
  | referential => "referential"
  | format => "format"
  | custom => "custom"

def all : List QualityRule := [completeness, uniqueness, range, referential, format, custom]

/-- Rules that count the rows for which an expression holds. -/
def needsExpression : QualityRule → Bool
  | completeness | uniqueness => false
  | _ => true

def parse (text : String) : Except UnknownName QualityRule :=
  ofName "QualityRule" (all.map fun r => (r.name, r)) text

end QualityRule

/-- What a failed quality check does. -/
inductive QualityMode where
  | warn
  | block
deriving DecidableEq, Repr

namespace QualityMode

def name : QualityMode → String
  | warn => "warn"
  | block => "block"

def all : List QualityMode := [warn, block]

def parse (text : String) : Except UnknownName QualityMode :=
  ofName "QualityMode" (all.map fun m => (m.name, m)) text

end QualityMode

/-- How a source file is encoded. -/
inductive FileFormat where
  | csv
  | parquet
  | json
deriving DecidableEq, Repr

namespace FileFormat

def name : FileFormat → String
  | csv => "csv"
  | parquet => "parquet"
  | json => "json"

def all : List FileFormat := [csv, parquet, json]

def parse (text : String) : Except UnknownName FileFormat :=
  ofName "FileFormat" (all.map fun f => (f.name, f)) text

end FileFormat

end Etl
