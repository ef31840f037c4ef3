import QueryByName.Config.Settings

/-!
# The schema of the settings

A description of the settings for editors, as a JSON schema: the tables as definitions, and
for each setting its kind, its standard value and what it is for.
-/

namespace QueryByName.Config.EditorSchema

/-- A JSON value.  A decimal is a number of units of a power of ten below one. -/
inductive Json where
  | text (value : String)
  | flag (value : Bool)
  | integer (value : Int)
  | decimal (units : Int) (places : Nat)
  | list (elements : List Json)
  | object (members : List (String × Json))

inductive Kind where
  | text
  | truth
  | count (least : Nat)
  | texts

/-- The members of a schema that say which kind of value is taken. -/
def Kind.members : Kind → List (String × Json)
  | text => [("type", .text "string")]
  | truth => [("type", .text "boolean")]
  | count least =>
    [("type", .text "integer"), ("format", .text "uint"), ("minimum", .decimal (10 * least) 1)]
  | texts => [("type", .text "array"), ("items", .object [("type", .text "string")])]

/-- A setting of a table. -/
structure Property where
  key : String
  description : String
  kind : Kind
  standard : Json

def Property.json (property : Property) : Json :=
  .object <|
    [("description", .text property.description), ("default", property.standard)]
      ++ property.kind.members

/-- A table of settings, under the key of the document that gives it. -/
structure TableSchema where
  key : String
  name : String
  description : String
  properties : List Property

namespace TableSchema

def definition (table : TableSchema) : Json :=
  .object
    [("type", .text "object"), ("description", .text table.description),
      ("properties", .object (table.properties.map fun property => (property.key, property.json)))]

def standard (table : TableSchema) : Json :=
  .object (table.properties.map fun property => (property.key, property.standard))

/-- The place of the table in the document, by reference to its definition. -/
def reference (table : TableSchema) : Json :=
  .object
    [("allOf", .list [.object [("$ref", .text ("#/definitions/" ++ table.name))]]),
      ("default", table.standard)]

end TableSchema

def finderTable : TableSchema :=
  let standard : FinderSettings := {}
  { key := "finder"
    name := "FinderConfig"
    description := "`[finder]` table."
    properties :=
      [⟨"depth", "Maximum number of fields combined in one generated finder name.", .count 1,
          .integer standard.depth⟩,
        ⟨"alias", "Entity alias used in generated JPQL.", .text, .text standard.entityAlias⟩,
        ⟨"count_queries", "Also introduce `countFind...` methods next to each finder.", .truth,
          .flag standard.countQueries⟩,
        ⟨"exclude", "Field names never used when generating finder names.", .texts,
          .list (standard.exclude.map .text)⟩] }

def logTable : TableSchema :=
  let standard : LogSettings := {}
  { key := "logging"
    name := "LoggingConfig"
    description := "`[logging]` table."
    properties :=
      [⟨"level",
          "A simple level (`info`, `debug`, ...) or a full `EnvFilter` directive string such as `roost.finder=trace,info`.",
          .text, .text standard.level⟩,
        ⟨"json", "Emit logs as JSON lines.", .truth, .flag standard.json⟩] }

def tables : List TableSchema :=
  [finderTable, logTable]

def json : Json :=
  .object
    [("$schema", .text "http://json-schema.org/draft-07/schema#"),
      ("title", .text "RoostConfig"),
      ("type", .text "object"),
      ("properties", .object (tables.map fun table => (table.key, table.reference))),
      ("definitions", .object (tables.map fun table => (table.name, table.definition)))]

end QueryByName.Config.EditorSchema
