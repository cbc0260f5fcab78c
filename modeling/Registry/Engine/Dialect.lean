import Registry.DatabaseUrl

/-!
# Dialects

The driver of an address is the name of a dialect and perhaps, after a plus sign, a name in its
package. That name leads to a driver whose library is installed, to one whose library is missing, or
to something else in the package that has no dialect.
-/

namespace Registry

/-- What a name in the package of a dialect leads to. -/
inductive DriverEntry
  | installed
  | missing
  | noDialect (description : String)
deriving DecidableEq

/-- A package of a dialect: its drivers, those that are installed, and what else is in it. -/
structure Dialect where
  name : String
  package : String
  installed : List String
  missing : List String
  modules : List String
  classes : List String
  functions : List String

namespace Dialect

/-- The dialect of databases in files and in memory. -/
def sqlite : Dialect where
  name := "sqlite"
  package := "sqlalchemy.dialects.sqlite"
  installed := ["base", "pysqlite"]
  missing := ["aiosqlite", "pysqlcipher"]
  modules := ["dml", "json"]
  classes :=
    ["BLOB", "BOOLEAN", "CHAR", "DATE", "DATETIME", "DECIMAL", "FLOAT", "INTEGER", "Insert", "JSON",
      "NUMERIC", "REAL", "SMALLINT", "TEXT", "TIME", "TIMESTAMP", "VARCHAR"]
  functions := ["insert"]

def postgresql : Dialect where
  name := "postgresql"
  package := "sqlalchemy.dialects.postgresql"
  installed := ["psycopg2"]
  missing := ["base", "psycopg", "psycopg_async", "psycopg2cffi", "pg8000", "asyncpg"]
  modules :=
    ["arraylib", "bitstring", "dml", "ext", "json", "named_types", "operators", "pg_catalog",
      "ranges", "types", "_psycopg_common"]
  classes :=
    ["ARRAY", "BIGINT", "BIT", "BOOLEAN", "BYTEA", "BitString", "CHAR", "CIDR", "CITEXT",
      "CreateDomainType", "CreateEnumType", "DATE", "DATEMULTIRANGE", "DATERANGE", "DOMAIN",
      "DOUBLE_PRECISION", "DropDomainType", "DropEnumType", "ENUM", "ExcludeConstraint", "FLOAT",
      "HSTORE", "INET", "INT4MULTIRANGE", "INT4RANGE", "INT8MULTIRANGE", "INT8RANGE", "INTEGER",
      "INTERVAL", "Insert", "JSON", "JSONB", "JSONPATH", "MACADDR", "MACADDR8", "MONEY",
      "MultiRange", "NUMERIC", "NUMMULTIRANGE", "NUMRANGE", "NamedType", "OID", "REAL", "REGCLASS",
      "REGCONFIG", "Range", "SMALLINT", "TEXT", "TIME", "TIMESTAMP", "TSMULTIRANGE", "TSQUERY",
      "TSRANGE", "TSTZMULTIRANGE", "TSTZRANGE", "TSVECTOR", "UUID", "VARCHAR", "aggregate_order_by",
      "array", "hstore", "phraseto_tsquery", "plainto_tsquery", "to_tsquery", "to_tsvector",
      "ts_headline", "websearch_to_tsquery"]
  functions := ["All", "Any", "array_agg", "distinct_on", "insert"]

def mysql : Dialect where
  name := "mysql"
  package := "sqlalchemy.dialects.mysql"
  installed := []
  missing :=
    ["base", "mysqldb", "pymysql", "mysqlconnector", "mariadbconnector", "aiomysql", "asyncmy",
      "cymysql", "pyodbc"]
  modules := ["dml", "enumerated", "expression", "json", "mariadb", "reflection", "reserved_words",
    "types"]
  classes :=
    ["BIGINT", "BINARY", "BIT", "BLOB", "BOOLEAN", "CHAR", "DATE", "DATETIME", "DECIMAL", "DOUBLE",
      "ENUM", "FLOAT", "INTEGER", "Insert", "JSON", "LONGBLOB", "LONGTEXT", "MEDIUMBLOB",
      "MEDIUMINT", "MEDIUMTEXT", "NCHAR", "NUMERIC", "NVARCHAR", "REAL", "SET", "SMALLINT", "TEXT",
      "TIME", "TIMESTAMP", "TINYBLOB", "TINYINT", "TINYTEXT", "VARBINARY", "VARCHAR", "YEAR",
      "match"]
  functions := ["insert", "limit"]

/-- The dialect of MariaDB, which has a package with MySQL; only its modules are looked at. -/
def mariadb : Dialect where
  name := "mariadb"
  package := mysql.package
  installed := []
  missing := mysql.missing
  modules := mysql.modules ++ ["provision"]
  classes := []
  functions := []

def oracle : Dialect where
  name := "oracle"
  package := "sqlalchemy.dialects.oracle"
  installed := []
  missing := ["base", "oracledb", "oracledb_async", "cx_oracle"]
  modules := ["dictionary", "types", "vector"]
  classes :=
    ["BFILE", "BINARY_DOUBLE", "BINARY_FLOAT", "BLOB", "BOOLEAN", "CHAR", "CLOB", "DATE",
      "DOUBLE_PRECISION", "FLOAT", "INTERVAL", "LONG", "NCHAR", "NCLOB", "NUMBER", "NUMERIC",
      "NVARCHAR", "NVARCHAR2", "RAW", "REAL", "ROWID", "TIMESTAMP", "VARCHAR", "VARCHAR2", "VECTOR"]
  functions := []

def mssql : Dialect where
  name := "mssql"
  package := "sqlalchemy.dialects.mssql"
  installed := []
  missing := ["base", "pyodbc", "pymssql", "aioodbc", "mssqlpython"]
  modules := ["information_schema", "json"]
  classes :=
    ["BIGINT", "BINARY", "BIT", "CHAR", "DATE", "DATETIME", "DATETIME2", "DATETIMEOFFSET",
      "DECIMAL", "DOUBLE_PRECISION", "FLOAT", "IMAGE", "INTEGER", "JSON", "MONEY", "NCHAR", "NTEXT",
      "NUMERIC", "NVARCHAR", "REAL", "ROWVERSION", "SMALLDATETIME", "SMALLINT", "SMALLMONEY",
      "SQL_VARIANT", "TEXT", "TIME", "TIMESTAMP", "TINYINT", "UNIQUEIDENTIFIER", "VARBINARY",
      "VARCHAR", "XML", "try_cast"]
  functions := []

def all : List Dialect := [sqlite, postgresql, mysql, mariadb, oracle, mssql]

/-- The class of the dialect with the driver that it has without a name of one. -/
def usualClass (d : Dialect) : Option String :=
  ([("sqlite", "SQLiteDialect_pysqlite"), ("postgresql", "PGDialect_psycopg"),
    ("mysql", "MySQLDialect_mysqldb"), ("oracle", "OracleDialect_oracledb"),
    ("mssql", "MSDialect_pyodbc")].find? fun (name, _) => name == d.name).map (·.2)

/-- The kinds of what every package has under a name. -/
def commonKinds : List (String × String) :=
  [("__all__", "tuple"), ("__builtins__", "dict"), ("__cached__", "str"), ("__dict__", "dict"),
    ("__doc__", "NoneType"), ("__file__", "str"), ("__loader__", "SourceFileLoader"),
    ("__name__", "str"), ("__package__", "str"), ("__path__", "list"), ("__spec__", "ModuleSpec")]

/-- What a name in the package of a dialect leads to. -/
def entry? (d : Dialect) (name : Text) : Option DriverEntry :=
  let isIn (names : List String) : Bool := names.any fun n => Text.ofString n == name
  let label : String := (name.toString?).getD ""
  if isIn d.installed then some .installed
  else if isIn d.missing then some .missing
  else if isIn d.modules then
    let module := if label = "arraylib" then "array" else label
    some (.noDialect ("module '" ++ d.package ++ "." ++ module ++ "'"))
  else if isIn d.classes then some (.noDialect ("type object '" ++ label ++ "'"))
  else if isIn d.functions then some (.noDialect "'function' object")
  else
    match d.usualClass with
    | none => none
    | some usual =>
      if label = "dialect" then some (.noDialect ("type object '" ++ usual ++ "'"))
      else
        (commonKinds.find? fun (n, _) => n == label).map fun (_, kind) =>
          .noDialect ("'" ++ kind ++ "' object")

def ofName? (name : Text) : Option Dialect := all.find? fun d => Text.ofString d.name == name

end Dialect

namespace DatabaseUrl

/-- The name after the dialect of an address, if there is a plus sign. -/
def driverName? (u : DatabaseUrl) : Option Text :=
  match u.driver.drop u.dialect.length with
  | [] => none
  | _ :: name => some name

/-- What the driver of an address leads to: without a name to the usual driver of the dialect. -/
def driverEntry? (u : DatabaseUrl) : Option DriverEntry :=
  (Dialect.ofName? u.dialect).bind fun d => d.entry? (u.driverName?.getD "base")

end DatabaseUrl

end Registry
