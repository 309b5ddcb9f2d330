/-!
# Keywords

The words that the grammar of statements gives a meaning to, in upper case. A word has that meaning
only where the grammar asks for it; everywhere else it is a name.
-/

namespace CounterTable.Sql

/-- The keywords. -/
def keywordTexts : List String :=
  ["ABORT", "ABSOLUTE", "ACTION", "ADD", "ADMIN", "AFTER", "ALIAS", "ALL", "ALTER", "ALWAYS",
    "ANALYZE", "AND", "ANTI", "ANY", "APPLY", "ARRAY", "AS", "ASC", "ASENSITIVE", "ASOF", "ASSERT",
    "AT", "AUTHORIZATION", "AUTOEXTEND_SIZE", "AUTOINCREMENT", "AUTO_INCREMENT", "AVG_ROW_LENGTH",
    "BACKWARD", "BEGIN", "BETWEEN", "BIGDECIMAL", "BIGINT", "BIGNUMERIC", "BINARY", "BINDING",
    "BIT", "BLOB", "BOOL", "BOOLEAN", "BOTH", "BROWSE", "BUCKETS", "BY", "BYPASSRLS", "BYTEA",
    "BYTES", "CACHE", "CALL", "CASCADE", "CASE", "CAST", "CATALOG", "CEIL", "CENTURY", "CHAIN",
    "CHANGE", "CHANNEL", "CHAR", "CHARACTER", "CHARACTERS", "CHARSET", "CHECK", "CHECKSUM", "CLOB",
    "CLONE", "CLOSE", "CLUSTER", "CLUSTERED", "COLLATE", "COLUMN", "COMMENT", "COMMIT",
    "COMMITTED", "COMPRESSION", "CONCURRENTLY", "CONFLICT", "CONNECT", "CONNECTION", "CONNECTOR",
    "CONSTRAINT", "CONTINUE", "COPY", "CREATE", "CREATEDB", "CREATEROLE", "CROSS", "CUBE",
    "CURRENT", "CURRENT_CATALOG", "CURRENT_DATE", "CURRENT_TIME", "CURRENT_TIMESTAMP",
    "CURRENT_USER", "CURSOR", "CYCLE", "DATA", "DATABASE", "DATE", "DATETIME", "DAY", "DAYS",
    "DEALLOCATE", "DEC", "DECADE", "DECIMAL", "DECLARE", "DEFAULT", "DEFERRABLE", "DEFERRED",
    "DELAYED", "DELAY_KEY_WRITE", "DELETE", "DESC", "DESCRIBE", "DIRECTORY", "DISABLE", "DISCARD",
    "DISTINCT", "DISTRIBUTE", "DIV", "DO", "DOMAIN", "DOUBLE", "DOW", "DOY", "DROP", "DUPLICATE",
    "ELSE", "ENABLE", "ENCRYPTION", "END", "ENFORCED", "ENGINE", "ENGINE_ATTRIBUTE", "ENUM",
    "EPOCH", "ERROR", "ESCAPE", "EXCEPT", "EXCLUDE", "EXCLUSIVE", "EXEC", "EXECUTE", "EXISTS",
    "EXPLAIN", "EXPORT", "EXTENDED", "EXTENSION", "EXTERNAL", "EXTRACT", "FAIL", "FALSE", "FETCH",
    "FILTER", "FIRST", "FLOAT", "FLOAT32", "FLOAT4", "FLOAT64", "FLOAT8", "FLOOR", "FLUSH",
    "FOLLOWING", "FOR", "FOREIGN", "FORMAT", "FORMATTED", "FORWARD", "FROM", "FULL", "FULLTEXT",
    "FUNCTION", "GENERAL", "GENERATED", "GLOBAL", "GRANT", "GRANTED", "GROUP", "GROUPING",
    "GROUPS", "HAVING", "HIGH_PRIORITY", "HOLD", "HOSTS", "HOUR", "HOURS", "HUGEINT", "IDENTITY",
    "IF", "IGNORE", "ILIKE", "IMMEDIATE", "IN", "INCLUDE", "INCREMENT", "INDEX", "INHERIT",
    "INHERITS", "INITIALLY", "INNER", "INOUT", "INSENSITIVE", "INSERT", "INSERT_METHOD", "INT",
    "INT2", "INT4", "INT8", "INTEGER", "INTERSECT", "INTERVAL", "INTO", "INVISIBLE", "IS",
    "ISODOW", "ISOLATION", "ISOYEAR", "JOIN", "JSON", "JSONB", "JULIAN", "KEY", "KEY_BLOCK_SIZE",
    "KILL", "LARGE", "LAST", "LATERAL", "LEADING", "LEFT", "LEVEL", "LIKE", "LIMIT", "LISTEN",
    "LOAD", "LOCAL", "LOCALTIME", "LOCALTIMESTAMP", "LOCATION", "LOCK", "LOCKED", "LOGIN", "LOGS",
    "LONGBLOB", "LONGTEXT", "LOW_PRIORITY", "MANAGEDLOCATION", "MATCH", "MATCHED",
    "MATCH_CONDITION", "MATCH_RECOGNIZE", "MATERIALIZED", "MAX", "MAXVALUE", "MAX_ROWS",
    "MEDIUMBLOB", "MEDIUMINT", "MEDIUMTEXT", "MERGE", "MICROSECOND", "MICROSECONDS", "MILLENIUM",
    "MILLENNIUM", "MILLISECOND", "MILLISECONDS", "MINUS", "MINUTE", "MINUTES", "MINVALUE",
    "MIN_ROWS", "MODIFY", "MONTH", "MONTHS", "MUTATION", "NAME", "NAMES", "NANOSECOND",
    "NANOSECONDS", "NATURAL", "NEXT", "NO", "NOBYPASSRLS", "NOCREATEDB", "NOCREATEROLE",
    "NOINHERIT", "NOLOGIN", "NOREPLICATION", "NOSUPERUSER", "NOT", "NOTHING", "NOTIFY", "NOWAIT",
    "NO_WRITE_TO_BINLOG", "NULL", "NULLS", "NUMERIC", "NVARCHAR", "OBJECT", "OCTETS", "OF",
    "OFFSET", "ON", "ONLY", "OPEN", "OPTIMIZE", "OPTIMIZER_COSTS", "OPTION", "OPTIONS", "OR",
    "ORDER", "ORDINALITY", "OUT", "OUTER", "OVER", "OVERLAPS", "OVERLAY", "OVERWRITE", "OWNED",
    "OWNER", "PACK_KEYS", "PARTIAL", "PARTITION", "PARTITIONED", "PASSWORD", "PERCENT", "PIVOT",
    "PLACING", "PLAN", "PLANS", "POLICY", "POSITION", "PRAGMA", "PRECEDING", "PRECISION",
    "PREPARE", "PRESERVE", "PREWHERE", "PRIMARY", "PRINT", "PRIOR", "PRIVILEGES", "PROCEDURE",
    "PROGRAM", "PURGE", "QUALIFY", "QUARTER", "QUERY", "RANGE", "READ", "REAL", "RECURSIVE",
    "REFERENCES", "REGCLASS", "REGEXP", "RELATIVE", "RELAY", "RELEASE", "RENAME", "REPEATABLE",
    "REPLACE", "REPLICA", "REPLICATION", "RESPECT", "RESTART", "RESTRICT", "RETURN", "RETURNING",
    "REVOKE", "RIGHT", "RLIKE", "ROLE", "ROLLBACK", "ROLLUP", "ROW", "ROWID", "ROWS", "ROW_FORMAT",
    "RULE", "SAFE_CAST", "SAMPLE", "SAVEPOINT", "SCHEMA", "SCROLL", "SECOND",
    "SECONDARY_ENGINE_ATTRIBUTE", "SECONDS", "SECURE", "SECURITY", "SELECT", "SEMI", "SEPARATOR",
    "SEQUENCE", "SEQUENCES", "SERIALIZABLE", "SESSION", "SESSION_USER", "SET", "SETS", "SETTINGS",
    "SHARE", "SHOW", "SIGNED", "SIMILAR", "SIMPLE", "SKIP", "SLOW", "SMALLINT", "SNAPSHOT", "SOME",
    "SORT", "SORTED", "SOURCE", "SPATIAL", "SRID", "STAGE", "START", "STATS_AUTO_RECALC",
    "STATS_PERSISTENT", "STATS_SAMPLE_PAGES", "STATUS", "STDIN", "STDOUT", "STORED",
    "STRAIGHT_JOIN", "STREAM", "STRICT", "STRING", "STRUCT", "SUBSTR", "SUBSTRING", "SUPERUSER",
    "TABLE", "TABLES", "TABLESAMPLE", "TABLESPACE", "TARGET", "TBLPROPERTIES", "TEMP", "TEMPORARY",
    "TEXT", "THEN", "TIES", "TIME", "TIMESTAMP", "TIMESTAMPTZ", "TIMETZ", "TIMEZONE",
    "TIMEZONE_HOUR", "TIMEZONE_MINUTE", "TINYBLOB", "TINYINT", "TINYTEXT", "TO", "TOP", "TOTALS",
    "TRAILING", "TRANSACTION", "TRANSIENT", "TRIGGER", "TRIM", "TRUE", "TRUNCATE", "TRY_CAST",
    "TYPE", "UHUGEINT", "UNBOUNDED", "UNCOMMITTED", "UNION", "UNIQUE", "UNKNOWN", "UNLISTEN",
    "UNLOGGED", "UNNEST", "UNPIVOT", "UNSIGNED", "UNTIL", "UPDATE", "USE", "USER",
    "USER_RESOURCES", "USING", "UUID", "VACUUM", "VALID", "VALIDATE", "VALUE", "VALUES",
    "VARBINARY", "VARCHAR", "VARYING", "VERBOSE", "VERSION", "VIEW", "VIRTUAL", "WAREHOUSE",
    "WEEK", "WEEKS", "WHEN", "WHERE", "WINDOW", "WITH", "WITHIN", "WITHOUT", "WORK", "WRITE",
    "XOR", "YEAR", "YEARS", "ZONE"]

/-- Whether a word in upper case is a keyword. -/
def isKeyword (word : String) : Bool := keywordTexts.contains word

end CounterTable.Sql
