/-
# Column types of PostgreSQL

A column names its type by a number.  Some types can be read, and arrays of some of them; of the
others only the name is known, for the error.
-/
namespace SqlGateway.Postgres

/-- A type of array elements. -/
inductive ElementType where
  | bool
  | int (bytes : Nat)
  | float4
  | float8
  | text
  | numeric
  | uuid
deriving DecidableEq, Repr

/-- A type of columns. -/
inductive ColumnType where
  | bool
  | int (bytes : Nat)
  | float4
  | float8
  | numeric
  | uuid
  | json
  | jsonb
  | timestamptz
  | timestamp
  | date
  | time
  | timetz
  | interval
  | oid
  | money
  | text
  | bytea
  | void
  | array (element : ElementType)
  /-- A type that cannot be read. -/
  | other (name : String)
deriving DecidableEq, Repr

/-- The type of a number. -/
def ColumnType.ofOid : Nat → ColumnType
  | 16 => bool
  | 17 => bytea
  | 18 => other "\"CHAR\""
  | 19 => text
  | 20 => int 8
  | 21 => int 2
  | 22 => other "INT2VECTOR"
  | 23 => int 4
  | 24 => other "REGPROC"
  | 25 => text
  | 26 => oid
  | 27 => other "TID"
  | 28 => other "XID"
  | 29 => other "CID"
  | 114 => json
  | 142 => other "XML"
  | 199 => other "JSON[]"
  | 600 => other "POINT"
  | 601 => other "LSEG"
  | 602 => other "PATH"
  | 603 => other "BOX"
  | 604 => other "POLYGON"
  | 628 => other "LINE"
  | 629 => other "LINE[]"
  | 650 => other "CIDR"
  | 651 => other "CIDR[]"
  | 700 => float4
  | 701 => float8
  | 705 => other "UNKNOWN"
  | 718 => other "CIRCLE"
  | 719 => other "CIRCLE[]"
  | 774 => other "MACADDR8"
  | 775 => other "MACADDR8[]"
  | 790 => money
  | 791 => other "MONEY[]"
  | 829 => other "MACADDR"
  | 869 => other "INET"
  | 1000 => array .bool
  | 1001 => other "BYTEA[]"
  | 1002 => other "\"CHAR\"[]"
  | 1003 => array .text
  | 1005 => array (.int 2)
  | 1007 => array (.int 4)
  | 1009 => array .text
  | 1014 => other "CHAR[]"
  | 1015 => array .text
  | 1016 => array (.int 8)
  | 1017 => other "POINT[]"
  | 1018 => other "LSEG[]"
  | 1019 => other "PATH[]"
  | 1020 => other "BOX[]"
  | 1021 => array .float4
  | 1022 => array .float8
  | 1027 => other "POLYGON[]"
  | 1028 => other "OID[]"
  | 1040 => other "MACADDR[]"
  | 1041 => other "INET[]"
  | 1042 => text
  | 1043 => text
  | 1082 => date
  | 1083 => time
  | 1114 => timestamp
  | 1115 => other "TIMESTAMP[]"
  | 1182 => other "DATE[]"
  | 1183 => other "TIME[]"
  | 1184 => timestamptz
  | 1185 => other "TIMESTAMPTZ[]"
  | 1186 => interval
  | 1187 => other "INTERVAL[]"
  | 1231 => array .numeric
  | 1266 => timetz
  | 1270 => other "TIMETZ[]"
  | 1560 => other "BIT"
  | 1561 => other "BIT[]"
  | 1562 => other "VARBIT"
  | 1563 => other "VARBIT[]"
  | 1700 => numeric
  | 2249 => other "RECORD"
  | 2278 => void
  | 2287 => other "RECORD[]"
  | 2950 => uuid
  | 2951 => array .uuid
  | 3802 => jsonb
  | 3807 => other "JSONB[]"
  | 3904 => other "INT4RANGE"
  | 3905 => other "INT4RANGE[]"
  | 3906 => other "NUMRANGE"
  | 3907 => other "NUMRANGE[]"
  | 3908 => other "TSRANGE"
  | 3909 => other "TSRANGE[]"
  | 3910 => other "TSTZRANGE"
  | 3911 => other "TSTZRANGE[]"
  | 3912 => other "DATERANGE"
  | 3913 => other "DATERANGE[]"
  | 3926 => other "INT8RANGE"
  | 3927 => other "INT8RANGE[]"
  | 4072 => other "JSONPATH"
  | 4073 => other "JSONPATH[]"
  | _ => other "?"

end SqlGateway.Postgres
