import BoundQuery.Wire.ParamType

/-!
# Type catalog

The types a server knows from the start, by name, with the numbers that identify
them and their arrays. The name of an array type is the name of its element type
after an underscore. The two vector types are arrays whose first index is zero.
Types of extensions have numbers that differ from server to server.
-/
namespace BoundQuery.Wire.ParamType

/-- A scalar type and the number of its array type, when it has one. -/
structure CatalogEntry where
  name : String
  oid : Nat
  format : Format
  arrayOid : Option Nat

def CatalogEntry.type (e : CatalogEntry) : ParamType := .scalar e.name e.oid e.format

/-- The types defined by every server. -/
def builtin : List CatalogEntry :=
  [
    ⟨"bool", 16, .boolean, some 1000⟩,
    ⟨"bytea", 17, .unsupported, some 1001⟩,
    ⟨"char", 18, .unsupported, some 1002⟩,
    ⟨"name", 19, .text, some 1003⟩,
    ⟨"int8", 20, .integer .eight, some 1016⟩,
    ⟨"int2", 21, .integer .two, some 1005⟩,
    ⟨"int4", 23, .integer .four, some 1007⟩,
    ⟨"regproc", 24, .unsupported, some 1008⟩,
    ⟨"text", 25, .text, some 1009⟩,
    ⟨"oid", 26, .unsupported, some 1028⟩,
    ⟨"tid", 27, .unsupported, some 1010⟩,
    ⟨"xid", 28, .unsupported, some 1011⟩,
    ⟨"cid", 29, .unsupported, some 1012⟩,
    ⟨"pg_ddl_command", 32, .unsupported, none⟩,
    ⟨"json", 114, .json, some 199⟩,
    ⟨"xml", 142, .unsupported, some 143⟩,
    ⟨"pg_node_tree", 194, .unsupported, none⟩,
    ⟨"table_am_handler", 269, .unsupported, none⟩,
    ⟨"index_am_handler", 325, .unsupported, none⟩,
    ⟨"point", 600, .unsupported, some 1017⟩,
    ⟨"lseg", 601, .unsupported, some 1018⟩,
    ⟨"path", 602, .unsupported, some 1019⟩,
    ⟨"box", 603, .unsupported, some 1020⟩,
    ⟨"polygon", 604, .unsupported, some 1027⟩,
    ⟨"line", 628, .unsupported, some 629⟩,
    ⟨"cidr", 650, .unsupported, some 651⟩,
    ⟨"float4", 700, .single, some 1021⟩,
    ⟨"float8", 701, .double, some 1022⟩,
    ⟨"unknown", 705, .text, none⟩,
    ⟨"circle", 718, .unsupported, some 719⟩,
    ⟨"macaddr8", 774, .unsupported, some 775⟩,
    ⟨"money", 790, .unsupported, some 791⟩,
    ⟨"macaddr", 829, .unsupported, some 1040⟩,
    ⟨"inet", 869, .unsupported, some 1041⟩,
    ⟨"aclitem", 1033, .unsupported, some 1034⟩,
    ⟨"bpchar", 1042, .text, some 1014⟩,
    ⟨"varchar", 1043, .text, some 1015⟩,
    ⟨"date", 1082, .unsupported, some 1182⟩,
    ⟨"time", 1083, .unsupported, some 1183⟩,
    ⟨"timestamp", 1114, .unsupported, some 1115⟩,
    ⟨"timestamptz", 1184, .unsupported, some 1185⟩,
    ⟨"interval", 1186, .unsupported, some 1187⟩,
    ⟨"timetz", 1266, .unsupported, some 1270⟩,
    ⟨"bit", 1560, .unsupported, some 1561⟩,
    ⟨"varbit", 1562, .unsupported, some 1563⟩,
    ⟨"numeric", 1700, .unsupported, some 1231⟩,
    ⟨"refcursor", 1790, .unsupported, some 2201⟩,
    ⟨"regprocedure", 2202, .unsupported, some 2207⟩,
    ⟨"regoper", 2203, .unsupported, some 2208⟩,
    ⟨"regoperator", 2204, .unsupported, some 2209⟩,
    ⟨"regclass", 2205, .unsupported, some 2210⟩,
    ⟨"regtype", 2206, .unsupported, some 2211⟩,
    ⟨"record", 2249, .unsupported, none⟩,
    ⟨"cstring", 2275, .unsupported, some 1263⟩,
    ⟨"any", 2276, .unsupported, none⟩,
    ⟨"anyarray", 2277, .unsupported, none⟩,
    ⟨"void", 2278, .unsupported, none⟩,
    ⟨"trigger", 2279, .unsupported, none⟩,
    ⟨"language_handler", 2280, .unsupported, none⟩,
    ⟨"internal", 2281, .unsupported, none⟩,
    ⟨"anyelement", 2283, .unsupported, none⟩,
    ⟨"_record", 2287, .unsupported, none⟩,
    ⟨"anynonarray", 2776, .unsupported, none⟩,
    ⟨"uuid", 2950, .unsupported, some 2951⟩,
    ⟨"txid_snapshot", 2970, .unsupported, some 2949⟩,
    ⟨"fdw_handler", 3115, .unsupported, none⟩,
    ⟨"pg_lsn", 3220, .unsupported, some 3221⟩,
    ⟨"tsm_handler", 3310, .unsupported, none⟩,
    ⟨"pg_ndistinct", 3361, .unsupported, none⟩,
    ⟨"pg_dependencies", 3402, .unsupported, none⟩,
    ⟨"anyenum", 3500, .unsupported, none⟩,
    ⟨"tsvector", 3614, .unsupported, some 3643⟩,
    ⟨"tsquery", 3615, .unsupported, some 3645⟩,
    ⟨"gtsvector", 3642, .unsupported, some 3644⟩,
    ⟨"regconfig", 3734, .unsupported, some 3735⟩,
    ⟨"regdictionary", 3769, .unsupported, some 3770⟩,
    ⟨"jsonb", 3802, .versionedJson, some 3807⟩,
    ⟨"anyrange", 3831, .unsupported, none⟩,
    ⟨"event_trigger", 3838, .unsupported, none⟩,
    ⟨"int4range", 3904, .unsupported, some 3905⟩,
    ⟨"numrange", 3906, .unsupported, some 3907⟩,
    ⟨"tsrange", 3908, .unsupported, some 3909⟩,
    ⟨"tstzrange", 3910, .unsupported, some 3911⟩,
    ⟨"daterange", 3912, .unsupported, some 3913⟩,
    ⟨"int8range", 3926, .unsupported, some 3927⟩,
    ⟨"jsonpath", 4072, .unsupported, some 4073⟩,
    ⟨"regnamespace", 4089, .unsupported, some 4090⟩,
    ⟨"regrole", 4096, .unsupported, some 4097⟩,
    ⟨"regcollation", 4191, .unsupported, some 4192⟩,
    ⟨"int4multirange", 4451, .unsupported, some 6150⟩,
    ⟨"nummultirange", 4532, .unsupported, some 6151⟩,
    ⟨"tsmultirange", 4533, .unsupported, some 6152⟩,
    ⟨"tstzmultirange", 4534, .unsupported, some 6153⟩,
    ⟨"datemultirange", 4535, .unsupported, some 6155⟩,
    ⟨"int8multirange", 4536, .unsupported, some 6157⟩,
    ⟨"anymultirange", 4537, .unsupported, none⟩,
    ⟨"anycompatiblemultirange", 4538, .unsupported, none⟩,
    ⟨"pg_brin_bloom_summary", 4600, .unsupported, none⟩,
    ⟨"pg_brin_minmax_multi_summary", 4601, .unsupported, none⟩,
    ⟨"pg_mcv_list", 5017, .unsupported, none⟩,
    ⟨"pg_snapshot", 5038, .unsupported, some 5039⟩,
    ⟨"xid8", 5069, .unsupported, some 271⟩,
    ⟨"anycompatible", 5077, .unsupported, none⟩,
    ⟨"anycompatiblearray", 5078, .unsupported, none⟩,
    ⟨"anycompatiblenonarray", 5079, .unsupported, none⟩,
    ⟨"anycompatiblerange", 5080, .unsupported, none⟩
  ]

/-- A type that a server gets from an extension, with the number it has there. Of these only the
text-like ones have a format, which goes by their name. -/
def extension (name : String) (oid : Nat) : ParamType :=
  let format :=
    if name = "citext" then .text
    else if name = "ltree" ∨ name = "lquery" ∨ name = "ltxtquery" then .versionedText
    else .unsupported
  .scalar name oid format

/-- The array type of a catalog entry. -/
def CatalogEntry.arrayType? (e : CatalogEntry) : Option ParamType :=
  e.arrayOid.map fun oid => .array ("_" ++ e.name) oid 1 e.type

def int2 : ParamType := .scalar "int2" 21 (.integer .two)

def oidScalar : ParamType := .scalar "oid" 26 .unsupported

def int2vector : ParamType := .array "int2vector" 22 0 int2

def oidvector : ParamType := .array "oidvector" 30 0 oidScalar

/-- Array types that are no array of a scalar type of the catalog. -/
def vectors : List ParamType :=
  [
    int2vector,
    oidvector,
    .array "_int2vector" 1006 1 int2vector,
    .array "_oidvector" 1013 1 oidvector
  ]

/-- Every type of the catalog. -/
def catalog : List ParamType :=
  builtin.map CatalogEntry.type ++ builtin.filterMap CatalogEntry.arrayType? ++ vectors

/-- The type of that name. -/
def named? (name : String) : Option ParamType :=
  catalog.find? (fun t => t.name == name)

end BoundQuery.Wire.ParamType
