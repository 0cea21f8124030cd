/-!
# Client data types

Which data type a client sees for a mapped type, and which validator belongs to a data type. A
mapped type without an entry keeps its own name, so a lookup always answers.
-/

set_option autoImplicit false

namespace EntityAtlas.DataType

/-- The mapped types whose client data type has another name. -/
def clientNames : List (String × String) :=
  [ -- binary data
    ("Byte[]", "Binary"), ("BinaryBlob", "Binary"),
    -- variants of dates and times
    ("Timestamp", "DateTime"), ("UtcDateTime", "DateTime"), ("LocalDateTime", "DateTime"),
    ("TimeAsTimeSpan", "Time"),
    -- column types
    ("Integer", "Int32"), ("INTEGER", "Int32"), ("INT", "Int32"),
    ("BigInteger", "Int64"), ("BIGINT", "Int64"),
    ("SmallInteger", "Int16"), ("SMALLINT", "Int16"),
    ("String", "String"), ("Text", "String"), ("Unicode", "String"), ("UnicodeText", "String"),
    ("VARCHAR", "String"), ("NVARCHAR", "String"), ("CHAR", "String"), ("TEXT", "String"),
    ("Enum", "String"),
    ("Boolean", "Boolean"), ("BOOLEAN", "Boolean"),
    ("Numeric", "Decimal"), ("NUMERIC", "Decimal"), ("DECIMAL", "Decimal"),
    ("Float", "Double"), ("FLOAT", "Double"), ("Double", "Double"), ("REAL", "Single"),
    ("Date", "DateTime"), ("DATE", "DateTime"), ("DATETIME", "DateTime"),
    ("TIMESTAMP", "DateTime"), ("TIME", "Time"), ("Interval", "Time"),
    ("LargeBinary", "Binary"), ("BLOB", "Binary"), ("VARBINARY", "Binary"),
    ("Uuid", "Guid"), ("UUID", "Guid"),
    -- types of members that an application declares itself
    ("int", "Int64"), ("str", "String"), ("bool", "Boolean"), ("float", "Double"),
    ("bytes", "Binary"), ("datetime", "DateTime"), ("date", "DateTime"), ("time", "Time"),
    ("timedelta", "Time") ]

/-- The data types that have a validator of their own. -/
def validators : List (String × String) :=
  [ ("Boolean", "bool"), ("Byte", "byte"), ("DateTime", "date"), ("DateTimeOffset", "date"),
    ("Decimal", "number"), ("Guid", "guid"), ("Int16", "int16"), ("Int32", "int32"),
    ("Int64", "integer"), ("Single", "number"), ("Time", "duration"),
    ("TimeAsTimeSpan", "duration") ]

/-- The client data type of a mapped type. -/
def clientName (typeName : String) : String := (clientNames.lookup typeName).getD typeName

/-- The validator of a client data type. -/
def validator? (dataType : String) : Option String := validators.lookup dataType

end EntityAtlas.DataType
