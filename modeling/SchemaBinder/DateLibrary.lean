/-!
# Date libraries

The libraries whose classes can stand for `date` and `date-time` fields.
-/

namespace SchemaBinder

/-- A library with classes for dates. -/
inductive DateLibrary where
  /-- The one class of old. -/
  | legacy
  /-- Dates, and times with an offset. -/
  | java8
  /-- Dates, and times without an offset. -/
  | java8LocalDateTime
  | joda
  | threetenbp
deriving DecidableEq, Repr, Inhabited

namespace DateLibrary

/-- The library that is used unless another is chosen. -/
def standard : DateLibrary := java8LocalDateTime

/-- The name of a library. -/
def name : DateLibrary → String
  | legacy => "legacy"
  | java8 => "java8"
  | java8LocalDateTime => "java8-localdatetime"
  | joda => "joda"
  | threetenbp => "threetenbp"

/-- All libraries. -/
def all : List DateLibrary := [legacy, java8, java8LocalDateTime, joda, threetenbp]

/-- The library with a name. -/
def ofName? (s : String) : Option DateLibrary := all.find? (·.name == s)

/-- The class of a date. -/
def dateType : DateLibrary → String
  | legacy => "java.util.Date"
  | java8 => "java.time.LocalDate"
  | java8LocalDateTime => "java.time.LocalDate"
  | joda => "org.joda.time.LocalDate"
  | threetenbp => "org.threeten.bp.LocalDate"

/-- The class of a date with a time. -/
def dateTimeType : DateLibrary → String
  | legacy => "java.util.Date"
  | java8 => "java.time.OffsetDateTime"
  | java8LocalDateTime => "java.time.LocalDateTime"
  | joda => "org.joda.time.DateTime"
  | threetenbp => "org.threeten.bp.OffsetDateTime"

end DateLibrary

end SchemaBinder
