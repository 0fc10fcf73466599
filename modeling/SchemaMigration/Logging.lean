import SchemaMigration.Text.Search

/-!
# Logging settings

Which level and format of logging three optional settings ask for.  The recognised words hold ASCII
letters only and no other letter folds to one of them, so that comparing after ASCII folding
recognises every letter case.
-/

namespace SchemaMigration

/-- The settings, each absent when it is not set. -/
structure LoggingSettings where
  debug : Option String := none
  level : Option String := none
  format : Option String := none
deriving DecidableEq, Repr, Inhabited

namespace LoggingSettings

/-- A setting if it is one of the given words in any letter case. -/
def choice? (words : List String) (setting : Option String) : Option String :=
  setting.bind fun s => words.find? (· = Text.lowerAscii s)

/-- Whether debugging is asked for. -/
def isDebug (s : LoggingSettings) : Bool := (choice? ["true", "1", "yes"] s.debug).isSome

/-- The level: the one that is set, else what the debug setting implies. -/
def levelName (s : LoggingSettings) : String :=
  (choice? ["trace", "debug", "info", "warn", "error"] s.level).getD
    (if s.isDebug then "debug" else "warn")

/-- The format of the output. -/
def formatName (s : LoggingSettings) : String :=
  (choice? ["pretty", "compact"] s.format).getD "json"

/-- The same settings with another level. -/
def withLevel (s : LoggingSettings) (level : String) : LoggingSettings :=
  { s with level := some level }

end LoggingSettings

end SchemaMigration
