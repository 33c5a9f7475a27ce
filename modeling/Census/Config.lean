import Census.Dictionary.Reader
import Census.Dictionary.Written

/-!
The configuration of the tool: parameters of the category form and the layout of the feeds.
-/

namespace Census

structure Config where
  database : CategoryRequest := {}
  dictionary : Layout := {}
  deriving DecidableEq, Repr

namespace Config

def struct (manner : Manner) : Reader.Struct Config where
  name := "RedatamConfig"
  strict := true
  initial := {}
  fields := [
    .make "database" false (CategoryRequest.struct.read manner)
      fun v c => { c with database := v },
    .make "dictionary" false ((Layout.struct manner).read manner)
      fun v c => { c with dictionary := v }]

def toJson (c : Config) : Json :=
  .record [("database", c.database.toJson), ("dictionary", c.dictionary.toJson)]

end Config

end Census
