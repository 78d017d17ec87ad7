/-!
Tables and their columns. A column is known by its words, from which two spellings of its name
come: words joined by underscores, and words run together with capitals.
-/
namespace PeriodicalSearch

structure Entity where
  name : String
  Column : Type
  decidableColumn : DecidableEq Column
  /-- The columns in the order of the table. -/
  columns : List Column
  words : Column → List String

namespace Entity

variable {entity : Entity}

instance : DecidableEq entity.Column := entity.decidableColumn

def Column.name (column : entity.Column) : String := "_".intercalate (entity.words column)

def Column.camelName (column : entity.Column) : String :=
  match entity.words column with
  | [] => ""
  | first :: others => first ++ String.join (others.map String.capitalize)

def column? (entity : Entity) (name : String) : Option entity.Column :=
  entity.columns.find? fun column => name == column.name || name == column.camelName

end Entity

end PeriodicalSearch
