import RecordMapper.Sql.Lowering
import RecordMapper.Sql.Wording

/-! # Compiling statements

From a statement about a model to the text and the parameters that a database is given.
-/

namespace RecordMapper.Sql

/-- The text and the parameters of a statement in a dialect. -/
def compile (r : Registry) (s : RecordMapper.Statement) (d : Dialect) :
    Except Error (String × List Value) :=
  (lower r s).map fun lowered => lowered.serialize d []

end RecordMapper.Sql
