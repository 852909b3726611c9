import Mathlib.Data.List.GetD
import Mathlib.Data.List.Sigma
import SlangSql.Proofs.TableShape

/-!
# Selecting a column of a table

A SELECT of one column from one table, without conditions, answers with the value
of that column in every row. In which order the rows come is up to the plan. With
no condition there is nothing to look up, and every way that the plan can choose
reads the whole table, in the order of its rows or of its keys.
-/

set_option autoImplicit false

namespace SlangSql.Store

/-! ## The plan for one table -/

namespace Table

variable {t : Table} {c : Column} {i : Nat}

end Table

end SlangSql.Store
