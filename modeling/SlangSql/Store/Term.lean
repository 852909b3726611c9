import SlangSql.Store.Table
import SlangSql.Token

/-!
# Terms

A stored token of a query denotes a literal or names a column, perhaps with its
table. Names are bound to the fields of the tables in use before anything is
evaluated.
-/

set_option autoImplicit false

namespace SlangSql.Store

open SlangSql.Number

inductive Term where
  | literal (v : Value)
  | column (table : Option String) (name : String)
  deriving DecidableEq, Repr

namespace Term

/-- Doubled quote marks stand for one. -/
def unquote : List Char → List Char
  | [] => []
  | c :: rest =>
    if c = Token.quote then
      match rest with
      | d :: rest' => if d = Token.quote then c :: unquote rest' else unquote (d :: rest')
      | [] => []
    else c :: unquote rest

/-- The bytes of a blob literal after its opening mark. -/
def blobBytes? : List Char → Option (List UInt8)
  | a :: b :: rest => do
    let high ← Text.hexValue? a
    let low ← Text.hexValue? b
    let bytes ← blobBytes? rest
    return UInt8.ofNat (16 * high + low) :: bytes
  | [c] => if c = Token.quote then some [] else none
  | [] => none

/-- A blob literal: an `x`, then hexadecimal digits between quote marks. -/
def blob? : List Char → Option Value
  | c :: d :: rest =>
    if c.toLower = 'x' ∧ d = Token.quote then (blobBytes? rest).map .blob else none
  | _ => none

def number? (cs : List Char) : Option Value :=
  let (negative, body) := splitSign cs
  (readNumeral body).map (Value.ofNumeral negative)

/-- A name, with its table in front of a point; a name with more points is taken as a whole. -/
def ofName (token : String) : Term :=
  match token.toList.dropWhile (· != '.') with
  | _ :: name =>
    if name.contains '.' then .column none token
    else .column (some (String.ofList (token.toList.takeWhile (· != '.')))) (String.ofList name)
  | [] => .column none token

def ofToken (token : String) : Term :=
  match token.toList with
  | c :: rest =>
    if c = Token.quote then .literal (.text (String.ofList (unquote rest)))
    else if Text.sameName token "null" then .literal .null
    else
      match (blob? (c :: rest)).or (number? (c :: rest)) with
      | some v => .literal v
      | none => ofName token
  | [] => ofName token

end Term

/-- A column of one of the tables in use. -/
structure Field where
  table : String
  column : Column
  /-- The field is no declared column. -/
  isHidden : Bool
  deriving DecidableEq, Repr

/-- The columns and, at the end, the row key unless a column holds it. -/
def Table.fields (t : Table) : List Field :=
  (t.columns.map fun c => ⟨t.name, c, false⟩) ++
    if t.rowKeyIndex?.isNone then [⟨t.name, Table.rowKeyColumn, true⟩] else []

/-- A term whose names have been looked up. -/
inductive Bound where
  | literal (v : Value)
  | field (index : Nat) (affinity : Affinity)
  /-- One of the words TRUE and FALSE. -/
  | truth (b : Bool)
  deriving DecidableEq, Repr

namespace Bound

def value (row : List Value) : Bound → Value
  | .literal v => v
  | .field i _ => row.getD i .null
  | .truth b => .integer (if b then 1 else 0)

def affinity? : Bound → Option Affinity
  | .field _ a => some a
  | _ => none

/-- The position of the field that is meant. -/
def field? : Bound → Option Nat
  | .field i _ => some i
  | _ => none

end Bound

def Field.isIn (table : Option String) (f : Field) : Bool :=
  table.all fun t => Text.sameName f.table t

def Field.isNamed (table : Option String) (name : String) (f : Field) : Bool :=
  !f.isHidden && Text.sameName f.column.name name && f.isIn table

/-- The row key that a name means if only one table comes into question. -/
def meantRowKey? (fields : List Field) (table : Option String) (name : String) :
    Option (Field × Nat) :=
  match fields.zipIdx.filter fun p => p.1.column.isRowKey && p.1.isIn table with
  | [p] => if Table.isRowKeyWord name then some p else none
  | _ => none

/-- The fields that a name can mean. -/
def meantFields (fields : List Field) (table : Option String) (name : String) :
    List (Field × Nat) :=
  match fields.zipIdx.filter fun p => p.1.isNamed table name with
  | [] => (meantRowKey? fields table name).toList
  | found => found

/-- The position of the one field that a name means; `token` is the name as written. -/
def fieldIndex (fields : List Field) (token : String) (table : Option String) (name : String) :
    Except Failure (Nat × Field) :=
  match meantFields fields table name with
  | [] => .error (.noSuchColumn token)
  | [p] => .ok (p.2, p.1)
  | _ => .error (.ambiguousColumn token)

/-- The truth value that a name means if it names no column. -/
def truthWord? (table : Option String) (name : String) : Option Bool :=
  if table.isSome then none
  else if Text.sameName name "true" then some true
  else if Text.sameName name "false" then some false
  else none

/-- Looks up the name in a token, if it is one. -/
def bind (fields : List Field) (token : String) : Except Failure Bound :=
  match Term.ofToken token with
  | .literal v => .ok (.literal v)
  | .column table name =>
    match fieldIndex fields token table name, truthWord? table name with
    | .ok (i, f), _ => .ok (.field i f.column.affinity)
    | .error (.noSuchColumn _), some b => .ok (.truth b)
    | .error e, _ => .error e

end SlangSql.Store
