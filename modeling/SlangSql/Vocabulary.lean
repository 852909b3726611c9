import SlangSql.Error
import SlangSql.Text.LowerCase
import SlangSql.Token

/-!
# Vocabularies

A vocabulary says which words stand for which operation. Words are compared by
their folds, so case does not matter, and a fold belongs to one operation at
most. Aliases are kept as written and in the order in which they were added.

Adding a group of aliases is all or nothing: the first alias that cannot be
added decides the error.
-/

set_option autoImplicit false

namespace SlangSql

/-- The operation that a name means in a configuration. -/
def Operation.read (name : String) : Except Error Operation :=
  match Operation.ofSpelling? name with
  | some op => .ok op
  | none => .error (.configuration ("Unknown operation '" ++ name ++ "'"))

/-- One alias with its fold and the operation it stands for. -/
structure Binding where
  key : String
  word : String
  operation : Operation
  deriving DecidableEq, Repr

structure Vocabulary where
  bindings : List Binding
  deriving DecidableEq, Repr

namespace Vocabulary

/-- Tokens with a fixed meaning, which no alias may take. -/
def reserved : List String :=
  [",", "(", ")", "*", "=", "!=", "<>", "<", ">", "<=", ">="]

/-- An alias is a single word without quote marks and without a fixed meaning. -/
def isValidAlias (a : String) : Bool :=
  !a.toList.isEmpty && a.toList.all Token.isWordStart && !reserved.contains a

def empty : Vocabulary := ⟨[]⟩

/-- The operation that owns a fold. -/
def owner? (v : Vocabulary) (key : String) : Option Operation :=
  (v.bindings.find? fun b => b.key == key).map (·.operation)

/-- The operation a token stands for. -/
def resolve (v : Vocabulary) (token : String) : Option Operation :=
  v.owner? (Text.fold token)

def isAliasOf (v : Vocabulary) (token : String) (op : Operation) : Bool :=
  v.resolve token == some op

def isKeyword (v : Vocabulary) (token : String) : Bool :=
  (v.resolve token).isSome

/-- The aliases of an operation, as written, oldest first. -/
def aliasesOf (v : Vocabulary) (op : Operation) : List String :=
  (v.bindings.filter fun b => b.operation == op).map (·.word)

/-- The alias that was added first. -/
def canonical? (v : Vocabulary) (op : Operation) : Option String :=
  (v.aliasesOf op).head?

/-- The number of aliases. -/
def size (v : Vocabulary) : Nat := v.bindings.length

def isEmpty (v : Vocabulary) : Bool := v.bindings.isEmpty

/-- The operations that have an alias, each with its aliases, in listing order. -/
def table (v : Vocabulary) : List (Operation × List String) :=
  (Operation.list.map fun op => (op, v.aliasesOf op)).filter fun row => !row.2.isEmpty

/-- Adds one alias. An alias whose fold already belongs to `op` changes nothing. -/
def register (v : Vocabulary) (op : Operation) (a : String) : Except Error Vocabulary :=
  if isValidAlias a then
    match v.owner? (Text.fold a) with
    | some bound => if bound = op then .ok v else .error (.duplicateBinding a bound op)
    | none => .ok ⟨v.bindings ++ [⟨Text.fold a, a, op⟩]⟩
  else .error (.invalidAlias a)

/-- Adds a group of aliases, or nothing. -/
def extend (v : Vocabulary) (op : Operation) : List String → Except Error Vocabulary
  | [] => .ok v
  | a :: rest =>
    match v.register op a with
    | .ok v' => extend v' op rest
    | .error e => .error e

/-- Adds groups one after the other, each all or nothing. -/
def extendAll (v : Vocabulary) : List (Operation × List String) → Except Error Vocabulary
  | [] => .ok v
  | g :: rest =>
    match v.extend g.1 g.2 with
    | .ok v' => extendAll v' rest
    | .error e => .error e

end Vocabulary

end SlangSql
