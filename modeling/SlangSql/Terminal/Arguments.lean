/-!
# Arguments of the program

An optional statement, options in long and short form, and a subcommand. Most
options may also stand after the subcommand, where they win over the same option
in front of it. An option may be given once on either side. After a double
hyphen nothing is an option or a subcommand any more.
-/

set_option autoImplicit false

namespace SlangSql.Terminal

inductive Format where
  | table
  | json
  deriving DecidableEq, Repr

def Format.ofName? (s : String) : Option Format :=
  if s = "table" then some .table else if s = "json" then some .json else none

inductive Command where
  | explain (query : String)
  | keywords
  | repl
  | demo (interactive : Bool)
  deriving DecidableEq, Repr

/-- What the arguments ask for. -/
structure Invocation where
  query : Option String
  dryRun : Bool
  format : Format
  databaseUrl : Option String
  config : Option String
  verbose : Bool
  command : Option Command
  deriving DecidableEq, Repr

inductive Reading where
  | run (i : Invocation)
  | version
  | usageError
  deriving DecidableEq, Repr

namespace Arguments

inductive Subcommand where
  | explain
  | keywords
  | repl
  | demo
  deriving DecidableEq, Repr

def Subcommand.ofName? (s : String) : Option Subcommand :=
  if s = "explain" then some .explain
  else if s = "keywords" then some .keywords
  else if s = "repl" then some .repl
  else if s = "demo" then some .demo
  else none

/-- Options that are given or not. -/
inductive Flag where
  | dryRun
  | verbose
  | interactive
  | version
  deriving DecidableEq, Repr

/-- Options with a value. -/
inductive Setting where
  | format
  | databaseUrl
  | config
  deriving DecidableEq, Repr

inductive Opt where
  | flag (f : Flag)
  | setting (s : Setting)
  deriving DecidableEq, Repr

def longOption? (name : String) : Option Opt :=
  match name with
  | "dry-run" => some (.flag .dryRun)
  | "verbose" => some (.flag .verbose)
  | "interactive" => some (.flag .interactive)
  | "version" => some (.flag .version)
  | "format" => some (.setting .format)
  | "database-url" => some (.setting .databaseUrl)
  | "config" => some (.setting .config)
  | _ => none

def shortOption? (c : Char) : Option Opt :=
  match c with
  | 'd' => some (.flag .dryRun)
  | 'v' => some (.flag .verbose)
  | 'i' => some (.flag .interactive)
  | 'V' => some (.flag .version)
  | 'f' => some (.setting .format)
  | 'c' => some (.setting .config)
  | _ => none

/-- What has been given on one side of the subcommand. -/
structure Given where
  flags : List Flag := []
  format : Option Format := none
  databaseUrl : Option String := none
  config : Option String := none
  word : Option String := none
  deriving DecidableEq, Repr

/-- The arguments read so far. -/
structure State where
  outer : Given := {}
  inner : Given := {}
  subcommand : Option Subcommand := none
  /-- An option that waits for its value. -/
  pending : Option Setting := none
  /-- A double hyphen has been read. -/
  literal : Bool := false
  deriving DecidableEq, Repr

/-- Why reading stops early. -/
inductive Stop where
  | version
  | usage
  deriving DecidableEq, Repr

/-- The side of the subcommand that is being read. -/
def State.current (s : State) : Given := if s.subcommand.isSome then s.inner else s.outer

def State.setCurrent (s : State) (g : Given) : State :=
  if s.subcommand.isSome then { s with inner := g } else { s with outer := g }

/-- Where an option may stand. -/
def allows : Option Subcommand → Opt → Bool
  | none, .flag .interactive => false
  | none, _ => true
  | some .demo, .flag .interactive => true
  | some _, .flag .verbose => true
  | some _, .flag _ => false
  | some _, .setting _ => true

def raise (s : State) (f : Flag) : Except Stop State :=
  if f = .version then .error .version
  else if s.current.flags.contains f then .error .usage
  else .ok (s.setCurrent { s.current with flags := f :: s.current.flags })

/-- Gives an option its value: formats must be known and file names must not be empty. -/
def assign (s : State) (o : Setting) (value : String) : Except Stop State :=
  let g := s.current
  let s := { s with pending := none }
  match o with
  | .format =>
    match g.format, Format.ofName? value with
    | none, some f => .ok (s.setCurrent { g with format := some f })
    | _, _ => .error .usage
  | .databaseUrl =>
    if g.databaseUrl.isSome then .error .usage
    else .ok (s.setCurrent { g with databaseUrl := some value })
  | .config =>
    if g.config.isSome ∨ value = "" then .error .usage
    else .ok (s.setCurrent { g with config := some value })

/-- A word that is no option: the statement, or the statement of `explain`. -/
def takeWord (s : State) (word : String) : Except Stop State :=
  let free := s.subcommand = none ∨ s.subcommand = some .explain
  if s.current.word.isNone ∧ free then .ok (s.setCurrent { s.current with word := some word })
  else .error .usage

def dropEquals : List Char → List Char
  | '=' :: rest => rest
  | cs => cs

/-- Options in short form, several behind one hyphen. -/
def shortOptions (s : State) : List Char → Except Stop State
  | [] => .ok s
  | c :: rest =>
    match shortOption? c with
    | none => .error .usage
    | some o =>
      if allows s.subcommand o then
        match o with
        | .flag f =>
          match raise s f with
          | .ok s' => shortOptions s' rest
          | .error e => .error e
        | .setting o =>
          if rest.isEmpty then .ok { s with pending := some o }
          else assign s o (String.ofList (dropEquals rest))
      else .error .usage

/-- An option in long form, perhaps with its value after an equals sign. -/
def longOption (s : State) (cs : List Char) : Except Stop State :=
  let name := cs.takeWhile (· != '=')
  let value := cs.dropWhile (· != '=')
  match longOption? (String.ofList name) with
  | none => .error .usage
  | some o =>
    if allows s.subcommand o then
      match o, value with
      | .flag f, [] => raise s f
      | .flag _, _ => .error .usage
      | .setting o, [] => .ok { s with pending := some o }
      | .setting o, _ :: v => assign s o (String.ofList v)
    else .error .usage

def readOne (s : State) (arg : String) : Except Stop State :=
  if s.literal then takeWord s arg
  else
    match s.pending, arg.toList with
    | some o, cs =>
      match cs with
      | '-' :: _ :: _ => .error .usage
      | _ => assign s o arg
    | none, ['-', '-'] => .ok { s with literal := true }
    | none, '-' :: '-' :: cs => longOption s cs
    | none, '-' :: c :: cs => shortOptions s (c :: cs)
    | none, _ =>
      match s.subcommand, Subcommand.ofName? arg with
      | none, some sub => .ok { s with subcommand := some sub }
      | _, _ => takeWord s arg

def readAll (s : State) : List String → Except Stop State
  | [] => if s.pending.isSome then .error .usage else .ok s
  | arg :: rest =>
    match readOne s arg with
    | .ok s' => readAll s' rest
    | .error e => .error e

def command (s : State) : Subcommand → Option Command
  | .explain => s.inner.word.map .explain
  | .keywords => some .keywords
  | .repl => some .repl
  | .demo => some (.demo (s.inner.flags.contains .interactive))

def invocation (s : State) (environmentUrl : Option String) (c : Option Command) : Invocation :=
  { query := s.outer.word
    dryRun := s.outer.flags.contains .dryRun
    format := (s.inner.format.or s.outer.format).getD .table
    databaseUrl := (s.inner.databaseUrl.or s.outer.databaseUrl).or environmentUrl
    config := s.inner.config.or s.outer.config
    verbose := s.outer.flags.contains .verbose || s.inner.flags.contains .verbose
    command := c }

/-- Reads the arguments; `environmentUrl` stands in for an address that is not among them. -/
def read (args : List String) (environmentUrl : Option String) : Reading :=
  match readAll {} args with
  | .error .version => .version
  | .error .usage => .usageError
  | .ok s =>
    match s.subcommand with
    | none => .run (invocation s environmentUrl none)
    | some sub =>
      match command s sub with
      | some c => .run (invocation s environmentUrl (some c))
      | none => .usageError

end Arguments

end SlangSql.Terminal
