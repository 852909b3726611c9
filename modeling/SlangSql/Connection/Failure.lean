import SlangSql.Error
import SlangSql.Text.Hidden
import SlangSql.Text.Utf8

/-!
# Failures to connect

Why no connection to an address is made, with the wording of each cause.
-/

set_option autoImplicit false

namespace SlangSql.Connection

inductive Failure where
  | noScheme
  | emptyHost
  | invalidHost
  /-- A host that is no domain name. -/
  | invalidDomain
  /-- A host that should be a number of thirty-two bits. -/
  | invalidShortNumber
  /-- A host that should be a number of a hundred and twenty-eight bits. -/
  | invalidLongNumber
  | invalidNumber
  | unknownScheme (scheme : String)
  /-- A parameter with a value it cannot have. -/
  | unknownValue (parameter value : String)
  | unknownParameter (name : String)
  /-- A file name whose bytes are no text. -/
  | unreadableName (fault : Text.Utf8.Fault)
  | zeroInName
  /-- A file name with the authority of another machine. -/
  | foreignAuthority (name : String)
  /-- An option of a file name with a value it cannot have. -/
  | noSuchMode (kind value : String)
  /-- An option that asks for more than the address allows. -/
  | modeNotAllowed (value : String)
  /-- A way of reaching files that does not exist. -/
  | noFileLayer (name : String)
  | cannotOpen
  /-- A folder in place of a file. -/
  | cannotRead
  /-- A server that does not answer. -/
  | timedOut
  deriving DecidableEq, Repr

namespace Failure

/-- An address that cannot be used, apart from any database. -/
def misconfigured (text : String) : String := "error with configuration: " ++ text

/-- A refusal by the database itself. -/
def refused (code : Nat) (text : String) : String :=
  "error returned from database: (code: " ++ toString code ++ ") " ++ text

def message : Failure → String
  | .noScheme => misconfigured "relative URL without a base"
  | .emptyHost => misconfigured "empty host"
  | .invalidHost => misconfigured "invalid domain character"
  | .invalidDomain => misconfigured "invalid international domain name"
  | .invalidShortNumber => misconfigured "invalid IPv4 address"
  | .invalidLongNumber => misconfigured "invalid IPv6 address"
  | .invalidNumber => misconfigured "invalid port number"
  | .unknownScheme s => misconfigured ("no driver found for URL scheme " ++ Text.quoted s)
  | .unknownValue p v => misconfigured ("unknown value " ++ Text.quoted v ++ " for `" ++ p ++ "`")
  | .unknownParameter p =>
    misconfigured ("unknown query parameter `" ++ p ++ "` while parsing connection URL")
  | .unreadableName f => misconfigured f.text
  | .zeroInName =>
    "error communicating with database: filename passed to SQLite must not contain nul bytes"
  | .foreignAuthority n => refused 1 ("invalid uri authority: " ++ n)
  | .noSuchMode k v => refused 1 ("no such " ++ k ++ " mode: " ++ v)
  | .modeNotAllowed v => refused 3 ("access mode not allowed: " ++ v)
  | .noFileLayer n => refused 1 ("no such vfs: " ++ n)
  | .cannotOpen => refused 14 "unable to open database file"
  | .cannotRead => refused 266 "disk I/O error"
  | .timedOut => "pool timed out while waiting for an open connection"

def error (f : Failure) : Error := .connection f.message

end Failure

end SlangSql.Connection
