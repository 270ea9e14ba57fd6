import Highlighter.Pattern.Parser
import Highlighter.Toml.Value

/-! What can go wrong, and the words that report it. -/
namespace Highlighter

/-- Why a file cannot be read. -/
inductive ReadFault
  | notFound
  | isDirectory
  | notDirectory
  | notText
  | other (reason : String)
deriving DecidableEq, Repr

def ReadFault.message : ReadFault → String
  | notFound => "No such file or directory (os error 2)"
  | isDirectory => "Is a directory (os error 21)"
  | notDirectory => "Not a directory (os error 20)"
  | notText => "stream did not contain valid UTF-8"
  | other reason => reason

/-- A failure of the highlighter. Highlighting itself never fails. -/
inductive Fault
  | unreadable (cause : ReadFault)
  | invalidPattern (rule : String) (cause : Pattern.Fault)
  | noSuchGroup (rule : String) (group groups : Nat)
  | malformedSettings (cause : Toml.Fault)
  | unknownCategory (name : String)
  | unknownColor (name : String)
  | unknownMode (name : String)
  /-- A setting has a value of another kind than the one it needs. -/
  | wrongSetting (key expected : String)
  /-- An option stands last and lacks its mode name. -/
  | missingModeName (option : String)
  | unknownOption (option : String)
  /-- No mode claims the file. -/
  | undetectedMode (file : String)
deriving DecidableEq, Repr

def Fault.message : Fault → String
  | unreadable cause => "I/O error: " ++ cause.message
  | invalidPattern rule cause => "Invalid pattern in rule '" ++ rule ++ "': " ++ cause.message
  | noSuchGroup rule group groups =>
    "Rule '" ++ rule ++ "' highlights group " ++ toString group ++ " but its pattern has only " ++
      toString groups ++ " group(s)"
  | malformedSettings cause => "Config error: " ++ cause.message
  | unknownCategory name => "Unknown highlight category: " ++ name
  | unknownColor name => "Unknown color: " ++ name
  | unknownMode name => "No such mode: " ++ name
  | wrongSetting key expected => "config key '" ++ key ++ "' must be " ++ expected
  | missingModeName option => option ++ " needs a mode name"
  | unknownOption option => "unknown option: " ++ option
  | undetectedMode file => "no mode for " ++ file ++ "; use --mode"

end Highlighter
