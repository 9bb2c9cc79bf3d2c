import ControlComponent.CommandLine.Command
import ControlComponent.CommandLine.Script
import ControlComponent.Key.Contents
import ControlComponent.Settings
import ControlComponent.Suite

/-!
What surrounds a run of the program, and how keyrings and JSON files are read and written there.
-/

namespace ControlComponent.CommandLine

/-- What a run is given besides its words: the cryptographic functions, the environment variables
and randomness. -/
structure Surroundings where
  suite : Suite
  sealing : Key.Sealing
  lookup : String → Option String
  randomness : Randomness

/-- The variables that a run may ask for. -/
def Surroundings.variables : List String :=
  ["HOME", "RETURNCODES_KEYSTORE", "RETURNCODES_KEYSTORE_PASSWORD", Settings.nodeIdName,
    Settings.componentIdName, Settings.maxAttemptsName]

namespace Surroundings

/-- A path with the home directory in place of a tilde. -/
def expand (s : Surroundings) (path : String) : String :=
  Path.expand ((s.lookup "HOME").filter (· ≠ "")) path

/-! ### Files -/

/-- The value that a JSON file writes. -/
def readJson (s : Surroundings) (c : Wire.Codec α) (path : String) : Script α := do
  let text ← Script.textOf (s.expand path)
  let bytes ← Script.orFail
    (fun fault => "returncodes: unable to read " ++ path ++ ": " ++ fault.message) text
  Script.orFail (fun fault => "returncodes: unable to parse " ++ path ++ ": " ++ fault.message)
    (c.read .json bytes)

/-- The bytes that a hexadecimal argument writes, seen as a key. -/
def readKey (name value : String) (ofBytes : Bytes → Except Signature.Fault α) : Script α := do
  let bytes ← Script.orFail
    (fun fault => "returncodes: invalid " ++ name ++ ": " ++ Key.hexMessage fault)
    (Text.Hex.decode value)
  Script.orFail (fun fault => "returncodes: invalid " ++ name ++ ": " ++ fault.message)
    (ofBytes bytes)

/-- Writes data to the output, a field a line. -/
def outputData (data : Wire.Data) : Script Unit :=
  Script.output ((Bytes.toText? (Wire.Json.writePretty data)).getD "")

/-- Writes a certificate to the output. -/
def outputCertificate (certificate : Certificate) : Script Unit :=
  outputData (Certificate.codec.encode .json certificate)

/-! ### Keyrings -/

/-- A keyring file, and the password that opens it. -/
structure Location where
  path : String
  password : String

/-- Where the keyring is that no word and no variable names. -/
def defaultKeystore : String := "~/.returncodes/keystore"

/-- The keyring file that the words and the variables lead to. -/
def locate (s : Surroundings) (access : Access) : Script Location := do
  let path := access.keystore.getD ((s.lookup "RETURNCODES_KEYSTORE").getD defaultKeystore)
  match access.password <|> s.lookup "RETURNCODES_KEYSTORE_PASSWORD" with
  | some password => return ⟨s.expand path, password⟩
  | none => Script.fail "Please provide a keystore password via --password or the environment"

/-- The keyring in a file. -/
def load (s : Surroundings) (place : Location) : Script Key.Keyring := do
  let container ← Script.orFail
    (fun fault => "returncodes: unable to read keystore " ++ place.path ++ ": " ++ fault.message)
    (← Script.contentOf place.path)
  Script.orFail
    (fun fault => "returncodes: unable to open keystore " ++ place.path ++ ": " ++ fault.message)
    (Key.Keyring.unwrap s.sealing s.suite.signing container place.password)

/-- Writes a keyring to a file. -/
def save (s : Surroundings) (place : Location) (keyring : Key.Keyring) : Script Unit := do
  let ((salt, nonce), _) := Key.Vault.draw s.randomness
  let container := keyring.wrap s.sealing place.password salt nonce
  if let some directory := Path.directory? place.path then
    Script.orFail
      (fun fault => "returncodes: unable to create " ++ directory ++ ": " ++ fault.message)
      (← Script.ensureDirectory directory)
  Script.orFail
    (fun fault => "returncodes: unable to write keystore " ++ place.path ++ ": " ++ fault.message)
    (← Script.replace place.path container)

/-- The randomness that is left when a keyring has been written. -/
def rest (s : Surroundings) : Randomness := (Key.Vault.draw s.randomness).2

end Surroundings
end ControlComponent.CommandLine
